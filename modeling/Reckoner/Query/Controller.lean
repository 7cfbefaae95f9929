import Reckoner.Calculator
import Reckoner.Query.Cache
import Reckoner.Remote.Transfer

/-!
# Submitting queries

A query that is worth evaluating is evaluated once, and the outcome is remembered. The evaluator is
a parameter: it gives an envelope, or it cannot be used, or it breaks down. A query that is settled
is not evaluated again.

What the evaluator raises is handled. But the text of a value is written when that is over, so a
value without a text breaks the submission off, and the query stays as it was marked.
-/

namespace Reckoner.Query

/-! ## Evaluators -/

abbrev Consult := String → Logged (Except Breakdown Envelope)

def Consult.ofCalculator (c : Calculator) : Consult :=
  fun query => do return (← c.tryRun (.str query)).mapError fun _ => .broken

def Consult.ofClient (client : Remote.Client) (transport : Remote.Transport) : Consult :=
  fun query => pure
    ((client.transfer transport (.str query)).outcome.mapError Remote.Thrown.breakdown)

/-! ## Submissions -/

/-- How a submission ends. -/
inductive Ending where
  /-- What is known about the query; nothing if it is not worth evaluating. -/
  | returned (state? : Option State)
  /-- The value has no text. -/
  | brokenOff
  deriving DecidableEq

structure Submission where
  cache : Cache
  ending : Ending
  /-- The texts that the evaluator was asked about. -/
  asked : List String

def record (level : Log.Level) (event : String) (fields : List (String × Json)) : Log.Record where
  logger := "qalc.queries"
  level := level
  message := event
  fields := fields

/-- Settles a query with the outcome of its evaluation. -/
def settle (cache : Cache) (query : String) :
    Except Breakdown Envelope → Logged (Cache × Ending)
  | .ok (.success value _) =>
    match value.display? with
    | some text => return settled (.result text)
    | none => return (cache, .brokenOff)
  | .ok (.failure error _) => do
    Logged.tell (record .info "queries.no_result"
      [("query", .str query), ("kind", .str error.name)])
    return settled (.error true)
  | .error (.unavailable problem) => do
    Logged.tell (record .warning "queries.calculator_unavailable"
      [("query", .str query), ("error", problem.message)])
    return settled (.error true)
  | .error .broken => do
    Logged.tell (record .error "queries.evaluation_failed" [("query", .str query)])
    return settled (.error true)
where
  settled (change : Change) : Cache × Ending :=
    (cache.update query change, .returned (some (cache.changed query change)))

/-- Submits input. A query is pending while it is evaluated. -/
def submit (consult : Consult) (cache : Cache) : Json → Logged Submission
  | .str query =>
    if Screen.isCandidate query.toList then
      match (cache.get? query).filter (!·.pending) with
      | some state => return ⟨cache, .returned (some state), []⟩
      | none => do
        let outcome ← consult query
        let (cache, ending) ← settle (cache.update query (.pending true)) query outcome
        return ⟨cache, ending, [query]⟩
    else return ⟨cache, .returned none, []⟩
  | _ => return ⟨cache, .returned none, []⟩

/-- Forgets everything; gives the count of what was forgotten. -/
def reset (cache : Cache) : Cache × Nat :=
  (.empty, cache.size)

end Reckoner.Query
