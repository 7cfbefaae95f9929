import Reckoner.Envelope

/-!
# Problems

The failures that a caller is told about as such, with a status of the hypertext protocol and a
payload. `Problem.ofEnvelope?` turns a failed evaluation into one. An evaluator that gives no
envelope reports a problem, or breaks down.
-/

namespace Reckoner

inductive ProblemKind where
  /-- Any other problem of the application. -/
  | application
  /-- An expression cannot be evaluated. -/
  | calculation
  /-- The remote calculator cannot be used. -/
  | remoteCalculation
  /-- Nothing is remembered for a query. -/
  | unknownQuery
  /-- A query is not worth evaluating. -/
  | notAnExpression
  deriving DecidableEq, Repr

namespace ProblemKind

def status : ProblemKind → Nat
  | application => 500
  | calculation => 400
  | remoteCalculation => 502
  | unknownQuery => 404
  | notAnExpression => 422

def type : ProblemKind → String
  | application => "APP_ERROR"
  | calculation => "CALCULATOR_ERROR"
  | remoteCalculation => "CALCULATOR_HTTP_ERROR"
  | unknownQuery => "QUERY_NOT_FOUND"
  | notAnExpression => "NOT_AN_EXPRESSION"

end ProblemKind

/-- A problem. Its message is a text, unless a remote calculator sent something else. -/
structure Problem where
  kind : ProblemKind
  message : Json
  details : List (String × Json)

namespace Problem

/-- The payload that reports a problem. Details and the id of the request are left out if they are
empty. -/
def payload (p : Problem) (traceId : Option String) : Json :=
  let details := if p.details.isEmpty then [] else [("details", Json.obj p.details)]
  let trace :=
    match traceId with
    | some id => if id = "" then [] else [("traceId", Json.str id)]
    | none => []
  .obj [("error", .obj ([("type", .str p.kind.type), ("message", p.message)] ++ details ++ trace))]

def ofFailure (kind : ProblemKind) (error : ErrorKind) (detail : Option String) : Problem where
  kind := kind
  message := .str (Envelope.failureMessage error detail)
  details :=
    ("kind", .str error.name) ::
      match Envelope.shownDetail detail with
      | some detail => [("detail", .str detail)]
      | none => []

/-- The problem of an envelope; a success has none. -/
def ofEnvelope? (kind : ProblemKind) : Envelope → Option Problem
  | .success .. => none
  | .failure error detail => some (ofFailure kind error detail)

end Problem

/-- Why an evaluator gives no envelope. -/
inductive Breakdown where
  /-- It reports a problem. -/
  | unavailable (problem : Problem)
  /-- It fails in a way that nobody expects. -/
  | broken

end Reckoner
