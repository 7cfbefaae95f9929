import Reckoner.Query.Session

/-!
# Submissions settle

A submission touches the entry of its query and no other one, and asks the evaluator once if the
query waits for an outcome. Then it settles the query, unless the value that it is given has no
text, `submit_settles_or_breaks_off`. A query that is left like that is still marked as pending.

What an outcome changes is said once, by `changeOf?`, so a submission does one of four things:
`submit_of_not_candidate`, `submit_of_settled`, `submit_of_change` and `submit_of_unwritten`. Every
entry stands under its own query, `Keyed`, which each act keeps.
-/

namespace Reckoner

-- Powers are those of the core library, whatever else is in scope.
attribute [local instance (high)] instPowNat

namespace Query

/-! ## Keys -/

/-- Every entry stands under its own query. -/
def Keyed (cache : Cache) : Prop :=
  ∀ key state, cache.get? key = some state → state.query = key

theorem Change.query_apply (change : Change) (s : State) : (change.apply s).query = s.query := by
  cases change <;> rfl

theorem Keyed.query_changed {cache : Cache} (keyed : Keyed cache) (key : String)
    (change : Change) : (cache.changed key change).query = key := by
  rw [Cache.changed, Change.query_apply]
  cases found : cache.get? key with
  | none => rfl
  | some state => exact keyed key state found

theorem Keyed.update {cache : Cache} (keyed : Keyed cache) (key : String) (change : Change) :
    Keyed (cache.update key change) := by
  intro other state found
  by_cases same : other = key
  · subst same
    rw [Cache.get?_update_self] at found
    cases found
    exact keyed.query_changed other change
  · rw [Cache.get?_update_of_ne same] at found
    exact keyed other state found

/-! ## Outcomes -/

/-- The value of an outcome is an integer of too many digits to be written. -/
def Unwritten (outcome : Except Breakdown Envelope) : Prop :=
  ∃ z detail, outcome = .ok (.success (.integer z) detail) ∧ 10 ^ Text.Digits.maxRun ≤ z.natAbs

/-- What an outcome changes; a value without a text changes nothing. -/
def changeOf? : Except Breakdown Envelope → Option Change
  | .ok (.success value _) => value.display?.map .result
  | .ok (.failure _ _) | .error _ => some (.error true)

theorem settles_of_changeOf? {outcome : Except Breakdown Envelope} {change : Change}
    (changes : changeOf? outcome = some change) (flag : Bool) : change ≠ .pending flag := by
  intro same
  subst same
  rcases outcome with _ | (_ | _)
  · cases changes
  · obtain ⟨_, _, other⟩ := Option.map_eq_some_iff.1 changes
    cases other
  · cases changes

theorem changeOf?_eq_none_iff {outcome : Except Breakdown Envelope} :
    changeOf? outcome = none ↔ Unwritten outcome := by
  rcases outcome with _ | (⟨value, detail⟩ | _)
  · simp [changeOf?, Unwritten]
  · simp [changeOf?, Unwritten, Value.display?_eq_none_iff]
  · simp [changeOf?, Unwritten]

theorem exists_changeOf?_iff {outcome : Except Breakdown Envelope} :
    (∃ change, changeOf? outcome = some change) ↔ ¬Unwritten outcome := by
  rw [← changeOf?_eq_none_iff, ← Option.ne_none_iff_exists']

theorem pending_changed_of_changeOf? {outcome : Except Breakdown Envelope} {change : Change}
    (changes : changeOf? outcome = some change) (cache : Cache) (query : String) :
    (cache.changed query change).pending = false := by
  cases change with
  | pending flag => exact absurd rfl (settles_of_changeOf? changes flag)
  | result text => rfl
  | error flag => rfl

theorem changed_of_success {value : Value} {detail : Option String} {change : Change}
    (changes : changeOf? (.ok (.success value detail)) = some change) (cache : Cache)
    (query : String) :
    (cache.changed query change).error = false ∧
      (cache.changed query change).result = value.display := by
  obtain ⟨text, written, same⟩ := Option.map_eq_some_iff.1 changes
  subst same
  exact ⟨rfl, Value.display_of_display? written⟩

theorem changed_of_failure {outcome : Except Breakdown Envelope}
    (failed : ∀ value detail, outcome ≠ .ok (.success value detail)) {change : Change}
    (changes : changeOf? outcome = some change) (cache : Cache) (query : String) :
    (cache.changed query change).error = true ∧
      (cache.changed query change).result = cache.getResult query := by
  have same : change = .error true := by
    rcases outcome with _ | (⟨value, detail⟩ | _)
    · exact (Option.some.inj changes).symm
    · exact absurd rfl (failed value detail)
    · exact (Option.some.inj changes).symm
  subst same
  refine ⟨rfl, ?_⟩
  show ((cache.get? query).getD (.blank query)).result = (cache.get? query).elim "" State.result
  cases cache.get? query <;> rfl

theorem settle_result (cache : Cache) (query : String) (outcome : Except Breakdown Envelope) :
    (settle cache query outcome).result =
      match changeOf? outcome with
      | some change =>
        (cache.update query change, .returned (some (cache.changed query change)))
      | none => (cache, .brokenOff) := by
  rcases outcome with (_ | _) | (⟨value, _⟩ | _)
  · rfl
  · rfl
  · simp only [settle, changeOf?]
    cases value.display? <;> rfl
  · rfl

/-! ## Submissions -/

/-- Nothing is known about a query, or its evaluation has not ended. -/
def Waits (cache : Cache) (query : String) : Prop :=
  ∀ state, cache.get? query = some state → state.pending = true

variable {consult : Consult} {cache : Cache} {query : String}

theorem settled_of_not_waits (settled : ¬Waits cache query) :
    ∃ state, cache.get? query = some state ∧ state.pending = false := by
  simpa [Waits] using settled

theorem submit_of_not_candidate {input : Json}
    (rejected : ∀ query, input = .str query → Screen.isCandidate query.toList = false) :
    submit consult cache input = pure ⟨cache, .returned none, []⟩ := by
  cases input with
  | str query => simp [submit, rejected query rfl]
  | null | bool _ | int _ | float _ | arr _ | obj _ => rfl

theorem submit_of_settled (candidate : Screen.isCandidate query.toList = true) {state : State}
    (known : cache.get? query = some state) (settled : state.pending = false) :
    submit consult cache (.str query) = pure ⟨cache, .returned (some state), []⟩ := by
  have found : (cache.get? query).filter (!·.pending) = some state := by simp [known, settled]
  simp only [submit, candidate, if_true, found]

/-- A query that waits is evaluated, and the records of the evaluator come first. -/
theorem submit_of_waits (candidate : Screen.isCandidate query.toList = true)
    (waits : Waits cache query) :
    submit consult cache (.str query) = do
      let outcome ← consult query
      let (cache, ending) ← settle (cache.update query (.pending true)) query outcome
      return ⟨cache, ending, [query]⟩ := by
  have unsettled : (cache.get? query).filter (!·.pending) = none := by
    simpa [Waits] using waits
  simp only [submit, candidate, if_true, unsettled]

theorem submit_of_change (candidate : Screen.isCandidate query.toList = true)
    (waits : Waits cache query) {change : Change}
    (changes : changeOf? (consult query).result = some change) :
    (submit consult cache (.str query)).result =
      ⟨(cache.update query (.pending true)).update query change,
        .returned (some (cache.changed query change)), [query]⟩ := by
  simp only [submit_of_waits candidate waits, Logged.result_bind, settle_result, changes,
    Cache.changed_of_marked (settles_of_changeOf? changes), Logged.result_pure]

theorem submit_of_unwritten (candidate : Screen.isCandidate query.toList = true)
    (waits : Waits cache query) (unwritten : changeOf? (consult query).result = none) :
    (submit consult cache (.str query)).result =
      ⟨cache.update query (.pending true), .brokenOff, [query]⟩ := by
  simp only [submit_of_waits candidate waits, Logged.result_bind, settle_result, unwritten,
    Logged.result_pure]

/-- A submission changes no entry but that of its query. -/
theorem exists_changes (consult : Consult) (cache : Cache) (query : String) :
    ∃ changes : List Change, (submit consult cache (.str query)).result.cache =
      changes.foldl (fun cache change => cache.update query change) cache := by
  by_cases candidate : Screen.isCandidate query.toList = true
  · by_cases waits : Waits cache query
    · cases changes : changeOf? (consult query).result with
      | none =>
        rw [submit_of_unwritten candidate waits changes]
        exact ⟨[.pending true], rfl⟩
      | some change =>
        rw [submit_of_change candidate waits changes]
        exact ⟨[.pending true, change], rfl⟩
    · obtain ⟨state, known, settled⟩ := settled_of_not_waits waits
      rw [submit_of_settled candidate known settled]
      exact ⟨[], rfl⟩
  · exact ⟨[], by simp [submit, candidate]⟩

theorem get?_submit_of_ne {consult : Consult} {query key : String} (other : key ≠ query) :
    (submit consult cache (.str query)).result.cache.get? key = cache.get? key := by
  obtain ⟨changes, changed⟩ := exists_changes consult cache query
  rw [changed]
  clear changed
  induction changes generalizing cache with
  | nil => rfl
  | cons change changes ih => exact ih.trans (Cache.get?_update_of_ne other)

/-! ## Histories -/

theorem Keyed.foldl_update {cache : Cache} (keyed : Keyed cache) (key : String)
    (changes : List Change) :
    Keyed (changes.foldl (fun cache change => cache.update key change) cache) := by
  induction changes generalizing cache with
  | nil => exact keyed
  | cons change changes ih => exact ih (keyed.update key change)

theorem Keyed.submit {cache : Cache} (keyed : Keyed cache) (consult : Consult) (input : Json) :
    Keyed (submit consult cache input).result.cache := by
  cases input with
  | str query =>
    obtain ⟨changes, changed⟩ := exists_changes consult cache query
    rw [changed]
    exact keyed.foldl_update query changes
  | null | bool _ | int _ | float _ | arr _ | obj _ => exact keyed

theorem keyed_empty : Keyed .empty :=
  nofun

theorem Keyed.apply {cache : Cache} (keyed : Keyed cache) (act : Act) :
    Keyed (act.apply cache) := by
  cases act with
  | change key c => exact keyed.update key c
  | reset => exact keyed_empty
  | submit consult input => exact keyed.submit consult input

theorem Keyed.foldl_apply {cache : Cache} (keyed : Keyed cache) (acts : List Act) :
    Keyed (acts.foldl Act.apply cache) := by
  induction acts generalizing cache with
  | nil => exact keyed
  | cons act acts ih => exact ih (keyed.apply act)

theorem keyed_cacheAfter (acts : List Act) : Keyed (cacheAfter acts) :=
  keyed_empty.foldl_apply acts

/-! ## Main result -/

/-- What the submission of a candidate does to a cache, told from the outcome of an evaluation. -/
structure Submits (cache : Cache) (query : String) (outcome : Except Breakdown Envelope)
    (submission : Submission) : Prop where
  asked_once : Waits cache query → submission.asked = [query]
  not_asked : ¬Waits cache query → submission.asked = []
  brokenOff_iff : submission.ending = .brokenOff ↔ Waits cache query ∧ Unwritten outcome
  pending : submission.ending = .brokenOff →
    ∃ state, submission.cache.get? query = some state ∧ state.pending = true
  returned : submission.ending ≠ .brokenOff → ∃ state,
    submission.ending = .returned (some state) ∧ submission.cache.get? query = some state ∧
      state.pending = false
  known : ¬Waits cache query → submission.cache.get? query = cache.get? query
  of_success : Waits cache query → ∀ value detail, outcome = .ok (.success value detail) →
    ∀ state, submission.ending = .returned (some state) →
      state.error = false ∧ state.result = value.display
  of_failure : Waits cache query → (∀ value detail, outcome ≠ .ok (.success value detail)) →
    ∀ state, submission.ending = .returned (some state) →
      state.error = true ∧ state.result = cache.getResult query

section Candidate

variable (candidate : Screen.isCandidate query.toList = true)

include candidate

theorem submits_of_settled (settled : ¬Waits cache query) (outcome : Except Breakdown Envelope) :
    Submits cache query outcome (submit consult cache (.str query)).result := by
  obtain ⟨state, known, ended⟩ := settled_of_not_waits settled
  rw [submit_of_settled candidate known ended]
  exact {
    asked_once := fun waits => absurd waits settled
    not_asked := fun _ => rfl
    brokenOff_iff := ⟨nofun, fun broken => absurd broken.1 settled⟩
    pending := nofun
    returned := fun _ => ⟨state, rfl, known, ended⟩
    known := fun _ => rfl
    of_success := fun waits => absurd waits settled
    of_failure := fun waits => absurd waits settled }

/-- The value has no text, and the mark is all that is written. -/
theorem submits_of_unwritten (waits : Waits cache query)
    (unwritten : changeOf? (consult query).result = none) :
    Submits cache query (consult query).result (submit consult cache (.str query)).result := by
  rw [submit_of_unwritten candidate waits unwritten]
  exact {
    asked_once := fun _ => rfl
    not_asked := fun settled => absurd waits settled
    brokenOff_iff := iff_of_true rfl ⟨waits, changeOf?_eq_none_iff.1 unwritten⟩
    pending := fun _ => ⟨_, Cache.get?_update_self, rfl⟩
    returned := fun unbroken => absurd rfl unbroken
    known := fun settled => absurd waits settled
    of_success := fun _ _ _ _ _ => nofun
    of_failure := fun _ _ _ => nofun }

/-- The change is made to the marked entry, but it is told by the entry before the mark. -/
theorem submits_of_change (waits : Waits cache query) {change : Change}
    (changes : changeOf? (consult query).result = some change) :
    Submits cache query (consult query).result (submit consult cache (.str query)).result := by
  have entry := @Cache.get?_update_self (cache.update query (.pending true)) query change
  rw [Cache.changed_of_marked (settles_of_changeOf? changes)] at entry
  rw [submit_of_change candidate waits changes]
  refine {
    asked_once := fun _ => rfl
    not_asked := fun settled => absurd waits settled
    brokenOff_iff := ⟨nofun, fun broken => ?_⟩
    pending := nofun
    returned := fun _ => ⟨_, rfl, entry, pending_changed_of_changeOf? changes cache query⟩
    known := fun settled => absurd waits settled
    of_success := fun _ value detail success => ?_
    of_failure := fun _ failed => ?_ }
  · -- A value without a text changes nothing.
    rw [changeOf?_eq_none_iff.2 broken.2] at changes
    cases changes
  · rintro _ ⟨⟩
    rw [success] at changes
    exact changed_of_success changes cache query
  · rintro _ ⟨⟩
    exact changed_of_failure failed changes cache query

end Candidate

/-- Whatever was done before, every entry stands under its own query, and submitting a candidate
changes no other entry. The evaluator is asked once if the query waits for an outcome and not at all
if it is settled. Unless the query waits and its value is an integer of too many digits to be
written, the submission returns the settled entry: a success with the text of the value, a failure
with the text that the entry had before. Otherwise it breaks off and the query stays pending. -/
theorem submit_settles_or_breaks_off (acts : List Act) (consult : Consult) (query : String)
    (candidate : Screen.isCandidate query.toList = true) :
    let cache := cacheAfter acts
    let submission := (submit consult cache (.str query)).result
    (∀ key state, cache.get? key = some state → state.query = key) ∧
    (∀ key state, submission.cache.get? key = some state → state.query = key) ∧
    (∀ key, key ≠ query → submission.cache.get? key = cache.get? key) ∧
    Submits cache query (consult query).result submission := by
  intro cache submission
  have keyed : Keyed cache := keyed_cacheAfter acts
  refine ⟨keyed, keyed.submit consult (.str query), fun key => get?_submit_of_ne, ?_⟩
  by_cases waits : Waits cache query
  · cases changes : changeOf? (consult query).result with
    | none => exact submits_of_unwritten candidate waits changes
    | some change => exact submits_of_change candidate waits changes
  · exact submits_of_settled candidate waits _

/-- A failure keeps the text that was written to the entry before. -/
theorem submit_settles_or_breaks_off_stale :
    let acts := [.change "1+1" (.result "2"), .change "1+1" (.pending true)]
    let consult : Consult := fun _ => pure (.ok (.fail .evaluationError))
    Screen.isCandidate "1+1".toList = true ∧
    (submit consult (cacheAfter acts) (.str "1+1")).result.ending =
      .returned (some ⟨"1+1", "2", false, true⟩) ∧
    (submit consult (cacheAfter acts) (.str "1+1")).result.asked = ["1+1"] := by
  intro acts consult
  have candidate : Screen.isCandidate "1+1".toList = true := by decide
  have waits : Waits (cacheAfter acts) "1+1" := by
    intro state found
    cases found
    rfl
  have failure : ∀ value detail, (consult "1+1").result ≠ .ok (.success value detail) := by
    intro value detail success
    cases success
  obtain ⟨_, keyed, _, submits⟩ := submit_settles_or_breaks_off acts consult "1+1" candidate
  have unbroken : (submit consult (cacheAfter acts) (.str "1+1")).result.ending ≠ .brokenOff := by
    decide
  obtain ⟨state, returned, entry, unmarked⟩ := submits.returned unbroken
  obtain ⟨failed, kept⟩ := submits.of_failure waits failure state returned
  have same : state = ⟨"1+1", "2", false, true⟩ := by
    have named := keyed "1+1" state entry
    obtain ⟨_, _, _, _⟩ := state
    cases named
    cases unmarked
    cases failed
    cases kept
    rfl
  exact ⟨candidate, by rw [returned, same], submits.asked_once waits⟩

theorem submit_of_long {z : Int} (long : 10 ^ Text.Digits.maxRun ≤ z.natAbs)
    (candidate : Screen.isCandidate query.toList = true) (waits : Waits cache query) :
    (submit (fun _ => pure (.ok (.ok (.integer z)))) cache (.str query)).result =
      ⟨cache.update query (.pending true), .brokenOff, [query]⟩ :=
  submit_of_unwritten candidate waits (changeOf?_eq_none_iff.2 ⟨z, none, rfl, long⟩)

/-- An integer of one digit too many breaks the submission off, and the query stays pending. -/
theorem submit_of_long_integer :
    let consult : Consult := fun _ => pure (.ok (.ok (.integer (10 ^ Text.Digits.maxRun))))
    Screen.isCandidate "1+1".toList = true ∧
    (submit consult (cacheAfter []) (.str "1+1")).result.ending = .brokenOff ∧
    (submit consult (cacheAfter []) (.str "1+1")).result.cache.get? "1+1" =
      some ⟨"1+1", "", true, false⟩ := by
  intro consult
  have candidate : Screen.isCandidate "1+1".toList = true := by decide
  have waits : Waits (cacheAfter []) "1+1" := nofun
  have long : 10 ^ Text.Digits.maxRun ≤ ((10 : Int) ^ Text.Digits.maxRun).natAbs := by
    simp [Int.natAbs_pow]
  rw [submit_of_long long candidate waits]
  exact ⟨candidate, rfl, rfl⟩

end Query

end Reckoner
