import Mathlib.Data.List.Dedup
import Mathlib.Data.List.Induction
import Reckoner.Proofs.Query.Settling

/-!
# What a controller remembers of its history

A controller starts with nothing, and its cache is written by submitting and by forgetting only. What
it remembers can then be told from its history alone:

* `candidates` are the candidates that were submitted since everything was forgotten,
* `employed` is the evaluator in force, and `outcomeAfter` what it says about a query,
* `FirstWritten` tells the first submission of a candidate whose outcome could be written.

Submissions before that one have broken off, and those after it ask nobody. So a query that was
submitted is `Settled` or has been asked about in vain, and `Remembers` is kept by every step.
`Session.remembers_first_written` sums up what a whole run does.
-/

namespace Reckoner.Query

-- Powers are those of the core library, whatever else is in scope.
attribute [local instance (high)] instPowNat

/-! ## Histories -/

/-- The candidate that a step submits. -/
def Step.candidate? : Step → Option String
  | submit (.str query) => if Screen.isCandidate query.toList then some query else none
  | _ => none

def Step.addTo (found : List String) : Step → List String
  | reset => []
  | step => found ++ step.candidate?.toList

/-- The candidates that were submitted since everything was forgotten. -/
def candidates (history : List Step) : List String :=
  history.foldl Step.addTo []

def Step.employs (consult : Consult) : Step → Consult
  | employ other => other
  | _ => consult

/-- The evaluator in force after a history. -/
def employed (consult : Consult) (history : List Step) : Consult :=
  history.foldl Step.employs consult

def outcomeAfter (consult : Consult) (history : List Step) (query : String) :
    Except Breakdown Envelope :=
  (employed consult history query).result

/-- A candidate was submitted after the steps `before`, and nothing was forgotten afterwards. -/
def SubmittedAfter (history before : List Step) (query : String) : Prop :=
  Screen.isCandidate query.toList = true ∧
    ∃ later, history = before ++ .submit (.str query) :: later ∧ Step.reset ∉ later

/-- Some submission of a candidate had an outcome that could be written. -/
def Settled (consult : Consult) (history : List Step) (query : String) : Prop :=
  ∃ before, SubmittedAfter history before query ∧ ¬Unwritten (outcomeAfter consult before query)

/-- A step submits a candidate, and nothing is known that could be returned. -/
def Asks (consult : Consult) (history : List Step) (step : Step) (query : String) : Prop :=
  step.candidate? = some query ∧ ¬Settled consult history query

/-- The submission after the steps `before` was the first one with such an outcome. -/
def FirstWritten (consult : Consult) (history before : List Step) (query : String) : Prop :=
  SubmittedAfter history before query ∧ ¬Unwritten (outcomeAfter consult before query) ∧
    ¬Settled consult before query

/-- How an outcome is remembered. -/
def State.settled (query : String) : Except Breakdown Envelope → State
  | .ok (.success value _) => ⟨query, value.display, false, false⟩
  | .ok (.failure _ _) | .error _ => ⟨query, "", false, true⟩

/-- How a query is remembered that was asked about in vain. -/
def State.begun (query : String) : State :=
  ⟨query, "", true, false⟩

/-- What is told of a candidate by the history: the first outcome that could be written, or that
there was none. -/
inductive Told (consult : Consult) (history : List Step) (query : String) : State → Prop where
  | written {before : List Step} (first : FirstWritten consult history before query) :
      Told consult history query (.settled query (outcomeAfter consult before query))
  | begun (submitted : query ∈ candidates history) (unsettled : ¬Settled consult history query) :
      Told consult history query (.begun query)

theorem Step.candidate?_eq_some {step : Step} {query : String} :
    step.candidate? = some query ↔
      step = .submit (.str query) ∧ Screen.isCandidate query.toList = true := by
  cases step with
  | submit input =>
    cases input with
    | str text =>
      simp only [candidate?, Option.ite_none_right_eq_some, Option.some.injEq, submit.injEq,
        Json.str.injEq]
      constructor
      · rintro ⟨candidate, rfl⟩
        exact ⟨rfl, candidate⟩
      · rintro ⟨rfl, candidate⟩
        exact ⟨candidate, rfl⟩
    | _ => simp [candidate?]
  | _ => simp [candidate?]

theorem reset_notMem_cons {step : Step} {stretch : List Step} :
    Step.reset ∉ step :: stretch ↔ step ≠ .reset ∧ Step.reset ∉ stretch := by
  simp [eq_comm]

theorem reset_notMem_concat {step : Step} {stretch : List Step} :
    Step.reset ∉ stretch ++ [step] ↔ Step.reset ∉ stretch ∧ step ≠ .reset := by
  simp [eq_comm]

@[simp] theorem candidates_nil : candidates [] = [] := rfl

@[simp] theorem candidates_concat_reset (history : List Step) :
    candidates (history ++ [.reset]) = [] := by
  simp [candidates, Step.addTo]

theorem candidates_concat {step : Step} (kept : step ≠ .reset) (history : List Step) :
    candidates (history ++ [step]) = candidates history ++ step.candidate?.toList := by
  cases step with
  | reset => exact absurd rfl kept
  | _ => simp [candidates, Step.addTo]

theorem employed_concat (consult : Consult) (history : List Step) (step : Step) :
    employed consult (history ++ [step]) = step.employs (employed consult history) := by
  simp [employed]

/-- What a stretch without forgetting adds to the candidates. -/
theorem candidates_append {stretch : List Step} (kept : Step.reset ∉ stretch)
    (history : List Step) :
    candidates (history ++ stretch) = candidates history ++ candidates stretch := by
  induction stretch using List.reverseRecOn with
  | nil => simp
  | append_singleton stretch step ih =>
    obtain ⟨keptBefore, keptNow⟩ := reset_notMem_concat.1 kept
    rw [← List.append_assoc, candidates_concat keptNow, candidates_concat keptNow,
      ih keptBefore, List.append_assoc]

theorem candidates_cons {step : Step} {stretch : List Step} (kept : Step.reset ∉ step :: stretch) :
    candidates (step :: stretch) = step.candidate?.toList ++ candidates stretch := by
  obtain ⟨keptNow, keptLater⟩ := reset_notMem_cons.1 kept
  rw [← List.singleton_append, candidates_append keptLater, ← List.nil_append [step],
    candidates_concat keptNow, candidates_nil, List.nil_append]

theorem mem_candidates_iff {stretch : List Step} (kept : Step.reset ∉ stretch) {query : String} :
    query ∈ candidates stretch ↔ ∃ step ∈ stretch, step.candidate? = some query := by
  induction stretch with
  | nil => simp
  | cons step stretch ih =>
    simp [candidates_cons kept, ih (reset_notMem_cons.1 kept).2]

theorem employed_of_not_employ {history : List Step} (kept : ∀ other, Step.employ other ∉ history)
    (consult : Consult) : employed consult history = consult := by
  induction history using List.reverseRecOn with
  | nil => rfl
  | append_singleton history step ih =>
    rw [employed_concat, ih fun other member => kept other (List.mem_append_left _ member)]
    cases step with
    | employ other => exact absurd (List.mem_append_right _ (.head _)) (kept other)
    | _ => rfl

/-- The last item of a list is behind a given one, or is the given one. -/
theorem concat_eq_split {α : Type} {before later items : List α} {item last : α} :
    items ++ [last] = before ++ item :: later ↔
      items = before ∧ last = item ∧ later = [] ∨
        ∃ rest, items = before ++ item :: rest ∧ later = rest ++ [last] := by
  constructor
  · intro split
    rcases later.eq_nil_or_concat' with rfl | ⟨rest, end_, rfl⟩
    · obtain ⟨rfl, same⟩ := List.append_inj' split rfl
      cases same
      exact .inl ⟨rfl, rfl, rfl⟩
    · rw [← List.cons_append, ← List.append_assoc] at split
      obtain ⟨rfl, same⟩ := List.append_inj' split rfl
      cases same
      exact .inr ⟨rest, rfl, rfl⟩
  · rintro (⟨rfl, rfl, rfl⟩ | ⟨rest, rfl, rfl⟩) <;> simp

/-! ### First outcomes -/

section Histories

variable {consult : Consult} {history before : List Step} {step : Step} {query : String}

theorem not_submittedAfter_nil : ¬SubmittedAfter [] before query := by
  rintro ⟨_, later, split, _⟩
  simp at split

theorem submittedAfter_concat :
    SubmittedAfter (history ++ [step]) before query ↔
      step ≠ .reset ∧ SubmittedAfter history before query ∨
        step.candidate? = some query ∧ before = history := by
  constructor
  · rintro ⟨candidate, later, split, kept⟩
    rcases concat_eq_split.1 split with ⟨rfl, rfl, rfl⟩ | ⟨later, rfl, rfl⟩
    · exact .inr ⟨Step.candidate?_eq_some.2 ⟨rfl, candidate⟩, rfl⟩
    · obtain ⟨keptBefore, keptNow⟩ := reset_notMem_concat.1 kept
      exact .inl ⟨keptNow, candidate, later, rfl, keptBefore⟩
  · rintro (⟨keptNow, candidate, later, rfl, kept⟩ | ⟨submits, rfl⟩)
    · exact ⟨candidate, later ++ [step], by simp, reset_notMem_concat.2 ⟨kept, keptNow⟩⟩
    · obtain ⟨rfl, candidate⟩ := Step.candidate?_eq_some.1 submits
      exact ⟨candidate, [], rfl, List.not_mem_nil⟩

theorem exists_submittedAfter_iff :
    (∃ before, SubmittedAfter history before query) ↔ query ∈ candidates history := by
  induction history using List.reverseRecOn with
  | nil => simp [not_submittedAfter_nil]
  | append_singleton history step ih =>
    by_cases kept : step = .reset
    · subst kept
      simp [submittedAfter_concat, Step.candidate?]
    · simp only [submittedAfter_concat, kept, ne_eq, not_false_eq_true, true_and, exists_or, ih,
        candidates_concat kept, List.mem_append, Option.mem_toList]
      simp

theorem mem_candidates_of_settled (settled : Settled consult history query) :
    query ∈ candidates history := by
  obtain ⟨before, submitted, _⟩ := settled
  exact exists_submittedAfter_iff.1 ⟨before, submitted⟩

theorem SubmittedAfter.append (submitted : SubmittedAfter history before query)
    {stretch : List Step} (kept : Step.reset ∉ stretch) :
    SubmittedAfter (history ++ stretch) before query := by
  obtain ⟨candidate, later, rfl, keptBefore⟩ := submitted
  exact ⟨candidate, later ++ stretch, by simp, by simp [keptBefore, kept]⟩

theorem Settled.append (settled : Settled consult history query) {stretch : List Step}
    (kept : Step.reset ∉ stretch) : Settled consult (history ++ stretch) query :=
  let ⟨before, submitted, written⟩ := settled
  ⟨before, submitted.append kept, written⟩

theorem settled_concat :
    Settled consult (history ++ [step]) query ↔
      step ≠ .reset ∧ Settled consult history query ∨
        step.candidate? = some query ∧ ¬Unwritten (outcomeAfter consult history query) := by
  simp only [Settled, submittedAfter_concat, or_and_right, exists_or, and_assoc, exists_and_left,
    exists_eq_left]

/-- A step that asks settles the query, or is in vain. -/
theorem settled_concat_of_asks (asks : Asks consult history step query) :
    Settled consult (history ++ [step]) query ↔
      ¬Unwritten (outcomeAfter consult history query) := by
  simp [settled_concat, asks.1, asks.2]

theorem settled_concat_of_not_asks (kept : step ≠ .reset)
    (idle : ¬Asks consult history step query) :
    Settled consult (history ++ [step]) query ↔ Settled consult history query := by
  rw [settled_concat]
  unfold Asks at idle
  tauto

/-- A step forgets, or submits a candidate that waits, or leaves the first outcomes as they are. -/
theorem firstWritten_concat :
    FirstWritten consult (history ++ [step]) before query ↔
      step ≠ .reset ∧ FirstWritten consult history before query ∨
        step.candidate? = some query ∧ before = history ∧
          ¬Unwritten (outcomeAfter consult history query) ∧ ¬Settled consult history query := by
  simp only [FirstWritten, submittedAfter_concat, or_and_right, and_assoc]
  refine or_congr Iff.rfl (and_congr_right fun _ => ?_)
  constructor
  · rintro ⟨rfl, first⟩
    exact ⟨rfl, first⟩
  · rintro ⟨rfl, first⟩
    exact ⟨rfl, first⟩

theorem exists_firstWritten_iff :
    (∃ before, FirstWritten consult history before query) ↔ Settled consult history query := by
  induction history using List.reverseRecOn with
  | nil => simp [FirstWritten, Settled, not_submittedAfter_nil]
  | append_singleton history step ih =>
    simp only [firstWritten_concat, exists_or, exists_and_left, exists_eq_left, ih, settled_concat]
    -- A step that submits a query again does not forget it.
    have kept (submits : step.candidate? = some query) : step ≠ .reset := by
      rintro rfl
      cases submits
    tauto

section Written

variable (written : ∀ before, SubmittedAfter history before query →
  ¬Unwritten (outcomeAfter consult before query))

include written

/-- If every outcome could be written, the candidates are settled. -/
theorem settled_iff_of_written : Settled consult history query ↔ query ∈ candidates history := by
  rw [← exists_submittedAfter_iff]
  constructor
  · rintro ⟨before, submitted, _⟩
    exact ⟨before, submitted⟩
  · rintro ⟨before, submitted⟩
    exact ⟨before, submitted, written before submitted⟩

/-- If every outcome could be written, the first one is that of the first submission. -/
theorem firstWritten_iff_of_written :
    FirstWritten consult history before query ↔
      SubmittedAfter history before query ∧ query ∉ candidates before := by
  unfold FirstWritten
  refine and_congr_right fun submitted => ?_
  have earlier : Settled consult before query ↔ query ∈ candidates before := by
    refine settled_iff_of_written fun early submittedEarly => written early ?_
    obtain ⟨_, later, rfl, kept⟩ := submitted
    exact submittedEarly.append (by simpa using kept)
  simp [written before submitted, earlier]

end Written

theorem told_iff {state : State} :
    Told consult history query state ↔
      (∃ before, FirstWritten consult history before query ∧
        state = .settled query (outcomeAfter consult before query)) ∨
      query ∈ candidates history ∧ ¬Settled consult history query ∧ state = .begun query := by
  constructor
  · rintro (first | ⟨submitted, unsettled⟩)
    · exact .inl ⟨_, first, rfl⟩
    · exact .inr ⟨submitted, unsettled, rfl⟩
  · rintro (⟨before, first, rfl⟩ | ⟨submitted, unsettled, rfl⟩)
    · exact .written first
    · exact .begun submitted unsettled

theorem exists_told_iff : (∃ state, Told consult history query state) ↔
    query ∈ candidates history := by
  constructor
  · rintro ⟨_, first | ⟨submitted, _⟩⟩
    · exact mem_candidates_of_settled (exists_firstWritten_iff.1 ⟨_, first⟩)
    · exact submitted
  · intro submitted
    by_cases settled : Settled consult history query
    · obtain ⟨before, first⟩ := exists_firstWritten_iff.2 settled
      exact ⟨_, .written first⟩
    · exact ⟨_, .begun submitted settled⟩

/-- Only a submission of a query, and forgetting, change what is told of it. -/
theorem told_concat_of_ne (kept : step ≠ .reset) (other : step.candidate? ≠ some query)
    {state : State} :
    Told consult (history ++ [step]) query state ↔ Told consult history query state := by
  simp [told_iff, firstWritten_concat, settled_concat, candidates_concat kept, kept, other]

section Submitted

variable (submits : step.candidate? = some query) {state : State}

include submits

theorem ne_reset_of_candidate? : step ≠ .reset := by
  rintro rfl
  cases submits

theorem told_concat_of_settled (settled : Settled consult history query) :
    Told consult (history ++ [step]) query state ↔ Told consult history query state := by
  simp [told_iff, firstWritten_concat, settled_concat, settled, ne_reset_of_candidate? submits]

theorem told_concat_of_written (unsettled : ¬Settled consult history query)
    (written : ¬Unwritten (outcomeAfter consult history query)) :
    Told consult (history ++ [step]) query state ↔
      state = .settled query (outcomeAfter consult history query) := by
  have first (before : List Step) : ¬FirstWritten consult history before query :=
    fun first => unsettled (exists_firstWritten_iff.1 ⟨before, first⟩)
  simp [told_iff, firstWritten_concat, settled_concat, unsettled, written, submits, first]

theorem told_concat_of_unwritten (unsettled : ¬Settled consult history query)
    (unwritten : Unwritten (outcomeAfter consult history query)) :
    Told consult (history ++ [step]) query state ↔ state = .begun query := by
  have first (before : List Step) : ¬FirstWritten consult history before query :=
    fun first => unsettled (exists_firstWritten_iff.1 ⟨before, first⟩)
  simp [told_iff, firstWritten_concat, settled_concat, unsettled, unwritten, submits, first,
    candidates_concat (ne_reset_of_candidate? submits)]

end Submitted

end Histories

/-! ## Submitting -/

theorem State.settled_query (query : String) (outcome : Except Breakdown Envelope) :
    (settled query outcome).query = query := by
  rcases outcome with _ | (_ | _) <;> rfl

theorem State.settled_pending (query : String) (outcome : Except Breakdown Envelope) :
    (settled query outcome).pending = false := by
  rcases outcome with _ | (_ | _) <;> rfl

/-- Nothing is known about a query but that it was asked about in vain. -/
def Untold (cache : Cache) (query : String) : Prop :=
  cache.get? query = none ∨ cache.get? query = some (.begun query)

section Submitting

variable {consult : Consult} {cache : Cache} {query : String}

theorem Untold.waits (untold : Untold cache query) : Waits cache query := by
  intro state found
  rcases untold with new | begun
  · cases new.symm.trans found
  · cases begun.symm.trans found
    rfl

theorem Untold.changed_pending (untold : Untold cache query) :
    cache.changed query (.pending true) = .begun query := by
  rcases untold with new | begun
  · simp [Cache.changed, new, Change.apply, State.blank, State.begun]
  · simp [Cache.changed, begun, Change.apply, State.begun]

theorem Untold.changed_settled (untold : Untold cache query)
    {outcome : Except Breakdown Envelope} {change : Change}
    (changes : changeOf? outcome = some change) :
    cache.changed query change = .settled query outcome := by
  have told : change.apply ((cache.get? query).getD (.blank query)) =
      change.apply (.blank query) := by
    rcases untold with new | begun
    · rw [new]
      rfl
    · rw [begun]
      cases change with
      | pending flag => exact absurd rfl (settles_of_changeOf? changes flag)
      | result _ | error _ => rfl
  rw [Cache.changed, told]
  rcases outcome with _ | (⟨value, detail⟩ | _)
  · cases changes
    rfl
  · obtain ⟨text, written, rfl⟩ := Option.map_eq_some_iff.1 changes
    rw [Value.display_of_display? written]
    rfl
  · cases changes
    rfl

/-- What is not known yet is answered with its outcome, if that can be written. -/
theorem Untold.ending_submit (untold : Untold cache query)
    (candidate : Screen.isCandidate query.toList = true)
    (written : ¬Unwritten (consult query).result) :
    (submit consult cache (.str query)).result.ending =
      .returned (some (.settled query (consult query).result)) := by
  obtain ⟨change, changes⟩ := exists_changeOf?_iff.2 written
  rw [submit_of_change candidate untold.waits changes, untold.changed_settled changes]

end Submitting

/-! ## Runs -/

namespace Session

theorem not_isCandidate_of_candidate? {input : Json}
    (rejected : (Step.submit input).candidate? = none) (query : String)
    (same : input = .str query) : Screen.isCandidate query.toList = false := by
  subst same
  simpa [Step.candidate?] using rejected

theorem take_submit_of_not_candidate {input : Json}
    (rejected : (Step.submit input).candidate? = none) (session : Session) :
    session.take (.submit input) = pure ⟨session, .submitted (.returned none), []⟩ := by
  simp [take, submit_of_not_candidate (not_isCandidate_of_candidate? rejected)]

/-- A step that submits no candidate and does not forget leaves what is remembered. -/
theorem next_cache_of_not_candidate {step : Step} (kept : step ≠ .reset)
    (rejected : step.candidate? = none) (session : Session) :
    (session.next step).cache = session.cache := by
  cases step with
  | reset => exact absurd rfl kept
  | submit input =>
    rw [next, take_submit_of_not_candidate rejected]
    rfl
  | look look => rfl
  | employ other => rfl

theorem after_cache_of_not_candidate {stretch : List Step} (kept : Step.reset ∉ stretch)
    (rejected : ∀ step ∈ stretch, step.candidate? = none) (session : Session) :
    (session.after stretch).cache = session.cache := by
  induction stretch generalizing session with
  | nil => rfl
  | cons step stretch ih =>
    obtain ⟨rejectedNow, rejectedLater⟩ := List.forall_mem_cons.1 rejected
    obtain ⟨keptNow, keptLater⟩ := reset_notMem_cons.1 kept
    exact (ih keptLater rejectedLater (session.next step)).trans
      (next_cache_of_not_candidate keptNow rejectedNow session)

theorem next_consult (session : Session) (step : Step) :
    (session.next step).consult = step.employs session.consult := by
  cases step <;> rfl

theorem after_consult (session : Session) (history : List Step) :
    (session.after history).consult = employed session.consult history := by
  induction history generalizing session with
  | nil => rfl
  | cons step history ih =>
    rw [after, List.foldl_cons, ← after, ih, next_consult]
    rfl

theorem after_of_not_employ {history : List Step}
    (kept : ∀ other, Step.employ other ∉ history) (session : Session) :
    session.after history = ⟨session.consult, (session.after history).cache⟩ := by
  have same := session.after_consult history
  rw [employed_of_not_employ kept] at same
  generalize session.after history = last at same ⊢
  rw [← same]

/-- The employed evaluator is asked about a query. Its entry then is a given one, and the entries of
other queries stay. What the evaluator logs comes first. -/
structure Evaluates (session : Session) (query : String) (state : State) (ending : Ending) :
    Prop where
  result : ∃ cache, (session.take (.submit (.str query))).result =
    ⟨⟨session.consult, cache⟩, .submitted ending, [query]⟩ ∧
      ∀ other, cache.get? other = if other = query then some state else session.cache.get? other
  records : (session.consult query).records <+: (session.take (.submit (.str query))).records

section Evaluates

variable {session : Session} {query : String}

theorem result_take_submit (session : Session) (input : Json) :
    let submission := (submit session.consult session.cache input).result
    (session.take (.submit input)).result =
      ⟨⟨session.consult, submission.cache⟩, .submitted submission.ending, submission.asked⟩ :=
  rfl

theorem records_take_submit (candidate : Screen.isCandidate query.toList = true)
    (waits : Waits session.cache query) :
    (session.consult query).records <+: (session.take (.submit (.str query))).records := by
  simp [take, submit_of_waits candidate waits]

theorem evaluates_of_written (untold : Untold session.cache query)
    (candidate : Screen.isCandidate query.toList = true)
    (written : ¬Unwritten (session.consult query).result) :
    session.Evaluates query (.settled query (session.consult query).result)
      (.returned (some (.settled query (session.consult query).result))) := by
  obtain ⟨change, changes⟩ := exists_changeOf?_iff.2 written
  have submitted := submit_of_change candidate untold.waits changes
  rw [untold.changed_settled changes] at submitted
  refine ⟨⟨_, by rw [result_take_submit, submitted], fun other => ?_⟩,
    records_take_submit candidate untold.waits⟩
  by_cases same : other = query
  · subst same
    rw [Cache.get?_update_self, Cache.changed_of_marked (settles_of_changeOf? changes),
      untold.changed_settled changes, if_pos rfl]
  · rw [Cache.get?_update_of_ne same, Cache.get?_update_of_ne same, if_neg same]

theorem evaluates_of_unwritten (untold : Untold session.cache query)
    (candidate : Screen.isCandidate query.toList = true)
    (unwritten : Unwritten (session.consult query).result) :
    session.Evaluates query (.begun query) .brokenOff := by
  have submitted :=
    submit_of_unwritten candidate untold.waits (changeOf?_eq_none_iff.2 unwritten)
  refine ⟨⟨_, by rw [result_take_submit, submitted], fun other => ?_⟩,
    records_take_submit candidate untold.waits⟩
  by_cases same : other = query
  · subst same
    rw [Cache.get?_update_self, untold.changed_pending, if_pos rfl]
  · rw [Cache.get?_update_of_ne same, if_neg same]

/-! ### Questions -/

variable {state : State} {ending : Ending}

theorem Evaluates.asked (evaluates : session.Evaluates query state ending) :
    (session.take (.submit (.str query))).result.asked = [query] := by
  obtain ⟨_, taken, _⟩ := evaluates.result
  rw [taken]

theorem Evaluates.brokenOff (evaluates : session.Evaluates query state ending) :
    (session.take (.submit (.str query))).result.brokenOff =
      if ending = .brokenOff then [query] else [] := by
  obtain ⟨_, taken, _⟩ := evaluates.result
  rw [taken]
  cases ending <;> rfl

end Evaluates

end Session

/-- What was asked about in vain was asked about. -/
theorem Taken.mem_asked_of_mem_brokenOff {taken : Taken} {query : String}
    (inVain : query ∈ taken.brokenOff) : query ∈ taken.asked := by
  unfold brokenOff at inVain
  split at inVain
  · exact inVain
  · cases inVain

/-- A session remembers the candidates of its history, each with the first outcome that could be
written. -/
structure Remembers (consult : Consult) (history : List Step) (session : Session) : Prop where
  consult_eq : session.consult = employed consult history
  get?_eq_some_iff : ∀ query state, session.cache.get? query = some state ↔
    Told consult history query state

namespace Remembers

variable {consult : Consult} {history : List Step} {session : Session} {query : String}

theorem isSome_get?_iff (remembers : Remembers consult history session) (query : String) :
    (session.cache.get? query).isSome ↔ query ∈ candidates history := by
  simp only [Option.isSome_iff_exists, remembers.get?_eq_some_iff, exists_told_iff]

theorem get?_of_settled (remembers : Remembers consult history session)
    (settled : Settled consult history query) :
    ∃ state, session.cache.get? query = some state ∧ state.pending = false := by
  obtain ⟨before, first⟩ := exists_firstWritten_iff.2 settled
  exact ⟨_, (remembers.get?_eq_some_iff _ _).2 (.written first), State.settled_pending _ _⟩

theorem untold (remembers : Remembers consult history session)
    (unsettled : ¬Settled consult history query) : Untold session.cache query := by
  cases found : session.cache.get? query with
  | none => exact .inl found
  | some state =>
    cases (remembers.get?_eq_some_iff _ _).1 found with
    | written first => exact absurd (exists_firstWritten_iff.1 ⟨_, first⟩) unsettled
    | begun => exact .inr found

/-- The entries are as many as the candidates, repetitions apart. -/
theorem size_eq (remembers : Remembers consult history session) :
    session.cache.size = (candidates history).dedup.length := by
  have same : (keys session.cache.entries).Perm (candidates history).dedup := by
    refine (List.perm_ext_iff_of_nodup session.cache.distinct (List.nodup_dedup _)).2 ?_
    intro query
    rw [Cache.mem_keys_iff, remembers.isSome_get?_iff, List.mem_dedup]
  simpa [keys, Cache.size] using same.length_eq

/-! ### Submissions -/

theorem take_submit_of_settled (remembers : Remembers consult history session)
    (settled : Settled consult history query) :
    ∃ state, session.cache.get? query = some state ∧ state.pending = false ∧
      session.take (.submit (.str query)) =
        pure ⟨session, .submitted (.returned (some state)), []⟩ := by
  have ⟨_, ⟨candidate, _⟩, _⟩ := settled
  obtain ⟨state, found, ended⟩ := remembers.get?_of_settled settled
  exact ⟨state, found, ended, by simp [Session.take, submit_of_settled candidate found ended]⟩

theorem outcome_eq (remembers : Remembers consult history session) (query : String) :
    (session.consult query).result = outcomeAfter consult history query := by
  rw [remembers.consult_eq, outcomeAfter]

theorem evaluates_of_written (remembers : Remembers consult history session)
    (candidate : Screen.isCandidate query.toList = true)
    (unsettled : ¬Settled consult history query)
    (written : ¬Unwritten (outcomeAfter consult history query)) :
    session.Evaluates query (.settled query (outcomeAfter consult history query))
      (.returned (some (.settled query (outcomeAfter consult history query)))) := by
  rw [← remembers.outcome_eq] at written ⊢
  exact Session.evaluates_of_written (remembers.untold unsettled) candidate written

theorem evaluates_of_unwritten (remembers : Remembers consult history session)
    (candidate : Screen.isCandidate query.toList = true)
    (unsettled : ¬Settled consult history query)
    (unwritten : Unwritten (outcomeAfter consult history query)) :
    session.Evaluates query (.begun query) .brokenOff :=
  Session.evaluates_of_unwritten (remembers.untold unsettled) candidate
    (remembers.outcome_eq query ▸ unwritten)

/-- The entry of a query that is evaluated is what the history tells of the query then. -/
theorem evaluates (remembers : Remembers consult history session)
    (candidate : Screen.isCandidate query.toList = true)
    (unsettled : ¬Settled consult history query) :
    ∃ state ending, session.Evaluates query state ending ∧
      (ending = .brokenOff ↔ Unwritten (outcomeAfter consult history query)) ∧
      ∀ told, Told consult (history ++ [.submit (.str query)]) query told ↔ told = state := by
  have submits : (Step.submit (.str query)).candidate? = some query :=
    Step.candidate?_eq_some.2 ⟨rfl, candidate⟩
  by_cases unwritten : Unwritten (outcomeAfter consult history query)
  · exact ⟨_, _, remembers.evaluates_of_unwritten candidate unsettled unwritten,
      iff_of_true rfl unwritten, fun _ => told_concat_of_unwritten submits unsettled unwritten⟩
  · exact ⟨_, _, remembers.evaluates_of_written candidate unsettled unwritten,
      iff_of_false nofun unwritten, fun _ => told_concat_of_written submits unsettled unwritten⟩

theorem start (consult : Consult) : Remembers consult [] (.start consult) :=
  ⟨rfl, fun _ _ => by
    simp [Session.start, told_iff, FirstWritten, not_submittedAfter_nil]⟩

theorem next (remembers : Remembers consult history session) (step : Step) :
    Remembers consult (history ++ [step]) (session.next step) where
  consult_eq := by rw [Session.next_consult, remembers.consult_eq, employed_concat]
  get?_eq_some_iff query state := by
    by_cases kept : step = .reset
    · subst kept
      have forgotten : (session.next .reset).cache = .empty := rfl
      simp [forgotten, told_iff, firstWritten_concat, Step.candidate?]
    · cases submits : step.candidate? with
      | none =>
        rw [Session.next_cache_of_not_candidate kept submits, remembers.get?_eq_some_iff,
          told_concat_of_ne kept (by simp [submits])]
      | some submitted =>
        obtain ⟨rfl, candidate⟩ := Step.candidate?_eq_some.1 submits
        by_cases settled : Settled consult history submitted
        · -- It is answered with what is remembered, and nothing more is told of it.
          obtain ⟨_, _, _, taken⟩ := remembers.take_submit_of_settled settled
          have stays : session.next (.submit (.str submitted)) = session := by
            rw [Session.next, taken]
            rfl
          rw [stays, remembers.get?_eq_some_iff]
          by_cases same : submitted = query
          · subst same
            rw [told_concat_of_settled submits settled]
          · rw [told_concat_of_ne kept (by simpa [submits] using same)]
        · -- One entry is written, and it is the one that the longer history tells.
          obtain ⟨entry, ending, ⟨⟨cache, taken, entries⟩, _⟩, _, told⟩ :=
            remembers.evaluates candidate settled
          have after : (session.next (.submit (.str submitted))).cache = cache := by
            rw [Session.next, taken]
          rw [after, entries]
          by_cases same : query = submitted
          · subst same
            rw [if_pos rfl, told, Option.some.injEq, eq_comm]
          · rw [if_neg same, remembers.get?_eq_some_iff,
              told_concat_of_ne kept (by simpa [submits] using Ne.symm same)]

theorem after (consult : Consult) (history : List Step) :
    Remembers consult history ((Session.start consult).after history) := by
  induction history using List.reverseRecOn with
  | nil => exact .start consult
  | append_singleton history step ih =>
    rw [Session.after_append]
    exact ih.next step

/-! ### Questions -/

section Asking

variable {step : Step}

theorem asked_take (remembers : Remembers consult history session)
    (asks : Asks consult history step query) : (session.take step).result.asked = [query] := by
  obtain ⟨submits, unsettled⟩ := asks
  obtain ⟨rfl, candidate⟩ := Step.candidate?_eq_some.1 submits
  obtain ⟨_, _, evaluates, _⟩ := remembers.evaluates candidate unsettled
  exact evaluates.asked

open Classical in
theorem brokenOff_take (remembers : Remembers consult history session)
    (asks : Asks consult history step query) :
    (session.take step).result.brokenOff =
      if Unwritten (outcomeAfter consult history query) then [query] else [] := by
  obtain ⟨submits, unsettled⟩ := asks
  obtain ⟨rfl, candidate⟩ := Step.candidate?_eq_some.1 submits
  obtain ⟨_, _, evaluates, breaks, _⟩ := remembers.evaluates candidate unsettled
  simp only [evaluates.brokenOff, breaks]

/-- Nothing else is asked about. -/
theorem asks_of_mem_asked (remembers : Remembers consult history session)
    (asked : query ∈ (session.take step).result.asked) : Asks consult history step query := by
  cases submits : step.candidate? with
  | none =>
    cases step with
    | submit input =>
      rw [Session.take_submit_of_not_candidate submits] at asked
      cases asked
    | look | reset | employ => cases asked
  | some submitted =>
    obtain ⟨rfl, candidate⟩ := Step.candidate?_eq_some.1 submits
    by_cases settled : Settled consult history submitted
    · obtain ⟨_, _, _, taken⟩ := remembers.take_submit_of_settled settled
      rw [taken] at asked
      cases asked
    · rw [remembers.asked_take ⟨submits, settled⟩, List.mem_singleton] at asked
      subst asked
      exact ⟨submits, settled⟩

open Classical in
/-- One step asks about a query once more than in vain if it settles it, and else only in vain. -/
theorem count_asked_take (remembers : Remembers consult history session) (kept : step ≠ .reset)
    (query : String) :
    (session.take step).result.asked.count query =
      (session.take step).result.brokenOff.count query +
        if Settled consult (history ++ [step]) query ∧ ¬Settled consult history query then 1
        else 0 := by
  by_cases asks : Asks consult history step query
  · rw [remembers.asked_take asks, remembers.brokenOff_take asks]
    by_cases unwritten : Unwritten (outcomeAfter consult history query) <;>
      simp [settled_concat_of_asks asks, unwritten, asks.2]
  · have notAsked : query ∉ (session.take step).result.asked :=
      fun asked => asks (remembers.asks_of_mem_asked asked)
    have notInVain : query ∉ (session.take step).result.brokenOff :=
      fun inVain => notAsked (Taken.mem_asked_of_mem_brokenOff inVain)
    simp [List.count_eq_zero_of_not_mem notAsked, List.count_eq_zero_of_not_mem notInVain,
      settled_concat_of_not_asks kept asks]

end Asking

open Classical in
/-- In a stretch without forgetting, a query that is settled in it is asked about once more than in
vain, and any other one only in vain. -/
theorem count_asked (remembers : Remembers consult history session) {stretch : List Step}
    (kept : Step.reset ∉ stretch) (query : String) :
    (session.asked stretch).count query = (session.brokenOff stretch).count query +
      if Settled consult (history ++ stretch) query ∧ ¬Settled consult history query then 1
      else 0 := by
  induction stretch generalizing history session with
  | nil => simp [Session.asked, Session.brokenOff]
  | cons step stretch ih =>
    obtain ⟨keptNow, keptLater⟩ := reset_notMem_cons.1 kept
    have now := remembers.count_asked_take keptNow query
    have later := ih (remembers.next step) keptLater
    rw [List.append_assoc, List.singleton_append] at later
    -- What is settled stays settled, so only one of the two parts settles the query.
    have stays (settled : Settled consult history query) :
        Settled consult (history ++ [step]) query :=
      settled.append (reset_notMem_cons.2 ⟨keptNow, List.not_mem_nil⟩)
    have staysLater (settled : Settled consult (history ++ [step]) query) :
        Settled consult (history ++ step :: stretch) query := by
      simpa using settled.append keptLater
    rw [Session.asked, Session.brokenOff, List.count_append, List.count_append, now, later]
    by_cases before : Settled consult history query
    · simp [before, stays before]
    · by_cases between : Settled consult (history ++ [step]) query
      · simp [before, between, staysLater between]
        omega
      · simp [before, between]
        omega

/-- What is asked about in vain was submitted, and its outcome could not be written. -/
theorem unwritten_of_mem_brokenOff (remembers : Remembers consult history session)
    {stretch : List Step} (inVain : query ∈ session.brokenOff stretch) :
    ∃ before later, stretch = before ++ .submit (.str query) :: later ∧
      Unwritten (outcomeAfter consult (history ++ before) query) := by
  induction stretch generalizing history session with
  | nil => cases inVain
  | cons step stretch ih =>
    rcases List.mem_append.1 inVain with now | later
    · have asks := remembers.asks_of_mem_asked (Taken.mem_asked_of_mem_brokenOff now)
      obtain ⟨rfl, _⟩ := Step.candidate?_eq_some.1 asks.1
      refine ⟨[], stretch, rfl, ?_⟩
      rw [remembers.brokenOff_take asks] at now
      by_contra written
      rw [List.append_nil] at written
      simp [written] at now
    · obtain ⟨before, after, rfl, unwritten⟩ := ih (remembers.next step) later
      exact ⟨step :: before, after, rfl, by simpa using unwritten⟩

end Remembers

/-! ## Main result -/

/-- What is remembered at the end of a history, and what comes of the steps that may follow. -/
structure FollowsHistory (consult : Consult) (history : List Step) (session : Session) :
    Prop where
  known : ∀ query, (session.cache.get? query).isSome ↔ query ∈ candidates history
  size : session.cache.size = (candidates history).dedup.length
  told : ∀ query state, session.cache.get? query = some state ↔ Told consult history query state
  told_first : ∀ query, (∀ before, SubmittedAfter history before query →
      ¬Unwritten (outcomeAfter consult before query)) →
    ∀ state, session.cache.get? query = some state ↔
      ∃ before, SubmittedAfter history before query ∧ query ∉ candidates before ∧
        state = .settled query (outcomeAfter consult before query)
  served : ∀ query, Settled consult history query →
    ∃ state, session.cache.get? query = some state ∧ state.pending = false ∧
      session.take (.submit (.str query)) =
        pure ⟨session, .submitted (.returned (some state)), []⟩
  evaluated : ∀ query, Screen.isCandidate query.toList = true →
    ¬Settled consult history query → ¬Unwritten (outcomeAfter consult history query) →
      session.Evaluates query (.settled query (outcomeAfter consult history query))
        (.returned (some (.settled query (outcomeAfter consult history query))))
  broken_off : ∀ query, Screen.isCandidate query.toList = true →
    ¬Settled consult history query → Unwritten (outcomeAfter consult history query) →
      session.Evaluates query (.begun query) .brokenOff
  rejected : ∀ input, (Step.submit input).candidate? = none →
    session.take (.submit input) = pure ⟨session, .submitted (.returned none), []⟩
  forgotten : session.take .reset =
    pure ⟨⟨session.consult, .empty⟩, .count (candidates history).dedup.length, []⟩
  looked : ∀ look, session.take (.look look) = pure ⟨session, look.answer session.cache, []⟩
  employed : session.consult = Query.employed consult history ∧ ∀ other,
    session.take (.employ other) = pure ⟨⟨other, session.cache⟩, .nothing, []⟩
  asked_once : ∀ stretch, Step.reset ∉ stretch → ∀ query,
    Settled consult (history ++ stretch) query → ¬Settled consult history query →
      (session.asked stretch).count query = (session.brokenOff stretch).count query + 1
  asked_in_vain : ∀ stretch, Step.reset ∉ stretch → ∀ query,
    (Settled consult (history ++ stretch) query → Settled consult history query) →
      (session.asked stretch).count query = (session.brokenOff stretch).count query
  in_vain : ∀ stretch, ∀ query ∈ session.brokenOff stretch,
    ∃ before later, stretch = before ++ .submit (.str query) :: later ∧
      Unwritten (outcomeAfter consult (history ++ before) query)

/-- Whatever was submitted, forgotten, looked at and employed, a cache that starts empty has one
entry for each candidate that was submitted since everything was forgotten, and for nothing else. It
is settled with the outcome of its first submission, from the evaluator that was employed then, and
the evaluator is asked just that once. But a submission whose value is an integer of too many digits
to be written breaks off and leaves the entry pending, so that the next one asks again. -/
theorem Session.remembers_first_written (consult : Consult) (history : List Step) :
    FollowsHistory consult history ((Session.start consult).after history) := by
  generalize reached : (Session.start consult).after history = session
  have remembers : Remembers consult history session := reached ▸ .after consult history
  exact {
    known := remembers.isSome_get?_iff
    size := remembers.size_eq
    told := remembers.get?_eq_some_iff
    told_first := fun query written state => by
      have settled := settled_iff_of_written written
      have unsettled : ¬(query ∈ candidates history ∧ ¬Settled consult history query) := by
        simp [settled]
      simp only [remembers.get?_eq_some_iff, told_iff, firstWritten_iff_of_written written,
        and_assoc, ← and_assoc (a := query ∈ candidates history), unsettled, false_and, or_false]
    served := fun _ settled => remembers.take_submit_of_settled settled
    evaluated := fun _ => remembers.evaluates_of_written
    broken_off := fun _ => remembers.evaluates_of_unwritten
    rejected := fun _ rejected => session.take_submit_of_not_candidate rejected
    forgotten := by
      rw [← remembers.size_eq]
      rfl
    looked := fun _ => rfl
    employed := ⟨remembers.consult_eq, fun _ => rfl⟩
    asked_once := fun _ kept query settled unsettled => by
      rw [remembers.count_asked kept query, if_pos ⟨settled, unsettled⟩]
    asked_in_vain := fun _ kept query same => by
      rw [remembers.count_asked kept query, if_neg fun new => new.2 (same new.1), Nat.add_zero]
    in_vain := fun _ _ => remembers.unwritten_of_mem_brokenOff }

/-- The evaluator that is employed later cannot evaluate anything; what was asked before stays. -/
theorem Session.remembers_first_written_broken_later :
    let consult := Consult.ofCalculator (.ofLimit none)
    let history : List Step := [.submit (.str "1+1"), .employ fun _ => pure (.error .broken),
      .submit (.str "1+1"), .submit (.str "4*5"), .look .size]
    let session := (Session.start consult).after history
    session.cache.get? "1+1" = some ⟨"1+1", "2", false, false⟩ ∧
    session.cache.get? "4*5" = some ⟨"4*5", "", false, true⟩ ∧
    session.take (.submit (.str "one")) = pure ⟨session, .submitted (.returned none), []⟩ ∧
    session.cache.size = 2 := by
  intro consult history session
  have follows := Session.remembers_first_written consult history
  have submittedOne : SubmittedAfter history [] "1+1" := ⟨by decide, _, rfl, by simp⟩
  have submittedTwo : SubmittedAfter history (history.take 3) "4*5" :=
    ⟨by decide, _, rfl, by simp⟩
  have writtenOne : ¬Unwritten (outcomeAfter consult [] "1+1") := by
    rw [← changeOf?_eq_none_iff]
    decide +kernel
  have writtenTwo : ¬Unwritten (outcomeAfter consult (history.take 3) "4*5") := by
    rintro ⟨_, _, other, _⟩
    cases other
  have firstOne : FirstWritten consult history [] "1+1" :=
    ⟨submittedOne, writtenOne, fun settled => List.not_mem_nil (mem_candidates_of_settled settled)⟩
  have firstTwo : FirstWritten consult history (history.take 3) "4*5" := by
    refine ⟨submittedTwo, writtenTwo, fun settled => ?_⟩
    have known := mem_candidates_of_settled settled
    revert known
    decide
  refine ⟨?_, (follows.told _ _).2 (.written firstTwo), follows.rejected _ rfl, ?_⟩
  · rw [follows.told]
    have outcome : State.settled "1+1" (outcomeAfter consult [] "1+1") =
        ⟨"1+1", "2", false, false⟩ := by
      decide +kernel
    exact outcome ▸ .written firstOne
  · rw [follows.size]
    decide

/-- What can never be written is asked about each time. -/
theorem Session.asks_again_of_unwritten {consult : Consult} {query : String}
    (candidate : Screen.isCandidate query.toList = true)
    (unwritten : Unwritten (consult query).result) :
    let history : List Step := [.submit (.str query), .submit (.str query)]
    ((Session.start consult).after history).cache.get? query = some (.begun query) ∧
    (Session.start consult).asked history = [query, query] := by
  intro history
  have submits : (Step.submit (.str query)).candidate? = some query :=
    Step.candidate?_eq_some.2 ⟨rfl, candidate⟩
  have unsettled (before : List Step) (earlier : before <+: history) :
      ¬Settled consult before query := by
    rintro ⟨early, ⟨_, later, rfl, _⟩, written⟩
    have submissions : ∀ other, Step.employ other ∉ early := fun other member =>
      absurd (((List.prefix_append ..).trans earlier).mem member) (by simp [history])
    rw [outcomeAfter, employed_of_not_employ submissions] at written
    exact written unwritten
  have asked (before : List Step) (earlier : before <+: history) :
      (((Session.start consult).after before).take (.submit (.str query))).result.asked = [query] :=
    (Remembers.after consult before).asked_take ⟨submits, unsettled before earlier⟩
  refine ⟨((Remembers.after consult history).get?_eq_some_iff _ _).2 (.begun ?_ ?_), ?_⟩
  · exact (mem_candidates_iff (by simp [history])).2 ⟨_, .head _, submits⟩
  · exact unsettled history (List.prefix_refl history)
  · exact congrArg₂ (· ++ ·) (asked [] (List.nil_prefix ..))
      (congrArg₂ (· ++ ·) (asked [.submit (.str query)] ⟨[_], rfl⟩) rfl)

/-- An integer of one digit too many is not remembered, and is asked for again. -/
theorem Session.asks_again_for_long_integer :
    let consult : Consult := fun _ => pure (.ok (.ok (.integer (10 ^ Text.Digits.maxRun))))
    let history : List Step := [.submit (.str "2*3"), .submit (.str "2*3")]
    Screen.isCandidate "2*3".toList = true ∧
    ((Session.start consult).after history).cache.get? "2*3" = some ⟨"2*3", "", true, false⟩ ∧
    (Session.start consult).asked history = ["2*3", "2*3"] := by
  intro consult
  have candidate : Screen.isCandidate "2*3".toList = true := by decide
  have long : 10 ^ Text.Digits.maxRun ≤ ((10 : Int) ^ Text.Digits.maxRun).natAbs := by
    simp [Int.natAbs_pow]
  exact ⟨candidate, asks_again_of_unwritten candidate ⟨_, none, rfl, long⟩⟩

end Reckoner.Query
