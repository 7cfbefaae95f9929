import Reckoner.Proofs.Query.Evaluators
import Reckoner.Proofs.Query.Histories
import Reckoner.Proofs.Service.Handling

/-!
# What the service says about queries

With the local calculator, everything that the service says about a query can be told from the query
and from the requests that came before:

* `Accepts` tells that a request submits a candidate, and `PostedSinceReset` that this happened after
  everything was forgotten,
* `Undecodable` and `Quotable` tell how a body that holds no candidate is refused.

A request does one of three things to what is remembered, it submits, forgets or changes nothing.
So it is a short history of a controller, `steps`, and a run of requests is one whole history,
`cache_after`. The calculator gives nothing that cannot be written, so each candidate is settled by
its first submission, `get?_after`, and `queries_follow_requests` reads off what is said about it.
-/

namespace Reckoner.Service

open Net (Answer Request)

/-! ## Requests -/

/-- A request reaches an endpoint. -/
def Asks (e : Endpoint) (r : Request) : Prop :=
  route r.method r.target.path = .endpoint e

instance (e : Endpoint) (r : Request) : Decidable (Asks e r) :=
  inferInstanceAs (Decidable (_ = _))

/-- A request reaches an endpoint that is asked about the query of the parameters. -/
def AsksAbout (e : Endpoint) (query : String) (r : Request) : Prop :=
  Asks e r ∧ r.target.parameter? "query" = some query

/-- The body of a request holds a query, without a half of a pair by itself. -/
def Holds (r : Request) (query : String) : Prop :=
  r.hasJsonBody = true ∧ IsWhole r.body ∧ ∃ members, Json.ofBytes? r.body = .ok (.obj members) ∧
    Json.lookup? "query" members = some (.str query)

/-- A request submits a query that is worth evaluating. -/
def Accepts (r : Request) (query : String) : Prop :=
  Asks .submitQuery r ∧ Holds r query ∧ Screen.isCandidate query.toList = true

def PostedSinceReset (requests : List Request) (query : String) : Prop :=
  ∃ before post later, requests = before ++ post :: later ∧ Accepts post query ∧
    ∀ r ∈ later, ¬Asks .resetQueries r

/-- The body of a request is announced as JSON, and it is no text or has an integer that is too long
to be read. -/
def Undecodable (r : Request) : Prop :=
  r.hasJsonBody = true ∧ (Json.ofBytes? r.body = .error .layout ∨
    ∃ digits, Json.ofBytes? r.body = .error (.content (.longInteger digits)))

/-- A refusal can quote the body of a request. -/
def Quotable (r : Request) : Prop :=
  ∀ content, readContent r = .ok content → content.isQuotable = true

/-- The value at the end of a path of names in the body of a reply. -/
def Shown.at? (shown : Shown) (path : List String) : Option Json :=
  match shown.body with
  | .data j => path.foldlM Json.get? j
  | _ => none

/-- What four requests are told about a query is what its envelope says: one submits it, and the
others ask for the envelope, for the value, and whether the query is a candidate. -/
structure Agree (envelope : Envelope) (posted evaluated calculated classified : Shown) : Prop where
  evaluated_eq : evaluated.status = 200 ∧ evaluated.body = .data envelope.toJson
  classified_eq : classified.status = 200 ∧
    (classified.at? ["candidate"] = some (.bool true) ↔ posted.status = 200)
  of_success : ∀ value detail, envelope = .success value detail →
    (calculated.status = 200 ∧ calculated.at? ["result"] = some value.toJson) ∧
      (posted.status = 200 → posted.at? ["error"] = some (.bool false) ∧
        posted.at? ["result"] = some (.str value.display))
  of_failure : ∀ kind detail, envelope = .failure kind detail →
    (calculated.status = 400 ∧
        calculated.at? ["error", "details", "kind"] = some (.str kind.name)) ∧
      (posted.status = 200 → posted.at? ["error"] = some (.bool true) ∧
        posted.at? ["result"] = some (.str ""))

/-! ## Replies -/

variable {s : Settings} {world : World} {state : State} {cache : Query.Cache} {r : Request}
  {e : Endpoint} {query : String}

theorem Asks.leads (asks : Asks e r) : route r.method r.target.path = .endpoint e :=
  asks

theorem perform_of_asks (asks : Asks e r) :
    perform s world.network cache r = e.perform s world.network cache r := by
  have asked : r.method ∈ e.methods := mem_methods_of_route asks
  have other : r.method ≠ "OPTIONS" := by
    rintro same
    rw [same] at asked
    cases e <;> simp [Endpoint.methods] at asked
  simp [perform, preflight?, other, asks.leads]

theorem perform_cache_of_not_asks (elsewhere : ∀ e, ¬Asks e r) :
    (perform s world.network cache r).result.cache = cache := by
  unfold perform
  split
  · rfl
  · split
    · rename_i e leads
      exact absurd leads (elsewhere e)
    all_goals rfl

theorem cache_serve :
    (serve s world state r).2.cache = (perform s world.network state.cache r).result.cache := by
  rw [serve_eq]

/-- Only pages are asked for their headers alone. -/
theorem method_ne_head (asks : Asks e r) (noPage : ∀ p, e ≠ .page p) : r.method ≠ "HEAD" := by
  have asked : r.method ∈ e.methods := mem_methods_of_route asks
  rintro same
  rw [same] at asked
  cases e with
  | page p => exact noPage p rfl
  | _ => simp [Endpoint.methods] at asked

theorem shown_of_answer (asks : Asks e r) (noPage : ∀ p, e ≠ .page p) {answer : Answer}
    (answers : (e.perform s world.network state.cache r).result.answer = .ok answer) :
    (serve s world state r).1.shown.status = answer.status ∧
      (serve s world state r).1.shown.body = answer.body := by
  have performed : (perform s world.network state.cache r).result.answer = .ok answer := by
    rw [perform_of_asks asks, answers]
  simp [serve_eq, performed, showOutcome, showAnswer, shownBody, method_ne_head asks noPage]

theorem shown_of_problem (asks : Asks e r) (noPage : ∀ p, e ≠ .page p) {problem : Problem}
    (answers : (e.perform s world.network state.cache r).result.answer =
      .error (.problem problem)) :
    (serve s world state r).1.shown.status = problem.kind.status ∧
      ∃ id, (serve s world state r).1.shown.body = .data (problem.payload id) := by
  have performed : (perform s world.network state.cache r).result.answer =
      .error (.problem problem) := by
    rw [perform_of_asks asks, answers]
  simp [serve_eq, performed, showOutcome, showAnswer, shownBody, method_ne_head asks noPage, report]

/-! ## Bodies -/

theorem nonemptyText_eq_ok {body : List UInt8} {j : Json} :
    nonemptyText body j = .ok query ↔ j = .str query ∧ IsWhole body ∧ query ≠ "" := by
  cases j with
  | str text =>
    simp only [nonemptyText, Json.str.injEq]
    split
    · simp_all [Checked.fail]
    · split
      · rename_i empty
        simp only [Checked.fail, reduceCtorEq, false_iff]
        rintro ⟨rfl, _, nonempty⟩
        exact nonempty empty
      · rename_i whole nonempty
        simp only [Except.ok.injEq]
        constructor
        · rintro rfl
          exact ⟨rfl, Decidable.not_not.1 whole, nonempty⟩
        · exact And.left
  | _ => simp [nonemptyText, Checked.fail]

theorem Content.query_eq_ok {content : Content} :
    content.query = .ok query ↔ query ≠ "" ∧
      ∃ body members, content = .json body (.obj members) ∧ IsWhole body ∧
        Json.lookup? "query" members = some (.str query) := by
  match content with
  | .json body (.obj members) =>
    cases found : Json.lookup? "query" members with
    | none => simp [Content.query, Json.required, found, Checked.fail]
    | some j =>
      have opened : (Content.json body (.obj members)).query = .ok query ↔
          nonemptyText body j = .ok query := by
        simp [Content.query, Json.required, found]
      simp only [opened, nonemptyText_eq_ok, json.injEq, Json.obj.injEq]
      constructor
      · rintro ⟨rfl, whole, nonempty⟩
        exact ⟨nonempty, body, members, ⟨rfl, rfl⟩, whole, found⟩
      · rintro ⟨nonempty, _, _, ⟨rfl, rfl⟩, whole, found'⟩
        cases found.symm.trans found'
        exact ⟨rfl, whole, nonempty⟩
  | .nothing | .bytes _ | .json _ .null | .json _ (.bool _) | .json _ (.int _)
  | .json _ (.float _) | .json _ (.str _) | .json _ (.arr _) => simp [Content.query, Checked.fail]

/-- A query that a body holds is what a refusal would quote. -/
theorem Content.isQuotable_of_query {content : Content} (given : content.query = .ok query) :
    content.isQuotable = true := by
  obtain ⟨_, body, members, rfl, whole, found⟩ := Content.query_eq_ok.1 given
  simp [isQuotable, quoted, found, Json.isFinite, whole]

theorem ofBytes?_empty : ∃ cause position line column,
    Json.ofBytes? [] = .error (.content (.broken cause position line column)) := by
  have text : Text.bodyChars? Text.replacementMark [] = some [] := by decide +kernel
  simp only [Json.ofBytes?, Json.readBytes?, text]
  exact ⟨_, _, _, _, rfl⟩

theorem readContent_eq_json {body : List UInt8} {j : Json} :
    readContent r = .ok (.json body j) ↔
      body = r.body ∧ r.hasJsonBody = true ∧ Json.ofBytes? r.body = .ok j := by
  unfold readContent
  by_cases empty : r.body = []
  · obtain ⟨_, _, _, _, broken⟩ := ofBytes?_empty
    simp [empty, broken]
  · by_cases announced : r.hasJsonBody = true
    · rcases Json.ofBytes? r.body with (_ | (_ | _)) | _ <;> simp [empty, announced, eq_comm]
    · simp [empty, announced]

theorem not_undecodable_of_readContent {content : Content} (read : readContent r = .ok content) :
    ¬Undecodable r := by
  rintro ⟨announced, layout | ⟨digits, long⟩⟩
  all_goals
    unfold readContent at read
    split at read
    · rename_i empty
      obtain ⟨_, _, _, _, broken⟩ := ofBytes?_empty
      simp_all
    · simp_all

theorem quotable_iff_of_readContent {content : Content} (read : readContent r = .ok content) :
    Quotable r ↔ content.isQuotable = true := by
  simp [Quotable, read]

/-- A body that is announced as JSON and is none is refused at once. -/
theorem readContent_eq_error {refusal : Answer} (refused : readContent r = .error refusal) :
    (∃ text, refusal = .detail 400 text) ∧ Undecodable r ∨
      (∃ issues, refusal = .invalid issues) ∧ ¬Undecodable r := by
  unfold readContent at refused
  split at refused
  · cases refused
  · split at refused
    · cases refused
    · rename_i announced
      rw [Bool.not_eq_true', Bool.not_eq_false] at announced
      split at refused
      · cases refused
      · rename_i broken
        cases refused
        exact .inr ⟨⟨_, rfl⟩, by simp [Undecodable, broken]⟩
      · rename_i e other broken
        cases refused
        refine .inl ⟨⟨_, rfl⟩, announced, ?_⟩
        rcases e with _ | (_ | digits)
        · exact .inl broken
        · exact absurd rfl (other _ _ _ _)
        · exact .inr ⟨digits, broken⟩

/-- The query that the body of a request holds. -/
def held? (r : Request) : Option String :=
  match readContent r with
  | .ok content => content.query.toOption
  | .error _ => none

theorem held?_eq_some : held? r = some query ↔ Holds r query ∧ query ≠ "" := by
  have opened : held? r = some query ↔
      ∃ content, readContent r = .ok content ∧ content.query = .ok query := by
    unfold held?
    cases readContent r <;> simp [toOption_eq_some]
  rw [opened]
  constructor
  · rintro ⟨content, read, given⟩
    obtain ⟨nonempty, body, members, rfl, whole, found⟩ := Content.query_eq_ok.1 given
    obtain ⟨rfl, announced, value⟩ := readContent_eq_json.1 read
    exact ⟨⟨announced, whole, members, value, found⟩, nonempty⟩
  · rintro ⟨⟨announced, whole, members, value, found⟩, nonempty⟩
    exact ⟨_, readContent_eq_json.2 ⟨rfl, announced, value⟩,
      Content.query_eq_ok.2 ⟨nonempty, _, members, rfl, whole, found⟩⟩

theorem fit_of_held (held : held? r = some query) : ¬Undecodable r ∧ Quotable r := by
  unfold held? at held
  cases read : readContent r with
  | error refusal => simp [read] at held
  | ok content =>
    simp only [read, toOption_eq_some] at held
    exact ⟨not_undecodable_of_readContent read,
      (quotable_iff_of_readContent read).2 (Content.isQuotable_of_query held)⟩

theorem nonempty_of_isCandidate (candidate : Screen.isCandidate query.toList = true) :
    query ≠ "" := by
  rintro rfl
  revert candidate
  decide

theorem held?_of_accepts (accepts : Accepts r query) : held? r = some query :=
  held?_eq_some.2 ⟨accepts.2.1, nonempty_of_isCandidate accepts.2.2⟩

theorem fit_of_accepts (accepts : Accepts r query) : ¬Undecodable r ∧ Quotable r :=
  fit_of_held (held?_of_accepts accepts)

theorem configured_of_local (isLocal : s.isRemote = false) (network : Remote.Network) :
    Evaluator.configured s network = .ok (.ofCalculator s.calculator) := by
  simp [Evaluator.configured, isLocal]

theorem submitQuery_of_held (isLocal : s.isRemote = false) (held : held? r = some query) :
    submitQuery s world.network cache r = submit (.ofCalculator s.calculator) cache query := by
  unfold held? at held
  cases read : readContent r with
  | error refusal => simp [read] at held
  | ok content =>
    simp only [read, toOption_eq_some] at held
    simp [submitQuery, read, configured_of_local isLocal, held]

/-- A body without a query is refused, and nothing is remembered. -/
theorem submitQuery_of_not_held (isLocal : s.isRemote = false) (held : held? r = none)
    (world : World) (cache : Query.Cache) :
    ∃ answer, submitQuery s world.network cache r = pure (.only cache answer) ∧
      (Undecodable r → ∃ text, answer = .ok (.detail 400 text)) ∧
      (¬Undecodable r → Quotable r → ∃ issues, answer = .ok (.invalid issues)) ∧
      (¬Quotable r → answer = .error .unhandled) := by
  cases read : readContent r with
  | error refusal =>
    -- There is no content, so nothing of it would be quoted.
    have quotable : Quotable r := by simp [Quotable, read]
    refine ⟨.ok refusal, by simp [submitQuery, read], ?_⟩
    rcases readContent_eq_error read with ⟨⟨text, rfl⟩, broken⟩ | ⟨⟨issues, rfl⟩, decodable⟩
    · simp [broken, quotable]
    · simp [decodable, quotable]
  | ok content =>
    cases given : content.query with
    | ok query => simp [held?, read, given, Except.toOption] at held
    | error issues =>
      have decodable := not_undecodable_of_readContent read
      refine ⟨content.refuse issues, by
        simp [submitQuery, read, configured_of_local isLocal, given], ?_⟩
      rw [quotable_iff_of_readContent read]
      by_cases fit : content.isQuotable = true <;> simp [Content.refuse, fit, decodable]

/-! ## Histories -/

/-- What a request does to a controller. -/
def steps (r : Request) : List Query.Step :=
  match route r.method r.target.path with
  | .endpoint .submitQuery => ((held? r).map fun query => Query.Step.submit (.str query)).toList
  | .endpoint .resetQueries => [.reset]
  | _ => []

/-- What is remembered for a candidate. -/
def remembered (s : Settings) (query : String) : Query.State :=
  .settled query (.ok (s.calculator.evaluate (.str query)))

/-- What the calculator breaks down on is remembered like any other failure. -/
theorem settled_eq_remembered (s : Settings) (query : String) :
    Query.State.settled query (Query.Consult.ofCalculator s.calculator query).result =
      remembered s query := by
  rw [remembered, Query.result_ofCalculator, Calculator.evaluate_eq_enveloped]
  cases (s.calculator.tryRun (.str query)).result <;> rfl

theorem remembered_of_success {value : Value} {detail : Option String}
    (success : s.calculator.evaluate (.str query) = .success value detail) :
    remembered s query = ⟨query, value.display, false, false⟩ := by
  rw [remembered, success]
  rfl

theorem remembered_of_failure {kind : ErrorKind} {detail : Option String}
    (failure : s.calculator.evaluate (.str query) = .failure kind detail) :
    remembered s query = ⟨query, "", false, true⟩ := by
  rw [remembered, failure]
  rfl

theorem cache_serve_eq_after (isLocal : s.isRemote = false) :
    (serve s world state r).2.cache =
      ((⟨.ofCalculator s.calculator, state.cache⟩ : Query.Session).after (steps r)).cache := by
  rw [cache_serve]
  unfold steps
  split
  · rename_i asks
    rw [perform_of_asks (e := .submitQuery) asks]
    cases held : held? r with
    | some query => simp only [Endpoint.perform, submitQuery_of_held isLocal held]; rfl
    | none =>
      obtain ⟨answer, refused, _⟩ := submitQuery_of_not_held isLocal held world state.cache
      simp only [Endpoint.perform, refused]
      rfl
  · rename_i asks
    rw [perform_of_asks (e := .resetQueries) asks]
    rfl
  · rename_i noSubmission noReset
    by_cases asks : ∃ e, Asks e r
    · obtain ⟨e, asks⟩ := asks
      rw [perform_of_asks asks]
      cases e with
      | submitQuery => exact absurd asks noSubmission
      | resetQueries => exact absurd asks noReset
      | calculate | candidate | evaluate | queryState =>
        simp only [Endpoint.perform, withQuery]
        cases queryParameter r <;> rfl
      | health | page _ => rfl
    · rw [perform_cache_of_not_asks fun e asked => asks ⟨e, asked⟩]
      rfl

theorem employ_not_mem_steps (other : Query.Consult) : Query.Step.employ other ∉ steps r := by
  unfold steps
  split <;> simp

theorem candidate?_of_mem_steps {step : Query.Step} (member : step ∈ steps r) :
    step.candidate? = some query ↔ Accepts r query := by
  unfold steps at member
  split at member
  · rename_i asks
    obtain ⟨held, given, rfl⟩ := Option.map_eq_some_iff.1 (Option.mem_toList.1 member)
    rw [Query.Step.candidate?_eq_some]
    constructor
    · rintro ⟨same, candidate⟩
      cases same
      exact ⟨asks, (held?_eq_some.1 given).1, candidate⟩
    · rintro ⟨_, holds, candidate⟩
      cases given.symm.trans (held?_of_accepts ⟨asks, holds, candidate⟩)
      exact ⟨rfl, candidate⟩
  · rename_i asks
    cases List.mem_singleton.1 member
    simp [Query.Step.candidate?, Accepts, Asks, asks]
  · cases member

theorem steps_of_reset (resets : Asks .resetQueries r) : steps r = [.reset] := by
  simp [steps, resets.leads]

theorem reset_not_mem_steps (kept : ¬Asks .resetQueries r) : Query.Step.reset ∉ steps r := by
  unfold steps
  split
  · simp
  · rename_i resets
    exact absurd resets kept
  · simp

theorem exists_step_of_accepts (accepts : Accepts r query) :
    ∃ step ∈ steps r, step.candidate? = some query := by
  have held := held?_of_accepts accepts
  refine ⟨.submit (.str query), by simp [steps, accepts.1.leads, held], ?_⟩
  exact Query.Step.candidate?_eq_some.2 ⟨rfl, accepts.2.2⟩

theorem mem_candidates_append_steps (history : List Query.Step) :
    query ∈ Query.candidates (history ++ steps r) ↔
      ¬Asks .resetQueries r ∧ (query ∈ Query.candidates history ∨ Accepts r query) := by
  by_cases resets : Asks .resetQueries r
  · simp [steps_of_reset resets, resets]
  · have kept := reset_not_mem_steps resets
    have submits : (∃ step ∈ steps r, step.candidate? = some query) ↔ Accepts r query :=
      ⟨fun ⟨step, member, submits⟩ => (candidate?_of_mem_steps member).1 submits,
        exists_step_of_accepts⟩
    rw [Query.candidates_append kept, List.mem_append, Query.mem_candidates_iff kept, submits]
    simp [resets]

theorem not_asks_reset_of_accepts (accepts : Accepts r query) : ¬Asks .resetQueries r := by
  intro resets
  have both := resets.leads.symm.trans accepts.1.leads
  cases both

theorem postedSinceReset_concat {requests : List Request} :
    PostedSinceReset (requests ++ [r]) query ↔
      ¬Asks .resetQueries r ∧ (PostedSinceReset requests query ∨ Accepts r query) := by
  constructor
  · rintro ⟨before, post, later, split, accepts, kept⟩
    rcases Query.concat_eq_split.1 split with ⟨rfl, rfl, rfl⟩ | ⟨later, rfl, rfl⟩
    · exact ⟨not_asks_reset_of_accepts accepts, .inr accepts⟩
    · exact ⟨kept r (by simp), .inl ⟨before, post, later, rfl, accepts, fun other member =>
        kept other (by simp [member])⟩⟩
  · rintro ⟨kept, ⟨before, post, later, rfl, accepts, keptLater⟩ | accepts⟩
    · refine ⟨before, post, later ++ [r], by simp, accepts, fun other member => ?_⟩
      rcases List.mem_append.1 member with member | member
      · exact keptLater other member
      · rwa [List.mem_singleton.1 member]
    · exact ⟨requests, r, [], rfl, accepts, by simp⟩

theorem mem_candidates_iff_posted (requests : List Request) :
    query ∈ Query.candidates (requests.flatMap steps) ↔ PostedSinceReset requests query := by
  induction requests using List.reverseRecOn with
  | nil => simp [PostedSinceReset]
  | append_singleton requests r ih =>
    rw [List.flatMap_append, List.flatMap_singleton, mem_candidates_append_steps,
      postedSinceReset_concat, ih]

theorem employ_not_mem_flatMap_steps (requests : List Request) (other : Query.Consult) :
    Query.Step.employ other ∉ requests.flatMap steps := by
  intro member
  obtain ⟨r, _, member⟩ := List.mem_flatMap.1 member
  exact employ_not_mem_steps other member

/-- A run of requests is a history of a controller. -/
theorem cache_after (isLocal : s.isRemote = false) (requests : List Request) :
    (after s world .start requests).cache =
      ((Query.Session.start (.ofCalculator s.calculator)).after (requests.flatMap steps)).cache := by
  induction requests using List.reverseRecOn with
  | nil => rfl
  | append_singleton requests r ih =>
    rw [after_concat, cache_serve_eq_after isLocal, ih, List.flatMap_append,
      List.flatMap_singleton, Query.Session.after_append]
    rw [Query.Session.after_of_not_employ (employ_not_mem_flatMap_steps requests)]
    rfl

theorem outcomeAfter_of_submittedAfter {consult : Query.Consult} {requests : List Request}
    {before : List Query.Step}
    (submitted : Query.SubmittedAfter (requests.flatMap steps) before query) :
    Query.outcomeAfter consult before query = (consult query).result := by
  obtain ⟨_, later, split, _⟩ := submitted
  rw [Query.outcomeAfter, Query.employed_of_not_employ fun other member =>
    employ_not_mem_flatMap_steps requests other (split ▸ List.mem_append_left _ member)]

/-- What is remembered of a run of requests. -/
theorem get?_after (isLocal : s.isRemote = false) (world : World) (requests : List Request)
    (query : String) :
    (PostedSinceReset requests query →
      (after s world .start requests).cache.get? query = some (remembered s query)) ∧
    (¬PostedSinceReset requests query →
      (after s world .start requests).cache.get? query = none) := by
  have remembers := Query.Remembers.after (.ofCalculator s.calculator) (requests.flatMap steps)
  rw [cache_after isLocal, ← mem_candidates_iff_posted]
  constructor
  · intro known
    have settled := (Query.settled_iff_of_written fun before submitted => by
      rw [outcomeAfter_of_submittedAfter submitted]
      exact (Query.IsEvaluator.calculator s.calculator).not_unwritten query).2 known
    obtain ⟨before, first⟩ := Query.exists_firstWritten_iff.2 settled
    rw [remembers.get?_eq_some_iff, ← settled_eq_remembered,
      ← outcomeAfter_of_submittedAfter first.1]
    exact .written first
  · intro unknown
    rw [← remembers.isSome_get?_iff] at unknown
    simpa using unknown

/-! ## Answers -/

theorem withQuery_of_asksAbout {answer : String → Logged (Except Failure Answer)}
    (asks : AsksAbout e query r) :
    (withQuery cache r answer).result.answer = (answer query).result := by
  simp [withQuery, queryParameter, asks.2, Effect.only]

/-- A candidate is answered with what is remembered for it, whether it is new or not. -/
theorem answer_of_accepts (isLocal : s.isRemote = false) (accepts : Accepts r query)
    (known : ∀ found, cache.get? query = some found → found = remembered s query) :
    (submitQuery s world.network cache r).result.answer =
      .ok (.ok (stateJson (remembered s query))) := by
  have candidate := accepts.2.2
  rw [submitQuery_of_held isLocal (held?_of_accepts accepts)]
  cases entry : cache.get? query with
  | some found =>
    cases known found entry
    simp [submit, Query.submit_of_settled candidate entry (Query.State.settled_pending _ _)]
  | none =>
    have written := (Query.IsEvaluator.calculator s.calculator).not_unwritten query
    have untold : Query.Untold cache query := .inl entry
    simp [submit, Evaluator.ofCalculator, untold.ending_submit candidate written,
      settled_eq_remembered]

theorem answer_of_not_candidate (isLocal : s.isRemote = false) (held : held? r = some query)
    (rejected : Screen.isCandidate query.toList = false) :
    (submitQuery s world.network cache r).result.answer =
      .error (.problem (notAnExpression query)) := by
  have unfit : ∀ text, Json.str query = .str text → Screen.isCandidate text.toList = false := by
    rintro _ ⟨⟩
    exact rejected
  rw [submitQuery_of_held isLocal held]
  simp [submit, Query.submit_of_not_candidate unfit]

theorem Shown.at?_of_data {shown : Shown} {j : Json} (body : shown.body = .data j)
    (path : List String) : shown.at? path = path.foldlM Json.get? j := by
  simp [at?, body]

theorem type_payload (problem : Problem) (id : Option String) :
    ["error", "type"].foldlM Json.get? (problem.payload id) = some (.str problem.kind.type) := by
  simp [Problem.payload, Json.get?, Json.lookup?]

theorem kind_payload (kind : ProblemKind) (error : ErrorKind) (detail id : Option String) :
    ["error", "details", "kind"].foldlM Json.get?
      ((Problem.ofFailure kind error detail).payload id) = some (.str error.name) := by
  simp [Problem.payload, Problem.ofFailure, Json.get?, Json.lookup?]

theorem exists_shown_eq (asks : Asks e r) (s : Settings) (world : World) (state : State) :
    ∃ id, (serve s world state r).1.shown =
      showOutcome s r id (e.perform s world.network state.cache r).result.answer := by
  rw [← perform_of_asks asks, serve_eq]
  exact ⟨_, rfl⟩

/-! ## Runs -/

section Runs

variable {requests : List Request}

theorem shown_of_accepts (isLocal : s.isRemote = false) (accepts : Accepts r query) :
    (serve s world (after s world .start requests) r).1.shown.status = 200 ∧
      (serve s world (after s world .start requests) r).1.shown.body =
        .data (stateJson (remembered s query)) := by
  refine shown_of_answer accepts.1 (by simp) (answer_of_accepts isLocal accepts ?_)
  intro found entry
  obtain ⟨known, unknown⟩ := get?_after isLocal world requests query
  by_cases posted : PostedSinceReset requests query
  · rw [known posted] at entry
    exact (Option.some.inj entry).symm
  · rw [unknown posted] at entry
    cases entry

/-- What is not accepted is not answered with 200. -/
theorem shown_of_not_accepts (isLocal : s.isRemote = false) (asks : Asks .submitQuery r)
    (rejected : ∀ query, ¬Accepts r query) :
    (serve s world state r).1.shown.status ≠ 200 ∧
      (Undecodable r → (serve s world state r).1.shown.status = 400) ∧
      (¬Undecodable r → Quotable r → (serve s world state r).1.shown.status = 422) ∧
      (¬Quotable r → (serve s world state r).1.shown.status = 500) := by
  obtain ⟨id, shown⟩ := exists_shown_eq asks s world state
  cases held : held? r with
  | some query =>
    have unfit : Screen.isCandidate query.toList = false := by
      rw [← Bool.not_eq_true]
      exact fun candidate => rejected query ⟨asks, (held?_eq_some.1 held).1, candidate⟩
    obtain ⟨decodable, quotable⟩ := fit_of_held held
    rw [Endpoint.perform, answer_of_not_candidate isLocal held unfit] at shown
    simp [shown, showOutcome, showAnswer, report, notAnExpression, ProblemKind.status, decodable,
      quotable]
  | none =>
    obtain ⟨answer, refused, undecodable, unfit, unquotable⟩ :=
      submitQuery_of_not_held isLocal held world state.cache
    have answers : (submitQuery s world.network state.cache r).result.answer = answer := by
      rw [refused]
      rfl
    rw [Endpoint.perform, answers] at shown
    rw [shown]
    by_cases quotable : Quotable r
    · by_cases decodable : Undecodable r
      · obtain ⟨text, rfl⟩ := undecodable decodable
        simp [showOutcome, showAnswer, Answer.detail, decodable, quotable]
      · obtain ⟨issues, rfl⟩ := unfit decodable quotable
        simp [showOutcome, showAnswer, Answer.invalid, decodable, quotable]
    · cases unquotable quotable
      have decodable : ¬Undecodable r := fun broken => by
        obtain ⟨text, other⟩ := undecodable broken
        cases other
      simp [showOutcome, Shown.broken, decodable, quotable]

theorem shown_of_posted (isLocal : s.isRemote = false) (asks : AsksAbout .queryState query r)
    (posted : PostedSinceReset requests query) :
    (serve s world (after s world .start requests) r).1.shown.status = 200 ∧
      (serve s world (after s world .start requests) r).1.shown.body =
        .data (stateJson (remembered s query)) := by
  have answers : (Endpoint.queryState.perform s world.network
      (after s world .start requests).cache r).result.answer =
        .ok (.ok (stateJson (remembered s query))) := by
    rw [Endpoint.perform, withQuery_of_asksAbout asks]
    simp [Service.queryState, (get?_after isLocal world requests query).1 posted]
  exact shown_of_answer asks.1 (by simp) answers

theorem shown_of_not_posted (isLocal : s.isRemote = false) (asks : AsksAbout .queryState query r)
    (unknown : ¬PostedSinceReset requests query) :
    (serve s world (after s world .start requests) r).1.shown.status = 404 ∧
      (serve s world (after s world .start requests) r).1.shown.at? ["error", "type"] =
        some (.str "QUERY_NOT_FOUND") := by
  have answers : (Endpoint.queryState.perform s world.network
      (after s world .start requests).cache r).result.answer =
        .error (.problem (unknownQuery query)) := by
    rw [Endpoint.perform, withQuery_of_asksAbout asks]
    simp [Service.queryState, (get?_after isLocal world requests query).2 unknown]
  obtain ⟨status, id, body⟩ := shown_of_problem asks.1 (by simp) answers
  exact ⟨status, (Shown.at?_of_data body _).trans (type_payload _ _)⟩

theorem shown_of_evaluate (asks : AsksAbout .evaluate query r) :
    (serve s world state r).1.shown.status = 200 ∧
      (serve s world state r).1.shown.body =
        .data (s.calculator.evaluate (.str query)).toJson := by
  have answers : (Endpoint.evaluate.perform s world.network state.cache r).result.answer =
      .ok (.ok (s.calculator.evaluate (.str query)).toJson) := by
    rw [Endpoint.perform, withQuery_of_asksAbout asks]
    rfl
  exact shown_of_answer asks.1 (by simp) answers

theorem shown_of_candidate (asks : AsksAbout .candidate query r) :
    (serve s world state r).1.shown.status = 200 ∧
      (serve s world state r).1.shown.at? ["candidate"] =
        some (.bool (Screen.isCandidate query.toList)) := by
  have answers : (Endpoint.candidate.perform s world.network state.cache r).result.answer =
      .ok (Service.candidate query) := by
    rw [Endpoint.perform, withQuery_of_asksAbout asks]
    rfl
  obtain ⟨status, body⟩ := shown_of_answer asks.1 (by simp) answers
  exact ⟨status, Shown.at?_of_data body _⟩

theorem shown_of_calculate_success (asks : AsksAbout .calculate query r) {value : Value}
    {detail : Option String}
    (success : s.calculator.evaluate (.str query) = .success value detail) :
    (serve s world state r).1.shown.status = 200 ∧
      (serve s world state r).1.shown.at? ["result"] = some value.toJson := by
  have result : (s.calculator.run (.str query)).result = .success value detail := success
  have answers : (Endpoint.calculate.perform s world.network state.cache r).result.answer =
      .ok (.ok (resultJson query value)) := by
    rw [Endpoint.perform, withQuery_of_asksAbout asks]
    simp [Service.calculate, Calculator.evaluateStrict, result]
  obtain ⟨status, body⟩ := shown_of_answer asks.1 (by simp) answers
  exact ⟨status, Shown.at?_of_data body _⟩

theorem shown_of_calculate_failure (asks : AsksAbout .calculate query r) {kind : ErrorKind}
    {detail : Option String}
    (failure : s.calculator.evaluate (.str query) = .failure kind detail) :
    (serve s world state r).1.shown.status = 400 ∧
      (serve s world state r).1.shown.at? ["error", "details", "kind"] = some (.str kind.name) := by
  have result : (s.calculator.run (.str query)).result = .failure kind detail := failure
  have answers : (Endpoint.calculate.perform s world.network state.cache r).result.answer =
      .error (.problem (.ofFailure .calculation kind detail)) := by
    rw [Endpoint.perform, withQuery_of_asksAbout asks]
    simp [Service.calculate, Calculator.evaluateStrict, result]
  obtain ⟨status, id, body⟩ := shown_of_problem asks.1 (by simp) answers
  exact ⟨status, (Shown.at?_of_data body _).trans (kind_payload _ _ _ _)⟩

/-- Nothing but a submitted candidate and forgetting changes what is remembered. -/
theorem cache_serve_of_not_accepts (isLocal : s.isRemote = false)
    (rejected : ∀ query, ¬Accepts r query) (kept : ¬Asks .resetQueries r) :
    (serve s world state r).2.cache = state.cache := by
  rw [cache_serve_eq_after isLocal]
  refine Query.Session.after_cache_of_not_candidate (reset_not_mem_steps kept) ?_ _
  intro step member
  cases submits : step.candidate? with
  | none => rfl
  | some query => exact absurd ((candidate?_of_mem_steps member).1 submits) (rejected query)

theorem Holds.unique {other : String} (holds : Holds r query) (holdsOther : Holds r other) :
    query = other := by
  obtain ⟨_, _, members, value, found⟩ := holds
  obtain ⟨_, _, members', value', found'⟩ := holdsOther
  cases value.symm.trans value'
  cases found.symm.trans found'
  rfl

/-- At any point of a run, the endpoints tell the same about a query. -/
theorem endpoints_agree (isLocal : s.isRemote = false)
    {posts evaluates calculates classifies : Request} (submits : Asks .submitQuery posts)
    (holds : Holds posts query) (evaluate : AsksAbout .evaluate query evaluates)
    (calculate : AsksAbout .calculate query calculates)
    (classify : AsksAbout .candidate query classifies) :
    let shown := fun r => (serve s world (after s world .start requests) r).1.shown
    Agree (s.calculator.evaluate (.str query)) (shown posts) (shown evaluates) (shown calculates)
      (shown classifies) := by
  intro shown
  have accepted : (shown posts).status = 200 ↔ Screen.isCandidate query.toList = true := by
    refine ⟨fun status => ?_, fun fit => (shown_of_accepts isLocal ⟨submits, holds, fit⟩).1⟩
    by_contra unfit
    refine (shown_of_not_accepts isLocal submits ?_).1 status
    rintro other ⟨_, holdsOther, fit⟩
    exact unfit (holds.unique holdsOther ▸ fit)
  have posted (status : (shown posts).status = 200) :
      (shown posts).body = .data (stateJson (remembered s query)) :=
    (shown_of_accepts isLocal ⟨submits, holds, accepted.1 status⟩).2
  obtain ⟨classified, candidate⟩ := shown_of_candidate classify
  refine ⟨shown_of_evaluate evaluate, ⟨classified, ?candidates⟩, ?successes, ?failures⟩
  case candidates => simp [shown, candidate, accepted]
  case successes =>
    intro value detail success
    refine ⟨shown_of_calculate_success calculate success, fun status => ?_⟩
    simp [Shown.at?_of_data (posted status), remembered_of_success success, stateJson, Json.get?,
      Json.lookup?]
  case failures =>
    intro kind detail failure
    refine ⟨shown_of_calculate_failure calculate failure, fun status => ?_⟩
    simp [Shown.at?_of_data (posted status), remembered_of_failure failure, stateJson, Json.get?,
      Json.lookup?]

end Runs

/-- What is said about queries after some requests, and what later requests may change. -/
structure FollowsRequests (s : Settings) (world : World) (requests : List Request)
    (shown : Request → Shown) (next : Request → State) (cache : Query.Cache) : Prop where
  posted : ∀ r query, AsksAbout .queryState query r →
    ∀ before post later, requests = before ++ post :: later → Accepts post query →
      (∀ other ∈ later, ¬Asks .resetQueries other) →
        (shown r).status = 200 ∧
          (shown r).body = (serve s world (after s world .start before) post).1.shown.body
  unknown : ∀ r query, AsksAbout .queryState query r → ¬PostedSinceReset requests query →
    (shown r).status = 404 ∧ (shown r).at? ["error", "type"] = some (.str "QUERY_NOT_FOUND")
  accepted_iff : ∀ r, Asks .submitQuery r →
    ((shown r).status = 200 ↔ ∃ query, Accepts r query)
  accepted : ∀ r query, Accepts r query →
    (shown r).at? ["query"] = some (.str query) ∧ (shown r).at? ["pending"] = some (.bool false)
  undecodable : ∀ r, Asks .submitQuery r → Undecodable r → (shown r).status = 400
  unfit : ∀ r, Asks .submitQuery r → (∀ query, ¬Accepts r query) → ¬Undecodable r →
    Quotable r → (shown r).status = 422
  unquotable : ∀ r, Asks .submitQuery r → ¬Quotable r → (shown r).status = 500
  kept : ∀ r, (∀ query, ¬Accepts r query) → ¬Asks .resetQueries r → (next r).cache = cache
  forgotten : ∀ r, Asks .resetQueries r → (next r).cache = .empty
  agree : ∀ query posts evaluates calculates classifies, Asks .submitQuery posts →
    Holds posts query → AsksAbout .evaluate query evaluates →
    AsksAbout .calculate query calculates → AsksAbout .candidate query classifies →
      Agree (s.calculator.evaluate (.str query)) (shown posts) (shown evaluates)
        (shown calculates) (shown classifies)

/-- With the local calculator, whatever was requested, a query is known just if it was accepted and
nothing was forgotten since, and then it is told as at its submission. A submission is accepted just
if its body holds a candidate, and otherwise refused: with 400 if the body cannot be decoded, with
422 if the refusal can quote it, and else with 500. Nothing but accepted queries and forgetting
changes what is known, and all endpoints tell the same of a query. -/
theorem queries_follow_requests (s : Settings) (localMode : Text.lower s.calculatorMode ≠ "http")
    (world : World) (requests : List Request) :
    let state := after s world .start requests
    FollowsRequests s world requests (fun r => (serve s world state r).1.shown)
      (fun r => (serve s world state r).2) state.cache := by
  have isLocal : s.isRemote = false := by simpa [Settings.isRemote] using localMode
  intro state
  refine {
    posted := fun r query asks before post later split accepts kept => ?posted
    unknown := fun _ _ => shown_of_not_posted isLocal
    accepted_iff := fun r asks => ?accepted_iff
    accepted := fun r query accepts => ?accepted
    undecodable := fun r asks undecodable => ?undecodable
    unfit := fun _ asks rejected => (shown_of_not_accepts isLocal asks rejected).2.2.1
    unquotable := fun r asks unquotable => ?unquotable
    kept := fun _ => cache_serve_of_not_accepts isLocal
    forgotten := fun r resets => ?forgotten
    agree := fun _ _ _ _ _ => endpoints_agree isLocal }
  case posted =>
    have posted : PostedSinceReset requests query := ⟨before, post, later, split, accepts, kept⟩
    obtain ⟨status, body⟩ := shown_of_posted isLocal asks posted
    exact ⟨status, body.trans (shown_of_accepts isLocal accepts).2.symm⟩
  case accepted_iff =>
    refine ⟨fun status => ?_, fun ⟨query, accepts⟩ => (shown_of_accepts isLocal accepts).1⟩
    by_contra rejected
    rw [not_exists] at rejected
    exact (shown_of_not_accepts isLocal asks rejected).1 status
  case accepted =>
    have body : (serve s world state r).1.shown.body = .data (stateJson (remembered s query)) :=
      (shown_of_accepts isLocal accepts).2
    simp [Shown.at?_of_data body, stateJson, remembered, Query.State.settled_query,
      Query.State.settled_pending, Json.get?, Json.lookup?]
  case undecodable =>
    refine (shown_of_not_accepts isLocal asks fun query accepts => ?_).2.1 undecodable
    exact (fit_of_accepts accepts).1 undecodable
  case unquotable =>
    refine (shown_of_not_accepts isLocal asks fun query accepts => ?_).2.2.2 unquotable
    exact unquotable (fit_of_accepts accepts).2
  case forgotten =>
    rw [cache_serve_eq_after isLocal, steps_of_reset resets]
    rfl

/-- A candidate is forgotten, and another one is submitted afterwards. -/
theorem queries_follow_requests_forgotten :
    let world : World := ⟨fun _ => .failed, fun _ => ""⟩
    let json : List (String × String) := [("Content-Type", "application/json")]
    let target : Net.Target := ⟨"/queries".toList, []⟩
    let about := fun path query => (⟨"GET", ⟨path, [("query", query)]⟩, [], []⟩ : Request)
    let sum : Request := ⟨"POST", target, json, Text.utf8 "\x7b\"query\": \"1+1\"\x7d"⟩
    let power : Request := ⟨"POST", target, json, Text.utf8 "\x7b\"query\": \"2^0.5\"\x7d"⟩
    let requests := [sum, ⟨"DELETE", target, [], []⟩, power]
    let shown := fun r => (serve .standard world (after .standard world .start requests) r).1.shown
    (shown (about "/queries".toList "1+1")).status = 404 ∧
    (shown (about "/queries".toList "2^0.5")).body =
      (serve .standard world (after .standard world .start (requests.take 2)) power).1.shown.body ∧
    (shown ⟨"POST", target, [], []⟩).status = 422 ∧
    (shown ⟨"POST", target, [], [0xFF]⟩).status = 500 ∧
    Agree (Settings.standard.calculator.evaluate (.str "2^0.5")) (shown power)
      (shown (about "/evaluate".toList "2^0.5")) (shown (about "/calc".toList "2^0.5"))
      (shown (about "/calc/candidate".toList "2^0.5")) := by
  intro world json target about sum power requests shown
  have follows := queries_follow_requests .standard (by decide) world requests
  have holds : Holds power "2^0.5" := (held?_eq_some.1 (by decide +kernel)).1
  refine ⟨?_, ?_, ?_, ?_, ?_⟩
  · have unknown : ¬PostedSinceReset requests "1+1" := by
      rw [← mem_candidates_iff_posted]
      decide +kernel
    exact (follows.unknown (about "/queries".toList "1+1") "1+1" ⟨by decide +kernel, by decide⟩
      unknown).1
  · have accepts : Accepts power "2^0.5" := ⟨by decide +kernel, holds, by decide +kernel⟩
    exact (follows.posted _ "2^0.5" ⟨by decide +kernel, by decide⟩ (requests.take 2) power [] rfl
      accepts (by simp)).2
  · -- Nothing is announced as JSON.
    have rejected : ∀ query, ¬Accepts ⟨"POST", target, [], []⟩ query :=
      fun _ accepts => Bool.false_ne_true accepts.2.1.1
    have decodable : ¬Undecodable ⟨"POST", target, [], []⟩ := fun broken =>
      Bool.false_ne_true broken.1
    have quotable : Quotable ⟨"POST", target, [], []⟩ := by
      rintro content read
      cases read
      rfl
    exact follows.unfit _ (by decide +kernel) rejected decodable quotable
  · have unquotable : ¬Quotable ⟨"POST", target, [], [0xFF]⟩ := fun quotable =>
      absurd (quotable _ rfl) (by decide +kernel)
    exact follows.unquotable _ (by decide +kernel) unquotable
  · exact follows.agree _ _ _ _ _ (by decide +kernel) holds ⟨by decide +kernel, by decide⟩
      ⟨by decide +kernel, by decide⟩ ⟨by decide +kernel, by decide⟩

/-- A body whose bytes are no text is refused as such, whatever it might have held. -/
theorem undecodable_body_refused :
    let post : Request := ⟨"POST", ⟨"/queries".toList, []⟩,
      [("Content-Type", "application/json")], Text.utf8 "\x7b\x00\x7d\x00x"⟩
    Text.lower Settings.standard.calculatorMode ≠ "http" ∧ Asks .submitQuery post ∧
      (∀ query, ¬Accepts post query) ∧
      (serve .standard ⟨fun _ => .failed, fun _ => ""⟩ .start post).1.shown.status = 400 := by
  intro post
  have layout : Text.bodyChars? Text.replacementMark post.body = none := by decide +kernel
  refine ⟨by decide, by decide +kernel, ?_, by decide +kernel⟩
  rintro query ⟨_, ⟨_, _, members, value, _⟩, _⟩
  simp [Json.ofBytes?, Json.readBytes?, layout] at value

end Reckoner.Service
