import Mathlib.Data.List.DropRight
import Reckoner.Proofs.Envelope.Parts
import Reckoner.Proofs.Evaluation.Outcomes
import Reckoner.Proofs.Remote.Outcomes
import Reckoner.Proofs.Service.Queries

/-!
# Remote and local evaluation agree

A client that is answered by the service gives the envelopes of the local calculator,
`Remote.Client.evaluate_eq_local`:

* what it answers by itself, the calculator answers likewise,
* what it asks for is trimmed already, and trimming it once more changes nothing,
  `Calculator.evaluate_trim`,
* the value that is reported can be written, `Calculator.writable_result`, and an envelope whose
  value can be written is received as it is, `Remote.receive_envelope`.
-/

namespace Reckoner

open Text (trim)
open Text.Digits (ofNat maxRun)

-- Powers are those of the core library, whatever else is in scope.
attribute [local instance (high)] instPowNat

/-! ## Trimming -/

namespace Text

/-- What is left of a text begins as the text does without its leading characters. -/
theorem dropWhile_stripEnds (p : Char → Bool) (text : List Char) :
    (stripEnds p text).dropWhile p = stripEnds p text := by
  obtain ⟨behind, whole⟩ : stripEnds p text <+: text.dropWhile p := List.rdropWhile_prefix p _
  have kept := List.dropWhile_idempotent p text
  rw [← whole] at kept
  cases front : stripEnds p text with
  | nil => rfl
  | cons c others =>
    rw [front, List.dropWhile_eq_self_iff] at kept
    have visible : ¬p c := kept (by simp)
    exact List.dropWhile_cons_of_neg visible

theorem trim_trim (text : List Char) : trim (trim text) = trim text := by
  have stripped (text : List Char) : trim text = (text.dropWhile isBlank).rdropWhile isBlank := rfl
  calc trim (trim text)
    _ = ((trim text).dropWhile isBlank).rdropWhile isBlank := stripped _
    _ = (trim text).rdropWhile isBlank := by rw [trim, dropWhile_stripEnds]
    _ = trim text := by rw [stripped, List.rdropWhile_idempotent]

end Text

namespace Calculator

/-- What is evaluated may be trimmed before. -/
theorem evaluate_trim (c : Calculator) {text : String} (visible : trim text.toList ≠ []) :
    c.evaluate (.str (String.ofList (trim text.toList))) = c.evaluate (.str text) := by
  have nonempty : text ≠ "" := by
    rintro rfl
    exact visible rfl
  have nonempty' : String.ofList (trim text.toList) ≠ "" := by simpa using visible
  simp [evaluate, run, evaluateWith, tryEvaluateWith, nonempty, nonempty', Text.trim_trim]

theorem evaluate_of_blank (c : Calculator) {text : String} (nonempty : text ≠ "")
    (blank : trim text.toList = []) : c.evaluate (.str text) = .fail .emptyInput :=
  evaluateWith_of_stopped .own nonempty (by rw [blank]; rfl)

/-! ## Results as data -/

/-- The value that is reported can be written. -/
theorem writable_result {c : Calculator} {input : Json} {value : Value}
    (reported : (c.evaluate input).result? = some value) : value.toJson.Writable := by
  obtain ⟨detail, success⟩ : ∃ detail, c.evaluate input = .success value detail := by
    cases envelope : c.evaluate input with
    | success value' detail =>
      rw [envelope] at reported
      cases reported
      exact ⟨detail, rfl⟩
    | failure kind detail =>
      rw [envelope] at reported
      cases reported
  cases value with
  | text s => exact .str s
  | float x =>
    obtain ⟨bounded, _⟩ := evaluate_eq_success success
    exact .float (by simpa [Value.isUnbounded] using bounded)
  | integer z =>
    -- A safe integer has few digits; only the digits of a text can be many.
    have safe : z.natAbs ≤ maxSafeInteger := of_decide_eq_true (isSafe_of_evaluate success)
    have small : maxSafeInteger < 10 ^ 16 := by decide
    have digits : (ofNat z.natAbs).length ≤ 16 :=
      (Text.Digits.length_ofNat_le_iff (by decide)).2 (by omega)
    exact .int (digits.trans (by decide))

end Calculator

/-! ## Replies -/

namespace Remote

/-- An envelope that is answered is received as it is. -/
theorem receive_envelope {e : Envelope}
    (writable : ∀ value, e.result? = some value → value.toJson.Writable) :
    receive 200 (Text.utf8 (e.toJson.render .compact)) = .ok e := by
  have written : e.toJson.Writable := Envelope.writable_toJson writable
  have read : Json.ofBytes? (Text.utf8 (e.toJson.render .compact)) = .ok e.toJson :=
    Json.ofBytes?_render written
  have unmarked : Json.Unmarked envelope? (Text.utf8 (e.toJson.render .compact)) :=
    Json.unmarked_render envelope? written
  simp [receive_ok, read, unmarked, envelope?, Envelope.ofJson?_toJson, Except.toOption]

/-- What comes back for a request is what a service replies that is asked about its query. -/
def AnsweredBy (s : Settings) (network : Network) (request : Request) : Prop :=
  ∃ world state r body, Service.AsksAbout .evaluate request.query r ∧
    (Service.serve s world state r).1.shown.body = .data body ∧
    Transport.ofNetwork network request =
      .ok ((Service.serve s world state r).1.shown.status, Text.utf8 (body.render .compact))

namespace Client

variable {client : Client} {network : Network} {s : Settings} {input : Json}

theorem outcome_of_answeredBy {text : String} (visible : trim text.toList ≠ [])
    (answered : AnsweredBy s network (client.requestOf text)) :
    (client.evaluate network (.str text)).outcome = .ok (s.calculator.evaluate (.str text)) := by
  obtain ⟨world, state, r, body, asks, shown, reply⟩ := answered
  obtain ⟨status, data⟩ := @Service.shown_of_evaluate s world state r _ asks
  cases shown.symm.trans data
  rw [status] at reply
  have received := transfer_of_received visible reply
  rw [receive_envelope fun _ => Calculator.writable_result] at received
  simp [evaluate, received, requestOf, Except.mapError, Calculator.evaluate_trim _ visible]

/-- What is answered without a request is what any calculator says. -/
theorem request?_of_blank (client : Client) (calculator : Calculator)
    (blank : ∀ text, input = .str text → trim text.toList = []) :
    client.request? input = .error (calculator.evaluate input) := by
  cases input with
  | str text =>
    have blank := blank text rfl
    by_cases empty : text = ""
    · subst empty
      rfl
    · rw [calculator.evaluate_of_blank empty blank]
      simp [request?, empty, blank]
  | null | bool _ | int _ | float _ | arr _ | obj _ => rfl

/-- A client of the service gives the envelopes of the local calculator. It sends one request for a
text that is not blank, and none for other input. -/
theorem evaluate_eq_local (client : Client) (network : Network) (s : Settings) (input : Json)
    (answered : ∀ request ∈ (client.evaluate network input).sent, AnsweredBy s network request) :
    (client.evaluate network input).outcome =
        .ok ((Calculator.ofLimit (some s.maxExpressionLength)).evaluate input) ∧
      ((∀ text, input = .str text → trim text.toList = []) →
        (client.evaluate network input).sent = []) ∧
      (∀ text, input = .str text → trim text.toList ≠ [] →
        (client.evaluate network input).sent =
          [⟨client.address, String.ofList (trim text.toList)⟩]) := by
  by_cases visible : ∃ text, input = .str text ∧ trim text.toList ≠ []
  · obtain ⟨text, rfl, visible⟩ := visible
    have sent : (client.evaluate network (.str text)).sent = [client.requestOf text] := by
      simp [evaluate, transfer_of_request (request?_of_text visible)]
    rw [sent] at answered ⊢
    refine ⟨outcome_of_answeredBy visible (answered _ (List.mem_singleton_self _)),
      fun blank => absurd (blank text rfl) visible, fun _ same _ => ?_⟩
    cases same
    rfl
  · have blank : ∀ text, input = .str text → trim text.toList = [] := by simpa using visible
    have exchange : client.evaluate network input = ⟨[], .ok (s.calculator.evaluate input)⟩ := by
      simp [evaluate, transfer, request?_of_blank client s.calculator blank, Except.mapError]
    rw [exchange]
    exact ⟨rfl, fun _ => rfl, fun text same visible => absurd (blank text same) visible⟩

/-- A quotient comes back from the service as the number that it is. -/
theorem evaluate_eq_local_quotient :
    let world : Service.World := ⟨fun _ => .failed, fun _ => ""⟩
    let about := fun query => (⟨"GET", ⟨"/evaluate".toList, [("query", query)]⟩, [], []⟩ :
      Net.Request)
    let network : Network := fun request =>
      match (Service.serve .standard world .start (about request.query)).1.shown.body with
      | .data body => .answered 200 (body.render .compact)
      | _ => .failed
    let client : Client := ⟨"http://localhost:8000", .ofInt 5⟩
    (∀ request ∈ (client.evaluate network (.str " 6 / 2.5 ")).sent,
      AnsweredBy .standard network request) ∧
    (client.evaluate network (.str " 6 / 2.5 ")).outcome =
      .ok (.ok (.float (.ofDecimal false 24 (-1)))) := by
  intro world about network client
  have asks : Service.AsksAbout .evaluate "6 / 2.5" (about "6 / 2.5") :=
    ⟨by decide +kernel, by decide⟩
  obtain ⟨status, shown⟩ := @Service.shown_of_evaluate .standard world .start _ _ asks
  have trimmed : client.requestOf " 6 / 2.5 " = ⟨client.address, "6 / 2.5"⟩ := by decide +kernel
  have visible : trim " 6 / 2.5 ".toList ≠ [] := by decide
  have reachable : Net.canBeAsked client.address.toList [("query", "6 / 2.5")] = true := by
    decide +kernel
  have answered : ∀ request ∈ (client.evaluate network (.str " 6 / 2.5 ")).sent,
      AnsweredBy .standard network request := by
    simp only [evaluate, transfer_of_request (request?_of_text visible), trimmed,
      List.mem_singleton, forall_eq]
    refine ⟨world, .start, about "6 / 2.5", _, asks, shown, ?_⟩
    simp only [Transport.ofNetwork, reachable, if_true, status, network, shown]
  refine ⟨answered, (evaluate_eq_local client network .standard _ answered).1.trans ?_⟩
  exact congrArg Except.ok (by decide +kernel)

end Client

end Remote

end Reckoner
