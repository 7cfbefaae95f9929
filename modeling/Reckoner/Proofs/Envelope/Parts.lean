import Reckoner.Envelope.Reader
import Reckoner.Proofs.Json.RoundTrip

/-!
# Members of envelopes

The four members are read apart from each other, `Parts.ofMembers?_eq_ok_iff`, and an envelope is
accepted if they are those that it has, `ofJson?_eq_ok_iff`. Its own members are such, so it is read
back from its data, `ofJson?_toJson`.
-/

namespace Reckoner

namespace Json

variable {α : Type} {check : Json → Checked α} {name : String} {members : List (String × Json)}

theorem optional_eq_some_iff {a : α} :
    optional check name members = .ok (some a) ↔
      ∃ j, lookup? name members = some j ∧ j ≠ .null ∧ check j = .ok a := by
  have given (j : Json) : (Checked.inside (.member name) (check j)).map some = .ok (some a) ↔
      check j = .ok a := by
    cases check j <;> simp [Checked.inside, Except.map]
  unfold optional
  cases lookup? name members with
  | none => simp
  | some j => cases j <;> simp [given]

end Json

namespace Envelope

theorem Parts.ofMembers?_eq_ok_iff {members : List (String × Json)} {p : Parts} :
    Parts.ofMembers? members = .ok p ↔
      Json.required Json.toTruth "success" members = .ok p.success ∧
      Json.optional Json.toValue "result" members = .ok p.result ∧
      Json.optional Json.toErrorKind "error" members = .ok p.error ∧
      Json.optional Json.toText "detail" members = .ok p.detail := by
  obtain ⟨success, result, error, detail⟩ := p
  unfold Parts.ofMembers?
  cases Json.required Json.toTruth "success" members <;>
    cases Json.optional Json.toValue "result" members <;>
    cases Json.optional Json.toErrorKind "error" members <;>
    cases Json.optional Json.toText "detail" members <;>
    simp [Checked.both, bind, Except.bind, pure, Except.pure]

/-! ## Envelopes -/

theorem ofJson?_eq_ok_iff {j : Json} {e : Envelope} :
    ofJson? j = .ok e ↔
      ∃ members, j = .obj members ∧ Parts.ofMembers? members = .ok e.parts := by
  cases j with
  | obj members =>
    simp only [ofJson?, Json.obj.injEq, exists_eq_left']
    cases Parts.ofMembers? members with
    | error issues => constructor <;> intro read <;> cases read
    | ok parts =>
      show (ofParts? parts).elim (Checked.fail .contradiction) .ok = .ok e ↔ _
      rw [Except.ok.injEq, ← ofParts?_eq_some_iff]
      cases ofParts? parts with
      | none => constructor <;> intro read <;> cases read
      | some e' => simp
  | null | bool _ | int _ | float _ | str _ | arr _ =>
    constructor
    · intro read
      cases read
    · intro read
      obtain ⟨_, other, _⟩ := read
      cases other

/-! ## Envelopes as data -/

theorem writable_toJson {e : Envelope}
    (result : ∀ value, e.result? = some value → value.toJson.Writable) : e.toJson.Writable := by
  have ofText? (text? : Option String) : (Json.ofText? text?).Writable := by
    cases text? with
    | none => exact .null
    | some text => exact .str text
  have names : e.members.map Prod.fst = ["success", "result", "error", "detail"] := rfl
  refine .obj (by rw [names]; decide) fun j member => ?_
  simp only [members, List.map_cons, List.map_nil, List.mem_cons, List.not_mem_nil, or_false]
    at member
  rcases member with rfl | rfl | rfl | rfl
  · exact .bool _
  · cases given : e.result? with
    | none => exact .null
    | some value => exact result value given
  · exact ofText? _
  · exact ofText? _

/-- The parts of an envelope are read back from its members. -/
theorem ofMembers?_members (e : Envelope) : Parts.ofMembers? e.members = .ok e.parts := by
  have success : Json.required Json.toTruth "success" e.members = .ok e.isSuccess := rfl
  have result : Json.optional Json.toValue "result" e.members = .ok e.result? := by
    cases e with
    | success value _ => cases value <;> rfl
    | failure _ _ => rfl
  have error : Json.optional Json.toErrorKind "error" e.members = .ok e.error? := by
    cases e with
    | success _ _ => rfl
    | failure kind detail =>
      have named : Json.optional Json.toErrorKind "error" (failure kind detail).members =
          (Checked.inside (.member "error")
            ((ErrorKind.ofName? kind.name).elim (Checked.fail .notAMember) .ok)).map some := rfl
      rw [named, ErrorKind.ofName?_name]
      rfl
  have detail : Json.optional Json.toText "detail" e.members = .ok e.detail? := by
    rcases e with ⟨_, _ | _⟩ | ⟨_, _ | _⟩ <;> rfl
  rw [Parts.ofMembers?, success, result, error, detail]
  rfl

/-- An envelope is read back from its data. -/
theorem ofJson?_toJson (e : Envelope) : ofJson? e.toJson = .ok e := by
  have whole : ofParts? e.parts = some e := ofParts?_eq_some_iff.2 rfl
  have parts : ofJson? e.toJson = (ofParts? e.parts).elim (Checked.fail .contradiction) .ok := by
    rw [toJson, ofJson?, ofMembers?_members]
    rfl
  rw [parts, whole]
  rfl

end Envelope

end Reckoner
