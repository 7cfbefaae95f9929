import Reckoner.Console.Session
import Reckoner.Proofs.Envelope.Parts
import Reckoner.Proofs.Json.Read

/-!
# Envelopes are read back

What is accepted as an envelope is an object whose members are in order and fit together, and the
envelope it is accepted as has them for its parts, `ofJson?_eq_ok_iff`. Members that are in order
but do not fit together are one issue, with the whole, `ofJson?_of_not_fit`; a member that is not in
order is an issue with that member, `exists_member_of_issue`.

An envelope is accepted as itself once more from its own data, `ofJson?_toJson`, and from the text
of its data if that can be written. This is so for each envelope that was read from a text and
has no unbounded value, `writable_of_accepted`: such a text has no integer with too many digits.
-/

namespace Reckoner

namespace Json

/-- A truth value counts as a small integer; any other value is kept. -/
theorem IsRead.toJson_of_toValue {j : Json} (read : IsRead j) {value : Value}
    (given : j.toValue = .ok value) : value.toJson.IsRead := by
  cases read with
  | int short =>
    cases given
    exact .int short
  | float x =>
    cases given
    exact .float x
  | str s =>
    cases given
    exact .str s
  | bool b =>
    cases given
    cases b <;> exact .int (by decide +kernel)
  | null | arr _ | obj _ _ => cases given

end Json

namespace Envelope

open Json (IsRead)

/-! ## Members that fit together -/

/-- Either there is a result and no error, for a success, or an error and no result, for a
failure. -/
def Parts.Fit (p : Parts) : Prop :=
  p.result.isSome = p.success ∧ p.error.isSome = !p.success

instance : DecidablePred Parts.Fit :=
  fun _ => inferInstanceAs (Decidable (_ ∧ _))

theorem fit_parts (e : Envelope) : e.parts.Fit := by
  cases e <;> exact ⟨rfl, rfl⟩

theorem exists_parts_eq {p : Parts} (fit : p.Fit) : ∃ e : Envelope, e.parts = p := by
  obtain ⟨_ | _, _ | value, _ | kind, detail⟩ := p <;> simp [Parts.Fit] at fit
  · exact ⟨.failure kind detail, rfl⟩
  · exact ⟨.success value detail, rfl⟩

theorem ofJson?_of_members {members : List (String × Json)} {p : Parts}
    (given : Parts.ofMembers? members = .ok p) :
    ofJson? (.obj members) = (ofParts? p).elim (Checked.fail .contradiction) .ok := by
  rw [ofJson?, given]
  rfl

theorem ofJson?_of_not_fit {members : List (String × Json)} {p : Parts}
    (given : Parts.ofMembers? members = .ok p) (clash : ¬p.Fit) :
    ofJson? (.obj members) = .error [⟨.contradiction, []⟩] := by
  have none : ofParts? p = none := by
    cases found : ofParts? p with
    | none => rfl
    | some e => exact absurd (ofParts?_eq_some_iff.1 found ▸ fit_parts e) clash
  rw [ofJson?_of_members given, none]
  rfl

/-! ## Members that are not in order -/

/-- Every issue is with one of some members. -/
def IsAbout {α : Type} (names : List String) (checked : Checked α) : Prop :=
  ∀ issues, checked = .error issues →
    ∀ issue ∈ issues, ∃ name ∈ names, issue.path.head? = some (.member name)

variable {α β : Type} {names : List String} {name : String}

theorem isAbout_inside (known : name ∈ names) (checked : Checked α) :
    IsAbout names (.inside (.member name) checked) := by
  intro issues failed issue member
  cases checked with
  | ok a => cases failed
  | error inner =>
    cases failed
    obtain ⟨original, _, same⟩ := List.mem_map.1 member
    exact ⟨name, known, by rw [← same]; rfl⟩

theorem IsAbout.map {checked : Checked α} (about : IsAbout names checked) (f : α → β) :
    IsAbout names (checked.map f) := by
  cases checked with
  | ok a => exact nofun
  | error issues =>
    intro issues' failed
    cases failed
    exact about issues rfl

theorem IsAbout.both {a : Checked α} {b : Checked β} (first : IsAbout names a)
    (second : IsAbout names b) : IsAbout names (.both a b) := by
  intro issues failed issue member
  cases a <;> cases b <;> cases failed
  · cases List.mem_append.1 member with
    | inl member => exact first _ rfl issue member
    | inr member => exact second _ rfl issue member
  · exact first _ rfl issue member
  · exact second _ rfl issue member

theorem isAbout_optional (known : name ∈ names) (check : Json → Checked α)
    (members : List (String × Json)) : IsAbout names (Json.optional check name members) := by
  unfold Json.optional
  split
  · exact nofun
  · exact nofun
  · exact (isAbout_inside known _).map some

def memberNames : List String := ["success", "result", "error", "detail"]

/-- A member that is not in order is an issue with that member. -/
theorem exists_member_of_issue (members : List (String × Json)) :
    IsAbout memberNames (Parts.ofMembers? members) := by
  have success : IsAbout memberNames (Json.required Json.toTruth "success" members) :=
    isAbout_inside (by decide) _
  have result : IsAbout memberNames (Json.optional Json.toValue "result" members) :=
    isAbout_optional (by decide) _ _
  have error : IsAbout memberNames (Json.optional Json.toErrorKind "error" members) :=
    isAbout_optional (by decide) _ _
  have detail : IsAbout memberNames (Json.optional Json.toText "detail" members) :=
    isAbout_optional (by decide) _ _
  have all := (success.both result).both (error.both detail)
  exact all.map fun given => (⟨given.1.1, given.1.2, given.2.1, given.2.2⟩ : Parts)

/-! ## Texts -/

theorem isRead_of_accepted {payload : Json} {e : Envelope} (read : payload.IsRead)
    (accepted : ofJson? payload = .ok e) {value : Value} (result : e.result? = some value) :
    value.toJson.IsRead := by
  obtain ⟨members, rfl, parts⟩ := ofJson?_eq_ok_iff.1 accepted
  obtain ⟨_, given, _, _⟩ := Parts.ofMembers?_eq_ok_iff.1 parts
  rw [show e.parts.result = some value from result, Json.optional_eq_some_iff] at given
  obtain ⟨j, found, _, given⟩ := given
  exact (Json.isRead_of_lookup? read found).toJson_of_toValue given

/-- What is accepted from a text can be written unless its value is unbounded. -/
theorem writable_of_accepted {payload : Json} {e : Envelope} (read : payload.IsRead)
    (accepted : ofJson? payload = .ok e)
    (bounded : ∀ x, e.result? = some (.float x) → x.isFinite = true) : e.toJson.Writable := by
  apply writable_toJson
  intro value result
  apply (isRead_of_accepted read accepted result).writable
  cases value with
  | float x => exact bounded x result
  | integer _ | text _ => rfl

theorem ofString?_report {e : Envelope} (writable : e.toJson.Writable) :
    Json.ofString? (e.report true) = .ok e.toJson :=
  Json.ofString?_render Json.Style.readable_spaced writable

/-! ## Main result -/

/-- Data is accepted as an envelope if it is an object whose members are in order and fit together.
Then the envelope has these members, and it is a success if and only if it has a result, has no
error, and has no message. It is accepted again, as itself, from its own data, and from the text of
its data if it comes from a text and its value is not unbounded. Members that are in order and do
not fit together are a single issue with the whole. -/
theorem accepted_iff_fit :
    (∀ payload e, ofJson? payload = .ok e →
      (∃ members, payload = .obj members ∧
        Json.required Json.toTruth "success" members = .ok e.isSuccess ∧
        Json.optional Json.toValue "result" members = .ok e.result? ∧
        Json.optional Json.toErrorKind "error" members = .ok e.error? ∧
        Json.optional Json.toText "detail" members = .ok e.detail?) ∧
      (e.isSuccess = true ↔ e.result?.isSome = true) ∧
      (e.isSuccess = true ↔ e.error? = none) ∧ (e.isSuccess = true ↔ e.message? = none) ∧
      ofJson? e.toJson = .ok e) ∧
    (∀ text payload e, Json.ofString? text = .ok payload → ofJson? payload = .ok e →
      (∀ x, e.result? = some (.float x) → x.isFinite = true) →
      Json.ofString? (e.report true) = .ok e.toJson) ∧
    ∀ members p, Parts.ofMembers? members = .ok p →
      (p.Fit → ∃ e : Envelope, ofJson? (.obj members) = .ok e ∧ e.parts = p) ∧
      (¬p.Fit → ofJson? (.obj members) = .error [⟨.contradiction, []⟩]) := by
  refine ⟨?_, ?_, ?_⟩
  · intro payload e accepted
    obtain ⟨members, same, parts⟩ := ofJson?_eq_ok_iff.1 accepted
    refine ⟨⟨members, same, Parts.ofMembers?_eq_ok_iff.1 parts⟩, ?_, ?_, ?_, ofJson?_toJson e⟩
    all_goals cases e <;> simp [isSuccess, result?, error?, message?]
  · intro text payload e read accepted bounded
    exact ofString?_report
      (writable_of_accepted (Json.isRead_of_ofString? read) accepted bounded)
  · intro members p given
    refine ⟨fun fit => ?_, ofJson?_of_not_fit given⟩
    obtain ⟨e, rfl⟩ := exists_parts_eq fit
    exact ⟨e, ofJson?_eq_ok_iff.2 ⟨members, rfl, given⟩, rfl⟩

theorem ofJson?_of_text {text : String} {e : Envelope}
    (accepted : ((Json.ofString? text).toOption.bind fun j => (ofJson? j).toOption) = some e) :
    ∃ payload, Json.ofString? text = .ok payload ∧ ofJson? payload = .ok e := by
  cases read : Json.ofString? text with
  | error stop =>
    rw [read] at accepted
    cases accepted
  | ok payload =>
    rw [read] at accepted
    refine ⟨payload, rfl, ?_⟩
    cases given : ofJson? payload with
    | error issues => simp [Except.toOption, given] at accepted
    | ok e' => simpa [Except.toOption, given] using accepted

/-- A word for yes and a truth value for the result; and a result beside an error. -/
theorem accepted_iff_fit_words :
    (∃ payload, Json.ofString? "\x7b\"success\": \"Yes\", \"result\": true\x7d" = .ok payload ∧
      ofJson? payload = .ok (.success (.integer 1) none) ∧
      ofJson? (Envelope.success (.integer 1) none).toJson = .ok (.success (.integer 1) none) ∧
      Json.ofString? ((Envelope.success (.integer 1) none).report true) =
        .ok (Envelope.success (.integer 1) none).toJson) ∧
    (Parts.ofMembers? [("success", .int 1), ("result", .str "2"), ("error", .str "EmptyInput")] =
        .ok ⟨true, some (.text "2"), some .emptyInput, none⟩ ∧
      ¬Parts.Fit ⟨true, some (.text "2"), some .emptyInput, none⟩ ∧
      ofJson? (.obj
          [("success", .int 1), ("result", .str "2"), ("error", .str "EmptyInput")]) =
        .error [⟨.contradiction, []⟩]) ∧
    (Parts.ofMembers? [("success", .str "off"), ("error", .str "EmptyInput")] =
        .ok ⟨false, none, some .emptyInput, none⟩ ∧
      Parts.Fit ⟨false, none, some .emptyInput, none⟩ ∧
      ∃ e : Envelope, ofJson? (.obj [("success", .str "off"), ("error", .str "EmptyInput")]) =
        .ok e ∧ e.parts = ⟨false, none, some .emptyInput, none⟩) := by
  obtain ⟨accepted, written, fits⟩ := accepted_iff_fit
  refine ⟨?_, ?_, ?_⟩
  · obtain ⟨payload, read, given⟩ := @ofJson?_of_text
      "\x7b\"success\": \"Yes\", \"result\": true\x7d" (.success (.integer 1) none)
      (by decide +kernel)
    obtain ⟨_, _, _, _, again⟩ := accepted payload _ given
    have bounded (x : Binary64) (same : some (Value.integer 1) = some (.float x)) :
        x.isFinite = true := by cases same
    exact ⟨payload, read, given, again, written _ payload _ read given bounded⟩
  · have given : Parts.ofMembers?
        [("success", .int 1), ("result", .str "2"), ("error", .str "EmptyInput")] =
        .ok ⟨true, some (.text "2"), some .emptyInput, none⟩ := by decide +kernel
    have clash : ¬Parts.Fit ⟨true, some (.text "2"), some .emptyInput, none⟩ := by decide
    exact ⟨given, clash, (fits _ _ given).2 clash⟩
  · have given : Parts.ofMembers? [("success", .str "off"), ("error", .str "EmptyInput")] =
        .ok ⟨false, none, some .emptyInput, none⟩ := by decide +kernel
    have fit : Parts.Fit ⟨false, none, some .emptyInput, none⟩ := by decide
    exact ⟨given, fit, (fits _ _ given).1 fit⟩

end Envelope

end Reckoner
