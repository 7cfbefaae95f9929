import Reckoner.Proofs.Json.RoundTrip

/-!
# Values that are read

Not every value comes from a text: `IsRead` tells which do, and every value that is read is such a
one, `isRead_of_ofString?`. An integer that is read has few enough digits to be written, and an
object that is read has its last member for each name and no other one. So a value that is read is
`Writable` if its numbers are finite, `IsRead.writable`.

A reader that reads on behind the first item or member keeps what is known of those that were read
before. So the inductions are on its recursion, with what it has read so far in the statement.
-/

namespace Reckoner.Json

open Text.Digits (ofNat maxRun)

-- Powers are those of the core library, whatever else is in scope.
attribute [local instance (high)] instPowNat

/-- A value as it comes from a text. -/
inductive IsRead : Json → Prop where
  | null : IsRead .null
  | bool (b : Bool) : IsRead (.bool b)
  | int {z : Int} (short : (ofNat z.natAbs).length ≤ maxRun) : IsRead (.int z)
  | float (x : Binary64) : IsRead (.float x)
  | str (s : String) : IsRead (.str s)
  | arr {js : List Json} (each : ∀ j ∈ js, IsRead j) : IsRead (.arr js)
  | obj {ms : List (String × Json)} (distinct : (ms.map Prod.fst).Nodup)
    (each : ∀ j ∈ ms.map Prod.snd, IsRead j) : IsRead (.obj ms)

/-! ## Finite values -/

theorem areFinite_iff {js : List Json} :
    areFinite js = true ↔ ∀ j ∈ js, j.isFinite = true := by
  induction js with
  | nil => simp [areFinite]
  | cons j js ih => simp [areFinite, ih]

theorem membersAreFinite_iff {ms : List (String × Json)} :
    membersAreFinite ms = true ↔ ∀ j ∈ ms.map Prod.snd, j.isFinite = true := by
  induction ms with
  | nil => simp [membersAreFinite]
  | cons m ms ih =>
    rw [membersAreFinite, Bool.and_eq_true, ih, List.map_cons, List.forall_mem_cons]

/-- What is read can be written if all its numbers are finite. -/
theorem IsRead.writable {j : Json} (read : IsRead j) (finite : j.isFinite = true) :
    Writable j := by
  induction read with
  | null => exact .null
  | bool b => exact .bool b
  | int short => exact .int short
  | float x => exact .float finite
  | str s => exact .str s
  | arr _ ih =>
    rw [isFinite, areFinite_iff] at finite
    exact .arr fun j member => ih j member (finite j member)
  | obj distinct _ ih =>
    rw [isFinite, membersAreFinite_iff] at finite
    exact .obj distinct fun j member => ih j member (finite j member)

/-! ## Members -/

theorem isRead_of_lookup? {ms : List (String × Json)} (read : IsRead (.obj ms)) {name : String}
    {j : Json} (found : lookup? name ms = some j) : IsRead j := by
  have member : j ∈ ms.map Prod.snd := by
    clear read
    induction ms with
    | nil => cases found
    | cons m ms ih =>
      rw [lookup?] at found
      split at found
      · cases found
        exact List.mem_cons_self
      · exact List.mem_cons_of_mem _ (ih found)
  cases read with
  | obj _ each => exact each j member

/-- Members of different names, with values that come from a text. -/
def AreRead (ms : List (String × Json)) : Prop :=
  (ms.map Prod.fst).Nodup ∧ ∀ j ∈ ms.map Prod.snd, IsRead j

theorem fst_assign (name : String) (j : Json) (ms : List (String × Json)) :
    (assign name j ms).map Prod.fst =
      if name ∈ ms.map Prod.fst then ms.map Prod.fst else ms.map Prod.fst ++ [name] := by
  induction ms with
  | nil => rfl
  | cons m ms ih =>
    by_cases same : m.1 = name
    · simp [assign, same]
    · have other : ¬name = m.1 := Ne.symm same
      simp only [assign, same, if_false, List.map_cons, ih, List.mem_cons, other, false_or]
      split <;> rfl

theorem mem_snd_of_mem_assign {name : String} {j j' : Json} {ms : List (String × Json)}
    (member : j' ∈ (assign name j ms).map Prod.snd) : j' = j ∨ j' ∈ ms.map Prod.snd := by
  induction ms with
  | nil => simpa [assign] using member
  | cons m ms ih =>
    rw [assign] at member
    split at member
    · rw [List.map_cons, List.mem_cons] at member
      exact member.imp_right (List.mem_cons_of_mem _)
    · rw [List.map_cons, List.mem_cons] at member
      cases member with
      | inl same => exact .inr (same ▸ List.mem_cons_self)
      | inr later => exact (ih later).imp_right (List.mem_cons_of_mem _)

theorem AreRead.assign {ms : List (String × Json)} (read : AreRead ms) (name : String) {j : Json}
    (value : IsRead j) : AreRead (assign name j ms) := by
  constructor
  · rw [fst_assign]
    split
    · exact read.1
    · rename_i new
      exact List.nodup_append.2 ⟨read.1, by simp, fun other member _ single =>
        fun same => new (List.mem_singleton.1 single ▸ same ▸ member)⟩
  · intro j' member
    cases mem_snd_of_mem_assign member with
    | inl same => exact same ▸ value
    | inr before => exact read.2 j' before

theorem AreRead.single (name : String) {j : Json} (value : IsRead j) : AreRead [(name, j)] :=
  ⟨List.nodup_singleton name, fun _ member => List.mem_singleton.1 member ▸ value⟩

/-! ## Readers -/

/-- What is read has a property. -/
def Gives {α : Type} {text : List Char} (p : α → Prop) (reading : Reading α text) : Prop :=
  ∀ a rest, reading = .ok (a, rest) → p a

theorem isRead_of_numberValue {n : DecimalText} {j : Json} (value : numberValue n = .ok j) :
    IsRead j := by
  unfold numberValue at value
  split at value
  · split at value
    · cases value
    · rename_i short
      cases value
      refine .int ?_
      have bound := Text.Digits.value_lt n.whole
      have small : (10 : Nat) ^ n.whole.length ≤ 10 ^ maxRun :=
        Nat.pow_le_pow_right (by decide) (Nat.not_lt.1 short)
      rw [Text.Digits.length_ofNat_le_iff (by decide)]
      split <;> simp <;> omega
  · cases value
    exact .float _

theorem isRead_of_named {j : Json} (known : j ∈ named) : IsRead j := by
  simp only [named, List.mem_cons, List.not_mem_nil, or_false] at known
  rcases known with rfl | rfl | rfl | rfl | rfl | rfl
  · exact .null
  · exact .bool true
  · exact .bool false
  · exact .float _
  · exact .float _
  · exact .float _

theorem gives_scalar (text : List Char) : Gives IsRead (scalar text) := by
  intro j rest read
  cases scalar_eq_ok read with
  | inl known => exact isRead_of_named known
  | inr number =>
    obtain ⟨n, _, value⟩ := number
    exact isRead_of_numberValue value

variable {mark : Char} {item : Reader}

theorem gives_items (each : ∀ text, Gives IsRead (item text)) (read : List Json)
    (before : ∀ j ∈ read, IsRead j) (text : List Char) :
    Gives (fun js => ∀ j ∈ js, IsRead j) (items item read text) := by
  intro js rest given
  fun_induction items item read text with
  | case1 =>
    cases given
    simpa using before
  | case2 | case3 | case5 => cases given
  | case4 _ _ _ _ _ _ _ front _ _ _ _ _ later ih =>
    cases given
    exact ih (List.forall_mem_cons.2 ⟨each _ _ _ front, before⟩) _ later

theorem gives_array (each : ∀ text, Gives IsRead (item text)) (text : List Char) :
    Gives (fun js => ∀ j ∈ js, IsRead j) (array item text) := by
  intro js rest given
  unfold array at given
  split at given
  · cases given
    exact nofun
  · split at given
    · cases given
    · rename_i front
      split at given
      · cases given
      · rename_i later
        cases given
        exact gives_items each _ (by simpa using each _ _ _ front) _ _ _ later

theorem gives_member (each : ∀ text, Gives IsRead (item text)) (text : List Char) :
    Gives (fun m => IsRead m.2) (member mark item text) := by
  intro m rest given
  unfold member at given
  split at given
  · split at given
    · cases given
    · split at given
      · split at given
        · cases given
        · rename_i value
          cases given
          exact each _ _ _ value
      · cases given
  · cases given

theorem gives_members (each : ∀ text, Gives IsRead (item text)) (read : List (String × Json))
    (before : AreRead read) (text : List Char) : Gives AreRead (members mark item read text) := by
  intro ms rest given
  fun_induction members mark item read text with
  | case1 =>
    cases given
    exact before
  | case2 | case3 | case5 => cases given
  | case4 _ _ _ _ _ _ _ _ front _ _ _ _ _ later ih =>
    cases given
    exact ih (before.assign _ (gives_member each _ _ _ front)) _ later

theorem gives_object (each : ∀ text, Gives IsRead (item text)) (text : List Char) :
    Gives AreRead (object mark item text) := by
  intro ms rest given
  unfold object at given
  split at given
  · cases given
    exact ⟨List.nodup_nil, nofun⟩
  · split at given
    · cases given
    · rename_i front
      split at given
      · cases given
      · rename_i later
        cases given
        exact gives_members each _ (.single _ (gives_member each _ _ _ front)) _ _ _ later

theorem gives_value (levels : Nat) (text : List Char) : Gives IsRead (value mark levels text) := by
  induction levels generalizing text with
  | zero => exact nofun
  | succ levels ih =>
    intro j rest given
    unfold value at given
    split at given
    · split at given
      · cases given
      · cases given
        exact .str _
    · split at given
      · cases given
      · rename_i read
        cases given
        exact .arr (gives_array ih _ _ _ read)
    · split at given
      · cases given
      · rename_i read
        cases given
        obtain ⟨distinct, values⟩ := gives_object ih _ _ _ read
        exact .obj distinct values
    · exact gives_scalar _ _ _ given

/-! ## Whole texts -/

theorem isRead_of_ofChars? {text : List Char} {j : Json} (read : ofChars? mark text = .ok j) :
    IsRead j := by
  unfold ofChars? at read
  split at read
  · cases read
  · rename_i given
    split at read
    · cases read
      exact gives_value _ _ _ _ given
    · cases read

theorem isRead_of_ofBytes? {body : List UInt8} {j : Json} (read : ofBytes? body = .ok j) :
    IsRead j := by
  unfold ofBytes? readBytes? at read
  split at read
  · cases read
  · split at read
    · cases read
    · rename_i given
      cases read
      exact isRead_of_ofChars? given

theorem isRead_of_ofString? {text : String} {j : Json} (read : ofString? text = .ok j) :
    IsRead j := by
  unfold ofString? at read
  split at read
  · split at read
    · cases read
    · exact isRead_of_ofChars? read
  · exact isRead_of_ofChars? read

end Reckoner.Json
