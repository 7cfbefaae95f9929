import Reckoner.Envelope
import Reckoner.Issue
import Reckoner.Text.Case

/-!
# Reading envelopes

An envelope comes as an object of four members, of which only `success` has to be there. The members
are read first, each by itself and leniently; then they have to fit together: a success has a result
and no error, a failure an error and no result.
-/

namespace Reckoner

open Checked (fail)

-- Powers are those of the core library, whatever else is in scope.
attribute [local instance (high)] instPowNat

/-! ## Lenient members -/

def trueWords : List String := ["true", "t", "yes", "y", "on", "1"]

def falseWords : List String := ["false", "f", "no", "n", "off", "0"]

/-- The truth value of a word, in any case. -/
def truthOfWord? (word : String) : Option Bool :=
  let word := Text.lower word
  if trueWords.contains word then some true
  else if falseWords.contains word then some false
  else none

def truthOfInt? (z : Int) : Option Bool :=
  if z = 0 then some false else if z = 1 then some true else none

/-- The first magnitude that does not count as a small integer. -/
def smallIntegerLimit : Nat := 2 ^ (63 : Nat)

/-- A truth value: itself, one or zero, or a word. A number that is no small integer is no
candidate for one: it fails for what it is and not for what it says. The least integer of sixty-four
bits is still small, a float of that value is not. -/
def Json.toTruth : Json → Checked Bool
  | .bool b => .ok b
  | .str word => (truthOfWord? word).elim (fail .boolParsing) .ok
  | .int z =>
    if -smallIntegerLimit ≤ z ∧ z < smallIntegerLimit then
      (truthOfInt? z).elim (fail .boolParsing) .ok
    else fail .boolType
  | .float x =>
    match x.toInt? with
    | some z =>
      if z.natAbs < smallIntegerLimit then (truthOfInt? z).elim (fail .boolParsing) .ok
      else fail .boolType
    | none => fail .boolType
  | _ => fail .boolType

/-- A value: a number or a text as it is, and one or zero for a truth value. Whatever else there is
fails as each of the three. -/
def Json.toValue : Json → Checked Value
  | .int z => .ok (.integer z)
  | .float x => .ok (.float x)
  | .str s => .ok (.text s)
  | .bool b => .ok (.integer (if b then 1 else 0))
  | _ =>
    .error [⟨.intType, [.member "int"]⟩, ⟨.floatType, [.member "float"]⟩,
      ⟨.stringType, [.member "str"]⟩]

def Json.toErrorKind : Json → Checked ErrorKind
  | .str name => (ErrorKind.ofName? name).elim (fail .notAMember) .ok
  | _ => fail .notAMember

def Json.toText : Json → Checked String
  | .str s => .ok s
  | _ => fail .stringType

def Json.required {α : Type} (check : Json → Checked α) (name : String)
    (members : List (String × Json)) : Checked α :=
  .inside (.member name) ((Json.lookup? name members).elim (fail .missing) check)

/-- A member that may be left out or be null. -/
def Json.optional {α : Type} (check : Json → Checked α) (name : String)
    (members : List (String × Json)) : Checked (Option α) :=
  match Json.lookup? name members with
  | none | some .null => .ok none
  | some j => (Checked.inside (.member name) (check j)).map some

/-! ## Envelopes -/

namespace Envelope

/-- The four members of an envelope, before it is known whether they fit together. -/
structure Parts where
  success : Bool
  result : Option Value
  error : Option ErrorKind
  detail : Option String
  deriving DecidableEq

/-- The envelope of parts that fit together. -/
def ofParts? : Parts → Option Envelope
  | ⟨true, some result, none, detail⟩ => some (.success result detail)
  | ⟨false, none, some error, detail⟩ => some (.failure error detail)
  | _ => none

def parts (e : Envelope) : Parts :=
  ⟨e.isSuccess, e.result?, e.error?, e.detail?⟩

theorem ofParts?_eq_some_iff {p : Parts} {e : Envelope} : ofParts? p = some e ↔ p = e.parts := by
  constructor
  · rcases p with ⟨_ | _, _ | _, _ | _, _⟩ <;> simp only [ofParts?] <;> intro h <;> cases h <;> rfl
  · rintro rfl
    cases e <;> rfl

def Parts.ofMembers? (members : List (String × Json)) : Checked Parts := do
  let ((success, result), (error, detail)) ←
    Checked.both
      (.both (Json.required Json.toTruth "success" members)
        (Json.optional Json.toValue "result" members))
      (.both (Json.optional Json.toErrorKind "error" members)
        (Json.optional Json.toText "detail" members))
  return ⟨success, result, error, detail⟩

def ofJson? : Json → Checked Envelope
  | .obj members => do
    let parts ← Parts.ofMembers? members
    (ofParts? parts).elim (Checked.fail .contradiction) .ok
  | _ => Checked.fail .objectType

end Envelope

end Reckoner
