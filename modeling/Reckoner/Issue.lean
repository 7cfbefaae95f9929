import Reckoner.Json.Basic

/-!
# Issues

What can be wrong with data that comes from outside, and where. `Checked` is a piece of data, or the
issues that were found in it; `Checked.both` keeps the issues of two pieces, in order, so that
everything that is wrong is reported at once.
-/

namespace Reckoner

inductive IssueKind where
  | missing
  | boolType
  | boolParsing
  | intType
  | intParsing
  | intParsingSize
  | floatType
  | floatParsing
  | stringType
  | stringTooShort
  /-- A text has a half of a pair by itself. -/
  | stringUnicode
  | listType
  | objectType
  | attributesType
  | notAMember
  | notJson
  | tooSmall
  /-- The parts are in order by themselves and contradict each other. -/
  | contradiction
  deriving DecidableEq, Repr

def IssueKind.code : IssueKind → String
  | missing => "missing"
  | boolType => "bool_type"
  | boolParsing => "bool_parsing"
  | intType => "int_type"
  | intParsing => "int_parsing"
  | intParsingSize => "int_parsing_size"
  | floatType => "float_type"
  | floatParsing => "float_parsing"
  | stringType => "string_type"
  | stringTooShort => "string_too_short"
  | stringUnicode => "string_unicode"
  | listType => "list_type"
  | objectType => "model_type"
  | attributesType => "model_attributes_type"
  | notAMember => "enum"
  | notJson => "json_invalid"
  | tooSmall => "greater_than"
  | contradiction => "value_error"

/-- One step on the way to a piece of data. -/
inductive Place where
  | member (name : String)
  | index (n : Nat)
  deriving DecidableEq, Repr

structure Issue where
  kind : IssueKind
  path : List Place
  deriving DecidableEq, Repr

/-- A piece of data, or what is wrong with it. -/
abbrev Checked (α : Type) := Except (List Issue) α

namespace Checked

variable {α β : Type}

def fail (kind : IssueKind) : Checked α :=
  .error [⟨kind, []⟩]

/-- Places a piece inside another. -/
def inside (place : Place) : Checked α → Checked α
  | .ok a => .ok a
  | .error issues => .error (issues.map fun issue => ⟨issue.kind, place :: issue.path⟩)

/-- Two pieces, with the issues of both. -/
def both : Checked α → Checked β → Checked (α × β)
  | .ok a, .ok b => .ok (a, b)
  | .ok _, .error issues => .error issues
  | .error issues, .ok _ => .error issues
  | .error issues, .error others => .error (issues ++ others)

@[simp] theorem both_eq_ok {a : Checked α} {b : Checked β} {x : α} {y : β} :
    both a b = .ok (x, y) ↔ a = .ok x ∧ b = .ok y := by
  cases a <;> cases b <;> simp [both]

@[simp] theorem inside_eq_ok {place : Place} {a : Checked α} {x : α} :
    inside place a = .ok x ↔ a = .ok x := by
  cases a <;> simp [inside]

/-- Checks the items of a list from a place on, with the issues of all of them. -/
def eachFrom (check : α → Checked β) (n : Nat) : List α → Checked (List β)
  | [] => .ok []
  | a :: as =>
    match both (inside (.index n) (check a)) (eachFrom check (n + 1) as) with
    | .ok (b, bs) => .ok (b :: bs)
    | .error issues => .error issues

def each (check : α → Checked β) (as : List α) : Checked (List β) :=
  eachFrom check 0 as

end Checked

end Reckoner
