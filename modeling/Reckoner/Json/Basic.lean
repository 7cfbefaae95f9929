import Reckoner.Binary64.Basic

/-!
# JSON values

Numbers keep the kind of their spelling: an integer of any size, or a floating-point number. An
object keeps its members in the order in which their names were first given.
-/

namespace Reckoner

inductive Json where
  | null
  | bool (b : Bool)
  | int (z : Int)
  | float (x : Binary64)
  | str (s : String)
  | arr (items : List Json)
  | obj (members : List (String × Json))

namespace Json

/-- Sets a member. One that is already there keeps its place. -/
def assign (name : String) (value : Json) : List (String × Json) → List (String × Json)
  | [] => [(name, value)]
  | (n, v) :: members =>
    if n = name then (n, value) :: members else (n, v) :: assign name value members

def lookup? (name : String) : List (String × Json) → Option Json
  | [] => none
  | (n, v) :: members => if n = name then some v else lookup? name members

/-- The value of a member of an object; other values have none. -/
def get? (j : Json) (name : String) : Option Json :=
  match j with
  | obj members => lookup? name members
  | _ => none

mutual

def isFinite : Json → Bool
  | float x => x.isFinite
  | arr items => areFinite items
  | obj members => membersAreFinite members
  | _ => true

def areFinite : List Json → Bool
  | [] => true
  | item :: items => isFinite item && areFinite items

def membersAreFinite : List (String × Json) → Bool
  | [] => true
  | (_, value) :: members => isFinite value && membersAreFinite members

end

/-- A text, or nothing. -/
def ofText? : Option String → Json
  | some s => str s
  | none => null

end Json

end Reckoner
