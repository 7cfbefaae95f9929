import Reckoner.Log.Delivery

/-!
# Request ids

Every request has an id, which its log records and its reply carry. It is given with the request, or
generated if none is given or the given one is empty.

`Context` is the id in force together with what is needed to go back: an open scope remembers the id
that it found, and so does every id that was put in force by hand. Leaving a scope restores what the
scope found, whatever happened inside, and lets a failure through. A record is stamped with the id
in force.
-/

namespace Reckoner

/-- An id. Generated ids are told apart by the order in which they were generated. -/
inductive RequestId where
  | given (id : String)
  | generated (n : Nat)
  deriving DecidableEq, Repr

def RequestId.text (texts : Nat → String) : RequestId → String
  | given id => id
  | generated n => texts n

/-- The id in force, and the ids to go back to. -/
structure Context where
  current : Option RequestId
  /-- The count of ids that were generated. -/
  generated : Nat
  /-- The ids that the open scopes found, innermost first. -/
  scopes : List (Option RequestId)
  /-- The ids that were replaced by hand, latest first. -/
  replaced : List (Option RequestId)
  deriving DecidableEq, Repr

namespace Context

def empty : Context :=
  ⟨none, 0, [], []⟩

/-- Puts an id in force: the wanted one if it is not empty, and otherwise a new one. -/
def bind (c : Context) (wanted : Option String) : Context :=
  match wanted with
  | none | some "" =>
    { c with current := some (.generated c.generated), generated := c.generated + 1 }
  | some id => { c with current := some (.given id) }

def enter (c : Context) (wanted : Option String) : Context :=
  { c.bind wanted with scopes := c.current :: c.scopes }

def leave (c : Context) : Context :=
  match c.scopes with
  | [] => c
  | found :: scopes => { c with current := found, scopes := scopes }

/-- Puts an id in force by hand. -/
def replace (c : Context) (wanted : Option String) : Context :=
  { c.bind wanted with replaced := c.current :: c.replaced }

/-- Goes back to what the latest replacement found. -/
def restore (c : Context) : Context :=
  match c.replaced with
  | [] => c
  | found :: replaced => { c with current := found, replaced := replaced }

/-- Closes the innermost scope with the outcome of what was done inside. The outcome goes on
outside, a failure like a success. -/
def close {ε α : Type} (c : Context) (outcome : Except ε α) : Context × Except ε α :=
  (c.leave, outcome)

/-- The text of the id in force, given those of the generated ones. -/
def text? (c : Context) (texts : Nat → String) : Option String :=
  c.current.map (·.text texts)

def stamp (c : Context) (texts : Nat → String) (record : Log.Record) : Log.Entry :=
  ⟨record, c.text? texts⟩

end Context

end Reckoner
