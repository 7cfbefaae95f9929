import Reckoner.RequestId
import Reckoner.Work

/-!
# Scopes

Within one flow of control an id is in force. Whoever puts another one in force gets a ticket back
to the one before, which is good for one journey: `put` and `goBack`. A `scope` puts an id in force
for as long as its body takes and goes back afterwards, after a failure as well.

A `Block` is a piece of program as far as ids are concerned. Scopes and pairs of `put` and `goBack`
are nested in it; besides, an id can be put in force for good, and a failure can be raised and
caught anywhere. What leaves a block early without being a failure, such as a return, is taken for
one that is caught where it leads.
-/

namespace Reckoner

namespace RequestId

/-- The id for a wanted one, which is the wanted one if it is not empty and otherwise a new one; and
the count of ids that were generated by then. -/
def choose (wanted : Option String) (generated : Nat) : RequestId × Nat :=
  match wanted with
  | none | some "" => (.generated generated, generated + 1)
  | some id => (.given id, generated)

theorem choose_of_nonempty {id : String} (nonempty : id ≠ "") (n : Nat) :
    choose (some id) n = (.given id, n) := by
  unfold choose
  split <;> simp_all

theorem choose_of_empty {wanted : Option String} (empty : wanted = none ∨ wanted = some "")
    (n : Nat) : choose wanted n = (.generated n, n + 1) := by
  rcases empty with rfl | rfl <;> rfl

end RequestId

/-- A ticket back, named by its place among all that were handed out. -/
structure Ticket where
  place : Nat
  deriving DecidableEq, Repr

inductive Ticket.State where
  | valid (back : Option RequestId)
  | used
  deriving DecidableEq, Repr

/-- What a flow of control has come to. -/
structure Flow where
  current : Option RequestId
  /-- The count of ids that were generated. -/
  generated : Nat
  tickets : List Ticket.State
  /-- What those were told who asked for the id in force, in order. -/
  told : List (Option String)
  deriving DecidableEq, Repr

namespace Flow

def start : Flow :=
  ⟨none, 0, [], []⟩

def replace (flow : Flow) (wanted : Option String) : Flow :=
  let (id, generated) := RequestId.choose wanted flow.generated
  { flow with
    current := some id, generated, tickets := flow.tickets ++ [.valid flow.current] }

/-- The id that a ticket was for is in force again, and the ticket is used. -/
def goneBack (flow : Flow) (ticket : Ticket) (back : Option RequestId) : Flow :=
  { flow with current := back, tickets := flow.tickets.set ticket.place .used }

end Flow

abbrev Scoped (ε : Type) := Work ε Flow

namespace Scoped

variable {ε α : Type}

/-- Puts an id in force, and hands out a ticket back. -/
def put (wanted : Option String) : Scoped ε Ticket := do
  let flow ← get
  set (flow.replace wanted)
  return ⟨flow.tickets.length⟩

/-- Goes back to the id that the ticket is for. A ticket that was used already raises `used`. -/
def goBack (used : ε) (ticket : Ticket) : Scoped ε Unit := do
  match (← get).tickets[ticket.place]? with
  | some (.valid back) => modify (·.goneBack ticket back)
  -- A ticket that was never handed out here is as good as a used one.
  | some .used | none => throw used

def current? (texts : Nat → String) : Scoped ε (Option String) := do
  return (← get).current.map (·.text texts)

/-- Works under another id, and goes back in the end. -/
def within (used : ε) (wanted : Option String) (work : Scoped ε α) : Scoped ε α := do
  let ticket ← put wanted
  try
    work
  finally
    goBack used ticket

/-- Works under another id, and goes back behind the work. After a failure nobody goes back. -/
def meanwhile (used : ε) (wanted : Option String) (work : Scoped ε Unit) : Scoped ε Unit := do
  let ticket ← put wanted
  work
  goBack used ticket

/-- Works under an id of its own, which is told to the body. -/
def scope (texts : Nat → String) (used : ε) (wanted : Option String)
    (body : String → Scoped ε α) : Scoped ε α :=
  within used wanted do body ((← current? texts).getD "")

end Scoped

/-- A piece of program that works with ids, and raises and catches failures `ε`. -/
inductive Block (ε : Type) where
  | done
  /-- Asks for the id in force, and goes on with the answer. -/
  | ask (next : Option String → Block ε)
  /-- Puts an id in force, and drops the ticket back. -/
  | put (wanted : Option String)
  | raise (failure : ε)
  | andThen (first second : Block ε)
  | rescue (body : Block ε) (handler : ε → Block ε)
  | scope (wanted : Option String) (body : String → Block ε)
  | pair (wanted : Option String) (body : Block ε)
  /-- A pair that goes back after a failure as well. -/
  | guardedPair (wanted : Option String) (body : Block ε)

namespace Block

variable {ε : Type} (texts : Nat → String) (used : ε)

open Scoped

def run : Block ε → Scoped ε Unit
  | done => pure ()
  | ask next => do
    let id? ← current? texts
    modify fun flow => { flow with told := flow.told ++ [id?] }
    (next id?).run
  | put wanted => do
    let _ ← Scoped.put wanted
    return
  | raise failure => throw failure
  | andThen first second => do
    first.run
    second.run
  | rescue body handler => tryCatch body.run fun failure => (handler failure).run
  | scope wanted body => Scoped.scope texts used wanted fun id => (body id).run
  | pair wanted body => meanwhile used wanted body.run
  | guardedPair wanted body => within used wanted body.run

end Block

end Reckoner
