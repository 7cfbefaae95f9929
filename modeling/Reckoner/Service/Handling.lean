import Reckoner.RequestId
import Reckoner.Service.Endpoint

/-!
# Handling requests under an id

A request is handled step by step, and every step finds what the steps before it left: what is
remembered, and the id in force. Whoever needs the id reads it there. A failure leaves what was done
until then.
-/

namespace Reckoner.Service

/-- What was done for a request so far, and what it is done with. -/
structure Progress where
  cache : Query.Cache
  context : Context
  entries : List Log.Entry
  sent : List Remote.Request

abbrev Handling := ExceptT Failure (StateM Progress)

namespace Handling

variable {α : Type}

/-- Takes a step: what comes out, and what was done then. -/
def runFrom (p : Progress) (step : Handling α) : Except Failure α × Progress :=
  step.run p

def currentId? (texts : Nat → String) : Handling (Option String) := do
  return (← get).context.text? texts

/-- Makes a record. It gets the id that is in force now. -/
def emit (texts : Nat → String) (record : Log.Record) : Handling Unit :=
  modify fun p => { p with entries := p.entries ++ [p.context.stamp texts record] }

/-- Does what changes what is remembered, with the records that are made on the way. -/
def carryOut (texts : Nat → String) (act : Query.Cache → Logged Effect) : Handling Net.Answer := do
  let effect := act (← get).cache
  forM effect.records (emit texts)
  modify fun p => { p with cache := effect.result.cache, sent := p.sent ++ effect.result.sent }
  ExceptT.mk (pure effect.result.answer)

/-- Answers with a report if there is a problem. Any other failure goes on. -/
def reporting (texts : Nat → String) (report : Option String → Problem → Net.Answer)
    (step : Handling Net.Answer) : Handling Net.Answer :=
  tryCatch step fun
    | .problem p => return report (← currentId? texts) p
    | .unhandled => throw .unhandled

/-- Takes a step under an id of its own, which is told to it. Afterwards the id from before is in
force again, after a failure as well. -/
def inScope (texts : Nat → String) (wanted : Option String) (step : String → Handling α) :
    Handling α := do
  modify fun p => { p with context := p.context.enter wanted }
  try
    step ((← currentId? texts).getD "")
  finally
    modify fun p => { p with context := p.context.leave }

end Handling

end Reckoner.Service
