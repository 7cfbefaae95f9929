import Reckoner.Query.Controller

/-!
# Histories of a cache

Entries are changed by hand, queries are submitted to any evaluators, and everything is forgotten:
`Act` is one thing that is done, and `cacheAfter` is the cache at the end of a list of them.

A session is a cache together with the evaluator in force, and leaves the entries to submissions.
Queries are submitted, everything is forgotten, the cache is looked at, and another evaluator is
employed, in any order: `Step` is one thing that is done, `Session.take` what comes of it, and
`Session.after` the session at the end of a list of steps.
-/

namespace Reckoner.Query

/-! ## Acts -/

inductive Act where
  | change (key : String) (c : Change)
  | reset
  | submit (consult : Consult) (input : Json)

/-- The cache after an act. A submission that breaks off has changed it too. -/
def Act.apply (cache : Cache) : Act → Cache
  | change key c => cache.update key c
  | reset => (Query.reset cache).1
  | submit consult input => (Query.submit consult cache input).result.cache

def cacheAfter (acts : List Act) : Cache :=
  acts.foldl Act.apply .empty

/-! ## Sessions -/

/-- What can be looked up in a cache. -/
inductive Look where
  | state (query : String)
  | result (query : String)
  | pending (query : String)
  | error (query : String)
  | size

inductive Step where
  | submit (input : Json)
  | reset
  | look (look : Look)
  | employ (consult : Consult)

inductive Answer where
  | submitted (ending : Ending)
  | state (state? : Option State)
  | text (text : String)
  | flag (flag : Bool)
  | count (count : Nat)
  | nothing

def Look.answer (cache : Cache) : Look → Answer
  | state query => .state (cache.get? query)
  | result query => .text (cache.getResult query)
  | pending query => .flag (cache.isPending query)
  | error query => .flag (cache.hasError query)
  | size => .count cache.size

structure Session where
  consult : Consult
  cache : Cache

/-- What comes of a step. -/
structure Taken where
  session : Session
  answer : Answer
  /-- The texts that the evaluator was asked about. -/
  asked : List String

/-- The texts that were asked about in vain. -/
def Taken.brokenOff (taken : Taken) : List String :=
  match taken.answer with
  | .submitted .brokenOff => taken.asked
  | _ => []

namespace Session

def start (consult : Consult) : Session :=
  ⟨consult, .empty⟩

def take (session : Session) : Step → Logged Taken
  | .submit input => do
    let submission ← submit session.consult session.cache input
    return ⟨⟨session.consult, submission.cache⟩, .submitted submission.ending, submission.asked⟩
  | .reset =>
    let (cache, count) := reset session.cache
    return ⟨⟨session.consult, cache⟩, .count count, []⟩
  | .look look => return ⟨session, look.answer session.cache, []⟩
  | .employ consult => return ⟨⟨consult, session.cache⟩, .nothing, []⟩

def next (session : Session) (step : Step) : Session :=
  (session.take step).result.session

def after (session : Session) (history : List Step) : Session :=
  history.foldl next session

theorem after_append (session : Session) (history later : List Step) :
    session.after (history ++ later) = (session.after history).after later := by
  simp [after]

/-- The texts that are asked about in the course of a history. -/
def asked (session : Session) : List Step → List String
  | [] => []
  | step :: history => (session.take step).result.asked ++ (session.next step).asked history

/-- The texts that are asked about in vain. -/
def brokenOff (session : Session) : List Step → List String
  | [] => []
  | step :: history =>
    (session.take step).result.brokenOff ++ (session.next step).brokenOff history

end Session

end Reckoner.Query
