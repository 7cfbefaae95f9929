import Reckoner.Service.CrossOrigin
import Reckoner.Service.Handling

/-!
# The service

The service answers requests one after another and remembers queries from one to the next. Each
request is answered within a scope of its own id, which the reply, the payload of a problem and all
log records carry.
-/

namespace Reckoner.Service

open Net (Answer Request)

structure World where
  network : Remote.Network
  /-- The texts of generated ids. -/
  ids : Nat → String

structure State where
  cache : Query.Cache
  context : Context

def State.start : State :=
  ⟨.empty, .empty⟩

structure Shown where
  status : Nat
  body : Net.Body
  /-- The id of the request. -/
  requestId : Option String
  /-- The origin that may read the reply. -/
  allowOrigin : Option String

/-- The reply to a request, and what was done for it. -/
structure Reply where
  shown : Shown
  entries : List Log.Entry
  sent : List Remote.Request

/-- What is done for a request, once its id is in force. -/
def perform (s : Settings) (network : Remote.Network) (cache : Query.Cache) (r : Request) :
    Logged Effect :=
  match preflight? s.resolvedOrigins r with
  | some preflight => return .only cache (.ok (preflight.answer s.resolvedOrigins))
  | none =>
    match route r.method r.target.path with
    | .endpoint e => e.perform s network cache r
    | .wrongMethod => return .only cache (.ok (.detail 405 "Method Not Allowed"))
    | .elsewhere => return .only cache (.ok ⟨307, .text ""⟩)
    | .unknown => return .only cache (.ok (.detail 404 "Not Found"))

def record (event : String) (r : Request) : Log.Record where
  logger := "qalc.request"
  level := .info
  message := event
  fields := [("method", .str r.method), ("path", .str (Net.shownPath r.target.path))]

def report (requestId : Option String) (p : Problem) : Answer :=
  ⟨p.kind.status, .data (p.payload requestId)⟩

/-- Answers a request within a scope of its own id, which comes out with the answer. The end is
recorded after a failure as well. -/
def handle (s : Settings) (world : World) (r : Request) : Handling (String × Answer) :=
  Handling.inScope world.ids (r.header? "x-request-id") fun requestId => do
    Handling.emit world.ids (record "request.start" r)
    let answer ←
      try
        Handling.reporting world.ids report
          (Handling.carryOut world.ids (perform s world.network · r))
      finally
        Handling.emit world.ids (record "request.end" r)
    return (requestId, answer)

/-- The body of a reply; one to a request for headers only has none. -/
def shownBody (r : Request) (body : Net.Body) : Net.Body :=
  if r.method = "HEAD" then .text "" else body

/-- What the reply with an answer says. -/
def showAnswer (s : Settings) (r : Request) (requestId : String) (answer : Answer) : Shown where
  status := answer.status
  body := shownBody r answer.body
  requestId := some requestId
  allowOrigin := namedOrigin? s.resolvedOrigins r

/-- What the reply says if the handling has failed. It is given outside the scope of the request, and
so carries neither its id nor an origin. -/
def Shown.broken : Shown :=
  ⟨500, .text "Internal Server Error", none, none⟩

/-- What the reply to a request says. -/
def showHandled (s : Settings) (r : Request) : Except Failure (String × Answer) → Shown
  | .ok (requestId, answer) => showAnswer s r requestId answer
  | .error _ => .broken

def serve (s : Settings) (world : World) (state : State) (r : Request) : Reply × State :=
  let (handled, p) := (handle s world r).runFrom ⟨state.cache, state.context, [], []⟩
  (⟨showHandled s r handled, p.entries, p.sent⟩, ⟨p.cache, p.context⟩)

/-- Answers a run of requests; the replies, with the state after each. -/
def serveAll (s : Settings) (world : World) (state : State) : List Request → List (Reply × State)
  | [] => []
  | r :: rs =>
    let next := serve s world state r
    next :: serveAll s world next.2 rs

def after (s : Settings) (world : World) (state : State) (requests : List Request) : State :=
  requests.foldl (fun state r => (serve s world state r).2) state

theorem after_concat (s : Settings) (world : World) (state : State) (requests : List Request)
    (r : Request) :
    after s world state (requests ++ [r]) = (serve s world (after s world state requests) r).2 := by
  simp [after]

inductive StartError where
  | settings (e : Settings.Error)
  | logLevel
  /-- The title or the version is empty. -/
  | untitled

/-- The settings of an environment in which the service can start. -/
def start? (env : Settings.Environment) : Except StartError Settings :=
  match Settings.ofEnvironment? env with
  | .error e => .error (.settings e)
  | .ok s =>
    match Log.Threshold.ofName? s.logLevel with
    | none => .error .logLevel
    | some _ => if s.title = "" ∨ s.version = "" then .error .untitled else .ok s

end Reckoner.Service
