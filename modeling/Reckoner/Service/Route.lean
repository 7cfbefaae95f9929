import Reckoner.Net.Message

/-!
# Routes

Which part of the service answers which request. A path that differs from a known one by slashes at
its end only is sent there.
-/

namespace Reckoner.Service

inductive Page where
  | schema
  | manual
  | manualRedirect
  | reference
  deriving DecidableEq, Repr

inductive Endpoint where
  | health
  | calculate
  | candidate
  | evaluate
  | submitQuery
  | queryState
  | resetQueries
  | page (p : Page)
  deriving DecidableEq, Repr

namespace Endpoint

def all : List Endpoint :=
  [page .schema, page .manual, page .manualRedirect, page .reference, calculate, candidate,
    evaluate, submitQuery, queryState, resetQueries, health]

/-- The methods by which an endpoint is asked. Of pages the headers can be asked for alone. -/
def methods : Endpoint → List String
  | submitQuery => ["POST"]
  | resetQueries => ["DELETE"]
  | page _ => ["GET", "HEAD"]
  | _ => ["GET"]

def path : Endpoint → String
  | health => "/health"
  | calculate => "/calc"
  | candidate => "/calc/candidate"
  | evaluate => "/evaluate"
  | submitQuery | queryState | resetQueries => "/queries"
  | page .schema => "/openapi.json"
  | page .manual => "/docs"
  | page .manualRedirect => "/docs/oauth2-redirect"
  | page .reference => "/redoc"

end Endpoint

inductive Route where
  | endpoint (e : Endpoint)
  /-- The path is known, and the method is not. -/
  | wrongMethod
  /-- The path is known but for slashes at its end. -/
  | elsewhere
  | unknown
  deriving DecidableEq, Repr

/-- The endpoints of a path. A line feed at its end does not count. -/
def endpointsAt (path : List Char) : List Endpoint :=
  Endpoint.all.filter fun e => e.path.toList == Text.dropLineFeed path

/-- A path without the slashes at its end, or with one if it has none. -/
def toggleSlash (path : List Char) : List Char :=
  if path.getLast? = some '/' then Text.dropEnd '/' path else path ++ ['/']

def route (method : String) (path : List Char) : Route :=
  match endpointsAt path with
  | [] =>
    if path ≠ ['/'] ∧ endpointsAt (toggleSlash path) ≠ [] then .elsewhere else .unknown
  | known =>
    match known.find? (·.methods.contains method) with
    | some e => .endpoint e
    | none => .wrongMethod

theorem mem_methods_of_route {method : String} {path : List Char} {e : Endpoint}
    (leads : route method path = .endpoint e) : method ∈ e.methods := by
  unfold route at leads
  split at leads
  · split at leads <;> cases leads
  · split at leads
    · rename_i found
      cases leads
      simpa using List.find?_some found
    · cases leads

end Reckoner.Service
