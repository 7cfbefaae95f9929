import Reckoner.Net.Message

/-!
# Requests across origins

A page of another origin may use the service if its origin is allowed. A browser asks beforehand,
and the reply to any request names the origin that may read it. Requests may carry credentials, so
a reply names the very origin that asks, even if all are allowed. Without allowed origins nothing of
this happens.
-/

namespace Reckoner.Service

open Net (Answer Request)

def anyOrigin : String := "*"

def isAllowedOrigin (allowed : List String) (origin : String) : Bool :=
  allowed.contains anyOrigin || allowed.contains origin

def allowedMethods : List String :=
  ["DELETE", "GET", "HEAD", "OPTIONS", "PATCH", "POST", "PUT", "QUERY"]

/-- What a browser asks beforehand. -/
structure Preflight where
  origin : String
  method : String
  /-- Whether a page of a public network asks for a private one, which is never allowed. -/
  intoPrivate : Bool

def Preflight.answer (allowed : List String) (p : Preflight) : Answer :=
  let failures :=
    (if isAllowedOrigin allowed p.origin then [] else ["origin"]) ++
      (if allowedMethods.contains p.method then [] else ["method"]) ++
      if p.intoPrivate then ["private-network"] else []
  if failures.isEmpty then ⟨200, .text "OK"⟩
  else ⟨400, .text ("Disallowed CORS " ++ ", ".intercalate failures)⟩

/-- What a request asks beforehand, if it does. -/
def preflight? (allowed : List String) (r : Request) : Option Preflight :=
  if allowed.isEmpty || r.method != "OPTIONS" then none
  else do
    let origin ← r.header? "origin"
    let method ← r.header? "access-control-request-method"
    return ⟨origin, method, (r.header? "access-control-request-private-network").isSome⟩

/-- The origin that a reply names. -/
def namedOrigin? (allowed : List String) (r : Request) : Option String :=
  (r.header? "origin").filter (isAllowedOrigin allowed)

end Reckoner.Service
