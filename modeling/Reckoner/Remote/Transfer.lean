import Reckoner.Envelope.Reader
import Reckoner.Json.Bytes
import Reckoner.Remote.Client

/-!
# Evaluating elsewhere

An evaluation by a remote calculator, with all that can be raised on the way to an envelope. Each
step has its own handler, which takes some of what is raised and lets the rest through. The
transport is a parameter.

An evaluation ends in an envelope, which may be one of the remote calculator, or in a problem of the
kind `remoteCalculation`. It breaks down only if the transport does.
-/

namespace Reckoner.Remote

/-! ## What is raised -/

/-- What can be raised on the way from a request to an envelope. -/
inductive Thrown where
  /-- The request does not get through. -/
  | request
  /-- There is no such address. -/
  | address
  /-- A body is no JSON. -/
  | unreadable (error : Json.BodyError)
  /-- Data is no envelope. -/
  | invalid
  /-- A problem is reported. -/
  | service (problem : Problem)
  /-- Anything else. -/
  | unknown

namespace Thrown

def isTransport : Thrown → Bool
  | request | address => true
  | _ => false

/-- Data that is no envelope is a wrong value too. -/
def isWrongValue : Thrown → Bool
  | unreadable _ | invalid => true
  | _ => false

def isInvalid : Thrown → Bool
  | invalid => true
  | _ => false

/-- What a caller of the calculator sees. -/
def breakdown : Thrown → Breakdown
  | service problem => .unavailable problem
  | _ => .broken

end Thrown

/-- A step with a handler, and what the handler does with what it takes. -/
def handling {α : Type} (takes : Thrown → Bool) (instead step : Except Thrown α) :
    Except Thrown α :=
  match step with
  | .ok a => .ok a
  | .error thrown => if takes thrown then instead else .error thrown

/-! ## Steps -/

/-- What is done with a request: a status and the bytes of a body come back, or something is
raised. -/
abbrev Transport := Request → Except Thrown (Nat × List UInt8)

def payload (body : List UInt8) : Except Thrown Json :=
  (Json.ofBytes? body).mapError .unreadable

def envelope? (payload : Json) : Option Envelope :=
  (Envelope.ofJson? payload).toOption

/-- The envelope that the data of a body stands for. A half of a pair by itself is no part of the
texts in one. -/
def validate (body : List UInt8) (payload : Json) : Except Thrown Envelope :=
  match envelope? payload with
  | some envelope => if Json.Unmarked envelope? body then .ok envelope else .error .invalid
  | none => .error .invalid

/-- The problem of a status other than 200. Data that reports no error says nothing. -/
def refusal (status : Nat) (payload : Json) : Problem :=
  let message := (payload.get? "error").bind (·.get? "message")
  problem (message.getD (.str "Calculator request failed.")) [("status", .int status)]

/-- What a reply says. -/
def receive (status : Nat) (body : List UInt8) : Except Thrown Envelope := do
  if status ≠ 200 then
    let payload ← handling Thrown.isWrongValue (.ok .null) (payload body)
    .error (.service (refusal status payload))
  else
    let payload ← handling Thrown.isWrongValue (.error (.service notJson)) (payload body)
    handling Thrown.isInvalid (.error (.service noEnvelope)) (validate body payload)

/-! ## Evaluation -/

structure Transfer where
  sent : List Request
  outcome : Except Thrown Envelope

def Client.transfer (c : Client) (transport : Transport) (input : Json) : Transfer :=
  match c.request? input with
  | .error envelope => ⟨[], .ok envelope⟩
  | .ok request =>
    ⟨[request], do
      let (status, body) ←
        handling Thrown.isTransport (.error (.service unreachable)) (transport request)
      receive status body⟩

/-! ## Networks -/

/-- What comes back for a request. -/
inductive Reply where
  /-- The service was not reached, or broke off. -/
  | failed
  | answered (status : Nat) (body : String)
  /-- The network fails in a way that a client does not know. -/
  | broken
  deriving DecidableEq, Repr

/-- A network that replies with texts. -/
abbrev Network := Request → Reply

/-- The transport over a network. It is looked at first whether a request can be sent. -/
def Transport.ofNetwork (network : Network) : Transport := fun request =>
  if Net.canBeAsked request.address.toList [("query", request.query)] then
    match network request with
    | .failed => .error .request
    | .broken => .error .unknown
    | .answered status body => .ok (status, Text.utf8 body)
  else .error .address

/-- What an evaluation over a network sends, and what a caller sees of it. -/
structure Exchange where
  sent : List Request
  outcome : Except Breakdown Envelope

def Client.evaluate (c : Client) (network : Network) (input : Json) : Exchange :=
  let transfer := c.transfer (.ofNetwork network) input
  ⟨transfer.sent, transfer.outcome.mapError Thrown.breakdown⟩

end Reckoner.Remote
