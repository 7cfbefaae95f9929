import Reckoner.Json.Bytes
import Reckoner.Json.Writer
import Reckoner.Service.Evaluator
import Reckoner.Service.Route

/-!
# What the endpoints do

The calculator's endpoints answer by themselves; those for queries read and change what is
remembered.
-/

namespace Reckoner.Service

open Checked (fail inside)
open Net (Answer Request)

inductive Failure where
  | problem (p : Problem)
  /-- The answer would quote what cannot be written, or a submission has broken off. -/
  | unhandled

/-- What an endpoint does: its answer or a failure, what is remembered afterwards, and which
requests were sent elsewhere. -/
structure Effect where
  answer : Except Failure Answer
  cache : Query.Cache
  sent : List Remote.Request

/-- An answer that changes nothing. -/
def Effect.only (cache : Query.Cache) (answer : Except Failure Answer) : Effect :=
  ⟨answer, cache, []⟩

/-! ## Reading requests -/

/-- The query among the parameters, which has to be there. -/
def queryParameter (r : Request) : Except Answer String :=
  match r.target.parameter? "query" with
  | some query => .ok query
  | none => .error (.invalid [⟨.missing, [.member "query", .member "query"]⟩])

/-- What a body holds. -/
inductive Content where
  | nothing
  | bytes (body : List UInt8)
  | json (body : List UInt8) (j : Json)

/-- What the body of a request holds; broken JSON is told at once. -/
def readContent (r : Request) : Except Answer Content :=
  if r.body = [] then .ok .nothing
  else if !r.hasJsonBody then .ok (.bytes r.body)
  else
    match Json.ofBytes? r.body with
    | .ok j => .ok (.json r.body j)
    | .error (.content (.broken _ position _ _)) =>
      .error (.invalid [⟨.notJson, [.member "body", .index position]⟩])
    | .error _ => .error (.detail 400 "There was an error parsing the body")

/-- The piece of a body that is looked at for a query, and that a refusal quotes. -/
def quoted : Json → Json
  | .obj members => (Json.lookup? "query" members).getD (.obj members)
  | j => j

/-- The piece shows no half of a pair by itself. -/
def IsWhole (body : List UInt8) : Prop :=
  Json.Unmarked (fun j => (quoted j).render .compact) body

instance (body : List UInt8) : Decidable (IsWhole body) :=
  inferInstanceAs (Decidable (Json.Unmarked (fun j => (quoted j).render .compact) body))

/-- A text that is not empty and has no half of a pair by itself. -/
def nonemptyText (body : List UInt8) : Json → Checked String
  | .str s =>
    if ¬IsWhole body then fail .stringUnicode
    else if s = "" then fail .stringTooShort
    else .ok s
  | _ => fail .stringType

/-- The query in a body. -/
def Content.query : Content → Checked String
  | nothing => inside (.member "body") (fail .missing)
  | json body (.obj members) =>
    inside (.member "body") (Json.required (nonemptyText body) "query" members)
  | _ => inside (.member "body") (fail .attributesType)

/-- Whether a refusal can quote what is to blame. Replies have no spelling for numbers that are not
finite and for halves of a pair. -/
def Content.isQuotable : Content → Bool
  | nothing => true
  | bytes body => Text.isUtf8 body
  | json body j => (quoted j).isFinite && IsWhole body

/-- The refusal of a body, for some issues with it. -/
def Content.refuse (content : Content) (issues : List Issue) : Except Failure Answer :=
  if content.isQuotable then .ok (.invalid issues) else .error .unhandled

/-! ## Answers -/

def stateJson (s : Query.State) : Json :=
  .obj [("query", .str s.query), ("result", .str s.result), ("pending", .bool s.pending),
    ("error", .bool s.error)]

def resultJson (expression : String) (value : Value) : Json :=
  .obj [("expression", .str expression), ("result", value.toJson)]

def unknownQuery (query : String) : Problem :=
  ⟨.unknownQuery, .str "No cached state for query.", [("query", .str query)]⟩

def notAnExpression (query : String) : Problem :=
  ⟨.notAnExpression, .str "Query does not look like an arithmetic expression.",
    [("query", .str query)]⟩

/-! ## Endpoints -/

/-- What is done for the query of the parameters. -/
def withQuery (cache : Query.Cache) (r : Request)
    (answer : String → Logged (Except Failure Answer)) : Logged Effect := do
  match queryParameter r with
  | .error refusal => return .only cache (.ok refusal)
  | .ok query => return .only cache (← answer query)

/-- The value of an expression, or the problem with it. -/
def calculate (s : Settings) (query : String) : Logged (Except Failure Answer) := do
  match ← s.calculator.evaluateStrict (.str query) with
  | .ok value => return .ok (.ok (resultJson query value))
  | .error problem => return .error (.problem problem)

def candidate (query : String) : Answer :=
  .ok (.obj [("query", .str query), ("candidate", .bool (Screen.isCandidate query.toList))])

def evaluate (s : Settings) (query : String) : Logged Answer := do
  return .ok (← s.calculator.run (.str query)).toJson

def queryState (cache : Query.Cache) (query : String) : Except Failure Answer :=
  match cache.get? query with
  | some state => .ok (.ok (stateJson state))
  | none => .error (.problem (unknownQuery query))

def submit (evaluator : Evaluator) (cache : Query.Cache) (query : String) : Logged Effect := do
  let submission ← Query.submit evaluator.consult cache (.str query)
  let answer :=
    match submission.ending with
    | .returned (some state) => .ok (.ok (stateJson state))
    | .returned none => .error (.problem (notAnExpression query))
    | .brokenOff => .error .unhandled
  return ⟨answer, submission.cache, submission.asked.flatMap evaluator.sends⟩

/-- Submits the query of a body. The body is read first, then the evaluator has to be configured,
and then the query has to be in the body. -/
def submitQuery (s : Settings) (network : Remote.Network) (cache : Query.Cache) (r : Request) :
    Logged Effect :=
  match readContent r with
  | .error refusal => return .only cache (.ok refusal)
  | .ok content =>
    match Evaluator.configured s network with
    | .error problem => return .only cache (.error (.problem problem))
    | .ok evaluator =>
      match content.query with
      | .error issues => return .only cache (content.refuse issues)
      | .ok query => submit evaluator cache query

def Endpoint.perform (s : Settings) (network : Remote.Network) (cache : Query.Cache)
    (r : Request) : Endpoint → Logged Effect
  | health => return .only cache (.ok (.ok (.obj [("status", .str "ok")])))
  | calculate => withQuery cache r (Service.calculate s)
  | candidate => withQuery cache r fun query => return .ok (Service.candidate query)
  | evaluate => withQuery cache r fun query => do return .ok (← Service.evaluate s query)
  | queryState => withQuery cache r fun query => return Service.queryState cache query
  | submitQuery => Service.submitQuery s network cache r
  | resetQueries => return .only (Query.reset cache).1 (.ok ⟨204, .text ""⟩)
  -- What pages show is not kept here.
  | page _ => return .only cache (.ok ⟨200, .text ""⟩)

end Reckoner.Service
