import Reckoner.Issue
import Reckoner.Net.Target
import Reckoner.Text.Blank
import Reckoner.Text.Case
import Reckoner.Text.CaseMap
import Reckoner.Text.Quoted

/-!
# Requests and replies

What the service is asked, and what it answers. The names of headers are the same in both cases.

`Request.make?` makes a request of its parts, or tells why there is none, `Unsendable`.
-/

namespace Reckoner.Net

open Host (isAscii)

/-! ## Requests -/

structure Request where
  method : String
  target : Target
  headers : List (String × String)
  body : List UInt8

inductive Unsendable where
  /-- There is no such address, or it is too long. -/
  | address
  /-- The name or the value of a header has characters outside ASCII. -/
  | header (text : List Char)
  /-- The scheme is not one of the hypertext protocol. -/
  | scheme
  /-- The host is made of groups, so that what stands behind the first colon is no port. -/
  | port (text : List Char)
  /-- The scheme asks for a lasting connection. -/
  | socket
  deriving DecidableEq, Repr

/-! ### Wording -/

/-- A character by its number. -/
def numbered (c : Char) : List Char :=
  if c.toNat ≤ 0xFF then ['\\', 'x'] ++ Text.hex 2 c.toNat
  else if c.toNat ≤ 0xFFFF then ['\\', 'u'] ++ Text.hex 4 c.toNat
  else ['\\', 'U'] ++ Text.hex 8 c.toNat

/-- Which characters of a text are the first outside ASCII. -/
def foreignRun (text : List Char) : String :=
  let start := (text.takeWhile isAscii).length
  match (text.dropWhile isAscii).takeWhile (!isAscii ·) with
  | [c] => s!"character '{String.ofList (numbered c)}' in position {start}"
  | run => s!"characters in position {start}-{start + run.length - 1}"

def Unsendable.message? : Unsendable → Option String
  | header text =>
    some s!"'ascii' codec can't encode {foreignRun text}: ordinal not in range(128)"
  | port text =>
    some s!"invalid literal for int() with base 10: {String.ofList (Text.quoted text)}"
  | address | scheme | socket => none

/-! ### Checks -/

/-- The schemes that are spoken, with the port of each and whether it asks for a lasting
connection. -/
def schemes : List (String × Nat × Bool) :=
  [("http", 80, false), ("https", 443, false), ("ws", 80, true), ("wss", 443, true)]

/-- The port of an address that has to be told; the one of the scheme goes without saying. -/
def Address.toldPort? (a : Address) : Option Int :=
  (Text.typedInteger? a.portNumber).filter fun n =>
    (schemes.find? (·.1.toList == a.scheme)).all fun (_, port, _) => n ≠ port

/-- What is taken for the port of an address whose host is made of groups: all behind the first
colon. -/
def Address.groupsPort? (a : Address) : Option (List Char) :=
  let told := a.toldPort?.elim [] fun n => ':' :: Text.Digits.textInt n
  if a.host.contains ':' then (Text.splitFirst? ':' (a.host ++ told)).map (·.2) else none

/-- Refuses a header that is not made of ASCII. -/
def checkHeaders (headers : List (String × String)) : Except Unsendable Unit :=
  let texts := headers.flatMap fun (name, value) => [name.toList, value.toList]
  match texts.find? fun text => !text.all isAscii with
  | some text => .error (.header text)
  | none => .ok ()

/-- Refuses an address that the service is not asked at. -/
def Address.checkScheme (a : Address) : Except Unsendable Unit :=
  match schemes.find? (·.1.toList == a.scheme.map Text.toLower) with
  | none => .error .scheme
  | some (_, _, lasting) =>
    match a.groupsPort? with
    | some text => .error (.port text)
    | none => if lasting then .error .socket else .ok ()

/-- Where a request goes if its address does not say. -/
def Address.service : Address :=
  ⟨"http".toList, [], "localhost".toList, [], ['/'], []⟩

/-- The address of a text as it is seen from the service. -/
def Address.resolve? (text : List Char) : Except Unsendable Address :=
  match Address.ofText? text with
  | none => .error .address
  | some a =>
    let seen := Address.service.seenFrom a
    if a.isWhole || seen.isShort then .ok seen else .error .address

/-- Refuses an address that has become too long for the parameters given apart from it. -/
def Address.checkParameters (a : Address) : Option (List (String × String)) → Except Unsendable Unit
  | none => .ok ()
  | some parameters =>
    if escapedLength standsInPath a.path ≤ maxAddressLength &&
        parametersLength parameters ≤ maxAddressLength then
      .ok ()
    else .error .address

/-- The request that is made with a method in either case. Parameters that are given apart from the
address, even if there are none, take the place of those in it. -/
def Request.make? (method address : String) (parameters? : Option (List (String × String)))
    (headers : List (String × String)) (body : List UInt8) : Except Unsendable Request := do
  let a ← Address.resolve? address.toList
  checkHeaders headers
  a.checkParameters parameters?
  a.checkScheme
  return { method := String.ofList (method.toList.flatMap Text.upperCase)
           target := .ofAddress a parameters?
           headers := headers
           body := body }

/-! ### Reading -/

def Request.header? (r : Request) (name : String) : Option String :=
  (r.headers.find? fun (n, _) => Text.lower n = Text.lower name).map (·.2)

/-- Whether the body of a request is to be read as JSON, which is what its type says. -/
def Request.hasJsonBody (r : Request) : Bool :=
  match r.header? "content-type" with
  | none => false
  | some type =>
    let name := Text.trim ((Text.lower type).toList.takeWhile (· ≠ ';'))
    match Text.pieces '/' name with
    | [main, sub] =>
      main == "application".toList &&
        (sub == "json".toList || "+json".toList.isSuffixOf sub)
    | _ => false

/-! ## Replies -/

inductive Body where
  | data (j : Json)
  | text (s : String)
  /-- What is wrong with the request. -/
  | issues (all : List Issue)

/-- A reply, without its headers. -/
structure Answer where
  status : Nat
  body : Body

namespace Answer

def ok (j : Json) : Answer :=
  ⟨200, .data j⟩

/-- A reply that says in a word what is wrong. -/
def detail (status : Nat) (text : String) : Answer :=
  ⟨status, .data (.obj [("detail", .str text)])⟩

/-- A reply that says all that is wrong with the request. -/
def invalid (issues : List Issue) : Answer :=
  ⟨422, .issues issues⟩

end Answer

end Reckoner.Net
