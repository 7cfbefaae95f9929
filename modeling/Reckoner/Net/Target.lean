import Reckoner.Net.Address
import Reckoner.Text.Utf8

/-!
# Targets of requests

A target tells which path is asked for, and with which parameters. Characters may be written as
bytes behind percent signs; in parameters a plus sign stands for a space.
-/

namespace Reckoner.Net

open Text (pieces splitFirst?)

/-! ## Escapes -/

/-- The bytes of a text in which bytes may be escaped. A percent sign without two hexadecimal digits
stands for itself. -/
def unescape : List Char → List UInt8
  | '%' :: a :: b :: rest =>
    match Text.hexValue? a, Text.hexValue? b with
    | some high, some low => UInt8.ofNat (16 * high + low) :: unescape rest
    | _, _ => String.utf8EncodeChar '%' ++ unescape (a :: b :: rest)
  | c :: rest => String.utf8EncodeChar c ++ unescape rest
  | [] => []

def decodeEscapes (text : List Char) : List Char :=
  Text.decodeUtf8 (unescape text)

/-! ## Parameters -/

def decodeParameter (text : List Char) : String :=
  String.ofList (decodeEscapes (text.map fun c => if c = '+' then ' ' else c))

/-- A parameter; one without an equals sign has an empty value. -/
def readParameter (text : List Char) : String × String :=
  let (name, value) := (splitFirst? '=' text).getD (text, [])
  (decodeParameter name, decodeParameter value)

def readParameters (query : List Char) : List (String × String) :=
  ((pieces '&' query).filter (!·.isEmpty)).map readParameter

/-! ## Targets -/

structure Target where
  path : List Char
  parameters : List (String × String)

/-- The target of an address, with the parameters that are given apart from it in place of its own.
Escapes in the path are undone twice: by whoever makes the request, and again by the service. -/
def Target.ofAddress (a : Address) (given? : Option (List (String × String))) : Target where
  path := decodeEscapes (decodeEscapes (if a.path.isEmpty then ['/'] else a.path))
  parameters := given?.getD (readParameters a.query)

/-- The value of a parameter. Of several the last counts. -/
def Target.parameter? (t : Target) (name : String) : Option String :=
  (t.parameters.reverse.find? (·.1 = name)).map (·.2)

/-- A character of a path as it is recorded. A mark that would end the path is escaped, and what
would break the line is left out. -/
def shownPathChar (c : Char) : List Char :=
  match c with
  | '?' => ['%', '3', 'F']
  | '#' => ['%', '2', '3']
  | '\\' => ['%', '5', 'C']
  | '\t' | '\n' | '\r' => []
  | c => [c]

def shownPath (path : List Char) : String :=
  String.ofList (path.flatMap shownPathChar)

end Reckoner.Net
