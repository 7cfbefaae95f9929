import Reckoner.Calculator
import Reckoner.Console.Arguments
import Reckoner.Json.Writer
import Reckoner.Text.Case
import Reckoner.Text.Pieces

/-!
# Console sessions

A session evaluates expressions one by one and shows each outcome on a line of its own. The
expressions are those of the order, or, if it has none, the lines of the input up to a word that
ends the session; blank lines are passed over.
-/

namespace Reckoner

/-- The line for an outcome: the value or the message of the failure, or all of it as data. -/
def Envelope.report (e : Envelope) (asJson : Bool) : String :=
  if asJson then e.toJson.render .spaced
  else
    match e with
    | .success value _ => value.display
    | .failure error detail => "error: " ++ failureMessage error detail

namespace Console

/-! ## Input -/

def quitWords : List String := ["q", "quit", "exit"]

def isQuit (line : List Char) : Bool :=
  quitWords.contains (Text.lower (String.ofList (Text.trim line)))

def isBlankLine (line : List Char) : Bool :=
  (Text.trim line).isEmpty

def readLines (lines : List (List Char)) : List (List Char) :=
  (lines.takeWhile (!isQuit ·)).filter (!isBlankLine ·)

def expressionsOf (input : String) : List String :=
  (readLines (Text.pieces '\n' input.toList)).map String.ofList

/-! ## Sessions -/

/-- What a session ends with, and what it shows. -/
structure Transcript where
  code : Nat
  output : String
  deriving DecidableEq, Repr

/-- Evaluates expressions and shows the outcomes. The code tells whether one of them failed. -/
def evaluateAll (c : Calculator) (asJson : Bool) (expressions : List String) : Transcript :=
  let outcomes := expressions.map fun text => c.evaluate (.str text)
  { code := if outcomes.all Envelope.isSuccess then 0 else 1
    output := String.join (outcomes.map fun e => e.report asJson ++ "\n") }

def Order.run (o : Order) (input : String) : Transcript :=
  let expressions := if o.expressions.isEmpty then expressionsOf input else o.expressions
  evaluateAll (.ofLimit o.maxLength) o.asJson expressions

def run (arguments : List String) (input : String) : Except Refusal Transcript := do
  let order ← Order.ofArguments? arguments
  return order.run input

end Console

end Reckoner
