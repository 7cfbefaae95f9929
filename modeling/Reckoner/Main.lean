import Reckoner.Console.Session

/-!
# The console program

Evaluates the expressions of its arguments, or those of its input line by line.
-/

open Reckoner Console

def usage : String :=
  "usage: evaluate [-h] [--json] [--max-length MAX_LENGTH] [expressions ...]\n"

/-- Evaluates the lines of the input as they come, up to its end or a word that ends the session. -/
partial def evaluateInput (c : Calculator) (asJson : Bool) (input output : IO.FS.Stream)
    (code : Nat) : IO Nat := do
  let line ← input.getLine
  let text := Text.dropLineFeed line.toList
  if line.isEmpty || isQuit text then return code
  let transcript := evaluateAll c asJson ((readLines [text]).map String.ofList)
  output.putStr transcript.output
  output.flush
  evaluateInput c asJson input output (max code transcript.code)

def main (arguments : List String) : IO UInt32 := do
  match Order.ofArguments? arguments with
  | .error refusal =>
    (match refusal with
      | .help => IO.print usage
      | .usage => IO.eprint usage)
    return refusal.code.toUInt32
  | .ok order =>
    if order.expressions.isEmpty then
      let code ← evaluateInput (.ofLimit order.maxLength) order.asJson (← IO.getStdin)
        (← IO.getStdout) 0
      return code.toUInt32
    else
      let transcript := order.run ""
      IO.print transcript.output
      return transcript.code.toUInt32
