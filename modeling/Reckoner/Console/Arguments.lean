import Reckoner.Text.Pieces
import Reckoner.Text.TypedInteger

/-!
# Arguments

The arguments of the console: expressions, and switches between them. Each argument is classified by
itself first. A text that begins with a dash is a switch, unless it could be a negative number, is a
dash alone or has a space in it; behind the first double dash nothing is a switch. A long switch may
be shortened as long as one only is meant.

The expressions have to stand together: those that come after a switch that comes after other
expressions are left over, and so are unknown switches. Arguments with something left over are
refused.
-/

namespace Reckoner.Console

inductive Switch where
  | help
  | json
  | maxLength
  deriving DecidableEq, Repr

def spellings : List (String × Switch) :=
  [("-h", .help), ("--help", .help), ("--json", .json), ("--max-length", .maxLength)]

inductive Argument where
  /-- An expression, or the value of a switch. -/
  | word (text : String)
  /-- The double dash behind which all arguments are words. -/
  | marker
  /-- A switch, with the text attached to it. -/
  | switch (s : Switch) (attached : Option (List Char))
  /-- The short switch for help, with this behind it. -/
  | helpWith (tail : List Char)
  | unknown
  deriving DecidableEq, Repr

/-- Why the console does not evaluate anything. -/
inductive Refusal where
  /-- Help is asked for. -/
  | help
  /-- The arguments cannot be understood. -/
  | usage
  deriving DecidableEq, Repr

def Refusal.code : Refusal → Nat
  | help => 0
  | usage => 2

/-! ## Classification -/

def switchOf? (text : List Char) : Option Switch :=
  (spellings.find? fun (spelling, _) => spelling.toList == text).map (·.2)

/-- The switches that a shortened spelling may mean. -/
def switchesFrom (start : List Char) : List Switch :=
  (spellings.filter fun (spelling, _) => start.isPrefixOf spelling.toList).map (·.2)

/-- Digits of any script, and at least one of them. -/
def areScriptDigits (text : List Char) : Bool :=
  !text.isEmpty && text.all fun c => (Text.scriptDigit? c).isSome

/-- A dash and a number behind it: digits, or a point with digits behind it. -/
def looksNegative : List Char → Bool
  | '-' :: rest =>
    let number := Text.dropLineFeed rest
    areScriptDigits number ||
      match Text.splitFirst? '.' number with
      | some (whole, fraction) =>
        (whole.isEmpty || areScriptDigits whole) && areScriptDigits fraction
      | none => false
  | _ => false

/-- An argument that begins with a dash and is no exact spelling. -/
def classifyDashed (text : List Char) : Except Refusal Argument :=
  let (start, attached) :=
    match Text.splitFirst? '=' text with
    | some (start, attached) => (start, some attached)
    | none => (text, none)
  let other :=
    if looksNegative text || text.contains ' ' then Argument.word (String.ofList text) else .unknown
  match text with
  | '-' :: '-' :: _ =>
    -- An exact spelling wins over the switches that it shortens.
    match switchOf? start with
    | some s => .ok (.switch s attached)
    | none =>
      match switchesFrom start with
      | [] => .ok other
      | [s] => .ok (.switch s attached)
      | _ => .error .usage
  | '-' :: 'h' :: tail => .ok (.helpWith tail)
  | _ => .ok other

/-- What an argument is by itself, before the double dash. -/
def classify (text : String) : Except Refusal Argument :=
  match text.toList with
  | '-' :: c :: rest =>
    match switchOf? ('-' :: c :: rest) with
    | some s => .ok (.switch s none)
    | none => classifyDashed ('-' :: c :: rest)
  | _ => .ok (.word text)

def classifyAll : List String → Except Refusal (List Argument)
  | [] => .ok []
  | text :: texts =>
    if text = "--" then .ok (.marker :: texts.map .word)
    else do
      let argument ← classify text
      let arguments ← classifyAll texts
      return argument :: arguments

/-! ## Meaning -/

/-- Whether the expressions have been met. -/
inductive Stage where
  | ahead
  | here
  | past
  deriving DecidableEq, Repr

structure Progress where
  stage : Stage
  /-- The expressions, last first. -/
  expressions : List String
  asJson : Bool
  maxLength : Option Int
  /-- Whether something is left over. -/
  leftOver : Bool

namespace Progress

def start : Progress :=
  ⟨.ahead, [], false, none, false⟩

def take (p : Progress) (words : List String) : Progress :=
  match p.stage with
  | .past => { p with leftOver := true }
  | _ => { p with stage := .here, expressions := words ++ p.expressions }

def pass (p : Progress) : Progress :=
  if p.stage = .here then { p with stage := .past } else p

def limit (p : Progress) (text : List Char) : Except Refusal Progress :=
  match Text.typedInteger? text with
  | some n => .ok { p.pass with maxLength := some n }
  | none => .error .usage

end Progress

/-- What the short switch for help leads to when something stands behind it: help, unless, past
repetitions of its letter, a value or another dash follows. -/
def helpOrUsage (tail : List Char) : Refusal :=
  match tail.dropWhile (· = 'h') with
  | '=' :: _ => .usage
  | '-' :: _ => .usage
  | _ => .help

def takeAll (p : Progress) : List Argument → Except Refusal Progress
  | [] => .ok p
  | .word text :: rest => takeAll (p.take [text]) rest
  | .marker :: rest => takeAll (p.take []) rest
  | .unknown :: rest => takeAll { p.pass with leftOver := true } rest
  | .switch .json none :: rest => takeAll { p.pass with asJson := true } rest
  | .switch .help none :: _ => .error .help
  | .helpWith tail :: _ => .error (helpOrUsage tail)
  | .switch .maxLength (some text) :: rest =>
    match p.limit text with
    | .error e => .error e
    | .ok p => takeAll p rest
  | .switch .maxLength none :: .word text :: rest =>
    -- The next word is the value, whatever it looks like.
    match p.limit text.toList with
    | .error e => .error e
    | .ok p => takeAll p rest
  | .switch _ _ :: _ => .error .usage

/-- What the console is asked for. -/
structure Order where
  expressions : List String
  /-- Whether outcomes are shown as data. -/
  asJson : Bool
  /-- The limit of the length; none stands for the default. -/
  maxLength : Option Int
  deriving DecidableEq, Repr

def Order.ofArguments? (texts : List String) : Except Refusal Order := do
  let p ← takeAll .start (← classifyAll texts)
  if p.leftOver then throw .usage
  return ⟨p.expressions.reverse, p.asJson, p.maxLength⟩

end Reckoner.Console
