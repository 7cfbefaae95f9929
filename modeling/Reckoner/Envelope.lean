import Reckoner.Json.Basic
import Reckoner.Value
import Reckoner.Text.Blank

/-!
# Result envelopes

What an evaluation reports: a value, or the kind of failure. Either can carry a detail; the message
of a failure shows it.
-/

namespace Reckoner

inductive ErrorKind where
  /-- The input is no text, an empty one or one that is too long. -/
  | invalidInput
  /-- The input is blank. -/
  | emptyInput
  /-- The input has a character that no expression has. -/
  | invalidCharacters
  /-- The input has no operator and is no bare number. -/
  | notAnExpression
  /-- The input is malformed. -/
  | evaluationFailed
  /-- The value is not finite. -/
  | invalidResult
  /-- An evaluator broke down. -/
  | evaluationError
  deriving DecidableEq, Repr

namespace ErrorKind

/-- All kinds, in the order of the checks. -/
def all : List ErrorKind :=
  [invalidInput, emptyInput, invalidCharacters, notAnExpression, evaluationFailed, invalidResult,
    evaluationError]

def name : ErrorKind → String
  | invalidInput => "InvalidInput"
  | emptyInput => "EmptyInput"
  | invalidCharacters => "InvalidCharacters"
  | notAnExpression => "NotAnExpression"
  | evaluationFailed => "EvaluationFailed"
  | invalidResult => "InvalidResult"
  | evaluationError => "EvaluationError"

def ofName? (s : String) : Option ErrorKind :=
  all.find? fun kind => kind.name == s

def sentence : ErrorKind → String
  | invalidInput => "Invalid expression."
  | emptyInput => "Empty expression."
  | invalidCharacters => "Invalid characters in expression."
  | notAnExpression => "Not a valid mathematical expression."
  | evaluationFailed => "Expression evaluation failed."
  | invalidResult => "Expression produced an invalid result."
  | evaluationError => "Expression evaluation error."

theorem ofName?_name (kind : ErrorKind) : ofName? kind.name = some kind := by
  cases kind <;> decide

end ErrorKind

inductive Envelope where
  | success (result : Value) (detail : Option String)
  | failure (error : ErrorKind) (detail : Option String)
  deriving DecidableEq

namespace Envelope

def ok (result : Value) : Envelope :=
  .success result none

def fail (error : ErrorKind) : Envelope :=
  .failure error none

def isSuccess : Envelope → Bool
  | success .. => true
  | failure .. => false

def result? : Envelope → Option Value
  | success result _ => some result
  | failure .. => none

def error? : Envelope → Option ErrorKind
  | success .. => none
  | failure error _ => some error

def detail? : Envelope → Option String
  | success _ detail | failure _ detail => detail

/-- A detail that says something. -/
def shownDetail : Option String → Option String
  | some "" => none
  | detail => detail

/-- The message of a failure: its sentence, with the detail in place of the full stop. -/
def failureMessage (error : ErrorKind) (detail : Option String) : String :=
  match shownDetail detail with
  | none => error.sentence
  | some detail =>
    String.ofList (Text.dropEnd '.' error.sentence.toList) ++ ": " ++ detail

/-- The message of an envelope; a success has none. -/
def message? : Envelope → Option String
  | success .. => none
  | failure error detail => some (failureMessage error detail)

end Envelope

/-! ## As data -/

def Value.toJson : Value → Json
  | integer z => .int z
  | float x => .float x
  | text s => .str s

/-- The members of an envelope, in the order in which they are written. -/
def Envelope.members (e : Envelope) : List (String × Json) :=
  [("success", .bool e.isSuccess),
    ("result", (e.result?.map Value.toJson).getD .null),
    ("error", .ofText? (e.error?.map ErrorKind.name)),
    ("detail", .ofText? e.detail?)]

def Envelope.toJson (e : Envelope) : Json :=
  .obj e.members

end Reckoner
