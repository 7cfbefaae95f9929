import Reckoner.Evaluation.Exact
import Reckoner.Evaluation.Rounded
import Reckoner.Log.Record
import Reckoner.Problem
import Reckoner.Screen

/-!
# The calculator

Input of any kind is evaluated into an envelope. It has to pass the gates first:

1. it is a text that is not empty,
2. it is not blank,
3. once trimmed, it is not too long,
4. it has characters of expressions only,
5. it has an operator or is a bare number.

Then a text without a point and without a slash is evaluated exactly if possible, and anything
else is evaluated with rounding. What the evaluators do is a parameter, `Evaluators`, so that a
breakdown of one of them has a place. The calculator's own evaluators do not break down as long as
they may call themselves as often as they have to.

A breakdown of an evaluator is reported in the envelope. One at a gate is not, so that there is no
envelope, `tryEvaluateWith`: a text that is too long is told with the limit, and the limit may have
too many digits to be written.
-/

namespace Reckoner

open Text (trim)

/-! ## Breakdowns -/

inductive FaultKind where
  | runtime
  | lookup
  | value
  | recursion
  deriving DecidableEq, Repr

def FaultKind.name : FaultKind → String
  | runtime => "RuntimeError"
  | lookup => "KeyError"
  | value => "ValueError"
  | recursion => "RecursionError"

structure Fault where
  kind : FaultKind
  arguments : List String
  deriving DecidableEq, Repr

/-- The text of a breakdown: none without arguments, the argument itself if there is one, which a
failed look-up quotes, and otherwise the list of all arguments. -/
def Fault.text (f : Fault) : String :=
  match f.arguments with
  | [] => ""
  | [argument] =>
    if f.kind = .lookup then String.ofList (Text.quoted argument.toList) else argument
  | arguments =>
    let quoted := arguments.map fun argument => String.ofList (Text.quoted argument.toList)
    "(" ++ ", ".intercalate quoted ++ ")"

/-- What an envelope says about a breakdown: its text, or its name if it has none. -/
def Fault.detail (f : Fault) : String :=
  if f.text = "" then f.kind.name else f.text

/-- An integer has too many digits to be written. -/
def Fault.unwritten : Fault where
  kind := .value
  arguments := ["Exceeds the limit (4300 digits) for integer string conversion; " ++
    "use sys.set_int_max_str_digits() to increase the limit"]

/-! ## Evaluators -/

abbrev Evaluator := List Char → Logged (Except Fault (Option Value))

structure Evaluators where
  exact : Evaluator
  rounded : Evaluator

def noResult (event : String) (text : List Char) (reason : String) : Log.Record where
  logger := "qalc.strategies"
  level := .debug
  message := event
  fields := [("expression", .str (String.ofList text)), ("reason", .str reason)]

/-- The exact value of a text. Every reason for having none is recorded, but for an operator that
leads out of the integers. -/
def exactResult (text : List Char) : Logged (Option Value) := do
  match exactValue text with
  | .ok value => return some value
  | .error .inexactOperator => return none
  | .error why =>
    Logged.tell (noResult "exact.no_result" text why.label)
    return none

def roundedResult (text : List Char) : Logged (Option Value) := do
  match roundedValue text with
  | .ok value => return some value
  | .error why =>
    Logged.tell (noResult "decimal.no_result" text why.message)
    return none

/-- The calculator's own evaluators, with no bound to how often they call themselves. -/
def Evaluators.own : Evaluators where
  exact text := do return .ok (← exactResult text)
  rounded text := do return .ok (← roundedResult text)

/-! ## Evaluation -/

structure Calculator where
  maxLength : Int

namespace Calculator

def defaultMaxLength : Int := 200

/-- The calculator for a limit; none and zero stand for the default. -/
def ofLimit (limit : Option Int) : Calculator :=
  match limit with
  | none => ⟨defaultMaxLength⟩
  | some n => if n = 0 then ⟨defaultMaxLength⟩ else ⟨n⟩

def usesExact (text : List Char) : Bool :=
  !text.contains '.' && !text.contains '/'

def record (level : Log.Level) (event : String) (text : List Char) : Log.Record where
  logger := "qalc.calculator"
  level := level
  message := event
  fields := [("expression", .str (String.ofList text))]

def compute (evaluators : Evaluators) (text : List Char) :
    Logged (Except Fault (Option Value)) := do
  if usesExact text then
    match ← evaluators.exact text with
    | .error fault => return .error fault
    | .ok (some value) => return .ok (some value)
    | .ok none =>
      Logged.tell (record .debug "calculator.fallback" text)
      evaluators.rounded text
  else evaluators.rounded text

def conclude (text : List Char) : Except Fault (Option Value) → Logged Envelope
  | .error fault => do
    Logged.tell (record .error "calculator.evaluation_error" text)
    return .failure .evaluationError (some fault.detail)
  | .ok none => return .fail .evaluationFailed
  | .ok (some value) => return if value.isUnbounded then .fail .invalidResult else .ok value

def tooLong (c : Calculator) : Except Fault Envelope :=
  match (Value.integer c.maxLength).display? with
  | some limit => .ok (.failure .invalidInput (some s!"Expression exceeds {limit} characters."))
  | none => .error .unwritten

/-- The failure of a trimmed text at one of the gates that only look at it. -/
def gate (c : Calculator) (text : List Char) : Except Fault (Option Envelope) :=
  if text.isEmpty then .ok (some (.fail .emptyInput))
  else if c.maxLength < text.length then c.tooLong.map some
  else if !Screen.hasAllowedCharacters text then .ok (some (.fail .invalidCharacters))
  else if !Screen.looksLikeExpression text then .ok (some (.fail .notAnExpression))
  else .ok none

def tryEvaluateWith (evaluators : Evaluators) (c : Calculator) (input : Json) :
    Logged (Except Fault Envelope) :=
  match input with
  | .str s =>
    if s = "" then return .ok (.fail .invalidInput)
    else
      let text := trim s.toList
      match c.gate text with
      | .error fault => return .error fault
      | .ok (some envelope) => return .ok envelope
      | .ok none => do return .ok (← conclude text (← compute evaluators text))
  | _ => return .ok (.fail .invalidInput)

def tryRun (c : Calculator) (input : Json) : Logged (Except Fault Envelope) :=
  c.tryEvaluateWith .own input

/-! ### Envelopes

Where no envelope comes out because the limit cannot be written, the failure is told without it. -/

def enveloped : Except Fault Envelope → Envelope
  | .ok envelope => envelope
  | .error _ => .fail .invalidInput

def gate? (c : Calculator) (text : List Char) : Option Envelope :=
  match c.gate text with
  | .ok stopped? => stopped?
  | .error fault => some (enveloped (.error fault))

def evaluateWith (evaluators : Evaluators) (c : Calculator) (input : Json) : Logged Envelope := do
  return enveloped (← c.tryEvaluateWith evaluators input)

def run (c : Calculator) (input : Json) : Logged Envelope :=
  c.evaluateWith .own input

def evaluate (c : Calculator) (input : Json) : Envelope :=
  (c.run input).result

theorem evaluate_eq_enveloped (c : Calculator) (input : Json) :
    c.evaluate input = enveloped (c.tryRun input).result :=
  rfl

/-! ### Gates -/

theorem gate?_eq (c : Calculator) (text : List Char) :
    c.gate? text =
      if text.isEmpty then some (.fail .emptyInput)
      else if c.maxLength < text.length then some (enveloped c.tooLong)
      else if !Screen.hasAllowedCharacters text then some (.fail .invalidCharacters)
      else if !Screen.looksLikeExpression text then some (.fail .notAnExpression)
      else none := by
  by_cases empty : text.isEmpty = true
  · simp only [gate?, gate, empty, if_true]
  by_cases long : c.maxLength < text.length
  · simp only [gate?, gate, empty, long, if_true, if_false, Bool.false_eq_true]
    cases c.tooLong <;> rfl
  by_cases foreign : (!Screen.hasAllowedCharacters text) = true
  · simp only [gate?, gate, empty, long, foreign, if_true, if_false, Bool.false_eq_true]
  by_cases shapeless : (!Screen.looksLikeExpression text) = true
  · simp only [gate?, gate, empty, long, foreign, shapeless, if_true, if_false, Bool.false_eq_true]
  · simp only [gate?, gate, empty, long, foreign, shapeless, if_false, Bool.false_eq_true]

/-- A text that is too long fails with the limit, or without it if it cannot be written. -/
theorem enveloped_tooLong (c : Calculator) :
    enveloped c.tooLong = .failure .invalidInput
      ((Value.integer c.maxLength).display?.map fun limit =>
        s!"Expression exceeds {limit} characters.") := by
  unfold tooLong
  generalize (Value.integer c.maxLength).display? = limit?
  cases limit? <;> rfl

theorem gate?_eq_none_iff_gate {c : Calculator} {text : List Char} :
    c.gate? text = none ↔ c.gate text = .ok none := by
  unfold gate?
  cases c.gate text <;> simp

section Texts

variable (evaluators : Evaluators) {c : Calculator} {s : String}

theorem tryEvaluateWith_of_gate (passes : c.gate? (trim s.toList) = none) :
    c.tryEvaluateWith evaluators (.str s) = do
      return .ok (← conclude (trim s.toList) (← compute evaluators (trim s.toList))) := by
  have nonempty : s ≠ "" := by
    rintro rfl
    cases passes
  simp only [tryEvaluateWith, nonempty, if_false, gate?_eq_none_iff_gate.1 passes]

theorem evaluateWith_of_gate (passes : c.gate? (trim s.toList) = none) :
    (c.evaluateWith evaluators (.str s)).result =
      (conclude (trim s.toList) (compute evaluators (trim s.toList)).result).result := by
  rw [evaluateWith, tryEvaluateWith_of_gate evaluators passes]
  rfl

theorem evaluateWith_of_stopped (nonempty : s ≠ "") {envelope : Envelope}
    (stopped : c.gate? (trim s.toList) = some envelope) :
    (c.evaluateWith evaluators (.str s)).result = envelope := by
  unfold gate? at stopped
  unfold evaluateWith tryEvaluateWith
  simp only [nonempty, if_false]
  cases gated : c.gate (trim s.toList) with
  | error fault =>
    rw [gated] at stopped
    exact Option.some.inj stopped
  | ok stopped? =>
    rw [gated] at stopped
    obtain rfl : stopped? = some envelope := stopped
    rfl

end Texts

/-! ### Problems -/

def evaluateStrict (c : Calculator) (input : Json) : Logged (Except Problem Value) := do
  match ← c.run input with
  | .success result _ => return .ok result
  | .failure error detail => return .error (.ofFailure .calculation error detail)

end Calculator

/-! ## As a tool -/

structure Tool where
  name : String
  description : String
  /-- Whether a result ends the agent's work. -/
  returnsDirectly : Bool

def Tool.calculator : Tool where
  name := "calculator"
  description :=
    "Evaluate an arithmetic expression (+ - * / % ^ and parentheses) and return the result."
  returnsDirectly := true

end Reckoner
