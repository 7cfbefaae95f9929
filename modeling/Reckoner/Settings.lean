import Reckoner.Calculator
import Reckoner.Envelope.Reader
import Reckoner.Json.Reader
import Reckoner.Remote.Client
import Reckoner.Settings.Numbers
import Reckoner.Settings.Origins

/-!
# Settings

What can be configured, and how it is read from an environment of named texts. Names may be
spelled in either case. A setting that is not given has its default, and everything that is wrong
is reported at once, in the order of the settings.
-/

namespace Reckoner

structure Settings where
  title : String
  version : String
  logLevel : String
  maxExpressionLength : Nat
  maxExpressionLength_pos : 0 < maxExpressionLength
  calculatorMode : String
  remoteBase : Option String
  remoteTimeout : Binary64
  origins : List String
  frontendOrigin : Option String

namespace Settings

/-- The settings of an empty environment. -/
def standard : Settings where
  title := "Qalc Calculator API"
  version := "0.1.0"
  logLevel := "INFO"
  maxExpressionLength := 200
  maxExpressionLength_pos := by decide
  calculatorMode := "local"
  remoteBase := none
  remoteTimeout := .ofInt 5
  origins := ["http://localhost:5173", "http://127.0.0.1:5173"]
  frontendOrigin := none

/-- All origins from which the service may be used. -/
def resolvedOrigins (s : Settings) : List String :=
  resolveOrigins s.origins s.frontendOrigin

def isRemote (s : Settings) : Bool :=
  Text.lower s.calculatorMode == "http"

def calculator (s : Settings) : Calculator :=
  .ofLimit (some s.maxExpressionLength)

def client? (s : Settings) : Except Problem Remote.Client :=
  Remote.Client.ofAddress? s.remoteBase s.remoteTimeout

/-! ## Reading -/

/-- Named texts. Of two with one name the later counts. -/
abbrev Environment := List (String × String)

inductive Error where
  /-- A setting that has to be JSON is not. -/
  | unreadable
  | invalid (issues : List Issue)

def given? (env : Environment) (name : String) : Option String :=
  (env.reverse.find? fun (n, _) => Text.lower n == name).map (·.2)

/-- A setting that is read from its text, or the default. -/
def setting {α : Type} (env : Environment) (name : String) (read : List Char → Checked α)
    (default : α) : Checked α :=
  match given? env name with
  | none => .ok default
  | some text => .inside (.member name) (read text.toList)

def originsOfJson (j : Json) : Checked (List String) :=
  .inside (.member "cors_origins") <|
    match j with
    | .arr items => .each Json.toText items
    | _ => Checked.fail .listType

/-- The origins of an environment. Null counts as not given. -/
def readOrigins (env : Environment) : Except Error (Checked (List String)) :=
  match given? env "cors_origins" with
  | none => .ok (.ok standard.origins)
  | some text =>
    match Json.ofString? text with
    | .error _ => .error .unreadable
    | .ok .null => .ok (.ok standard.origins)
    | .ok j => .ok (originsOfJson j)

def ofEnvironment? (env : Environment) : Except Error Settings := do
  let text := fun name default => (given? env name).getD default
  let origins ← readOrigins env
  let length := setting env "max_expression_length" readPositive
    ⟨standard.maxExpressionLength, standard.maxExpressionLength_pos⟩
  let timeout := setting env "calc_http_timeout_sec" readFloat standard.remoteTimeout
  match length.both (timeout.both origins) with
  | .error issues => .error (.invalid issues)
  | .ok (length, timeout, origins) =>
    return {
      title := text "api_title" standard.title
      version := text "api_version" standard.version
      logLevel := text "log_level" standard.logLevel
      maxExpressionLength := length.val
      maxExpressionLength_pos := length.property
      calculatorMode := text "calc_tool_mode" standard.calculatorMode
      remoteBase := given? env "calc_http_base_url"
      remoteTimeout := timeout
      origins := origins
      frontendOrigin := given? env "frontend_origin" }

end Settings

end Reckoner
