import Reckoner.Log.Record
import Reckoner.Text.Case

/-!
# Delivery of log records

Which records are written, and as what. Loggers stand below one another by their dotted names, and a
record is dealt with if it is at least as serious as its logger asks for. A logger without a level
of its own asks for what the nearest one above it asks for; above all stands the root. The record
then goes to the handlers of its logger and up from there, until a logger keeps it to itself.

Only loggers that are in use count as standing above others, and what was decided about a level once
is not decided again. `Registry` is what has to be remembered for that.
-/

namespace Reckoner.Log

/-! ## Levels -/

/-- A letter of a level name in upper case. Two letters outside ASCII have their upper case in it.
-/
def upperLetter (c : Char) : Char :=
  if c = 'ı' then 'I' else if c = 'ſ' then 'S' else Text.toUpper c

/-- What a logger asks for: a level, or nothing of its own. -/
abbrev Threshold := Option Level

/-- The threshold of a name, in any case. -/
def Threshold.ofName? (name : String) : Option Threshold :=
  match String.ofList (name.toList.map upperLetter) with
  | "CRITICAL" | "FATAL" => some (some .critical)
  | "ERROR" => some (some .error)
  | "WARNING" | "WARN" => some (some .warning)
  | "INFO" => some (some .info)
  | "DEBUG" => some (some .debug)
  | "NOTSET" => some none
  | _ => none

def unknownLevel : String := "Unable to configure logger 'qalc'"

/-! ## Configuration -/

/-- What is done with a record in the end. There is one handler for all loggers, which writes a
line. -/
inductive Handler where
  | lineWriter
  deriving DecidableEq

structure Setup where
  threshold : Threshold
  handlers : List Handler
  /-- Whether records go on to the loggers above. -/
  propagates : Bool

def Setup.plain : Setup :=
  ⟨none, [], true⟩

/-- The loggers that are configured, given the threshold that is chosen for the calculator. -/
def configuration (chosen : Threshold) : List (String × Setup) :=
  [("uvicorn", ⟨some .info, [.lineWriter], false⟩),
    ("uvicorn.error", ⟨some .info, [.lineWriter], false⟩),
    ("uvicorn.access", ⟨some .info, [.lineWriter], false⟩),
    ("qalc", ⟨chosen, [.lineWriter], false⟩)]

def setup (chosen : Threshold) (name : String) : Setup :=
  ((configuration chosen).lookup name).getD .plain

def rootLevel : Level := .warning

def rootHandlers : List Handler := [.lineWriter]

/-! ## Loggers -/

/-- The loggers in use that stand above a name whose characters are given from the last to the first.
The name is cut at its last point, and so on. If nothing in use is found at a point, the character in
front of it is passed over, even if it is a point. -/
def above (inUse : List String) : List Char → List String
  | '.' :: c :: rest =>
    if String.ofList (c :: rest).reverse ∈ inUse then
      String.ofList (c :: rest).reverse :: above inUse (c :: rest)
    else above inUse rest
  | _ :: rest => above inUse rest
  | [] => []

/-- A logger and those above it, nearest first, but for the root. -/
def lineage (inUse : List String) (name : String) : List String :=
  name :: above inUse name.toList.reverse

/-- The level that some loggers ask for, nearest first, with the root above them. -/
def levelOf (chosen : Threshold) (loggers : List String) : Level :=
  (loggers.findSome? fun name => (setup chosen name).threshold).getD rootLevel

/-- The handlers that a record gets to on its way up, with the root above the loggers. -/
def handlersOf (chosen : Threshold) : List String → List Handler
  | [] => rootHandlers
  | name :: loggers =>
    (setup chosen name).handlers ++
      if (setup chosen name).propagates then handlersOf chosen loggers else []

/-! ## Records -/

structure Entry where
  record : Record
  requestId? : Option String

/-- The loggers in use, and for which levels they were found to be serious enough or not. -/
structure Registry where
  inUse : List String
  decided : List ((String × Level) × Bool)

namespace Registry

/-- Nothing was logged since the loggers were configured. Others may be in use already. -/
def start (chosen : Threshold) (others : List String) : Registry :=
  ⟨(configuration chosen).map (·.1) ++ others, []⟩

def use (r : Registry) (name : String) : Registry :=
  { r with inUse := name :: r.inUse }

def admits (chosen : Threshold) (r : Registry) (name : String) (level : Level) : Bool :=
  (r.decided.lookup (name, level)).getD
    ((levelOf chosen (lineage r.inUse name)).rank ≤ level.rank)

/-- Deals with a record: the handlers that get it, and what is remembered. -/
def log (chosen : Threshold) (r : Registry) (record : Record) : List Handler × Registry :=
  let r := r.use record.logger
  let admitted := r.admits chosen record.logger record.level
  (if admitted then handlersOf chosen (lineage r.inUse record.logger) else [],
    { r with decided := ((record.logger, record.level), admitted) :: r.decided })

def logAll (chosen : Threshold) (r : Registry) : List Entry → List (Entry × List Handler)
  | [] => []
  | e :: entries =>
    let next := r.log chosen e.record
    (e, next.1) :: logAll chosen next.2 entries

end Registry

/-! ## Lines -/

def noRequestId : String := "-"

def Entry.shownId (e : Entry) : String :=
  (e.requestId?.filter (· ≠ "")).getD noRequestId

/-- The name of a logger in a line; the root has the empty name. -/
def shownName (name : String) : String :=
  if name = "" then "root" else name

/-- Whether a field is shown. Names that begin with an underscore are private, and the id is shown
by itself. -/
def isShownField (name : String) : Bool :=
  name ≠ "request_id" && name.toList.head? ≠ some '_'

def Entry.line (e : Entry) : Json :=
  .obj ([("levelname", .str e.record.level.name), ("name", .str (shownName e.record.logger)),
      ("message", .str e.record.message), ("request_id", .str e.shownId)] ++
    e.record.fields.filter fun (name, _) => isShownField name)

def Handler.emit (e : Entry) : Handler → Json
  | lineWriter => e.line

/-- The names that every record has for itself. -/
def ownNames : List String :=
  ["name", "msg", "args", "levelname", "levelno", "pathname", "filename", "module", "exc_info",
    "exc_text", "stack_info", "lineno", "funcName", "created", "msecs", "relativeCreated",
    "thread", "threadName", "processName", "process", "message", "asctime"]

def Entry.clashes (e : Entry) : Bool :=
  e.record.fields.any fun (name, _) => ownNames.contains name

/-- The lines for a run of entries, with some loggers in use beforehand. -/
def lines (chosen : Threshold) (others : List String) (entries : List Entry) : List Json :=
  ((Registry.start chosen others).logAll chosen entries).flatMap fun (e, handlers) =>
    handlers.map (·.emit e)

/-- The lines for a run of entries, unless a field of an entry that is written clashes with what the
record has for itself. -/
def write? (chosen : Threshold) (entries : List Entry) : Option (List Json) :=
  if ((Registry.start chosen []).logAll chosen entries).any fun (e, handlers) =>
      !handlers.isEmpty && e.clashes then
    none
  else some (lines chosen [] entries)

end Reckoner.Log
