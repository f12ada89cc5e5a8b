import Patchwork.Log.Calendar
import Patchwork.Log.Once

/-!
Log records and the fields that a layout can show of them.
-/

namespace Patchwork.Log

/-- How serious a record is, as a number with a name. -/
structure Severity where
  number : Int
  /-- Whether it was given as a truth value. -/
  isFlag : Bool
  deriving DecidableEq

namespace Severity

def named : List (String × Int) :=
  [("CRITICAL", 50), ("FATAL", 50), ("ERROR", 40), ("WARN", 30), ("WARNING", 30), ("INFO", 20),
    ("DEBUG", 10), ("NOTSET", 0)]

def of (number : Int) : Severity :=
  ⟨number, false⟩

def ofName? (name : String) : Option Severity :=
  (named.find? (·.1 == name)).map fun e => .of e.2

def notSet : Severity := .of 0

def debug : Severity := .of 10

def warning : Severity := .of 30

/-- The name of a severity; one without a name shows its number. -/
def name (s : Severity) : String :=
  match s.number with
  | 50 => "CRITICAL"
  | 40 => "ERROR"
  | 30 => "WARNING"
  | 20 => "INFO"
  | 10 => "DEBUG"
  | 0 => "NOTSET"
  | n => if s.isFlag then "Level True" else s!"Level {n}"

end Severity

structure Record where
  severity : Severity
  message : Value
  args : List Value
  logger : String
  path : String
  line : Value
  /-- Seconds since the start of 1970. -/
  created : Number.Binary64
  /-- The text of a failure that is logged with it; its fields do not show it. -/
  failure : Option String := none
  /-- The text of the stack that is logged with it. -/
  stack : Option String := none

/-- The last part of a path. -/
def baseName (path : String) : String :=
  String.ofList (path.toList.reverse.takeWhile (· != '/')).reverse

/-- A file name without its last extension. -/
def stem (name : String) : String :=
  let cs := name.toList
  let ending := cs.reverse.takeWhile (· != '.')
  let front := cs.take (cs.length - ending.length - 1)
  if ending.length = cs.length ∨ front.all (· == '.') then name else String.ofList front

/-- The moment of a record by a date format, or in full. A record counts no thousandths. -/
def timeText (created : Number.Binary64) (format : Option String) : Except MomentFault String := do
  let moment ← Moment.ofDouble created
  match format with
  | some f => .ok (moment.text f.toList)
  | none => .ok (moment.text "%Y-%m-%d %H:%M:%S,000".toList)

/-- The arguments of a record as it shows them: a single mapping stands for itself. -/
def shownArgs (h : Heap) : List Value → Value
  | [one] =>
    match h.at? one with
    | some (.dict (_ :: _)) | some (.proxy (_ :: _)) => one
    | _ => .tuple [one]
  | args => .tuple args

/-- What follows a record on lines of its own: the texts of a failure and of the stack, unless they are empty. -/
def Record.trailers (r : Record) : List String :=
  (r.failure.toList ++ r.stack.toList).filter (· ≠ "")

/-- The fields of a record with its message written out. -/
def Record.fields (h : Heap) (r : Record) (message : String) (time : Option String) : List (String × Value) :=
  let file := baseName r.path
  [("name", .str r.logger), ("msg", r.message), ("args", shownArgs h r.args), ("levelname", .str r.severity.name),
    ("levelno", .int r.severity.number), ("pathname", .str r.path), ("filename", .str file),
    ("module", .str (stem file)), ("exc_info", .none), ("exc_text", .none),
    ("stack_info", r.stack.elim .none .str),
    ("lineno", r.line), ("funcName", .none), ("created", .float r.created),
    ("msecs", .float (Number.Binary64.ofInt 0)), ("threadName", .str "MainThread"),
    ("processName", .str "MainProcess"), ("message", .str message)] ++
    time.toList.map fun t => ("asctime", .str t)

end Patchwork.Log
