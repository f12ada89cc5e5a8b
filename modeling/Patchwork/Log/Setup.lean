import Patchwork.Json.Reader
import Patchwork.Log.Part
import Patchwork.Settings
import Patchwork.Text.Lines

/-!
Setting up the log: from the environment alone, or from a configuration file that it names.
-/

namespace Patchwork.Log

/-- Why the log cannot be set up. -/
inductive SetupFault where
  | notInteger (text : String)
  | conflict
  | missingFile (path : String)
  | badJson (f : Json.Fault) (text : String)
  | notObject (type : String)
  | noVersion
  | badVersion (text : String)
  | reference (f : ReferenceFault)
  | noIteration (type : String)
  | unordered (left right : String)
  /-- A part that is not as it should be. -/
  | part (kind shown : String)
  | noHandler (shown : String)
  | rootLogger

/-- A message with its arguments as a failure with several arguments shows them. -/
def withArgument (message argument : String) : String :=
  "(" ++ Text.quoted message ++ ", " ++ Text.quoted argument ++ ")"

def ReferenceFault.message : ReferenceFault → String
  | missing name => name
  | unresolved path =>
    "Cannot resolve " ++ Text.quoted path ++ ": No module named " ++
      Text.quoted (String.ofList (path.toList.takeWhile (· != '.')))
  | unreadable path => "Unable to convert " ++ Text.quoted path

def SetupFault.message : SetupFault → String
  | notInteger text => "invalid literal for int() with base 10: " ++ Text.quoted text
  | conflict =>
    "HOSTPATCH_CONFIGURE_LOGGING evaluated to false, but HOSTPATCH_LOGGING_CONFIG_PATH was given. " ++
      "HOSTPATCH_LOGGING_CONFIG_PATH implies HOSTPATCH_CONFIGURE_LOGGING. Please enable " ++
      "HOSTPATCH_CONFIGURE_LOGGING or unset HOSTPATCH_LOGGING_CONFIG_PATH."
  | missingFile path => withArgument "Could not load logging config. File does not exist: %s" path
  | badJson _ text => text
  | notObject type => withArgument "Invalid logging config. Expected Dict, got %s." type
  | noVersion => "dictionary doesn't specify a version"
  | badVersion text => "Unsupported version: " ++ text
  | reference f => f.message
  | noIteration type => Text.quoted type ++ " object is not iterable"
  | unordered l r => "'<' not supported between instances of " ++ Text.quoted l ++ " and " ++ Text.quoted r
  | part kind shown => "Unable to configure " ++ kind ++ " " ++ shown
  | noHandler shown => "No handler found with name " ++ shown
  | rootLogger => "Unable to configure root logger"

def SetupFault.kind : SetupFault → String
  | conflict | missingFile _ => ErrorKind.runtime.name
  | badJson f _ => if f.hasPlace then "JSONDecodeError" else ErrorKind.value.name
  | reference (.missing _) => ErrorKind.key.name
  | noIteration _ | unordered _ _ => ErrorKind.type.name
  | _ => ErrorKind.value.name

/-- Reads references, whose faults stop the setup. -/
def reading {α : Type} (m : Except ReferenceFault α) : Except SetupFault α :=
  m.mapError .reference

/-- What is iterated over in a section: members with their values, or what stands in their place. -/
inductive Section where
  | members (m : Members)
  | others (items : List Json)

/-- A section of a configuration; one that is not there is empty. -/
def section? (root : Members) (name : String) : Except SetupFault Section := do
  match ← reading (item? root root name) with
  | none => .ok (.members [])
  | some (.data (.obj m)) => .ok (.members m)
  | some (.data j) =>
    match (Item.data j).listed? with
    | some items => .ok (.others items)
    | none => .error (.noIteration (jsonType j))
  | some (.named _) => .error (.noIteration "type")

/-- The first of some items in their order. -/
def least (first : Json) : List Json → Except SetupFault Json
  | [] => .ok first
  | j :: r =>
    match j, first with
    | .str a, .str b => least (if a < b then j else first) r
    | .int a, .int b => least (if a < b then j else first) r
    | _, _ => .error (.unordered (jsonType j) (jsonType first))

/-- The parts of a section, each read by its name. Only members can be parts. -/
def readSection {α : Type} (root : Members) (kind : String) (read? : Item → Option α) :
    Section → Except SetupFault (List (String × α))
  | .others [] => .ok []
  | .others (j :: _) => .error (.part kind (shownJson j))
  | .members m =>
    m.mapM fun e =>
      match (follow root e.2).toOption.bind read? with
      | some v => .ok (e.1, v)
      | none => .error (.part kind (Text.quoted e.1))

/-- A section with its parts in the order of their names. -/
def Section.sorted : Section → Except SetupFault Section
  | .others (j :: r) => do .ok (.others [← least j r])
  | .others [] => .ok (.others [])
  | .members m => .ok (.members (m.mergeSort fun a b => a.1 ≤ b.1))

/-- The names that the logger above all others has. -/
def rootNames : List String :=
  ["", "root"]

/-- The loggers with those of a section set up. -/
def readLoggers (read? : Logger → Item → Option Logger) (root : Members) (s : Loggers) :
    Section → Except SetupFault Loggers
  | .others [] => .ok s
  | .others (j :: _) => .error (.part "logger" (shownJson j))
  | .members m =>
    m.foldlM (fun s e =>
      let isRoot := rootNames.contains e.1
      let before := if e.1 = ownName then s.own else if isRoot then s.root else .start .notSet true
      match (follow root e.2).toOption.bind (read? before) with
      | some l =>
        .ok (if e.1 = ownName then { s with own := l } else if isRoot then { s with root := l } else s)
      | none => .error (.part "logger" (Text.quoted e.1))) s

/-- The loggers with the one above all others set up. -/
def readRoot (read? : Logger → Item → Option Logger) (root : Members) (s : Loggers) :
    Except SetupFault Loggers := do
  match ← reading (item? root root "root") with
  | none => .ok s
  | some i =>
    if !i.isTrue then .ok s
    else
      match read? s.root i with
      | some l => .ok { s with root := { l with propagate := s.root.propagate } }
      | none => .error .rootLogger

/-- Only changes severities and propagation. There are no handlers that could be changed. -/
def adjust (root : Members) (s : Loggers) : Except SetupFault Loggers := do
  match ← section? root "handlers" with
  | .members ((name, _) :: _) => .error (.noHandler (Text.quoted name))
  | .others (j :: _) => .error (.noHandler (shownJson j))
  | _ => .ok ()
  let read? := readLogger? root ⟨[], []⟩ [] true
  readRoot read? root (← readLoggers read? root s (← section? root "loggers"))

/-- The version of configurations. -/
def checkVersion (root : Members) : Except SetupFault Unit := do
  match ← reading (item? root root "version") with
  | none => .error .noVersion
  | some (.named _) => .error (.badVersion "")
  | some (.data v) =>
    let isOne := match v with
      | .int 1 | .bool true => true
      | .float x => x.toInt? == some 1
      | _ => false
    let shown := match v with
      | .str s => s
      | v => shownJson v
    if !isOne then .error (.badVersion shown)

/-- The loggers by a configuration. Loggers that it does not name are disabled unless it keeps them. -/
def configure (root : Members) (s : Loggers) : Except SetupFault Loggers := do
  checkVersion root
  let isSet (name : String) (default : Bool) : Except SetupFault Bool := do
    .ok (((← reading (item? root root name)).map Item.isTrue).getD default)
  if ← isSet "incremental" false then adjust root s
  else
    let disables ← isSet "disable_existing_loggers" true
    let layouts ← readSection root "formatter" (readLayout? root) (← section? root "formatters")
    let filters ← readSection root "filter" (readFilter? root) (← section? root "filters")
    let known : Known := ⟨layouts, filters⟩
    let handlers ← readSection root "handler" (readHandler? root known) (← (← section? root "handlers").sorted)
    let loggers ← section? root "loggers"
    let isNamed := match loggers with
      | .members m => m.any (·.1 == ownName)
      | .others _ => false
    let read? := readLogger? root known handlers false
    let s ← readLoggers read? root s loggers
    let s := if isNamed then s else { s with own := { s.own with disabled := disables } }
    readRoot read? root s

/-- The format of the standard setup behind its own prefix. -/
def standardFormat (lead : String) : String :=
  lead ++ "%(levelname)s %(asctime)s [%(filename)s:%(lineno)d] %(message)s"

/-- The standard setup: one handler with aligned lines on the output. -/
def standard (lead level : String) (s : Loggers) : Except SetupFault Loggers := do
  match Severity.ofName? level,
      Layout.make (some (standardFormat lead)) (some "%m-%d %H:%M:%S") "%" true with
  | _, .error _ => .error (.part "formatter" (Text.quoted ownName))
  | none, .ok _ => .error (.part "handler" (Text.quoted ownName))
  | some severity, .ok layout =>
    .ok { s with
      own := ⟨.debug, [⟨.stream, severity, some layout, [], true, some "\n"⟩], [], .bool false, false⟩ }

/-- The text of a setting. -/
def settingText (e : Environment) (s : Setting) : Option String :=
  match s.read e with
  | .ok (.text t) => some t
  | _ => none

/-- The loggers by the environment. `file` is the text of the configuration file, if there is one. -/
def loggersFor (e : Environment) (file : Option String) : Except SetupFault Loggers := do
  let enabled ← match Setting.configureLogging.read e with
    | .ok (.int n) => .ok (decide (n ≠ 0))
    | .ok _ => .ok true
    | .error text => .error (.notInteger text)
  let path := (settingText e .loggingConfigPath).getD ""
  let level := (settingText e .loggingLevel).getD ""
  let lead := (settingText e .loggingPrefix).getD ""
  if !enabled && !path.isEmpty then .error .conflict
  if path.isEmpty then
    if enabled then standard lead level .start else .ok .start
  else
    match file with
    | none => .error (.missingFile path)
    | some text =>
      match Json.parse (String.ofList (Text.unixEnds text.toList)) with
      | .error (f, text) => .error (.badJson f text)
      | .ok (.obj []) => .ok .start
      | .ok (.obj m) => configure m .start
      | .ok v => .error (.notObject (jsonType v))

end Patchwork.Log
