import Patchwork.Json.Basic
import Patchwork.Log.Layout

/-!
Loggers, their handlers and filters, and what they write of a record.
-/

namespace Patchwork.Log

/-- Lets through the records of one logger and of those below it; without a name, those of all. -/
inductive Filter where
  | named (name : String)
  /-- A filter whose name is no text but a value of some type. -/
  | mistyped (type : String)
  deriving DecidableEq

def Filter.admits (r : Record) : Filter → Except LayoutFault Bool
  | named name =>
    .ok (name.isEmpty || r.logger == name || Text.startsWith (name.toList ++ ['.']) r.logger.toList)
  | mistyped type => .error (.filterName type)

/-- Whether all filters let a record through, up to the first that does not. -/
def admitted (r : Record) : List Filter → Except LayoutFault Bool
  | [] => .ok true
  | f :: rest => do
    if ← f.admits r then admitted r rest else .ok false

/-- The sorts of handlers. -/
inductive HandlerKind where
  | stream
  | null
  | file
  | buffering
  | memory
  deriving DecidableEq

namespace HandlerKind

def name : HandlerKind → String
  | stream => "StreamHandler"
  | null => "NullHandler"
  | file => "FileHandler"
  | buffering => "BufferingHandler"
  | memory => "MemoryHandler"

/-- The arguments that a handler is made of; those of the second list can be left out. -/
def parameters : HandlerKind → List String × List String
  | stream => ([], ["stream"])
  | null => ([], [])
  | file => (["filename"], ["mode", "encoding", "delay", "errors"])
  | buffering => (["capacity"], [])
  | memory => (["capacity"], ["flushLevel", "flushOnClose"])

end HandlerKind

/-- What takes in the records of a logger. -/
structure Handler where
  kind : HandlerKind
  severity : Severity
  layout : Option Layout
  filters : List Filter
  /-- Whether it writes to the output that is looked at. -/
  isShown : Bool
  /-- What ends each record; without it none is written. -/
  ending : Option String

structure Logger where
  severity : Severity
  handlers : List Handler
  filters : List Filter
  /-- Whether its records go to the logger above it as well, as it was configured. -/
  propagate : Json
  disabled : Bool

/-- The logger of the engine and the one above all loggers. -/
structure Loggers where
  own : Logger
  root : Logger

/-- The name of the engine's logger. -/
def ownName : String := "hostpatch"

/-- Whether a JSON value counts as true. -/
def isTrue : Json → Bool
  | .null | .bool false | .int 0 | .str "" | .arr [] | .obj [] => false
  | .float x => !x.isZero
  | _ => true

def Logger.start (severity : Severity) (propagate : Bool) : Logger :=
  ⟨severity, [], [], .bool propagate, false⟩

def Loggers.start : Loggers :=
  ⟨.start .notSet false, .start .warning true⟩

/-- The lowest severity that a logger lets through. -/
def Loggers.threshold (s : Loggers) : Severity :=
  if s.own.severity.number ≠ 0 then s.own.severity else s.root.severity

/-- What a handler writes of a record; nothing of one that does not fit its layout, or has no message. -/
def Handler.output (x : Handler) (h : Heap) (r : Record) (message : Option String) :
    Except LayoutFault String := do
  if r.severity.number < x.severity.number then .ok ""
  else if !(← admitted r x.filters) || !x.isShown then .ok ""
  else
    let layout := x.layout.getD (.plain .percent "%(message)s")
    match message.bind fun m => (layout.text h r m).toOption, x.ending with
    | some s, some e => .ok (s ++ e)
    | _, _ => .ok ""

/-- What is written of a record. -/
def Loggers.output (s : Loggers) (h : Heap) (r : Record) (message : Option String) :
    Except LayoutFault String := do
  if r.severity.number < s.threshold.number || s.own.disabled then .ok ""
  else if !(← admitted r s.own.filters) then .ok ""
  else
    let all := s.own.handlers ++ if isTrue s.own.propagate then s.root.handlers else []
    .ok (String.join (← all.mapM fun x => x.output h r message))

end Patchwork.Log
