import Patchwork.Log.Reference

/-!
Reading the parts of a configuration: layouts, filters, handlers and loggers. A part is described by its
settings, or by a factory with its arguments; what fits neither way is not read.
-/

namespace Patchwork.Log

/-- The name under which a part gives its factory. -/
def factoryKey : String := "()"

/-- The name under which a part gives attributes for what is made. -/
def attributesKey : String := "."

/-- The arguments for a factory: each must be known, and those that are needed must be there. -/
def arguments? (root m : Members) (needed optional : List String) : Option (List (String × Item)) := do
  let m := m.filter (·.1 != attributesKey)
  if !m.all (fun e => (needed ++ optional).contains e.1) then none
  if !needed.all (fun n => m.any (·.1 == n)) then none
  m.mapM fun e => do
    let i ← (follow root e.2).toOption
    some (e.1, i)

def argument? (args : List (String × Item)) (name : String) : Option Item :=
  (args.find? (·.1 == name)).map (·.2)

/-- What a part names, directly or by a path. -/
def named? (root m : Members) (key : String) : Option Named := do
  match ← (item? root m key).toOption with
  | some (.named n) => some n
  | some (.data (.str path)) => Named.ofPath? path
  | _ => none

/-- What a part names by a path. -/
def ofPath? (root m : Members) (key : String) : Option Named := do
  match ← (item? root m key).toOption with
  | some (.data (.str path)) => Named.ofPath? path
  | _ => none

/-- The attributes that a part gives. -/
def attributes? (root m : Members) : Option Members := do
  match ← (item? root m attributesKey).toOption with
  | some i => if i.isTrue then i.members? else some []
  | none => some []

/-! ## Layouts -/

/-- A layout by its format, its date format and the mark of its style. -/
def configured? (format date mark : Option Item) (validated isAligned : Bool) : Option Layout := do
  let style ← match mark with
    | none => some Style.percent
    | some (.data (.str s)) => Style.ofMark? s
    | some _ => none
  let (text, isWritable) := match format with
    | some (.data (.str s)) => if s.isEmpty then (Layout.defaultFormat style, true) else (s, true)
    | some i => if i.isTrue then ("", false) else (Layout.defaultFormat style, true)
    | none => (Layout.defaultFormat style, true)
  let (date, isDatable) := match date with
    | some (.data (.str s)) => if s.isEmpty then (none, true) else (some s, true)
    | some i => (none, !i.isTrue)
    | none => (none, true)
  let l : Layout := ⟨style, text, date, isAligned, isWritable, isDatable⟩
  if validated then
    if !isWritable then none
    l.check.toOption
  some l

/-- A layout that a factory makes; a format may be given by its long name as well. -/
def madeLayout? (root m : Members) : Option Layout := do
  match ← named? root m factoryKey with
  | .layout isAligned =>
    let m := m.filter (·.1 != factoryKey)
    let m := match member? m "format" with
      | some f => m.filter (fun e => e.1 != "format" && e.1 != "fmt") ++ [("fmt", f)]
      | none => m
    let args ← if isAligned then arguments? root m ["fmt"] ["datefmt", "style"]
      else arguments? root m [] ["fmt", "datefmt", "style", "validate", "defaults"]
    let _ ← attributes? root m
    configured? (argument? args "fmt") (argument? args "datefmt") (argument? args "style")
      (((argument? args "validate").map Item.isTrue).getD true) isAligned
  | _ => none

/-- A layout by its settings. -/
def plainLayout? (root m : Members) : Option Layout := do
  let read (name : String) : Option (Option Item) := (item? root m name).toOption
  let isAligned ← match ← read "class" with
    | none => some false
    | some i =>
      if !i.isTrue then some false
      else
        match i with
        | .data (.str path) =>
          match Named.ofPath? path with
          | some (.layout isAligned) => some isAligned
          | _ => none
        | _ => none
  let format ← read "format"
  let date ← read "datefmt"
  let mark ← read "style"
  match ← read "validate" with
  | some v => if isAligned then none else configured? format date mark v.isTrue isAligned
  | none => configured? format date mark true isAligned

def readLayout? (root : Members) (i : Item) : Option Layout := do
  let m ← i.members?
  if (member? m factoryKey).isSome then madeLayout? root m else plainLayout? root m

def layoutName (l : Layout) : String :=
  if l.isAligned then "NewLineFormatter" else "Formatter"

/-! ## Filters -/

def filterOf? : Option Item → Option Filter
  | none => some (.named "")
  | some (.data (.str s)) => some (.named s)
  | some (.data (.arr [])) | some (.data (.obj [])) => some (.named "")
  | some (.data (.arr _)) => some (.mistyped "ConvertingList")
  | some (.data (.obj _)) => some (.mistyped "ConvertingDict")
  | some _ => none

def readFilter? (root : Members) (i : Item) : Option Filter := do
  let m ← i.members?
  if (member? m factoryKey).isSome then
    match ← named? root m factoryKey with
    | .filter =>
      let args ← arguments? root (m.filter (·.1 != factoryKey)) [] ["name"]
      let _ ← attributes? root m
      filterOf? (argument? args "name")
    | _ => none
  else
    filterOf? (← (item? root m "name").toOption)

/-- What is listed by name in a part, found among what was read before. -/
def chosen? {α : Type} (known : List (String × α)) (i : Option Item) : Option (List (String × α)) := do
  match i with
  | none => some []
  | some i =>
    if !i.isTrue then some []
    else
      (← i.listed?).mapM fun j =>
        match j with
        | .str name => known.find? (·.1 == name)
        | _ => none

/-! ## Handlers -/

/-- The parts that were read before handlers. -/
structure Known where
  layouts : List (String × Layout)
  filters : List (String × Filter)

/-- The settings that every handler may have. -/
def sharedSettings : List String :=
  ["formatter", "level", "filters"]

def readHandler? (root : Members) (known : Known) (i : Item) : Option Handler := do
  let m ← i.members?
  let layout ← match ← (item? root m "formatter").toOption with
    | some i =>
      if !i.isTrue then some none
      else
        match i with
        | .data (.str name) => (known.layouts.find? (·.1 == name)).map fun l => some l.2
        | _ => none
    | none => some none
  let severity ← match ← (given? root m "level").toOption with
    | none => some Severity.notSet
    | some i => i.severity?
  let filters ← chosen? known.filters (← (item? root m "filters").toOption)
  let made := if (member? m factoryKey).isSome then factoryKey else "class"
  match ← (if made == factoryKey then named? root m made else ofPath? root m made) with
  | .handler kind =>
    let own := m.filter fun e => e.1 != made && !sharedSettings.contains e.1
    let args ← arguments? root own kind.parameters.1 kind.parameters.2
    let isShown := match kind, argument? args "stream" with
      | .stream, some (.named .output) => true
      | _, _ => false
    let ending := match (← attributes? root m).find? (·.1 == "terminator") with
      | none => some "\n"
      | some (_, .str s) => some s
      | some _ => none
    some ⟨kind, severity, layout, filters.map (·.2), isShown, ending⟩
  | _ => none

/-! ## Loggers -/

/-- A logger with the severity, the handlers, the filters and the propagation that are configured for it. One
that is only adjusted keeps its handlers and filters. -/
def readLogger? (root : Members) (known : Known) (handlers : List (String × Handler)) (adjusted : Bool)
    (before : Logger) (i : Item) : Option Logger := do
  let m ← i.members?
  let severity ← match ← (given? root m "level").toOption with
    | none => some before.severity
    | some i => i.severity?
  let propagate ← match ← (given? root m "propagate").toOption with
    | some (.data j) => some j
    | some (.named _) => some (.bool true)
    | none => some before.propagate
  if adjusted then some { before with severity, propagate, disabled := false }
  else
    let found ← chosen? handlers (← (item? root m "handlers").toOption)
    let filters ← chosen? known.filters (← (item? root m "filters").toOption)
    some ⟨severity, (found.eraseDupsBy fun a b => a.1 == b.1).map (·.2), filters.map (·.2), propagate, false⟩

end Patchwork.Log
