import Patchwork.Log.Logger
import Patchwork.Number.FloatText
import Patchwork.Text.Class

/-!
References inside a configuration. A text that begins with `cfg` before `:` and two slashes stands for another
place of the configuration, one that begins with `ext` for something of the surroundings by its dotted name.
-/

namespace Patchwork.Log

abbrev Members := List (String × Json)

def member? (m : Members) (name : String) : Option Json :=
  (m.find? (·.1 == name)).map (·.2)

/-- What a dotted name can stand for. -/
inductive Named where
  | output
  | stream
  | layout (isAligned : Bool)
  | filter
  | handler (k : HandlerKind)

/-- What stands somewhere in a configuration, with its reference followed. -/
inductive Item where
  | data (j : Json)
  | named (n : Named)

namespace Named

/-- All that has a dotted name. -/
def all : List (String × Named) :=
  [("sys.stdout", .output), ("sys.stderr", .stream), ("sys.stdin", .stream), ("sys.__stdout__", .stream),
    ("sys.__stderr__", .stream), ("logging.Formatter", .layout false), ("logging.Filter", .filter),
    ("hostpatch.logging_utils.NewLineFormatter", .layout true),
    ("hostpatch.logging_utils.formatter.NewLineFormatter", .layout true)] ++
    [HandlerKind.stream, .null, .file].map (fun k => ("logging." ++ k.name, .handler k)) ++
    [HandlerKind.buffering, .memory].map fun k => ("logging.handlers." ++ k.name, .handler k)

def ofPath? (path : String) : Option Named :=
  (all.find? (·.1 == path)).map (·.2)

end Named

/-- What a dotted name stands for: a number of a severity, or something with a name of its own. -/
def Item.ofPath? (path : String) : Option Item :=
  match Severity.named.find? fun e => "logging." ++ e.1 == path with
  | some (_, n) => some (.data (.int n))
  | none => (Named.ofPath? path).map .named

/-- Why a reference leads nowhere. -/
inductive ReferenceFault where
  | missing (name : String)
  | unresolved (path : String)
  | unreadable (path : String)
  deriving DecidableEq

/-- A step from a place of a configuration to one inside it. -/
inductive PathStep where
  | member (name : String)
  | index (n : Nat)

def isWordChar (c : Char) : Bool :=
  Text.isAlphanumeric c || c == '_'

/-- A word with blanks around it, and the rest. -/
def word? (s : List Char) : Option (String × List Char) :=
  let s := s.dropWhile Text.isBlank
  match s.takeWhile isWordChar with
  | [] => none
  | w => some (String.ofList w, (s.dropWhile isWordChar).dropWhile Text.isBlank)

/-- The steps of a path behind its first word; the fuel bounds its length. -/
def pathSteps? : Nat → List Char → Option (List PathStep)
  | 0, _ => none
  | fuel + 1, s =>
    match s with
    | [] => some []
    | '.' :: r => do
      let (w, r) ← word? r
      some (.member w :: (← pathSteps? fuel r))
    | '[' :: r =>
      match word? r with
      | some (w, ']' :: r) => do
        let step := match Number.natOf? w.toList with
          | some n => if w.toList.all Text.isDecimal then .index n else .member w
          | none => .member w
        some (step :: (← pathSteps? fuel (r.dropWhile Text.isBlank)))
      | _ => none
    | _ => none

/-- What stands behind a mark with `:` and two slashes. -/
def referred? (mark : String) (s : String) : Option String :=
  (Text.after? (mark.toList ++ [':', '/', '/']) s.toList).bind fun r =>
    if r.dropLast.contains '\n' then none
    else some (String.ofList (if r.getLast? == some '\n' then r.dropLast else r))

/-- How many references may lead to one another. -/
def referenceLimit : Nat := 50

/-- What stands at a place, with its reference followed. -/
def followed (root : Members) : Nat → Json → Except ReferenceFault Item
  | 0, _ => .error (.unreadable "")
  | fuel + 1, .str s =>
    match referred? "ext" s, referred? "cfg" s with
    | some path, _ =>
      match Item.ofPath? path with
      | some i => .ok i
      | none => .error (.unresolved path)
    | none, some path =>
      match word? path.toList with
      | none => .error (.unreadable path)
      | some (w, r) =>
        match pathSteps? (r.length + 1) r with
        | none => .error (.unreadable path)
        | some steps => (PathStep.member w :: steps).foldlM (stepped (followed root fuel)) (.data (.obj root))
    | none, none => .ok (.data (.str s))
  | _ + 1, j => .ok (.data j)
where
  stepped (follow : Json → Except ReferenceFault Item) (i : Item) : PathStep → Except ReferenceFault Item
    | .member name =>
      match i with
      | .data (.obj m) =>
        match member? m name with
        | some j => follow j
        | none => .error (.missing (Text.quoted name))
      | _ => .error (.unreadable name)
    | .index n =>
      match i with
      | .data (.arr items) =>
        match items[n]? with
        | some j => follow j
        | none => .error (.unreadable "")
      | _ => .error (.missing (toString n))

/-- What stands at a place of a configuration. -/
def follow (root : Members) (j : Json) : Except ReferenceFault Item :=
  followed root referenceLimit j

/-- What a member stands for, if it is there. -/
def item? (root m : Members) (name : String) : Except ReferenceFault (Option Item) :=
  match member? m name with
  | some j => (follow root j).map some
  | none => .ok none

/-- What a member that is there and not null stands for. -/
def given? (root m : Members) (name : String) : Except ReferenceFault (Option Item) := do
  match ← item? root m name with
  | some (.data .null) => .ok none
  | found => .ok found

namespace Item

def isTrue : Item → Bool
  | data j => Log.isTrue j
  | named _ => true

/-- The members of an object. -/
def members? : Item → Option Members
  | data (.obj m) => some m
  | _ => none

/-- A severity by its name or its number. -/
def severity? : Item → Option Severity
  | data (.int n) => some (.of n)
  | data (.bool b) => some ⟨if b then 1 else 0, b⟩
  | data (.str s) => Severity.ofName? s
  | _ => none

/-- What a value gives one by one: letters of a text, items, names of members. -/
def listed? : Item → Option (List Json)
  | data (.str s) => some (s.toList.map fun c => .str c.toString)
  | data (.arr items) => some items
  | data (.obj m) => some (m.map fun e => .str e.1)
  | _ => none

end Item

/-- What a JSON value is called. -/
def jsonType : Json → String
  | .null => "NoneType"
  | .bool _ => "bool"
  | .int _ => "int"
  | .float _ => "float"
  | .str _ => "str"
  | .arr _ => "list"
  | .obj _ => "dict"

mutual

/-- A JSON value as messages show it. -/
def shownJson : Json → String
  | .null => "None"
  | .bool b => if b then "True" else "False"
  | .int n => toString n
  | .float x => x.text
  | .str s => Text.quoted s
  | .arr items => "[" ++ shownItems items ++ "]"
  | .obj members => "\x7b" ++ shownMembers members ++ "\x7d"

def shownItems : List Json → String
  | [] => ""
  | [v] => shownJson v
  | v :: r => shownJson v ++ ", " ++ shownItems r

def shownMembers : List (String × Json) → String
  | [] => ""
  | [(n, v)] => Text.quoted n ++ ": " ++ shownJson v
  | (n, v) :: r => Text.quoted n ++ ": " ++ shownJson v ++ ", " ++ shownMembers r

end

end Patchwork.Log
