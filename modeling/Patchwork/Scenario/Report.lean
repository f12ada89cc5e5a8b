import Patchwork.Json.Basic
import Patchwork.Store.Snapshot

/-!
Reports: views of values and traces of events as JSON.
-/

namespace Patchwork

def hexText (data : List UInt8) : String :=
  String.ofList (data.flatMap fun b => Text.hexDigits 2 b.toNat)

namespace Snapshot

mutual

/-- A view as a JSON value. -/
def json : Snapshot → Json
  | null => .null
  | bool b => .bool b
  | int n => .int n
  | float text => .obj [("float", .str text)]
  | number x => .float x
  | str s => .str s
  | bytes data => .obj [("bytes", .str (hexText data))]
  | list items => .arr (jsonItems items)
  | dict entries => .obj [("dict", .arr (jsonEntries entries))]
  | builtins => .obj [("builtins", .bool true)]
  | table text => .obj [("table", .str text)]
  | descriptor key value enumerable writable configurable =>
    .obj [("key", key.json), ("value", value.json), ("enumerable", .bool enumerable),
      ("writable", .bool writable), ("configurable", .bool configurable)]
  | function name => .obj [("fn", .str name)]
  | plain attrs => .obj [("obj", .arr (jsonAttrs attrs))]
  | token text => .obj [("named", .str text)]
  | runtime name => .obj [("runtime", .str name)]
  | other type => .obj [("type", .str type)]
  | failure kind message => .obj [("error", .str kind), ("message", .str message)]
  | fields members => .obj (jsonMembers members)

def jsonItems : List Snapshot → List Json
  | [] => []
  | v :: r => v.json :: jsonItems r

def jsonEntries : List (Snapshot × Snapshot) → List Json
  | [] => []
  | (k, v) :: r => .arr [k.json, v.json] :: jsonEntries r

def jsonAttrs : List (String × Snapshot) → List Json
  | [] => []
  | (n, v) :: r => .arr [.str n, v.json] :: jsonAttrs r

def jsonMembers : List (String × Snapshot) → List (String × Json)
  | [] => []
  | (n, v) :: r => (n, v.json) :: jsonMembers r

end

mutual

/-- A JSON value as a view. -/
def ofJson : Json → Snapshot
  | .null => .null
  | .bool b => .bool b
  | .int n => .int n
  | .float x => .number x
  | .str s => .str s
  | .arr items => .list (ofJsonItems items)
  | .obj members => .fields (ofJsonMembers members)

def ofJsonItems : List Json → List Snapshot
  | [] => []
  | j :: r => .ofJson j :: ofJsonItems r

def ofJsonMembers : List (String × Json) → List (String × Snapshot)
  | [] => []
  | (n, j) :: r => (n, .ofJson j) :: ofJsonMembers r

end

/-- A letter outside ASCII by the numbers of its halves. -/
def escapedChar (c : Char) : List Char :=
  let n := c.toNat
  let unit (n : Nat) : List Char := '\\' :: 'u' :: Text.hexDigits 4 n
  if n < 0x80 then [c]
  else if n < 0x10000 then unit n
  else unit (0xd800 + (n - 0x10000) / 0x400) ++ unit (0xdc00 + (n - 0x10000) % 0x400)

/-- The text by which values are sorted: their JSON in the letters of ASCII. -/
def sortText (s : Snapshot) : String :=
  String.ofList (s.json.written.toList.flatMap escapedChar)

def sorted (items : List Snapshot) : List Snapshot :=
  items.mergeSort fun a b => a.sortText ≤ b.sortText

/-- Text if there is any. -/
def ofText? : Option String → Snapshot
  | some s => str s
  | none => null

end Snapshot

/-- An event as a list that begins with its kind. -/
def Event.snapshot : Event → Snapshot
  | log level message failure =>
    .list [.str "log", .str level.name, .str message,
      .ofText? (failure.map fun f => f.1 ++ ": " ++ f.2)]
  | noted what => .list what

end Patchwork
