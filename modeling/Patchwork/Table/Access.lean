import Patchwork.Script.Container
import Patchwork.Store.Beside

/-!
Reading and changing a table that patches its factories when they are first read. All ways of reading an
entry go through one read, and all ways of removing one through one removal.
-/

namespace Patchwork.Table

open Run Script

variable {κ : Type} {R : World κ → World κ → Prop} [Moves R]

/-- Reads an entry. The first read of a factory under a module id patches it. -/
def read (call : Caller κ) [Calls call R] (a : Address) (key : Value) : Within R Value := do
  checkKey key
  let t ← tableAt a
  match t.get? key with
  | none => fail (.noKey key)
  | some factory =>
    if t.isFresh key factory then
      setTable a (t.process key)
      ask call t.patcher (.of [.ref a, key, factory])
    else pure factory

/-- Stores an entry. -/
def store (a : Address) (key value : Value) : Within R Unit := do
  checkKey key
  setTable a ((← tableAt a).set key value)

/-- Removes an entry, unless it was described. -/
def remove (a : Address) (key : Value) : Within R Unit := do
  checkKey key
  let t ← tableAt a
  if t.isPinned key then fail (.pinnedEntry key)
  if t.contains key then setTable a (t.erase key) else fail (.noKey key)

/-- Hides an entry, stored or not. -/
def conceal (a : Address) (key : Value) : Within R Unit := do
  checkKey key
  setTable a ((← tableAt a).hide key)

/-- Describes an entry, which may not go away from then on. -/
def inspect (a : Address) (key : Value) : Within R (Option EntryDescriptor) := do
  let t ← tableAt a
  if !isReserved key then checkKey key
  let (d, t) := t.describe key
  setTable a t
  pure d

/-- Visits the listed keys in order. The visit fails if the number of entries changes meanwhile; `passed`
are the keys behind, `size` is the number of entries at the start, and the fuel bounds the visits left. -/
def visitFrom {α : Type} (a : Address) (size : Nat) (f : Value → Within R α) (passed : List Value) :
    Nat → Within R (List α)
  | 0 => do
    let t ← tableAt a
    if t.factories.length ≠ size then fail .sizeChanged
    if t.factories.any fun e => !holds passed e.1 then fail .keysChanged
    pure []
  | fuel + 1 => do
    let t ← tableAt a
    if t.factories.length ≠ size then fail .sizeChanged
    match t.factories.find? fun e => !holds passed e.1 with
    | none => pure []
    | some (key, _) =>
      if t.isHidden key then visitFrom a size f (key :: passed) fuel
      else
        let v ← f key
        pure (v :: (← visitFrom a size f (key :: passed) fuel))

def visit {α : Type} (a : Address) (f : Value → Within R α) : Within R (List α) := do
  let n := (← tableAt a).factories.length
  visitFrom a n f [] n

/-- The listed keys with their values, each of them read. -/
def readAll (call : Caller κ) [Calls call R] (a : Address) : Within R (List (Value × Value)) :=
  visit a fun k => do pure (k, ← read call a k)

/-- Reads an entry; `none` if the key is missing or the read fails for a missing key. -/
def read? (call : Caller κ) [Calls call R] (a : Address) (key : Value) : Within R (Option Value) :=
  handle (do pure (some (← read call a key))) fun c =>
    if c.kind.isA .key then pure none else fail c

/-- Reads an entry and removes it. -/
def take (call : Caller κ) [Calls call R] (a : Address) (key : Value) (default : Option Value) :
    Within R Value := do
  match default with
  | none =>
    let v ← read call a key
    remove a key
    pure v
  | some d =>
    match ← read? call a key with
    | some v =>
      remove a key
      pure v
    | none => pure d

/-- Reads the first listed entry and removes it. -/
def takeFirst (call : Caller κ) [Calls call R] (a : Address) : Within R (Value × Value) := do
  match (← tableAt a).keys with
  | [] => fail .nothingToPop
  | key :: _ =>
    let v ← read call a key
    remove a key
    pure (key, v)

/-- Takes first entries until a key is missing; the fuel bounds their number. -/
def clearFrom (call : Caller κ) [Calls call R] (a : Address) : Nat → Within R Unit
  | 0 => throw .exhausted
  | fuel + 1 => do
    let done ← handle (do
      let _ ← takeFirst call a
      pure false) fun c => if c.kind.isA .key then pure true else fail c
    if done then pure () else clearFrom call a fuel

/-- Takes entries out from the first on. -/
def clear (call : Caller κ) [Calls call R] (a : Address) : Within R Unit := do
  clearFrom call a ((← tableAt a).factories.length + 1000000)

/-- Reads an entry, or stores a value for a missing one. -/
def readOrStore (call : Caller κ) [Calls call R] (a : Address) (key default : Value) : Within R Value := do
  match ← read? call a key with
  | some v => pure v
  | none =>
    store a key default
    pure default

/-- Stores the entries of a mapping, or of a sequence of pairs. Those of a table are read with `patch`. -/
def update (call patch : Caller κ) [Calls call R] [Calls patch R] (a : Address) (other : Value) :
    Within R Unit := do
  match other, ← object? other with
  | .ref b, some (.table _) =>
    let _ ← visit b fun k => do store a k (← read patch b k)
  | _, _ =>
    match ← withCalls call (mappingEntries? call other) with
    | some es => es.forM fun e => do store a e.1 (← withCalls call e.2)
    | none =>
      (← withCalls call (items call other)).forM fun e => do
        match ← withCalls call (unpacked call e) with
        | [k, v] => store a k v
        | vs => if vs.length < 2 then fail (.unpackFew 2 vs.length) else fail (.unpackMany 2)

/-- Whether the entries, each of them read with `patch`, are those of a mapping. -/
def sameAs (call patch : Caller κ) [Calls call R] [Calls patch R] (a : Address) (other : List (Value × Value)) :
    Within R Bool := do
  let own := (← readAll patch a).foldl (fun d e => Value.insert d e.1 e.2) []
  let own ← new (.dict own)
  let other ← new (.dict other)
  withCalls call (equal call own other)

/-- The key and the value that may be given for a missing entry. -/
def keyAndDefault (function : String) (args : Arguments) : Within R (Value × Option Value) := do
  let named? (n : String) := Attributes.get? args.named n
  match args.positional with
  | [] =>
    match named? "key" with
    | some k => pure (k, named? "default")
    | none => fail (.missing function false ["key"])
  | [k] => pure (k, named? "default")
  | k :: d :: _ => pure (k, some d)

def descriptorValue (d : Option EntryDescriptor) : Within R Value :=
  match d with
  | some d => new (.descriptor d)
  | none => pure .none

/-- The key that a method with one parameter is called with. -/
def givenKey (function : String) (args : Arguments) : Within R Value :=
  match args.positional, Attributes.get? args.named "key" with
  | [key], none => pure key
  | [], some key => pure key
  | [], none => fail (.missing function false ["key"])
  | vs, _ => fail (.tooMany function 2 2 (vs.length + 1) 0)

/-- A method of a table. The table calls its patcher with `patch`, and all else with `call`. -/
def callMethod (call patch : Caller κ) [Calls call R] [Calls patch R] (a : Address) (name : String)
    (args : Arguments) : Within R Value := do
  let full := "LazyModuleTable." ++ name
  match name with
  | "__getitem__" => do read patch a (← givenKey full args)
  | "__delitem__" => do
    remove a (← givenKey full args)
    pure .none
  | "__setitem__" =>
    match args.positional with
    | [k, v] => do
      store a k v
      pure .none
    | vs => fail (.missing full false (["key", "value"].drop vs.length))
  | "__contains__" => do pure (.bool (← withCalls call (Script.holds call (.ref a) (← givenKey full args))))
  | "__len__" => do pure (.int (← tableAt a).size)
  | "hide" => do
    conceal a (← givenKey full args)
    pure .none
  | "is_processed" => do
    let k ← givenKey full args
    checkKey k
    pure (.bool ((← tableAt a).isProcessed k))
  | "describe" => do descriptorValue (← inspect a (← givenKey full args))
  | "own_keys" => do new (.list (← tableAt a).ownKeys)
  | "keys" => do new (.view .keys (← tableAt a).keys)
  | "values" => do new (.view .values ((← readAll patch a).map (·.2)))
  | "items" => do new (.view .items ((← readAll patch a).map fun e => .tuple [e.1, e.2]))
  | "clear" => do
    clear patch a
    pure .none
  | "popitem" => do
    let (k, v) ← takeFirst patch a
    pure (.tuple [k, v])
  | "update" => do
    args.positional.forM (update call patch a)
    args.named.forM fun e => store a (.str e.1) e.2
    pure .none
  | _ =>
    let (k, d) ← keyAndDefault ("Mapping." ++ name) args
    match name with
    | "get" => do pure ((← read? patch a k).getD (d.getD .none))
    | "pop" => take patch a k d
    | _ => readOrStore patch a k (d.getD .none)

end Patchwork.Table
