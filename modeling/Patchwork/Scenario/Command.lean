import Patchwork.Scenario.Host
import Patchwork.Scenario.Report

/-!
Commands on a table, and its state as seen from outside.
-/

namespace Patchwork.Scenario

open Run Script

variable {R : World Host → World Host → Prop} [Moves R]

/-- Views of values. -/
def snapshots (vs : List Value) : Within R (List Snapshot) :=
  vs.mapM snapshot

def pairSnapshot (e : Value × Value) : Within R Snapshot := do
  pure (.list [← snapshot e.1, ← snapshot e.2])

/-- The keys of a table by their standing. -/
def tableState (a : Address) : Within R Snapshot := do
  let t ← tableAt a
  let sorted (vs : List Value) : Within R Snapshot := do
    pure (.list (Snapshot.sorted (← snapshots vs)))
  pure (.fields [("keys", .list (← snapshots t.keys)), ("hidden", ← sorted t.hidden),
    ("processed", ← sorted t.processed), ("pinned", ← sorted t.pinned)])

/-- Runs a command on a table. -/
def onTable (call : Caller Host) [Calls call R] (a : Address) (name : String) (args : List Value) :
    Within R Snapshot := do
  let key := args.headD .none
  let second := args[1]?
  let none_ : Within R Unit → Within R Snapshot := fun m => do
    m
    pure .null
  match name with
  | "get" => do snapshot (← Table.read call a key)
  | "getdef" => do snapshot ((← Table.read? call a key).getD (second.getD .none))
  | "set" => none_ (Table.store a key (second.getD .none))
  | "del" => none_ (Table.remove a key)
  | "in" => do pure (.bool (← Script.holds call (.ref a) key))
  | "keys" => do pure (.list (← snapshots (← Table.visit a pure)))
  | "items" => do pure (.list (← (← Table.readAll call a).mapM pairSnapshot))
  | "values" => do pure (.list (← snapshots ((← Table.readAll call a).map (·.2))))
  | "len" => do pure (.int (← tableAt a).size)
  | "bool" => do pure (.bool ((← tableAt a).size ≠ 0))
  | "repr" => do pure (.str (← tableAt a).text)
  | "own_keys" => do pure (.list (← snapshots (← tableAt a).ownKeys))
  | "describe" => do snapshot (← Table.descriptorValue (← Table.inspect a key))
  | "hide" => none_ (Table.conceal a key)
  | "processed" => do
    checkKey key
    pure (.bool ((← tableAt a).isProcessed key))
  | "pop" => do snapshot (← Table.take call a key second)
  | "popitem" => do pairSnapshot (← Table.takeFirst call a)
  | "clear" => none_ (Table.clear call a)
  | "setdefault" => do snapshot (← Table.readOrStore call a key (second.getD .none))
  | "update" => none_ (Table.update call call a key)
  | "eq" => do pure (.bool (← Table.sameAs call call a (← entriesOf call key)))
  | "state" => tableState a
  | name => noAttribute (.ref a) name

/-- Runs a command on another mapping. -/
def onMapping (call : Caller Host) [Calls call R] (v : Value) (name : String) (args : List Value) :
    Within R Snapshot := do
  let key := args.headD .none
  let method (m : String) : Within R Value := do ask call (← readAttr call v m) (.of args)
  let listOf (m : String) : Within R Snapshot := do
    snapshot (← new (.list (← Script.items call (← method m))))
  match name with
  | "get" => do snapshot (← getItem call v key)
  | "getdef" => do snapshot (← method "get")
  | "set" => do
    setItem call v key (args.getD 1 .none)
    pure .null
  | "del" => do
    deleteItem call v key
    pure .null
  | "in" => do pure (.bool (← Script.holds call v key))
  | "keys" | "items" | "values" => listOf name
  | "len" => do pure (.int (← lengthOf call v))
  | "bool" => do pure (.bool (← truth call v))
  | "repr" => do pure (.str (← shown call v))
  | "eq" => do
    let other ← new (.dict ((← entriesOf call key).foldl (fun d e => Value.insert d e.1 e.2) []))
    snapshot (← compareValues call .equal v other)
  | "processed" => noAttribute v "is_processed"
  | "state" => noAttribute v "hidden"
  | name => do snapshot (← method name)

/-- Runs a described command. -/
def runCommand (call : Caller Host) [Calls call R] (table : Value) (c : TableCommand) : Within R Snapshot := do
  let args ← buildAll call c.args
  match table, ← object? table with
  | .ref a, some (.table _) => onTable call a c.name args
  | v, _ => onMapping call v c.name args

end Patchwork.Scenario
