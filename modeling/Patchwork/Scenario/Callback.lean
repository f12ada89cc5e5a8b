import Patchwork.Scenario.Step

/-!
What the functions of the described host do when they are called, and reports on what was done: the result or the
failure, with the events on the way.
-/

namespace Patchwork.Scenario

open Run Script

variable {R : World Host → World Host → Prop} [Moves R]

def note (what : List Snapshot) : Within R Unit :=
  emit (.noted what)

/-- Performs steps from inside a call, each of them noted. -/
def performAll (call : Caller Host) [Works call R] (actions : List Step) : Within R Unit :=
  actions.forM fun s => do
    let result ← perform call s
    note [.str "did", .str s.name, result]

def failIf (error : Option String) : Within R Unit :=
  match error with
  | some message => fail (.raised .runtime [.str message])
  | none => pure ()

/-- An argument as it is noted: runtimes by their names. -/
def argumentSnapshot (v : Value) : Within R Snapshot := do
  match runtimeName? (← host) v with
  | some name => pure (.runtime name)
  | none => snapshot v

def callListener (call : Caller Host) [Works call R] (l : ListenerSpec Step) (args : List Value) :
    Within R Value := do
  note [.str "call", .str l.kind.name, .str l.name, .list (← args.mapM argumentSnapshot)]
  l.entries.forM fun (k, v) => do
    match args with
    | target :: _ =>
      match ← object? target with
      | some (.dict _) => setItem call target (.str k) (← build call v)
      | _ => pure ()
    | [] => pure ()
  performAll call l.actions
  failIf l.error
  pure .none

/-- What a test gives for a candidate at the n-th call of its filter. -/
def tested (call : Caller Host) [Calls call R] (n : Nat) (v : Value) : FilterTest → Within R Value
  | .all => pure (.bool true)
  | .raising message => fail (.raised .runtime [.str message])
  | .has key => do pure (.bool (← holds call v (← build call key)))
  | .item key value => do
    let found ← getItem call v (← build call key)
    compareValues call .equal found (← build call value)
  | .entry key value => do
    let get ← readAttr call v "get"
    let found ← ask call get (.of [← build call key])
    compareValues call .equal found (← build call value)
  | .equal value => do compareValues call .equal v (← build call value)
  | .typeNamed name => do pure (.bool ((← heap).typeName false v == name))
  | .nth k => pure (.bool (n == k))
  | .constant b => pure (.bool b)

def replaced (call : Caller Host) [Calls call R] (n : Nat) (groups : List (Option String))
    (names : List (String × Nat)) : ReplaceSpec → Within R Value
  | .value v => build call v
  | .upper => pure (.str (Text.upper ((groups.headD none).getD "")))
  | .group index => do
    let place : Option Nat ← match ← build call index with
      | .str s => pure ((names.find? (·.1 == s)).map (·.2))
      | v =>
        match v.integer? with
        | some i => pure (if i < 0 then none else some i.toNat)
        | none => pure none
    match place with
    | none => fail .noSuchGroup
    | some i =>
      match groups[i]? with
      | none => fail .noSuchGroup
      | some none => pure .none
      | some (some s) => pure (.str s)
  | .wrapped left right => pure (.str (left ++ (groups.headD none).getD "" ++ right))
  | .counted => pure (.str (toString n))
  | .constant v => build call v
  | .raising message => fail (.raised .runtime [.str message])

/-- Stands in for the patching of a table's factories. -/
def patchStandIn (mode : String) (table : Address) (key factory : Value) : Within R Value := do
  note [.str "patch", ← snapshot key, ← snapshot factory]
  let wrapped ← new (.list [.str "patched", factory])
  let text ← str key
  match mode with
  | "nostore" => pure wrapped
  | "raise" => fail (.raised .runtime [.str ("cannot patch " ++ text)])
  | "keyerror" => fail (.noKey key)
  | "drop" =>
    Table.remove table key
    pure wrapped
  | "grow" =>
    if text.length < 3 then Table.store table (.str (text ++ "9")) factory
    Table.store table key wrapped
    pure wrapped
  | _ =>
    Table.store table key wrapped
    pure wrapped

/-- Reads the entry once more before it is stored. -/
def patchAgain (call : Caller Host) [Calls call R] (table : Address) (key factory : Value) :
    Within R Value := do
  note [.str "patch", ← snapshot key, ← snapshot factory]
  note [.str "again", ← snapshot (← Table.read call table key)]
  let wrapped ← new (.list [.str "patched", factory])
  Table.store table key wrapped
  pure wrapped

/-- Calls a function of the host. -/
def callExternal : Surroundings Host := fun call n args => do
  match (← host).functions[n]? with
  | none => pure .none
  | some (f, _) =>
    match f with
    | .condition name answers actions error =>
      match name with
      | some name => note [.str "predicate", .str name]
      | none => pure ()
      performAll call actions
      failIf error
      -- a call from inside the actions has taken its answer before
      let count ← countCall n
      build call (answers.getD (count - 1) (answers.getLastD (.bool true)))
    | .replacer r =>
      let count ← countCall n
      match ← args.positional.head?.elim (pure none) object? with
      | some (.found groups names) => replaced call count groups names r
      | _ => replaced call count [] [] r
    | .listener l => callListener call l args.positional
    | .filter f =>
      let count ← countCall n
      let v := args.positional.headD .none
      note [.str "filter", .str f.name, ← snapshot v]
      performAll call f.actions
      tested call count v f.test
    | .patcher mode =>
      match args.positional with
      | [.ref table, key, factory] =>
        if mode = "reenter" then patchAgain call table key factory
        else patchStandIn mode table key factory
      | _ => pure .none
def callHost : Caller Host :=
  callValue callExternal

/-- What the answers to tasks are computed with. -/
abbrev Act := Working callHost

/-! ## Reports -/

/-- The events so far, in order. -/
def traceSnapshot : Act Snapshot := do
  pure (.list ((← world).trace.reverse.map Event.snapshot))

def clearTrace : Act Unit :=
  setTrace []

/-- The view of a failure. -/
def failureSnapshot (h : Heap) : Fault → Snapshot
  | .failed c => .failure c.kind.name (c.message h)
  | .exhausted => .failure ErrorKind.recursion.name "maximum recursion depth exceeded"

/-- The members that tell how something ended: its result under a name, or its failure. -/
def endMembers (name : String) (m : Act Snapshot) : Act (List (String × Snapshot)) :=
  tryCatch (do pure [(name, ← m)]) fun
    | .failed c => do
      pure [("error", .str c.kind.name), ("message", .str (c.message (← heap)))]
    | .exhausted => throw .exhausted

/-- The report of one step: how it ended, and the events on the way if there were any. -/
def stepReport (m : Act Snapshot) : Act Snapshot := do
  clearTrace
  let ended ← endMembers "ok" m
  let w ← world
  pure (.fields (ended ++ if w.trace.isEmpty then [] else [("trace", .list (w.trace.reverse.map Event.snapshot))]))

/-- The result of a computation, or its failure in place of it. -/
def orFailure (m : Act Snapshot) : Act Snapshot :=
  tryCatch m fun e => do pure (failureSnapshot (← heap) e)

/-- What comes out of a fresh world. -/
def outcome (environment : Environment) (registry : Nat) (m : Act Snapshot) : Snapshot :=
  match (orFailure m).run (World.start environment (Host.start registry)) with
  | .ok v _ => v
  | .error e w => failureSnapshot w.heap e

end Patchwork.Scenario
