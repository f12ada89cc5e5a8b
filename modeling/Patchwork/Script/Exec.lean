import Patchwork.Script.ClassForm

/-!
Running statements, functions and whole texts.
-/

namespace Patchwork.Script

open Run

variable {κ : Type} {R : World κ → World κ → Prop} [Still R]

/-- Calls the decorators of a definition, the last one first. -/
def decorate (call : Caller κ) [Calls call R] (v : Value) (decorators : List Value) : Within R Value :=
  decorators.reverse.foldlM (fun v d => ask call d (.of [v])) v

/-- A module by name; only the one of the built-in names exists. -/
def importModule (name : String) : Within R Value :=
  if name = "builtins" then pure (.ref builtinsModule) else fail (.unknownModule name)

/-- Removes what a target stands for. -/
def deleteTarget (call : Caller κ) [Calls call R] (f : Frame) : Expr → Within R Unit
  | .name id => remove f id
  | .attr e name => do deleteAttr (← eval call f e) name
  | .index e key => do
    let v ← eval call f e
    deleteItem call v (← eval call f key)
  | .tuple targets => deleteTargets targets
  | .list targets => deleteTargets targets
  | _ => fail .syntaxFault
where
  deleteTargets : List Expr → Within R Unit
    | [] => pure ()
    | .name id :: r => do
      remove f id
      deleteTargets r
    | .attr e name :: r => do
      deleteAttr (← eval call f e) name
      deleteTargets r
    | .index e key :: r => do
      let v ← eval call f e
      deleteItem call v (← eval call f key)
      deleteTargets r
    | _ :: r => deleteTargets r

/-- What a `raise` of an error leads to; its class may give its text. -/
def raiseFailure (call : Caller κ) [Calls call R] (v : Value) : Within R Flow := do
  match (← heap).core v with
  | .failure k args =>
    match ← askText call v "__str__" with
    | some text => fail (.worded k text)
    | none => fail (.raised k args)
  | _ => fail .notException

/-- What a `raise` of a value leads to; of a class an object is made first. -/
def raiseValue (call : Caller κ) [Calls call R] (v : Value) : Within R Flow := do
  match v with
  | .native (.error k) => fail (.raised k [])
  | .ref a =>
    if ((← heap).errorKind? a).isSome then do raiseFailure call (← ask call v (.of [])) else raiseFailure call v
  | v => raiseFailure call v

/-- How many rounds a loop may take. -/
def loopLimit : Nat := 1000000

/-- Runs a body as long as a test holds. -/
def rounds (test : Within R Bool) (body otherwise : Within R Flow) : Nat → Within R Flow
  | 0 => throw .exhausted
  | fuel + 1 => do
    if ← test then
      match ← body with
      | .stop => pure .next
      | .give v => pure (.give v)
      | _ => rounds test body otherwise fuel
    else otherwise

/-- Runs a body for each of some values. -/
def overItems (assign : Value → Within R Unit) (body otherwise : Within R Flow) : List Value → Within R Flow
  | [] => otherwise
  | v :: r => do
    assign v
    match ← body with
    | .stop => pure .next
    | .give w => pure (.give w)
    | _ => overItems assign body otherwise r

mutual

def exec (call : Caller κ) [Calls call R] (f : Frame) : Stmt → Within R Flow
  | .expr e => do
    let _ ← eval call f e
    pure .next
  | .assign targets value => do
    let v ← eval call f value
    targets.forM fun t => assign call f t v
    pure .next
  | .augment target op value => do
    match target with
    | .attr e name =>
      let o ← eval call f e
      let old ← readAttr call o name
      let v ← augmented call op old (← eval call f value)
      setAttr call o name v
    | .index e key =>
      let o ← eval call f e
      let k ← eval call f key
      let old ← getItem call o k
      let v ← augmented call op old (← eval call f value)
      setItem call o k v
    | t =>
      let old ← eval call f t
      let v ← augmented call op old (← eval call f value)
      assign call f t v
    pure .next
  | .annotate target value => do
    match value with
    | some e => do
      let v ← eval call f e
      assign call f target v
    | none => pure ()
    pure .next
  | .give none => pure (.give .none)
  | .give (some e) => do pure (.give (← eval call f e))
  | .raise none => fail .nothingActive
  | .raise (some e) => do raiseValue call (← eval call f e)
  | .assert test message => do
    if ← truth call (← eval call f test) then pure .next
    else
      match message with
      | some e => do
        let v ← eval call f e
        fail (.raised .assertion [v])
      | none => fail (.raised .assertion [])
  | .delete targets => do
    targets.forM (deleteTarget call f)
    pure .next
  | .global _ => pure .next
  | .nonlocal _ => pure .next
  | .imports modules => do
    modules.forM fun m => do
      let v ← importModule m.1
      store f (importedName m.1 m.2) v
    pure .next
  | .importFrom module names => do
    let v ← importModule module
    names.forM fun n => do
      match ← getAttr? v n.1 with
      | some w => store f (n.2.getD n.1) w
      | none => fail (.unknownImport n.1 module)
    pure .next
  | .pass => pure .next
  | .stop => pure .stop
  | .skip => pure .skip
  | .choose test yes no => do
    if ← truth call (← eval call f test) then execAll call f yes else execAll call f no
  | .loop test body otherwise => do
    rounds (do truth call (← eval call f test)) (execAll call f body) (execAll call f otherwise) loopLimit
  | .each target e body otherwise => do
    let vs ← items call (← eval call f e)
    overItems (fun v => assign call f target v) (execAll call f body) (execAll call f otherwise) vs
  | .define name shown ps defaults decorators body row => do
    let ds ← evalItems call f decorators
    let defaults ← evalDefaults call f defaults
    let v ← makeFunction f shown (Code.of ps (.block body) f.file row) defaults
    store f name (← decorate call v ds)
    pure .next
  | .describe name shown args decorators body _ => do
    let ds ← evalItems call f decorators
    let args ← evalArgs call f (.native (.function "__build_class__")) ⟨[], []⟩ args
    let names := stmtsNames body
    let full := if f.declared.contains name then shown else f.qualify shown
    let module ← loadGlobal f.globals "__name__"
    let doc : List (Value × Value) := match body with
      | .expr (.str s) :: _ => [(.str "__doc__", .str s)]
      | _ => []
    let d ← alloc (.dict ([(.str "__module__", module), (.str "__qualname__", .str full)] ++ doc))
    let inside : Frame :=
      { f with
        locals := some d
        cells := f.visible names.freeInClass
        own := []
        declared := names.globals
        path := [full] }
    let _ ← execAll call inside body
    let v ← makeClass call shown args.positional args.named d
    store f name (← decorate call v ds)
    pure .next

def execAll (call : Caller κ) [Calls call R] (f : Frame) : List Stmt → Within R Flow
  | [] => pure .next
  | s :: r => do
    match ← exec call f s with
    | .next => execAll call f r
    | flow => pure flow

end

/-- The values of a call's arguments by parameter. -/
def bindArguments (f : Function) (args : Arguments) : Within R (List (String × Value)) := do
  let p := f.code.params
  let name := f.qualifiedName
  let given := p.plain.zip args.positional
  let extra := args.positional.drop p.plain.length
  let nameable := p.plain.drop p.plainOnly ++ p.namedOnly
  let mut bound := given
  let mut more : List (String × Value) := []
  for (k, v) in args.named do
    if nameable.contains k then
      if bound.any (·.1 == k) then fail (.repeated name k)
      bound := bound ++ [(k, v)]
    else if p.namedRest.isSome then more := more ++ [(k, v)]
    else if p.plain.contains k then
      fail (.plainOnly name ((args.named.map (·.1)).filter (p.plain.take p.plainOnly).contains))
    else fail (.unexpected name k)
  if !extra.isEmpty && p.rest.isNone then
    let least := (p.plain.filter fun n => !f.defaults.any (·.1 == n)).length
    let named := (p.namedOnly.filter fun n => bound.any (·.1 == n)).length
    fail (.tooMany name least p.plain.length args.positional.length named)
  let lacking (names : List String) := names.filter fun n =>
    !bound.any (·.1 == n) && !f.defaults.any (·.1 == n)
  if !(lacking p.plain).isEmpty then fail (.missing name false (lacking p.plain))
  if !(lacking p.namedOnly).isEmpty then fail (.missing name true (lacking p.namedOnly))
  let filled := bound ++ f.defaults.filter fun d => !bound.any (·.1 == d.1)
  let rest := p.rest.toList.map fun n => (n, Value.tuple extra)
  let namedRest ← p.namedRest.toList.mapM fun n => do
    pure (n, ← new (.dict (more.map fun m => (.str m.1, m.2))))
  pure (filled ++ rest ++ namedRest)

/-- Runs a function of a script. -/
def invoke (call : Caller κ) [Calls call R] (f : Function) (args : Arguments) : Within R Value := do
  let bound ← bindArguments f args
  let cells ← f.code.locals.mapM fun n => do
    pure (n, ← alloc (.cell ((bound.find? (·.1 == n)).map (·.2))))
  let frame : Frame :=
    { locals := none
      cells := cells ++ f.captured
      own := f.code.locals
      globals := f.globals
      declared := f.code.globals
      file := f.code.file
      path := [f.qualifiedName, "<locals>"] }
  match f.code.body with
  | .value e => eval call frame e
  | .block body =>
    match ← execAll call frame body with
    | .give v => pure v
    | _ => pure .none

/-- Gives a dictionary of globals the built-in names if it has none. -/
def addBuiltins (globals : Address) : Within R Unit := do
  let es ← entries globals
  if !Value.hasKey es (.str "__builtins__") then
    write globals (.entries (Value.insert es (.str "__builtins__") (.ref builtinsDict)))

/-- Runs a whole text over two dictionaries, which may be the same. -/
def runText (call : Caller κ) [Calls call R] (body : List Stmt) (file : String) (globals locals : Address) :
    Within R Unit := do
  addBuiltins globals
  let frame : Frame := ⟨some locals, [], [], globals, (stmtsNames body).globals, file, []⟩
  let _ ← execAll call frame body

end Patchwork.Script
