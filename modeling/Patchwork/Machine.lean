import Patchwork.Hook.Install
import Patchwork.Script.Builtin
import Patchwork.Script.Construct
import Patchwork.Table.Access

/-!
Calling values. All operations take what they call as a parameter; here the calls are tied together, down to
a fixed depth.
-/

namespace Patchwork

open Run Script

variable {κ : Type} {R : World κ → World κ → Prop} [Moves R]

/-- What the surroundings do when one of their functions is called. They act on patches and subscriptions by
operations and calls only. -/
abbrev Surroundings (κ : Type) := (call : Caller κ) → Nat → Arguments → Working call Value

/-- A module before it runs. -/
def newModule (id exports : Value) : Within R Value := do
  new (.instance moduleClass [("id", id), ("exports", exports)] none)

/-- The attribute of a runtime that names the one with its module table. -/
def tableNameAttr : String := "table_attr"

/-- The cache of a runtime, made if there is none. -/
def cacheOf (call : Caller κ) [Calls call R] (runtime : Value) : Within R Value := do
  let own ← match ← object? runtime with
    | some (.instance _ attrs _) => pure (attrs.get? "cache")
    | _ => pure none
  match own with
  | some c => pure c
  | none =>
    let c ← new (.dict [])
    setAttr call runtime "cache" c
    pure c

/-- Hands out the exports of a module, which is run first unless the cache has it. -/
def requireModule (call : Caller κ) [Calls call R] (runtime id : Value) : Within R Value := do
  let cache ← cacheOf call runtime
  if ← holds call cache id then readAttr call (← getItem call cache id) "exports"
  else
    let module ← newModule id (← new (.dict []))
    setItem call cache id module
    let tableName ← match ← readAttr? call runtime tableNameAttr with
      | some (.str s) => pure s
      | _ => pure "modules"
    let factory ← getItem call (← readAttr call runtime tableName) id
    let exports ← getAttr module "exports"
    let _ ← ask call factory (.of [module, exports, runtime])
    getAttr module "exports"

/-- What an object of a class holds at first of the built-in type that the class inherits from; an object of an
unchanging type is made from the arguments at once. -/
def firstCore (call : Caller κ) [Calls call R] (cls : Address) (args : Arguments) :
    Within R (Option Value) := do
  let h ← heap
  match h.errorKind? cls, h.nativeBase? cls with
  | some k, _ => pure (some (.failure k args.positional))
  | none, some (.type t) =>
    if [BuiltinType.dict, .list, .set].contains t then do pure (some (← callType call t (.of [])))
    else do pure (some (← callType call t args))
  | none, _ => pure none

/-- Fills an object as the built-in type does that its class inherits from. -/
def fillCore (call : Caller κ) [Calls call R] (cls : Address) (made : Value) (args : Arguments) :
    Within R Unit := do
  let h ← heap
  let refuse : Within R Unit :=
    if args.positional.isEmpty && args.named.isEmpty then pure ()
    else mistyped s!"{h.typeName false made}() takes no arguments"
  match h.nativeBase? cls, h.core made with
  | some (.type t), .ref a =>
    if [BuiltinType.dict, .list, .set].contains t then do
      match ← object? (← callType call t args) with
      | some (.list vs) | some (.set vs) => write a (.items vs)
      | some (.dict es) => write a (.entries es)
      | _ => pure ()
    else pure ()
  | some (.error _), _ => if args.named.isEmpty then pure () else fail (.noNamed (h.typeName false made))
  | some _, _ => pure ()
  | none, _ => refuse

/-- Makes an object of a class. -/
def instantiate (call : Caller κ) [Calls call R] (cls : Address) (args : Arguments) : Within R Value := do
  let made ← new (.instance cls [] (← firstCore call cls args))
  match (← heap).classAttr? cls "__init__" with
  | some f =>
    match ← ask call ((← heap).onInstance made f) args with
    | .none => pure made
    | v => do mistyped s!"__init__() should return None, not {Text.quoted (← kindOf v)}"
  | none =>
    fillCore call cls made args
    pure made

/-- One call, with the calls inside it left to `call`. -/
def callOnce (outside : Surroundings κ) (call : Caller κ) (f : Value) (args : Arguments) :
    Working call Value := do
  let h ← heap
  match f with
  | .native (.function name) => callFunction call name args
  | .native (.type t) => callType call t args
  | .native (.error k) =>
    if args.named.isEmpty then pure (.failure k args.positional) else fail (.noNamed k.name)
  | .native .require => do
    match args.positional with
    | [runtime, id] => requireModule call runtime id
    | _ => fail (.missing "__call__" false ["id"])
  | .native (.patching registry) => do
    match args.positional with
    | [.ref table, id, factory] => patchFactory call registry table id factory
    | _ => fail (.missing "patch_factory" false ["table", "module_id", "factory"])
  | .bound (.ref a) name =>
    match h[a]? with
    | some (.table _) => Table.callMethod call call a name args
    | some (.interceptor _) =>
      match args.positional with
      | [runtime, value] => do
        intercept call a runtime value
        pure .none
      | _ => fail (.missing "__set__" false ["instance", "value"])
    | _ => containerMethod call (.ref a) name args
  | .bound receiver name => containerMethod call receiver name args
  | .method self g => ask call g { args with positional := self :: args.positional }
  | .ref a =>
    match h[a]? with
    | some (.function g) => invoke call g args
    | some (.helper g _) => callHelper call g args
    | some (.wrapper w) => runWrapper call w args
    | some (.class _) => instantiate call a args
    | some (.external n _) => outside call n args
    | some (.token _) => pure .none
    | some (.instance cls _ _) =>
      match h.classAttr? cls "__call__" with
      | some g => ask call (h.onInstance f g) args
      | none => fail (.notCallable (h.kindOf f))
    | _ => fail (.notCallable (h.kindOf f))
  | f => fail (.notCallable (h.kindOf f))

/-- Calls that may nest as deeply as the fuel says. -/
def callWithin (outside : Surroundings κ) : Nat → Caller κ
  | 0, _, _ => fail (.raised .recursion [.str "maximum recursion depth exceeded"])
  | fuel + 1, f, args => (callOnce outside (callWithin outside fuel) f args).run

/-- How deeply calls may nest. -/
def callDepth : Nat := 900

def callValue (outside : Surroundings κ) : Caller κ :=
  callWithin outside callDepth

/-- The world before anything happened: built-in names and helpers, two registries, and nothing else. The
first registry is the one of the process. -/
def World.start (environment : Environment) (host : κ) : World κ :=
  { heap :=
      #[.dict builtinEntries, .builtins] ++ (Helper.all.map fun f => Object.helper f []).toArray ++
        #[.class ⟨"HostModule", "HostModule", "host", [], []⟩]
    environment
    sources := []
    recompiled := 0
    rules := []
    once := ⟨[], []⟩
    registries := #[Registry.empty, Registry.empty, Registry.empty]
    hooks := none
    frames := []
    trace := []
    history := []
    host }

theorem World.start_registry (environment : Environment) (host : κ) :
    (n : Nat) → (World.start environment host).registry n = Registry.empty
  | 0 | 1 | 2 => rfl
  | _ + 3 => rfl

end Patchwork
