import Patchwork.Patch.Apply

/-!
Functions around functions. The wrapper of a module falls back to the original factory when the patched one
fails, and reports the module's exports; the wrappers of the chunk callbacks find the start of the host.
-/

namespace Patchwork

open Run

variable {κ : Type} {R : World κ → World κ → Prop} [Moves R]

namespace Wrapping

/-- The name of a wrapper around what has no name, and the full one. -/
def names : Wrapping → String × String
  | factory _ _ _ _ _ => ("factory", "wrap_factory.<locals>.factory")
  | chunks _ _ _ _ => ("wrapper", "RuntimeRegistry._intercept_chunks_loaded.<locals>.wrapper")
  | start _ _ _ => ("init_callback", "RuntimeRegistry._wrap_init_callback.<locals>.init_callback")

end Wrapping

/-- The attributes that a wrapper takes over. -/
def ownAttributes (h : Heap) (v : Value) : Attributes :=
  let f := match v with
    | .method _ f => f
    | v => v
  match h.at? f with
  | some (.function f) => f.attrs
  | some (.helper _ attrs) => attrs
  | some (.wrapper w) => w.attrs
  | some (.plain attrs) => attrs
  | some (.instance _ attrs _) => attrs
  | some (.class c) => c.attrs
  | _ => []

/-- Text under an attribute, if there is any. -/
def textAttr? (v : Value) (name : String) : Within R (Option String) := do
  match ← getAttr? v name with
  | some (.str s) => pure (some s)
  | some _ => fail (.raised .type [.str s!"{name} must be set to a string object"])
  | none => pure none

/-- A wrapper with the name and the attributes of what it wraps. -/
def wrap (wrapping : Wrapping) (wrapped : Value) (more : Attributes) : Within R Value := do
  let (name, full) := wrapping.names
  let name := (← textAttr? wrapped "__name__").getD name
  let full := (← textAttr? wrapped "__qualname__").getD full
  let attrs := (ownAttributes (← heap) wrapped).filter fun a => a.1 != "__wrapped__"
  new (.wrapper ⟨wrapping, wrapped, name, full, more.foldl (fun all a => all.set a.1 a.2) attrs⟩)

/-- The attribute in which a module's wrapper keeps the record of its patching. -/
def recordAttr : String := "__module_record__"

/-- The function that the host runs for a patched module. -/
def wrapFactory (r : ModuleRecord) (registry : Nat) (table : Address) : Within R Value := do
  let record ← new (.record r)
  wrap (.factory r.id r.original r.current registry table) r.current [(recordAttr, record)]

/-- Patches a factory, stores its wrapper in the table, and returns the wrapper. -/
def patchFactory (call : Caller κ) [Works call R] (registry : Nat) (table : Address) (id factory : Value) :
    Within R Value := do
  let r ← Run.registry registry
  let version := ((← world).environment.hostVersion?.map Value.str).getD .none
  let policy ← choosePolicy r.policies version
  let dev := (← world).environment.isDev
  let record ← applyPatches call id factory registry r.factoryListeners policy dev (← diffWidth)
  if !record.patchedBy.isEmpty then
    let owners ← joined ", " record.patchedBy
    log .debug s!"Module {← str id} patched by {owners}"
  let wrapped ← wrapFactory record registry table
  let _ ← ask call (.bound (.ref table) "__setitem__") (.of [id, wrapped])
  pure wrapped

/-- The values of parameters by position or by name. -/
def boundParameters (function : String) (names : List String) (args : Arguments) : Within R (List Value) := do
  let given := names.zip args.positional
  args.named.forM fun (k, _) => do
    if !names.contains k then fail (.unexpected function k)
    if given.any (·.1 == k) then fail (.repeated function k)
  let all := given ++ args.named
  if names.length < args.positional.length then
    fail (.tooMany function names.length names.length args.positional.length 0)
  let lacking := names.filter fun n => !all.any (·.1 == n)
  if !lacking.isEmpty then fail (.missing function false lacking)
  pure (names.map fun n => ((all.find? (·.1 == n)).map (·.2)).getD .none)

/-- Reports the exports of a module that ran; one that exports the global names is hidden instead. -/
def reportExports (call : Caller κ) [Works call R] (id : Value) (registry : Nat) (table : Address)
    (exports : Value) : Within R Unit := do
  let e ← exportsOf call exports
  match e.kind with
  | .global =>
    checkKey id
    setTable table ((← tableAt table).hide id)
  | _ =>
    notifyModule call registry exports id
    carryOut call (.fire registry exports id)

/-- Reports that a patched factory has failed. -/
def reportFallback (id : Value) (c : Cause) : Within R Unit := do
  logFailure s!"Error in patched module {← str id}, falling back to the original" c

/-- Whether the modules of a registry run as they are, since there is no runtime in development mode. -/
def isUninitialized (registry : Nat) (w : World κ) : Bool :=
  match (w.registry registry).require with
  | .none => w.environment.isDev
  | _ => false

/-- Reports the first time that a module runs as it is. -/
def reportUninitialized (registry : Nat) : Within R Unit := do
  if !(← Run.registry registry).uninitializedLogged then
    modifyRegistry registry fun r => { r with uninitializedLogged := true }
    log .error "Runtime require was not initialized, running modules without patches instead."

/-- Runs the factory of a module, and says whether it went through. A patched one that fails does not. -/
def runCurrent (call : Caller κ) [Works call R] (id original current : Value) (args : Arguments) : Within R Bool :=
  handle (do
    let _ ← ask call current args
    pure true) fun c =>
      if current = original then fail c
      else do
        reportFallback id c
        pure false

/-- Reports what a module exports, if it exports anything. -/
def reportModule (call : Caller κ) [Works call R] (id : Value) (registry : Nat) (table : Address)
    (module : Value) : Within R Unit := do
  match (← readAttr? call module "exports").getD .none with
  | .none => pure ()
  | exports => reportExports call id registry table exports

/-- Runs a module. In development mode the original runs as long as there is no runtime; a patched factory
that fails is replaced by the original for this call. -/
def runModule (call : Caller κ) [Works call R] (id original current : Value) (registry : Nat) (table : Address)
    (module exports require : Value) : Within R Value := do
  let args := Arguments.of [module, exports, require]
  if isUninitialized registry (← world) then
    reportUninitialized registry
    ask call original args
  else if ← runCurrent call id original current args then
    reportModule call id registry table module
    pure .none
  else ask call original args

/-- The source text of a value, or its printed form if it has none. -/
def shownSource (v : Value) : Within R String :=
  handle (sourceText v) fun c =>
    if c.kind.isA .os || c.kind.isA .type then repr v else fail c

/-- What a callback that starts the host looks like: a call with one quoted name is returned. -/
def startSource : String :=
  "(?:return|lambda[^:]*:)\\s*\\i\\([\"'].+?[\"']\\)"

/-- The pattern of callbacks that start the host. -/
def startPattern : Pattern :=
  match Pattern.compileShorthand startSource [] with
  | .ok p => p
  | .error _ => .ofLiteral startSource

/-- What is logged when a callback that starts the host is called. -/
def startNotice : String :=
  "Patched initialize app callback invoked, initializing runtime require and running before-init listeners"

/-- Announces the runtime, then starts the host. -/
def runStart (call : Caller κ) [Works call R] (callback runtime : Value) (registry : Nat) (args : Arguments) :
    Within R Value := do
  log .info startNotice
  let _ ← initRuntime registry runtime
  carryOut call (.announce registry runtime)
  ask call callback args

/-- Puts a callback where the old one was: third by position, else by name. -/
def withCallback (args : Arguments) (callback : Value) : Arguments :=
  if 2 < args.positional.length then { args with positional := args.positional.set 2 callback }
  else { args with named := Attributes.set args.named "callback" callback }

/-- Runs the chunks-loaded callback of the host; one that starts the host is wrapped once, and the
attribute gets its first value back. -/
def runChunks (call : Caller κ) [Calls call R] (attr : String) (original runtime : Value) (registry : Nat)
    (args : Arguments) : Within R Value := do
  let callback := args.positional[2]?.getD ((Attributes.get? args.named "callback").getD .none)
  let isStart ← match callback with
    | .none => pure false
    | v => do pure (startPattern.search? (← shownSource v).toList).isSome
  if isStart then
    setAttr call runtime attr original
    let wrapped ← wrap (.start callback runtime registry) callback []
    ask call original (withCallback args wrapped)
  else ask call original args

/-- Runs a wrapper. -/
def runWrapper (call : Caller κ) [Works call R] (w : Wrapper) (args : Arguments) : Within R Value := do
  match w.wrapping with
  | .factory id original current registry table =>
    match ← boundParameters w.qualifiedName ["module", "exports", "require"] args with
    | [module, exports, require] => runModule call id original current registry table module exports require
    | _ => pure .none
  | .chunks attr original runtime registry => runChunks call attr original runtime registry args
  | .start callback runtime registry => runStart call callback runtime registry args

end Patchwork
