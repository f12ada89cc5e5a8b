import Patchwork.Scenario.Command

/-!
The steps of a scenario.
-/

namespace Patchwork.Scenario

open Run Script

variable {R : World Host → World Host → Prop} [Moves R]

def registryOf (shared : Bool) : Within R Nat := do
  if shared then pure sharedRegistry else pure (← host).registry

/-- The frame that an assignment is made from. -/
def Origin.frame (o : Origin) : String :=
  s!"  File \"" ++ o.file ++ "\", line 2, in " ++ o.function ++ "\n"

/-- Runs something in a frame of its own. -/
def within {α : Type} (origin : Option Origin) (m : Within R α) : Within R α := do
  let before := (← world).frames
  setFrames (before ++ (origin.map Origin.frame).toList)
  let restore : Within R Unit := setFrames before
  tryCatch (do
    let v ← m
    restore
    pure v) fun e => do
      restore
      throw e

def tableAtPlace (call : Caller Host) [Calls call R] (p : TablePlace) : Within R Value := do
  match p with
  | .registered => do pure (← registry (← host).registry).modules
  | .onRuntime name attr => do readAttr call (← runtimeNamed name) attr

/-- A class; one without a base can be called with a module id. -/
def makeClass (call : Caller Host) [Calls call R] (name : String) (base : Option String)
    (attrs : List (String × ValueSpec)) : Within R Unit := do
  let attrs ← buildNamed call attrs
  let object ← match base with
    | some b => do pure (ClassObject.mk name name "host" [.ref (← classNamed b)] attrs)
    | none => pure (ClassObject.mk name name "host" [] (Attributes.set attrs "__call__" (.native .require)))
  let a ← alloc (.class object)
  modifyHost fun h => { h with classes := (name, a) :: h.classes }

def makeRuntime (name cls tableAttr : String) (cache : Bool) : Within R Unit := do
  let attrs := [(tableNameAttr, Value.str tableAttr)]
  let attrs ← if cache then do pure (attrs ++ [("cache", ← new (.dict []))]) else pure attrs
  let v ← new (.instance (← classNamed cls) attrs none)
  modifyHost fun h => { h with runtimes := Attributes.set h.runtimes name v }

/-- A module's run as it is reported: what it returned, or why it failed, with its exports. -/
def runFactory (call : Caller Host) [Calls call R] (id factory require : Value) : Within R Snapshot := do
  let exports ← new (.dict [])
  let module ← newModule id exports
  let ended ← handle (do
    let v ← ask call factory (.of [module, exports, require])
    pure (Sum.inl (← snapshot v))) fun c => do pure (Sum.inr (← describe c))
  let left ← snapshot ((← readAttr? call module "exports").getD .none)
  match ended with
  | .inl returned => pure (.fields [("exports", left), ("returned", returned)])
  | .inr (kind, message) =>
    pure (.fields [("error", .str kind), ("message", .str message), ("exports", left)])

/-- The source text of a value, or nothing if there is none. -/
def sourceOrNull (v : Value) : Within R Snapshot :=
  handle (do pure (.str (← sourceText v))) fun c =>
    if c.kind.isA .os || c.kind.isA .type then pure .null else fail c

def attrOrNull (call : Caller Host) [Calls call R] (v : Value) (name : String) : Within R Snapshot := do
  snapshot ((← readAttr? call v name).getD .none)

/-- The record of a patched module. -/
def recordSnapshot (r : ModuleRecord) : Within R Snapshot := do
  pure (.fields [("id", ← snapshot r.id), ("source", .ofText? r.source),
    ("patched_by", .list (← snapshots r.patchedBy)),
    ("is_patched", .bool r.isPatched)])

def introspect (call : Caller Host) [Calls call R] (table id : Value) : Within R Snapshot := do
  let v ← getItem call table id
  let name ← attrOrNull call v "__name__"
  let owners ← attrOrNull call v ownersAttr
  let source ← sourceOrNull v
  let record ← match ← readAttr? call v recordAttr with
    | some r =>
      match ← object? r with
      | some (.record r) => do pure [("record", ← recordSnapshot r)]
      | _ => pure []
    | none => pure []
  pure (.fields ([("name", name), ("patched_by", owners), ("source", source)] ++ record))

/-- Wraps the modules that ran already. -/
def makeLoaded (call : Caller Host) [Calls call R] (cache : List (ValueSpec × ValueSpec)) (table : Bool) :
    Within R Unit := do
  let n := (← host).registry
  let es ← buildEntries call [] cache
  let modules ← es.mapM fun e => do pure (e.1, ← new (.plain [("exports", e.2)]))
  let require ← new (.plain [("cache", ← new (.dict modules))])
  setRuntime n require
  if table then
    let t ← new (.table (Table.of (es.map fun e => (e.1, .none)) (.native (.patching n))))
    setModules n t

/-- The name under which a runtime is known. -/
def runtimeName? (h : Host) (v : Value) : Option String :=
  (h.runtimes.find? fun r => Value.identical r.2 v).map (·.1)

/-- The hooks that are installed now, by class and attribute. -/
def installedHooks : Within R (List String) := do
  let h ← heap
  let names := (← host).classes.flatMap fun (_, a) =>
    match h[a]? with
    | some (.class c) => c.attrs.filterMap fun (n, v) =>
      match h.at? v with
      | some (.interceptor _) => some (c.name ++ "." ++ n)
      | _ => none
    | _ => []
  pure (names.mergeSort fun a b => a ≤ b)

/-- Everything that is registered. -/
def stateSnapshot : Within R Snapshot := do
  let world ← host
  let r ← registry world.registry
  let reprs (vs : List Value) : Within R Snapshot := do
    pure (.list (← vs.mapM fun v => do pure (.str (← repr v))))
  let require : Snapshot := match r.require with
    | .none => .null
    | v =>
      match runtimeName? world v with
      | some name => .str name
      | none => .str "other"
  let subscriptions ← r.subscriptions.mapM fun e => do
    pure (Snapshot.list [.str (← repr e.1), .str (← repr e.2.callback)])
  let table ← match r.modules with
    | .ref a => do
      match ← objectAt? a with
      | some (.table _) => do pure [("table", ← tableState a)]
      | _ => pure []
    | _ => pure []
  pure (.fields ([("patches", .list (← snapshots (r.patches.map (·.patch.owner)))),
    ("before_init", ← reprs r.beforeInit), ("factory", ← reprs r.factoryListeners),
    ("module", ← reprs r.moduleListeners), ("subscriptions", .list subscriptions), ("require", require),
    ("uninitialized_logged", .bool r.uninitializedLogged),
    ("hooks", .list ((← installedHooks).map .str))] ++ table))

def addListener (n : Nat) (kind : ListenerKind) (v : Value) : Within R Unit :=
  match kind with
  | .beforeInit => modifyRegistry n fun r => { r with beforeInit := r.beforeInit ++ [v] }
  | .factory => modifyRegistry n fun r => { r with factoryListeners := r.factoryListeners ++ [v] }
  | .module => modifyRegistry n fun r => { r with moduleListeners := r.moduleListeners ++ [v] }
  | .subscription => pure ()

/-- Whether the messages of a logger are seen. -/
def isWatched (logger : String) : Bool :=
  logger == "hostpatch" || logger.startsWith "hostpatch."

/-- Nothing to report. -/
def silently (m : Within R Unit) : Within R Snapshot := do
  m
  pure .null

/-- Performs a step and reports its result. -/
def perform (call : Caller Host) [Works call R] : Step → Within R Snapshot
  | .env set unset => silently <| modifyEnvironment fun e =>
    unset.foldl Environment.unset (set.foldl (fun e v => e.set v.1 v.2) e)
  | .makeClass name base attrs => silently (makeClass call name base attrs)
  | .makeRuntime name cls tableAttr cache => silently (makeRuntime name cls tableAttr cache)
  | .install base matcher tableAttr chunksAttr shared => do
    let names ← installHooks (← classNamed base) matcher (← registryOf shared) tableAttr chunksAttr
    pure (.list (names.map .str))
  | .uninstall => silently uninstallHooks
  | .assign runtime attr value origin save => do
    let r ← runtimeNamed runtime
    let v ← build call value
    match save with
    | some name => modifyHost fun h => { h with saved := Attributes.set h.saved name v }
    | none => pure ()
    within origin (setAttr call r attr v)
    snapshot (← readAttr call r attr)
  | .setClass cls attr value => silently do
    let a ← classNamed cls
    let v ← build call value
    setAttr call (.ref a) attr v
  | .getClass cls attr => do snapshot (← readAttr call (.ref (← classNamed cls)) attr)
  | .getAttr runtime attr => do snapshot (← readAttr call (← runtimeNamed runtime) attr)
  | .deleteAttr runtime attr => silently do deleteAttr (← runtimeNamed runtime) attr
  | .saved name => do snapshot (← savedNamed name)
  | .source runtime attr => do pure (.str (← sourceText (← readAttr call (← runtimeNamed runtime) attr)))
  | .chunks runtime attr args callback keyword named origin => do
    let r ← runtimeNamed runtime
    let args ← buildAll call args
    let named ← buildNamed call named
    let callback ← match callback with
      | some c => do pure (some (← build call c))
      | none => pure none
    let all : Arguments := match callback with
      | none => ⟨args, named⟩
      | some c => if keyword then ⟨args, Attributes.set named "callback" c⟩ else ⟨args ++ [c], named⟩
    snapshot (← within origin do ask call (← readAttr call r attr) all)
  | .require runtime id => do
    let r ← runtimeNamed runtime
    snapshot (← ask call r (.of [← build call id]))
  | .makeTable entries require => silently do
    let n := (← host).registry
    let es ← buildEntries call [] entries
    let t ← new (.table (Table.of es (.native (.patching n))))
    setModules n t
    if require then
      let v ← new (.token "<require>")
      setRuntime n v
  | .loaded cache table => silently (makeLoaded call cache table)
  | .patch p shared => silently do
    let n ← registryOf shared
    carryOut call (.register n (← buildPatch call p))
  | .listener l shared => silently do addListener (← registryOf shared) l.kind (← buildListener l)
  | .waitFor filter callback shared => silently do
    let f ← buildFilter filter
    let n ← registryOf shared
    carryOut call (.waitFor n f (← buildListener callback))
  | .find filter => do snapshot (← findExport call (← host).registry (← buildFilter filter))
  | .policy range policy => silently do
    let n := (← host).registry
    let r ← registry n
    match r.policies.register range policy with
    | .ok policies => modifyRegistry n fun r => { r with policies }
    | .error text => fail (.versionCondition text)
  | .initRuntime runtime => do
    pure (.bool (← initRuntime (← host).registry (← runtimeNamed runtime)))
  | .runBeforeInit value => silently do
    let n := (← host).registry
    carryOut call (.announce n (← build call value))
  | .notify exports id => silently do
    let v ← build call exports
    notifyModule call (← host).registry v (← build call id)
  | .fire exports id => silently do
    let v ← build call exports
    let n := (← host).registry
    carryOut call (.fire n v (← build call id))
  | .table command place => do runCommand call (← tableAtPlace call place) command
  | .run id place => do
    let t ← tableAtPlace call place
    let id ← build call id
    let factory ← getItem call t id
    let exports ← new (.dict [])
    let module ← newModule id exports
    let require := (← registry (← host).registry).require
    let returned ← snapshot (← ask call factory (.of [module, exports, require]))
    pure (.fields [("exports", ← attrOrNull call module "exports"), ("returned", returned)])
  | .introspect id place => do introspect call (← tableAtPlace call place) (← build call id)
  | .logOnce warning message args logger => silently do
    let m ← build call message
    let args ← buildAll call args
    let before := (← world).trace
    logOnce (if warning then .warning else .info) logger m args
    if !isWatched logger then setTrace before
  | .raise kind message => fail (.raised kind [.str message])
  | .state => stateSnapshot

end Patchwork.Scenario
