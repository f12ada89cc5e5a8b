import Patchwork.Hook.Wrap
import Patchwork.Script.Container

/-!
Hooks on the base class of the runtimes. Each waits for an assignment that comes from a known place on a
runtime whose loader looks genuine; then it takes itself off the class and takes the value over.
-/

namespace Patchwork

open Run

variable {κ : Type} {R : World κ → World κ → Prop} [Moves R]

def Interceptor.at? (a : Address) : Within R (Option Interceptor) := do
  match ← objectAt? a with
  | some (.interceptor i) => pure (some i)
  | _ => pure none

/-- The attributes of a class itself. -/
def classAttrs (cls : Address) : Within R Attributes := do
  match ← objectAt? cls with
  | some (.class c) => pure c.attrs
  | _ => pure []

def setClassAttrs (cls : Address) (attrs : Attributes) : Within R Unit := do
  match ← objectAt? cls with
  | some (.class _) => write cls (.attrs attrs)
  | _ => pure ()

/-- Takes a hook off its class, which gets back what was there before; another value that took its place
stays. -/
def removeHook (a : Address) : Within R Unit := do
  match ← Interceptor.at? a with
  | none => pure ()
  | some i =>
    let attrs ← classAttrs i.owner
    match attrs.get? i.name with
    | some (.ref b) =>
      if a = b then
        setClassAttrs i.owner <| match i.previous with
          | some v => attrs.set i.name v
          | none => attrs.erase i.name
    | _ => pure ()

/-- Puts a hook on a class. -/
def installHook (cls : Address) (name : String) (matcher : RuntimeMatcher) (commitment : Commitment)
    (registry : Nat) : Within R Address := do
  let attrs ← classAttrs cls
  let a ← alloc (.interceptor ⟨cls, name, matcher, commitment, registry, false, attrs.get? name⟩)
  setClassAttrs cls (attrs.set name (.ref a))
  pure a

/-- Whether the assignment that runs now comes from one of the marked places. -/
def comesFrom (markers : List String) : Within R Bool := do
  let stack := (String.join (← world).frames).toList
  pure (markers.any fun m => Text.contains m.toList stack)

/-- Whether the chunk loader of a runtime shows the mark of the genuine one. -/
def hasLoader (call : Caller κ) [Calls call R] (m : RuntimeMatcher) (runtime : Value) : Within R Bool := do
  match (← readAttr? call runtime m.loaderAttr).getD .none with
  | .none => pure false
  | loader => do pure (Text.contains m.loaderMarker.toList (← shownSource loader).toList)

def RuntimeMatcher.accepts (call : Caller κ) [Calls call R] (m : RuntimeMatcher) (runtime : Value) :
    Within R Bool := do
  if ← comesFrom m.markers then hasLoader call m runtime else pure false

/-- Whether a mapping can be changed. -/
def isMutableMapping (v : Value) : Within R Bool := do
  match ← object? v with
  | some (.dict _) | some (.table _) => pure true
  | _ => pure false

/-- Moves the factories of the host into a lazy table, and empties the host's own. -/
def takeTable (call : Caller κ) [Calls call R] (runtime modules : Value) (registry : Nat) : Within R Value := do
  log .info s!"Found module factory table on {(← heap).typeName false runtime}"
  let copied ← Script.entriesOf call modules
  let factories := copied.foldl (fun d e => Value.insert d e.1 e.2) []
  if ← isMutableMapping modules then
    let _ ← ask call (← readAttr call modules "clear") (.of [])
  let table ← new (.table (Table.of factories (.native (.patching registry))))
  setModules registry table
  pure table

/-- Wraps the chunks-loaded callback. -/
def takeChunks (attr : String) (runtime original : Value) (registry : Nat) : Within R Value := do
  log .info s!"Found chunks-loaded callback on {(← heap).typeName false runtime}"
  wrap (.chunks attr original runtime registry) original []

/-- Stores a value for an instance itself. -/
def storeOn (instance_ : Value) (name : String) (value : Value) : Within R Unit := do
  match instance_ with
  | .ref a =>
    match ← objectAt? a with
    | some (.instance _ attrs _) => write a (.attrs (attrs.set name value))
    | _ => pure ()
  | _ => pure ()

/-- An assignment to a hooked attribute. The first one that is accepted commits the hook. -/
def intercept (call : Caller κ) [Calls call R] (a : Address) (runtime value : Value) : Within R Unit := do
  match ← Interceptor.at? a with
  | none => pure ()
  | some i =>
    let genuine ← if i.committed then pure false else i.matcher.accepts call runtime
    if genuine then
      replace a (.interceptor { i with committed := true })
      removeHook a
      let value ← match i.commitment with
        | .table => takeTable call runtime value i.registry
        | .chunks attr => takeChunks attr runtime value i.registry
      storeOn runtime i.name value
    else storeOn runtime i.name value

/-- Puts one more hook of a set on the class. -/
def HookSet.register (set : HookSet) (name : String) (commitment : Commitment) : Within R HookSet := do
  let a ← installHook set.base name set.matcher commitment set.registry
  pure { set with hooks := set.hooks ++ [a] }

def HookSet.registerTable (set : HookSet) (attr : String) : Within R HookSet :=
  set.register attr .table

def HookSet.registerChunks (set : HookSet) (attr : String) : Within R HookSet :=
  set.register attr (.chunks attr)

/-- Takes the hooks of a set off the class, in the order in which they were put there. -/
def HookSet.uninstall (set : HookSet) : Within R HookSet := do
  set.hooks.forM removeHook
  pure { set with hooks := [] }

/-- Removes all hooks that are installed. -/
def uninstallHooks : Within R Unit := do
  match (← world).hooks with
  | none => pure ()
  | some set =>
    set.hooks.forM removeHook
    setHooks none
    log .info "Runtime hooks uninstalled"

/-- Installs the hooks on a class in place of those installed before, and returns the names of the
attributes. -/
def installHooks (base : Address) (matcher : RuntimeMatcher) (registry : Nat)
    (tableAttr chunksAttr : String) : Within R (List String) := do
  uninstallHooks
  let first ← installHook base tableAttr matcher .table registry
  let second ← installHook base chunksAttr matcher (.chunks chunksAttr) registry
  setHooks (some ⟨base, matcher, registry, [first, second]⟩)
  let name := match (← objectAt? base) with
    | some (.class c) => c.name
    | _ => ""
  log .info s!"Runtime hooks installed on {name}"
  pure [tableAttr, chunksAttr]

end Patchwork
