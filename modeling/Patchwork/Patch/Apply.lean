import Patchwork.Operation

/-!
Applying the patches of a registry to one module.
-/

namespace Patchwork

open Run Script

variable {κ : Type} {R : World κ → World κ → Prop} [Still R]

/-- Shows a factory to listeners; their failures are reported. -/
def showFactory (call : Caller κ) [Calls call R] (factory : Value) (listeners : List Value) : Within R Unit :=
  listeners.forM fun l => do
    handle (do let _ ← ask call l (.of [factory])) fun c => do
      logFailure s!"Error in factory listener {← repr l}" c

/-- The names that a function takes from around it, in alphabetical order. -/
def closedOver (h : Heap) (v : Value) : List String :=
  let f := match v with
    | .method _ f => f
    | v => v
  match h.at? f with
  | some (.function f) => (f.captured.map (·.1)).mergeSort fun a b => a ≤ b
  | some (.wrapper w) => w.wrapping.closedOver
  | _ => []

/-- The globals of a function. -/
def globalsOf (factory : Value) : Within R (Option Address) := do
  match ← getAttr? factory "__globals__" with
  | some (.ref a) => pure (some a)
  | _ => pure none

/-- The source text of a factory in the shape of a policy; `none` if there is none. -/
def normalizedSource (policy : Policy) (factory : Value) : Within R (Option String) :=
  handle (do pure (some (← normalize policy (← sourceText factory)))) fun c =>
    if c.kind.isA .os || c.kind.isA .type then pure none else fail c

/-- The number of characters that a diff shows around a match. -/
def diffWidth : Within R Int := do
  match (← world).environment.diffContext with
  | .ok n => pure n
  | .error text => fail (.notInteger text)

/-- Patches a factory with the patches of a registry. Factories that close over variables or have no source
text are left as they are. -/
def applyPatches (call : Caller κ) [Works call R] (id factory : Value) (registry : Nat) (listeners : List Value)
    (policy : Policy) (dev : Bool) (diffContext : Int) : Within R ModuleRecord := do
  let untouched : ModuleRecord := ⟨id, factory, factory, none, []⟩
  showFactory call factory listeners
  let free := closedOver (← heap) factory
  if !free.isEmpty then
    let names := ", ".intercalate free
    log .debug s!"Module {← str id} closes over {names}, leaving it unpatched"
    pure untouched
  else
    match ← normalizedSource policy factory with
    | none =>
      log .debug s!"No source available for module {← str id}, leaving it unpatched"
      pure untouched
    | some code =>
      let setup : Setup := ⟨id, ← globalsOf factory, dev, diffContext⟩
      let p ← carryOut call (.patch setup registry ⟨factory, code, []⟩)
      pure ⟨id, factory, p.current, some p.code, p.owners⟩

end Patchwork
