import Patchwork.Store.Behavior

/-!
The exports of a module as filters see them: the module's own value first, then its default export.
-/

namespace Patchwork

variable {κ : Type} {R : World κ → World κ → Prop} [Still R]

/-- What kind of value a module exports. -/
inductive ExportKind where
  /-- The global names, which are never looked into. -/
  | global
  | named
  /-- A value that holds another one as its default export. -/
  | defaultWrapped
  deriving DecidableEq

def ExportKind.name : ExportKind → String
  | global => "global"
  | named => "named"
  | defaultWrapped => "default_wrapped"

structure Exports where
  kind : ExportKind
  value : Value
  default : Value

/-- The values that filters are tested against, in order. -/
def Exports.candidates (e : Exports) : List Value :=
  match e.kind with
  | .global => []
  | .named => [e.value]
  | .defaultWrapped => [e.value, e.default]

def isGlobal (v : Value) : Bool :=
  match v with
  | .ref a => a = builtinsDict || a = builtinsModule
  | _ => false

namespace Run

/-- Whether a value is a mapping. -/
def isMapping (v : Value) : Within R Bool := do
  match ← object? v with
  | some (.dict _) | some (.proxy _) | some (.table _) => pure true
  | _ => pure false

/-- The default export: an entry of a mapping, or an attribute of anything else. -/
def defaultExport (call : Caller κ) [Calls call R] (v : Value) : Within R Value := do
  if ← isMapping v then ask call (← readAttr call v "get") (.of [.str "default"])
  else pure ((← readAttr? call v "default").getD .none)

/-- The exports in their normal form. -/
def exportsOf (call : Caller κ) [Calls call R] (v : Value) : Within R Exports := do
  if isGlobal v then pure ⟨.global, v, .none⟩
  else
    let d ← defaultExport call v
    if ← truth call d then pure ⟨.defaultWrapped, v, d⟩ else pure ⟨.named, v, .none⟩

end Run

end Patchwork
