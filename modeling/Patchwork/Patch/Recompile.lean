import Patchwork.Script.Builtin
import Patchwork.Script.Check
import Patchwork.Script.Exec
import Patchwork.Source.Lookup

/-!
Making rewritten text executable again. The text runs over the globals of the factory that it replaces, with
names of its own at the top level, and the first function among those is the new factory.
-/

namespace Patchwork

open Run Script

variable {κ : Type} {R : World κ → World κ → Prop} [Still R]

/-- Text between texts; fails on what is no text. -/
def Run.joined (separator : String) (items : List Value) : Within R String := do
  let h ← heap
  let texts ← items.zipIdx.mapM fun (v, i) =>
    match v with
    | .str s => pure s
    | v => fail (.joinItem i (h.kindOf v))
  pure (separator.intercalate texts)

/-- Functions of scripts, wrappers and helpers. -/
def Heap.isFunction (h : Heap) (v : Value) : Bool :=
  match h.at? v with
  | some (.function _) | some (.wrapper _) | some (.helper _ _) => true
  | _ => false

/-- The attribute in which a factory keeps the owners of the patches in it. -/
def ownersAttr : String := "__patched_by__"

/-- What precedes the text of a recompiled factory. -/
def labelLine (id owners : String) : String :=
  "# Module " ++ id ++ " - Patched by " ++ owners

/-- The name under which the text of recompilation number `n` is registered. -/
def patchedFile (id : String) (n : Nat) : String :=
  s!"<patched module {id} #{n}>"

/-- The factory that a text defines, labelled with its module and the owners of the patches in it. Without
globals the text gets fresh ones. -/
def recompile (call : Caller κ) [Calls call R] (source : String) (id : Value) (owners : List Value)
    (globals : Option Address) : Within R Value := do
  let label ← str id
  let n ← countRecompiled
  let file := patchedFile label n
  let text := labelLine label (← joined ", " owners) ++ "\n" ++ source ++ "\n"
  if text.toList.contains '\x00' then fail .nullBytes
  match compile? text.toList with
  | none => fail (.notCompiled label)
  | some body =>
    registerSource file text
    let globals ← match globals with
      | some a => pure a
      | none => alloc (.dict [])
    let defined ← alloc (.dict [])
    runText call body file globals defined
    let h ← heap
    match ((← entries defined).map (·.2)).find? h.isFunction with
    | some f =>
      setAttr call f ownersAttr (.tuple owners)
      pure f
    | none => fail (.noFunction label)

end Patchwork
