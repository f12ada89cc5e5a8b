import Patchwork.Store.Calling

/-!
Views of values at one moment, as the surroundings see them.
-/

namespace Patchwork

namespace Heap

/-- The name of a callable, if it has one. -/
def functionName? (h : Heap) : Value → Option String
  | .native (.type _) | .native (.error _) => none
  | .native (.function "NotImplemented") | .native (.function "Ellipsis") => none
  | .native n => some n.name
  | .bound (.native (.type _)) _ => none
  | .bound _ name => some name
  | .method _ f => callee f
  | v => callee v
where
  callee : Value → Option String
    | .native n => some n.name
    | .ref a =>
      match h[a]? with
      | some (.function f) => some f.name
      | some (.helper f _) => some f.name
      | some (.wrapper w) => some w.name
      | _ => none
    | _ => none

/-- The view of a value inside some others, of which it shows only the type; the fuel bounds its nesting. -/
def snapshotAt (h : Heap) : Nat → List Address → Value → Snapshot
  | 0, _, v => .other (h.typeName false v)
  | fuel + 1, around, v =>
    let view := snapshotAt h fuel around
    match h.core v with
    | .none => .null
    | .bool b => .bool b
    | .int n => .int n
    | .float x => .float x.text
    | .str s => .str s
    | .bytes data => .bytes data
    | .tuple items => .list (items.map view)
    | core =>
      match h.functionName? v with
      | some name => .function name
      | none =>
        match core with
        | .ref a =>
          if a = builtinsDict ∨ a = builtinsModule then .builtins
          else if around.contains a then .other (h.typeName false v)
          else
            let view := snapshotAt h fuel (a :: around)
            match h[a]? with
            | some (.list items) => .list (items.map view)
            | some (.dict entries) => .dict (entries.map fun e => (view e.1, view e.2))
            | some (.plain attrs) => .plain (attrs.map fun e => (e.1, view e.2))
            | some (.token text) => .token text
            | some (.table t) => .table t.text
            | some (.descriptor d) =>
              .descriptor (view d.key) (view d.value) d.enumerable d.writable d.configurable
            | _ => .other (h.typeName false v)
        | _ => .other (h.typeName false v)

def snapshot (h : Heap) (v : Value) : Snapshot :=
  h.snapshotAt depthLimit [] v

end Heap

/-- The view of a value now. -/
def Run.snapshot {κ : Type} {R : World κ → World κ → Prop} [Still R] (v : Value) : Within R Snapshot := do
  pure ((← heap).snapshot v)

end Patchwork
