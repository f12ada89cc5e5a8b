import Patchwork.Value.Basic

/-!
Hooks on the runtimes' base class: attributes that wait for the genuine runtime.
-/

namespace Patchwork

/-- How the genuine runtime is told apart: by where the assignment comes from and by its chunk loader. -/
structure RuntimeMatcher where
  markers : List String
  loaderAttr : String := "load_chunk"
  loaderMarker : String := "gather("

/-- Where a runtime usually keeps its module table. -/
def standardTableAttr : String := "modules"

/-- What a runtime usually calls when chunks are loaded. -/
def standardChunksAttr : String := "on_chunks_loaded"

/-- What a hook does with the value that the genuine runtime assigns. -/
inductive Commitment where
  | table
  | chunks (attr : String)

/-- A hook in place of an attribute of a class; `previous` is what stood there before. -/
structure Interceptor where
  owner : Address
  name : String
  matcher : RuntimeMatcher
  commitment : Commitment
  registry : Nat
  committed : Bool
  previous : Option Value

/-- The hooks that are installed together. -/
structure HookSet where
  base : Address
  matcher : RuntimeMatcher
  registry : Nat
  hooks : List Address

/-- A function around another one. -/
inductive Wrapping where
  /-- Runs a patched module and reports its exports. -/
  | factory (id original current : Value) (registry : Nat) (table : Address)
  /-- Watches the chunks-loaded callback of a runtime for the start of the host. -/
  | chunks (attr : String) (original runtime : Value) (registry : Nat)
  /-- Announces the runtime before the host starts. -/
  | start (callback runtime : Value) (registry : Nat)

/-- A wrapper with the name and attributes that it takes over from what it wraps. -/
structure Wrapper where
  wrapping : Wrapping
  wrapped : Value
  name : String
  qualifiedName : String
  attrs : Attributes

/-- The variables that each kind of wrapper closes over, in alphabetical order. -/
def Wrapping.closedOver : Wrapping → List String
  | factory _ _ _ _ _ => ["mod", "module_id", "original", "registry", "table"]
  | chunks _ _ _ _ => ["attr", "original", "runtime", "self"]
  | start _ _ _ => ["callback", "registry", "runtime"]

end Patchwork
