import Patchwork.Hook.Basic
import Patchwork.Patch.Basic
import Patchwork.Table.Basic
import Patchwork.Script.Scope

/-!
What the store holds.
-/

namespace Patchwork

/-- A function of a script: its code, the globals it was made in, the variables it closes over, and the
values of its defaults. -/
structure Function where
  name : String
  qualifiedName : String
  code : Script.Code
  globals : Address
  captured : List (String × Address)
  defaults : List (String × Value)
  attrs : Attributes

/-- A class: its name, the name with those of the definitions around it, the module it was made in, what it
inherits from, and its attributes. -/
structure ClassObject where
  name : String
  qualifiedName : String
  module : String
  bases : List Value
  attrs : Attributes

/-- The lists that a mapping hands out. -/
inductive ViewKind where
  | keys
  | values
  | items
  /-- What gives items one after the other. -/
  | stream (type : String)
  deriving DecidableEq

def ViewKind.name : ViewKind → String
  | keys => "dict_keys"
  | values => "dict_values"
  | items => "dict_items"
  | stream type => type

/-- How a function in a class is reached through an object. -/
inductive Access where
  | plain
  | ofClass
  | computed
  deriving DecidableEq

def Access.name : Access → String
  | plain => "staticmethod"
  | ofClass => "classmethod"
  | computed => "property"

inductive Object where
  | list (items : List Value)
  | set (items : List Value)
  | dict (entries : List (Value × Value))
  /-- A mapping that cannot be changed. -/
  | proxy (entries : List (Value × Value))
  | view (kind : ViewKind) (items : List Value)
  /-- An object that only has attributes. -/
  | plain (attrs : Attributes)
  /-- The module of built-in names; they are in the dictionary at place zero. -/
  | builtins
  /-- An object that only has a printed form and can be called with anything. -/
  | token (text : String)
  /-- A built-in type with types for its items; only its printed form matters. -/
  | generic (text : String)
  | cell (value : Option Value)
  | function (f : Function)
  | helper (f : Helper) (attrs : Attributes)
  | class (c : ClassObject)
  /-- An object of a class; one whose class inherits from a built-in type has a value of that type as its
  core. -/
  | instance (cls : Address) (attrs : Attributes) (core : Option Value)
  | reached (access : Access) (f : Value)
  | record (r : ModuleRecord)
  | wrapper (w : Wrapper)
  | table (t : Table)
  | descriptor (d : EntryDescriptor)
  | interceptor (i : Interceptor)
  /-- A function of the surroundings, known by a number. -/
  | external (index : Nat) (text : String)
  /-- What a pattern has found: the text of the match and of its groups. -/
  | found (groups : List (Option String)) (names : List (String × Nat))
  deriving Inhabited

abbrev Heap := Array Object

/-- The dictionary of built-in names. -/
def builtinsDict : Address := 0

/-- The module of built-in names. -/
def builtinsModule : Address := 1

/-- The place of a helper. -/
def Helper.address (f : Helper) : Address :=
  2 + Helper.all.idxOf f

/-- The class of the modules that a host runs. -/
def moduleClass : Address :=
  2 + Helper.all.length

end Patchwork
