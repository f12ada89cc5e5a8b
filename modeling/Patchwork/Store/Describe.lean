import Patchwork.Store.Object
import Patchwork.Number.FloatText
import Patchwork.Text.Quoted

/-!
What can be read off values without running anything: their types, printed forms, truth, and equality.
-/

namespace Patchwork

/-- The full name of a class; the module of the built-in names is left out. -/
def ClassObject.path (c : ClassObject) : String :=
  if c.module = "builtins" then c.qualifiedName else c.module ++ "." ++ c.qualifiedName

def ClassObject.text (c : ClassObject) : String :=
  "<class '" ++ c.path ++ "'>"

namespace Heap

/-- What an operation of a built-in type works on: the core of an object, or the value itself. -/
def core (h : Heap) : Value → Value
  | .ref a =>
    match h[a]? with
    | some (.instance _ _ (some v)) => v
    | _ => .ref a
  | v => v

/-- The object behind a value, seen through its core. -/
def at? (h : Heap) (v : Value) : Option Object :=
  match h.core v with
  | .ref a => h[a]?
  | _ => none

/-- The name of a value's type; `long` asks for the form in error messages. -/
def typeName (h : Heap) (long : Bool) : Value → String
  | .none => "NoneType"
  | .bool _ => "bool"
  | .int _ => "int"
  | .float _ => "float"
  | .complex _ => "complex"
  | .str _ => "str"
  | .bytes _ => "bytes"
  | .tuple _ => "tuple"
  | .pattern p =>
    if long then
      match p.dialect with
      | .plain => "re.Pattern"
      | .extended => "_regex.Pattern"
    else "Pattern"
  | .native (.function "Ellipsis") => "ellipsis"
  | .native (.function "NotImplemented") => "NotImplementedType"
  | .native (.function _) => "builtin_function_or_method"
  | .native (.type _) => "type"
  | .native (.error _) => "type"
  | .native _ => "function"
  | .failure k _ => k.name
  | .bound (.native (.type _)) _ => "method_descriptor"
  | .bound r _ =>
    match h.at? r with
    | some (.table _) => "method"
    | _ => "builtin_function_or_method"
  | .method _ _ => "method"
  | .ref a =>
    match h[a]? with
    | some (.list _) => "list"
    | some (.set _) => "set"
    | some (.dict _) => "dict"
    | some (.proxy _) => "mappingproxy"
    | some (.view k _) => k.name
    | some (.plain _) => if long then "types.SimpleNamespace" else "SimpleNamespace"
    | some .builtins => "module"
    | some (.token _) => "Named"
    | some (.generic _) => if long then "types.GenericAlias" else "GenericAlias"
    | some (.cell _) => "cell"
    | some (.function _) | some (.helper _ _) => "function"
    | some (.class _) => "type"
    | some (.instance cls _ _) =>
      match h[cls]? with
      | some (.class c) => c.name
      | _ => "object"
    | some (.reached access _) => access.name
    | some (.record _) => "ModuleRecord"
    | some (.wrapper _) => "function"
    | some (.table _) => "LazyModuleTable"
    | some (.descriptor _) => "EntryDescriptor"
    | some (.interceptor _) => "_InterceptedAttribute"
    | some (.external _ _) => "function"
    | some (.found _ _) => if long then "_regex.Match" else "Match"
    | none => "object"

/-- The type of a value as error messages give it. -/
def kindOf (h : Heap) (v : Value) : String :=
  h.typeName true v

def bytesText (data : List UInt8) : String :=
  let cs := data.map fun b => Char.ofNat b.toNat
  let q := Text.quoteFor cs
  let body := cs.flatMap fun c =>
    if 0x7f ≤ c.toNat then '\\' :: 'x' :: Text.hexDigits 2 c.toNat else Text.quotedChar q c
  String.ofList ('b' :: q :: (body ++ [q]))

/-- Items between commas. -/
def listed (items : List String) : String :=
  ", ".intercalate items

/-- The form of a tuple. -/
def tupleText (items : List String) : String :=
  match items with
  | [one] => "(" ++ one ++ ",)"
  | items => "(" ++ listed items ++ ")"

/-- The full name of the class at a place. -/
def classPath (h : Heap) (cls : Address) : String :=
  match h[cls]? with
  | some (.class c) => c.path
  | _ => "object"

/-- The places of a class and of the classes that it inherits from, by paths; the fuel bounds their length. -/
def ancestry (h : Heap) : Nat → Address → List Address
  | 0, _ => []
  | fuel + 1, a =>
    match h[a]? with
    | some (.class c) =>
      a :: c.bases.flatMap fun b =>
        match b with
        | .ref b => ancestry h fuel b
        | _ => []
    | _ => []

/-- How long a chain of base classes may be. -/
def lineageLimit : Nat := 50

def classAt? (h : Heap) (a : Address) : Option ClassObject :=
  match h[a]? with
  | some (.class c) => some c
  | _ => none

/-- The name of a class with those of the definitions around it. -/
def qualifiedName (h : Heap) (cls : Address) : String :=
  ((h.classAt? cls).map ClassObject.qualifiedName).getD "object"

/-- A class and the classes that it inherits from, in the order in which attributes are looked up: a shared base
comes behind all that inherit from it. -/
def lineage (h : Heap) (cls : Address) : List ClassObject :=
  (h.ancestry lineageLimit cls).reverse.eraseDups.reverse.filterMap (classAt? h)

/-- An attribute of a class or of one that it inherits from. -/
def classAttr? (h : Heap) (cls : Address) (name : String) : Option Value :=
  (h.lineage cls).findSome? fun c => c.attrs.get? name

/-- The built-in type or the kind of error that a class inherits from. -/
def nativeBase? (h : Heap) (cls : Address) : Option Native :=
  (h.lineage cls).findSome? fun c =>
    c.bases.findSome? fun b =>
      match b with
      | .native (.type .object) => none
      | .native n => some n
      | _ => none

/-- The kind of error that a class stands for, if it inherits from one; the fuel bounds the chain. -/
def errorKindWithin (h : Heap) : Nat → Address → Option ErrorKind
  | 0, _ => none
  | fuel + 1, a =>
    match h[a]? with
    | some (.class c) =>
      let kinds := c.bases.filterMap fun b =>
        match b with
        | .native (.error k) => some k
        | .ref b => errorKindWithin h fuel b
        | _ => none
      match kinds with
      | [] => none
      | k :: more => some (.derived c.name (more.foldl .both k))
    | _ => none

/-- The kind of error that a class stands for. -/
def errorKind? (h : Heap) (cls : Address) : Option ErrorKind :=
  h.errorKindWithin lineageLimit cls

/-- Whether objects of a class can be keys: the nearest class that says what equality is must say so, too. -/
def isHashable (h : Heap) (cls : Address) (core : Option Value) : Bool :=
  match (h.lineage cls).find? fun c =>
      (c.attrs.get? "__eq__").isSome || (c.attrs.get? "__hash__").isSome with
  | some c =>
    match c.attrs.get? "__hash__" with
    | some .none => false
    | some _ => true
    | none => false
  | none =>
    match core with
    | some (.ref _) => false
    | _ => true

/-- The printed form of a value inside some others, which do not show themselves again; the fuel bounds its
nesting. -/
def reprAt (h : Heap) : Nat → List Address → Value → String
  | 0, _, _ => "..."
  | fuel + 1, around, v =>
    let part := reprAt h fuel
    let pairs (around : List Address) (entries : List (Value × Value)) : String :=
      "\x7b" ++ listed (entries.map fun e => part around e.1 ++ ": " ++ part around e.2) ++ "\x7d"
    let once (a : Address) (again : String) (text : List Address → String) : String :=
      if around.contains a then again else text (a :: around)
    match v with
    | .none => "None"
    | .bool b => if b then "True" else "False"
    | .int n => toString n
    | .float x => x.text
    | .complex z => z.text
    | .str s => Text.quoted s
    | .bytes data => bytesText data
    | .tuple items => tupleText (items.map (part around))
    | .pattern p => p.text
    | .native (.function name) =>
      if name = "Ellipsis" || name = "NotImplemented" then name else "<built-in function " ++ name ++ ">"
    | .native (.type t) => "<class '" ++ t.name ++ "'>"
    | .native (.error k) => "<class '" ++ k.name ++ "'>"
    | .native n => "<function " ++ n.name ++ " at 0x0>"
    | .failure k args => k.name ++ "(" ++ listed (args.map (part around)) ++ ")"
    | .bound (.native (.type t)) name => "<method '" ++ name ++ "' of '" ++ t.name ++ "' objects>"
    | .bound r name => "<built-in method " ++ name ++ " of " ++ h.typeName false r ++ " object at 0x0>"
    | .method r _ => "<bound method of " ++ part around r ++ ">"
    | .ref a =>
      match h[a]? with
      | some (.list items) => once a "[...]" fun around => "[" ++ listed (items.map (part around)) ++ "]"
      | some (.set items) =>
        if items.isEmpty then "set()" else "\x7b" ++ listed (items.map (part around)) ++ "\x7d"
      | some (.dict entries) => once a "\x7b...\x7d" fun around => pairs around entries
      | some (.proxy entries) => "mappingproxy(" ++ pairs around entries ++ ")"
      | some (.view (.stream type) _) => "<" ++ type ++ " object at 0x0>"
      | some (.view k items) => k.name ++ "([" ++ listed (items.map (part around)) ++ "])"
      | some (.plain attrs) =>
        once a "namespace(...)" fun around =>
          "namespace(" ++ listed (attrs.map fun e => e.1 ++ "=" ++ part around e.2) ++ ")"
      | some .builtins => "<module 'builtins' (built-in)>"
      | some (.token text) | some (.generic text) => text
      | some (.function f) => "<function " ++ f.qualifiedName ++ " at 0x0>"
      | some (.helper f _) => "<function " ++ f.name ++ " at 0x0>"
      | some (.class c) => c.text
      | some (.instance cls _ core) =>
        match core with
        | some (.failure _ args) =>
          h.typeName false (.ref a) ++ "(" ++ listed (args.map (part around)) ++ ")"
        | some v => part around v
        | none => "<" ++ h.classPath cls ++ " object at 0x0>"
      | some (.wrapper w) => "<function " ++ w.qualifiedName ++ " at 0x0>"
      | some (.table t) => t.text
      | some (.external _ text) => text
      | _ => "<" ++ h.typeName false (.ref a) ++ " object at 0x0>"

/-- How deeply nested values are printed. -/
def depthLimit : Nat := 1000

def repr (h : Heap) (v : Value) : String :=
  h.reprAt depthLimit [] v

/-- The text of a value: itself for text, the arguments for a failure, else the printed form. -/
def str (h : Heap) (v : Value) : String :=
  match h.core v with
  | .str s => s
  | .failure k args =>
    match args with
    | [] => ""
    | [v] =>
      if k.isA .key then h.repr v
      else
        match h.core v with
        | .str s => s
        | _ => h.repr v
    | vs => tupleText (vs.map h.repr)
  | _ => h.repr v

/-- Whether a value counts as true. -/
def truth (h : Heap) (v : Value) : Bool :=
  match h.core v with
  | .none => false
  | .bool b => b
  | .int n => n ≠ 0
  | .float x => !x.isZero
  | .complex z => !z.isZero
  | .str s => !s.isEmpty
  | .bytes data => !data.isEmpty
  | .tuple items => !items.isEmpty
  | .ref a =>
    match h[a]? with
    | some (.list items) => !items.isEmpty
    | some (.set items) => !items.isEmpty
    | some (.dict entries) => !entries.isEmpty
    | some (.proxy entries) => !entries.isEmpty
    | some (.view (.stream _) _) => true
    | some (.view _ items) => !items.isEmpty
    | some (.table t) => t.size ≠ 0
    | _ => true
  | _ => true

mutual

/-- The type of the first part of a value that cannot be a key. -/
def unhashable? (h : Heap) : Value → Option String
  | .tuple items => anyUnhashable? h items
  | .ref a =>
    match h[a]? with
    | some (.list _) | some (.set _) | some (.dict _) | some (.proxy _) | some (.plain _)
    | some (.table _) | some (.view .keys _) | some (.view .items _) => some (h.kindOf (.ref a))
    | some (.instance cls _ core) => if h.isHashable cls core then none else some (h.kindOf (.ref a))
    | _ => none
  | _ => none

def anyUnhashable? (h : Heap) : List Value → Option String
  | [] => none
  | v :: r => (unhashable? h v).orElse fun _ => anyUnhashable? h r

end

/-- Entries are equal if each key of one is in the other with an equal value. -/
def sameEntries (same : Value → Value → Bool) (a b : List (Value × Value)) : Bool :=
  a.length == b.length && a.all fun e => (Value.lookup? b e.1).any fun v => same e.2 v

def sameItems (same : Value → Value → Bool) (a b : List Value) : Bool :=
  a.length == b.length && (a.zip b).all fun p => same p.1 p.2

/-- The items of a set, or of a view that counts as one. -/
def setItems? (h : Heap) (v : Value) : Option (List Value) :=
  match h.at? v with
  | some (.set vs) | some (.view .keys vs) | some (.view .items vs) => some vs
  | _ => none

/-- How two sets compare: one comes before those that hold more. -/
def inclusion (xs ys : List Value) : Option Ordering :=
  match xs.all (Table.holds ys), ys.all (Table.holds xs) with
  | true, true => some .eq
  | true, false => some .lt
  | false, true => some .gt
  | false, false => none

/-- Equality of values: by content for lists, mappings and plain objects, else as keys; the fuel bounds
the nesting. -/
def sameAt (h : Heap) : Nat → Value → Value → Bool
  | 0, _, _ => false
  | fuel + 1, v, w =>
    match h.core v, h.core w with
    | .tuple a, .tuple b => sameItems (sameAt h fuel) a b
    | .ref a, .ref b =>
      if a = b then true
      else
        match h[a]?, h[b]? with
        | some (.list x), some (.list y) => sameItems (sameAt h fuel) x y
        | some (.dict x), some (.dict y) => sameEntries (sameAt h fuel) x y
        | some (.dict x), some (.proxy y) => sameEntries (sameAt h fuel) x y
        | some (.proxy x), some (.dict y) => sameEntries (sameAt h fuel) x y
        | some (.proxy x), some (.proxy y) => sameEntries (sameAt h fuel) x y
        | some (.plain x), some (.plain y) =>
          sameEntries (sameAt h fuel) (x.map fun e => (.str e.1, e.2)) (y.map fun e => (.str e.1, e.2))
        | _, _ =>
          match h.setItems? v, h.setItems? w with
          | some x, some y => inclusion x y == some .eq
          | _, _ => false
    | v, w => Value.sameKey v w

def same (h : Heap) (v w : Value) : Bool :=
  h.sameAt depthLimit v w

end Heap

end Patchwork
