import Patchwork.Store.Calling

/-!
Attributes. A hook on a class stands before the attributes of its instances; its effects on assignment
are run by calling it.
-/

namespace Patchwork

variable {κ : Type} {R : World κ → World κ → Prop} [Still R]

/-- The type of a value. -/
def Run.typeOf (h : Heap) (v : Value) : Value :=
  match v with
  | .bool _ => .native (.type .bool)
  | .int _ => .native (.type .int)
  | .float _ => .native (.type .float)
  | .str _ => .native (.type .str)
  | .bytes _ => .native (.type .bytes)
  | .tuple _ => .native (.type .tuple)
  | .native (.type _) | .native (.error _) => .native (.type .type)
  | .failure k _ => .native (.error k)
  | .ref a =>
    match h[a]? with
    | some (.list _) => .native (.type .list)
    | some (.dict _) => .native (.type .dict)
    | some (.set _) => .native (.type .set)
    | some (.class _) => .native (.type .type)
    | some (.instance cls _ _) =>
      match h[cls]? with
      | some (.class _) => .ref cls
      | _ => .native (.type .object)
    | _ => .native (.type (.other (h.typeName false v)))
  | v => .native (.type (.other (h.typeName false v)))

namespace Heap

/-- The hook that stands for an attribute of a class. -/
def hook? (h : Heap) (cls : Address) (name : String) : Option (Address × Interceptor) :=
  match h.classAttr? cls name with
  | some (.ref a) =>
    match h[a]? with
    | some (.interceptor i) => some (a, i)
    | _ => none
  | _ => none

/-- An attribute of a class as its instance sees it: functions take the instance with them. -/
def onInstance (h : Heap) (self value : Value) : Value :=
  match value with
  | .native .require => .method self value
  | .ref a =>
    match h[a]? with
    | some (.function _) | some (.helper _ _) | some (.wrapper _) => .method self value
    | some (.reached .plain f) => f
    | some (.reached .ofClass f) => .method (Run.typeOf h self) f
    | _ => value
  | value => value

end Heap

/-- The methods of a built-in type that scripts can reach. -/
def methodsOf (type : String) : List String :=
  match type with
  | "dict" =>
    ["get", "keys", "values", "items", "pop", "popitem", "setdefault", "update", "clear", "copy",
      "__getitem__", "__setitem__", "__delitem__", "__contains__", "__len__"]
  | "mappingproxy" => ["get", "keys", "values", "items", "copy", "__getitem__", "__contains__", "__len__"]
  | "list" =>
    ["append", "extend", "insert", "pop", "remove", "clear", "index", "count", "reverse", "copy", "sort",
      "__getitem__", "__setitem__", "__delitem__", "__contains__", "__len__"]
  | "set" => ["add", "discard", "remove", "update", "clear", "copy", "__contains__", "__len__"]
  | "LazyModuleTable" =>
    ["get", "keys", "values", "items", "pop", "popitem", "setdefault", "update", "clear", "hide",
      "describe", "own_keys", "is_processed", "__getitem__", "__setitem__", "__delitem__", "__contains__",
      "__len__"]
  | "str" =>
    ["upper", "lower", "title", "capitalize", "casefold", "swapcase", "strip", "lstrip", "rstrip", "split",
      "rsplit", "splitlines", "partition", "rpartition", "join", "replace", "startswith", "endswith", "find",
      "rfind", "index", "rindex", "count", "removeprefix", "removesuffix", "zfill", "center", "ljust", "rjust",
      "isalnum", "isalpha", "isascii", "isdecimal", "isdigit", "isidentifier", "islower", "isprintable",
      "isspace", "isupper", "encode", "expandtabs", "format", "format_map", "__getitem__", "__contains__", "__len__"]
  | "bytes" => ["decode", "hex", "__len__"]
  | "tuple" => ["index", "count", "__getitem__", "__contains__", "__len__"]
  | _ => []

/-- The text that a body begins with, which documents it. -/
def Script.Code.doc (c : Script.Code) : Value :=
  match c.body with
  | .block (.expr (.str s) :: _) => .str s
  | _ => .none

namespace Run

def noAttribute {α : Type} (v : Value) (name : String) : Within R α := do
  fail (.noAttribute (← kindOf v) name)

/-- A method of a built-in type, or a failure. -/
def builtinMethod (v : Value) (name : String) : Within R Value := do
  let h ← heap
  if name = "__class__" then pure (typeOf h v)
  else
    match h.core v with
    | .failure _ args => if name = "args" then pure (.tuple args) else noAttribute v name
    | core =>
      match core.numberPart? name with
      | some w => pure w
      | none =>
        if (methodsOf (h.typeName false core)).contains name then pure (.bound v name) else noAttribute v name

def orMissing (v : Value) (name : String) (found : Option Value) : Within R Value := do
  match found with
  | some w => pure w
  | none => builtinMethod v name

/-- What every function tells of itself. -/
def functionAttr? (h : Heap) (f : Function) (name : String) : Option Value :=
  match name with
  | "__name__" => some (.str f.name)
  | "__qualname__" => some (.str f.qualifiedName)
  | "__globals__" => some (.ref f.globals)
  | "__doc__" => some ((f.attrs.get? name).getD f.code.doc)
  | "__module__" =>
    match f.attrs.get? name, h[f.globals]? with
    | some v, _ => some v
    | none, some (.dict entries) => some ((Value.lookup? entries (.str "__name__")).getD .none)
    | none, _ => some .none
  | _ => f.attrs.get? name

/-- What every class tells of itself. -/
def classFact? (c : ClassObject) (name : String) : Option Value :=
  match name with
  | "__name__" => some (.str c.name)
  | "__qualname__" => some (.str c.qualifiedName)
  | "__module__" => some (.str c.module)
  | "__bases__" => some (.tuple (if c.bases.isEmpty then [.native (.type .object)] else c.bases))
  | "__doc__" => some ((c.attrs.get? "__doc__").getD .none)
  | _ => none

/-- What a class has from the built-in type that it inherits from. -/
def inheritedMethod? (h : Heap) (cls : Address) (name : String) : Option Value :=
  match h.nativeBase? cls with
  | some (.type t) => if (methodsOf t.name).contains name then some (.bound (.native (.type t)) name) else none
  | _ => none

/-- Reads an attribute. -/
def getAttr (v : Value) (name : String) : Within R Value := do
  let h ← heap
  match v with
  | .native n =>
    if name = "__name__" ∨ name = "__qualname__" then pure (.str n.name)
    else if name = "__class__" then pure (typeOf h v)
    else
      match n with
      | .type t =>
        if name = "__module__" then pure (.str "builtins")
        else if (methodsOf t.name).contains name then pure (.bound v name)
        else fail (.noClassAttribute t.name name)
      | .error k =>
        if name = "__module__" then pure (.str "builtins") else fail (.noClassAttribute k.name name)
      | _ => noAttribute v name
  | .bound r n =>
    match name with
    | "__name__" => pure (.str n)
    | "__qualname__" => pure (.str (h.typeName false r ++ "." ++ n))
    | "__self__" => pure r
    | _ => builtinMethod v name
  | .method self f =>
    match name with
    | "__self__" => pure self
    | "__func__" => pure f
    | _ =>
      match f with
      | .ref a =>
        match h[a]? with
        | some (.function fn) => orMissing v name (functionAttr? h fn name)
        | some (.wrapper w) =>
          if name = "__name__" then pure (.str w.name)
          else if name = "__wrapped__" then pure w.wrapped
          else orMissing v name (w.attrs.get? name)
        | some (.helper fn attrs) =>
          if name = "__name__" then pure (.str fn.name) else orMissing v name (attrs.get? name)
        | _ => builtinMethod v name
      | _ => builtinMethod v name
  | .ref a =>
    match h[a]? with
    | some (.plain attrs) => orMissing v name (attrs.get? name)
    | some .builtins =>
      match h[builtinsDict]? with
      | some (.dict entries) =>
        match Value.lookup? entries (.str name) with
        | some w => pure w
        | none => if name = "__dict__" then pure (.ref builtinsDict) else fail (.noModuleAttribute "builtins" name)
      | _ => fail (.noModuleAttribute "builtins" name)
    | some (.function f) => orMissing v name (functionAttr? h f name)
    | some (.helper f attrs) =>
      if name = "__name__" ∨ name = "__qualname__" then pure (.str f.name)
      else orMissing v name (attrs.get? name)
    | some (.wrapper w) =>
      match name with
      | "__name__" => pure (.str w.name)
      | "__qualname__" => pure (.str w.qualifiedName)
      | "__wrapped__" => pure w.wrapped
      | _ => orMissing v name (w.attrs.get? name)
    | some (.class c) =>
      match if ["__doc__", "__name__", "__qualname__"].contains name then none else h.classAttr? a name with
      | some w =>
        match h.at? w with
        | some (.reached .plain f) => pure f
        | some (.reached .ofClass f) => pure (.method v f)
        | _ => pure w
      | none =>
        match (classFact? c name).or (inheritedMethod? h a name) with
        | some w => pure w
        | none => if name = "__class__" then pure (typeOf h v) else fail (.noClassAttribute c.name name)
    | some (.instance cls attrs _) =>
      match h.hook? cls name with
      | some (_, i) =>
        match attrs.get? name with
        | some w => pure w
        | none =>
          match i.previous with
          | some w => pure w
          | none => fail (.noStoredAttribute name)
      | none =>
        match attrs.get? name with
        | some w => pure w
        | none =>
          match h.classAttr? cls name, h[cls]? with
          | some w, _ => pure (h.onInstance v w)
          | none, some (.class c) =>
            if name = "__module__" || name = "__doc__" then orMissing v name (classFact? c name)
            else builtinMethod v name
          | none, _ => builtinMethod v name
    | some (.record r) =>
      match name with
      | "id" => pure r.id
      | "original" => pure r.original
      | "current" => pure r.current
      | "source" => pure ((r.source.map .str).getD .none)
      | "patched_by" => new (.list r.patchedBy)
      | _ => builtinMethod v name
    | some (.descriptor d) =>
      match name with
      | "key" => pure d.key
      | "value" => pure d.value
      | "enumerable" => pure (.bool d.enumerable)
      | "writable" => pure (.bool d.writable)
      | "configurable" => pure (.bool d.configurable)
      | _ => builtinMethod v name
    | _ => builtinMethod v name
  | _ => builtinMethod v name

/-- Reads an attribute; `none` if it is missing. -/
def getAttr? (v : Value) (name : String) : Within R (Option Value) :=
  handle (do pure (some (← getAttr v name))) fun c =>
    if c.kind.isA .attributes then pure none else fail c

/-- Stores an attribute; a hook on the class of an instance is called instead. -/
def setAttr (call : Caller κ) [Calls call R] (v : Value) (name : String) (value : Value) :
    Within R Unit := do
  let h ← heap
  match v with
  | .ref a =>
    match h[a]? with
    | some (.plain attrs) => write a (.attrs (attrs.set name value))
    | some .builtins =>
      match h[builtinsDict]? with
      | some (.dict entries) => write builtinsDict (.entries (Value.insert entries (.str name) value))
      | _ => pure ()
    | some (.function f) =>
      match name, value with
      | "__name__", .str s => write a (.name s)
      | _, _ => write a (.attrs (f.attrs.set name value))
    | some (.helper _ attrs) => write a (.attrs (attrs.set name value))
    | some (.wrapper w) => write a (.attrs (w.attrs.set name value))
    | some (.class c) => write a (.attrs (c.attrs.set name value))
    | some (.instance cls attrs _) =>
      match h.hook? cls name with
      | some (i, _) => let _ ← ask call (.bound (.ref i) "__set__") (.of [v, value])
      | none =>
        match (h.classAttr? cls name).bind h.at? with
        | some (.reached .computed _) =>
          fail (.raised .attributes
            [.str s!"property {Text.quoted name} of {Text.quoted (h.qualifiedName cls)} object has no setter"])
        | _ => write a (.attrs (attrs.set name value))
    | _ => noAttribute v name
  | _ => noAttribute v name

/-- Removes an attribute. -/
def deleteAttr (v : Value) (name : String) : Within R Unit := do
  let h ← heap
  let remove (a : Address) (attrs : Attributes) : Within R Unit := do
    if (attrs.get? name).isSome then write a (.attrs (attrs.erase name)) else fail (.noStoredAttribute name)
  match v with
  | .ref a =>
    match h[a]? with
    | some (.plain attrs) => remove a attrs
    | some (.function f) => remove a f.attrs
    | some (.helper _ attrs) => remove a attrs
    | some (.wrapper w) => remove a w.attrs
    | some (.class c) => remove a c.attrs
    | some (.instance _ attrs _) => remove a attrs
    | _ => noAttribute v name
  | _ => noAttribute v name

end Run

end Patchwork
