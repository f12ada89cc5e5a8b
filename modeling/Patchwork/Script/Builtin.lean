import Patchwork.Number.Division
import Patchwork.Script.ClassForm
import Patchwork.Store.Snapshot

/-!
The built-in names of scripts, and their functions.
-/

namespace Patchwork.Script

open Run Heap

variable {κ : Type} {R : World κ → World κ → Prop} [Still R]

/-- The built-in functions. -/
def functionNames : List String :=
  ["abs", "all", "any", "ascii", "bin", "callable", "chr", "delattr", "divmod", "enumerate", "filter", "format",
    "getattr", "globals", "hasattr", "hex", "isinstance", "issubclass", "iter", "len", "locals", "map", "max", "min",
    "oct", "ord", "pow", "print", "range", "repr", "reversed", "round", "setattr", "sorted", "sum", "vars", "zip"]

def builtinTypes : List BuiltinType :=
  [.bool, .bytes, .classMethod, .dict, .float, .int, .list, .object, .property, .set, .staticMethod, .str, .tuple,
    .type]

/-- All built-in names with their values. -/
def builtinEntries : List (Value × Value) :=
  functionNames.map (fun n => (.str n, .native (.function n))) ++
    builtinTypes.map (fun t => (.str t.name, .native (.type t))) ++
    ErrorKind.inScripts.map (fun k => (.str k.name, .native (.error k))) ++
    [(.str "NotImplemented", notImplemented), (.str "Ellipsis", .native (.function "Ellipsis")),
      (.str "__name__", .str "builtins")]

/-- Values with methods of their own that call like functions. -/
def isCallable (h : Heap) : Value → Bool
  | .native (.function name) => name != "Ellipsis" && name != "NotImplemented"
  | .native _ | .bound _ _ | .method _ _ => true
  | .ref a =>
    match h[a]? with
    | some (.function _) | some (.helper _ _) | some (.wrapper _) | some (.class _) | some (.external _ _)
    | some (.token _) => true
    | some (.instance cls _ _) => (h.classAttr? cls "__call__").isSome
    | _ => false
  | _ => false

/-- Whether a type is another one or inherits from it. -/
def isSubtype (h : Heap) (t base : Value) : Bool :=
  Value.sameKey t base || isBaseOf h base t ||
    match t, base with
    | .native (.type .bool), .native (.type .int) => true
    | _, _ => false

/-- Whether a type inherits from one of some types, which are looked at up to the first such one. -/
def isAmong (h : Heap) (message : String) (v : Value) : List Value → Within R Bool
  | [] => pure false
  | t :: r =>
    if !Value.sameKey (typeOf h t) (.native (.type .type)) then mistyped message
    else if isSubtype h v t then pure true
    else isAmong h message v r

/-- The items of a tuple, or a single value. -/
def tupleItems : Value → List Value
  | .tuple ts => ts
  | t => [t]

/-- Whole numbers from `start` in steps, `count` of them. -/
def rangeItems (start step : Int) : Nat → List Value
  | 0 => []
  | n + 1 => .int start :: rangeItems (start + step) step n

def rangeCount (start stop step : Int) : Nat :=
  if 0 < step then ((stop - start + step - 1) / step).toNat
  else if step < 0 then ((start - stop - step - 1) / (-step)).toNat
  else 0

/-- The names of a class with what every class has. -/
def classEntries (h : Heap) (a : Address) (c : ClassObject) : List (Value × Value) :=
  let (hashing, own) := c.attrs.partition fun e => e.1 == "__hash__" && Value.identical e.2 .none
  let entry (e : String × Value) : Value × Value := (.str e.1, e.2)
  let slot (name : String) : Value × Value := (.str name, .native (.type (.other "getset_descriptor")))
  let hasBase := c.bases.any fun b =>
    match b with
    | .ref _ => true
    | _ => false
  let places := match hasBase, h.nativeBase? a with
    | true, _ => []
    | false, none => ["__dict__", "__weakref__"]
    | false, some (.error _) => ["__weakref__"]
    | false, some (.type t) =>
      if [BuiltinType.int, .tuple, .bytes].contains t then ["__dict__"] else ["__dict__", "__weakref__"]
    | false, some _ => []
  let doc := if own.any (·.1 == "__doc__") then [] else [("__doc__", Value.none)]
  (.str "__module__", .str c.module) :: own.map entry ++ places.map slot ++ (doc ++ hashing).map entry

/-- The attributes of a value as a dictionary. -/
def attributesOf (call : Caller κ) [Calls call R] (v : Value) : Within R Value := do
  let named (attrs : Attributes) : Within R Value :=
    new (.dict (attrs.map fun e => (.str e.1, e.2)))
  let h ← heap
  match v with
  | .ref a =>
    match h[a]? with
    | some .builtins => pure (.ref builtinsDict)
    | some (.plain attrs) | some (.instance _ attrs _) => named attrs
    | some (.function f) => named f.attrs
    | some (.helper _ attrs) => named attrs
    | some (.wrapper w) => named (w.attrs.set "__wrapped__" w.wrapped)
    | some (.class c) => new (.proxy (classEntries h a c))
    | _ => missing
  | .native (.type _) | .native (.error _) => new (.proxy [])
  | _ => missing
where
  missing : Within R Value := do
    match ← readAttr? call v "__dict__" with
    | some d => pure d
    | none => mistyped "vars() argument must have __dict__ attribute"

def needsName (v : Value) : Within R String := do
  match (← heap).core v with
  | .str s => pure s
  | _ => do mistyped s!"attribute name must be string, not {Text.quoted (← kindOf v)}"

/-- Makes a value that gives items one after the other. -/
def stream (type : String) (items : List Value) : Within R Value :=
  new (.view (.stream type) items)

/-- A tuple of the next items of all lists, as long as all have one. -/
def zipped : Nat → List (List Value) → List Value
  | 0, _ => []
  | fuel + 1, lists =>
    match lists.mapM List.head? with
    | some heads => if lists.isEmpty then [] else .tuple heads :: zipped fuel (lists.map List.tail)
    | none => []

/-- The floored quotient with what is left. -/
def quotientWithRest (call : Caller κ) [Calls call R] (a b : Value) : Within R Value := do
  let quotient ← operateWith call .floorDivide "divmod()" a b
  pure (.tuple [quotient, ← operateWith call .modulo "divmod()" a b])

/-- What is left over of a power; one to a negative exponent is that of the inverse. -/
def powerModulo (a b m : Int) : Within R Value := do
  if m = 0 then fail (.raised .value [.str "pow() 3rd argument cannot be 0"])
  let size := m.natAbs
  let base := (Int.fmod a size).toNat
  let base ← match if 0 ≤ b then some base else Number.inverse? size base with
    | some n => pure n
    | none => fail (.raised .value [.str "base is not invertible for the given modulus"])
  pure (.int (Int.fmod (Number.residuePower size base b.natAbs) m))

/-- A whole number with zeros for its last digits, rounded to even. -/
def roundedWhole (n : Int) (zeros : Nat) : Int :=
  let unit := Nat.pow 10 (min zeros (n.natAbs.log2 + 2))
  let size : Int := Int.ofNat (Number.Binary64.roundDiv n.natAbs unit * unit)
  if n < 0 then -size else size

/-- Calls a built-in function of numbers. -/
def callNumeric (call : Caller κ) [Calls call R] (name : String) (args : Arguments) : Within R Value := do
  let h ← heap
  match name with
  | "abs" =>
    let v ← onlyArgument name args
    match ← askClass call v "__abs__" [] with
    | some w => pure w
    | none =>
      let core := h.core v
      match core.integer?, core with
      | some n, _ => pure (.int n.natAbs)
      | none, .float x => pure (.float x.absolute)
      | none, _ => mistyped s!"bad operand type for abs(): {Text.quoted (h.kindOf v)}"
  | "divmod" =>
    checkCount name 2 2 args
    match args.positional with
    | [a, b] => do
      let isZero := (double? (h.core b)).any Number.Binary64.isZero
      match h.core a, h.core b with
      | .float _, _ | _, .float _ =>
        if isZero && (double? (h.core a)).isSome then fail (.division .both)
        else quotientWithRest call a b
      | _, _ => quotientWithRest call a b
    | _ => pure .none
  | "pow" =>
    match args.positional with
    | [a, b] => binary call .power a b
    | [a, b, m] => do
      match (h.core a).integer?, (h.core b).integer?, (h.core m).integer? with
      | some a, some b, some m => powerModulo a b m
      | _, _, _ => mistyped "pow() 3rd argument not allowed unless all arguments are integers"
    | vs => mistyped s!"pow() missing required argument 'exp' (pos {vs.length + 1})"
  | _ =>
    match args.positional with
    | [] => mistyped "round() missing required argument 'number' (pos 1)"
    | [v] | [v, .none] => do
      match (h.core v).integer?, h.core v with
      | some n, _ => pure (.int n)
      | none, .float x => do
        match x.rounded? 0 with
        | some n => pure (.int n)
        | none => fail (.format (if x.isNan then .nanWhole else .infinityWhole))
      | none, _ => mistyped s!"type {h.kindOf v} doesn't define __round__ method"
    | [v, places] => do
      let places ← wholeArgument places
      match (h.core v).integer?, h.core v with
      | some n, _ => pure (.int (if 0 ≤ places then n else roundedWhole n places.natAbs))
      | none, .float x =>
        let y := x.roundedTo places
        if x.isFinite && !y.isFinite then fail (.raised .overflow [.str "rounded value too large to represent"])
        else pure (.float y)
      | none, _ => mistyped s!"type {h.kindOf v} doesn't define __round__ method"
    | vs => mistyped s!"round() takes at most 2 arguments ({vs.length} given)"

/-- Calls a built-in function that goes over items. -/
def callOnItems (call : Caller κ) [Calls call R] (name : String) (args : Arguments) : Within R Value := do
  match name with
  | "all" =>
    let vs ← items call (← onlyArgument name args)
    pure (.bool (← vs.allM (truth call)))
  | "any" =>
    let vs ← items call (← onlyArgument name args)
    pure (.bool (← vs.anyM (truth call)))
  | "iter" => do stream "iterator" (← items call (← onlyArgument name args))
  | "reversed" => do stream "reversed" (← items call (← onlyArgument name args)).reverse
  | "enumerate" =>
    match args.positional with
    | v :: rest => do
      let start ← match rest.head?.or (Attributes.get? args.named "start") with
        | some n => wholeArgument n
        | none => pure 0
      stream name ((← items call v).zipIdx.map fun (w, i) => .tuple [.int (start + i), w])
    | [] => mistyped "enumerate() missing required argument 'iterable' (pos 1)"
  | "zip" => do
    let lists ← args.positional.mapM (items call)
    stream name (zipped ((lists.head?.map List.length).getD 0) lists)
  | "map" =>
    match args.positional with
    | f :: v :: rest => do
      let lists ← (v :: rest).mapM (items call)
      let found ← (zipped ((lists.head?.map List.length).getD 0) lists).mapM fun w =>
        match w with
        | .tuple vs => ask call f (.of vs)
        | w => ask call f (.of [w])
      stream name found
    | _ => mistyped "map() must have at least two arguments."
  | "filter" =>
    checkCount name 2 2 args
    match args.positional with
    | [f, v] => do
      stream name (← (← items call v).filterM fun w => do
        match f with
        | .none => truth call w
        | f => truth call (← ask call f (.of [w])))
    | _ => pure .none
  | "max" | "min" =>
    let vs ← match args.positional with
      | [v] => items call v
      | vs => pure vs
    match ← keyed call (Attributes.get? args.named "key") vs, Attributes.get? args.named "default" with
    | v :: r, _ => extreme call (if name = "max" then .greater else .less) v r
    | [], some d => pure d
    | [], none =>
      if args.positional.isEmpty then fail (.atLeastOne name)
      else fail (.raised .value [.str s!"{name}() arg is an empty sequence"])
  | "sorted" => do
    let v ← match args.positional with
      | [v] => pure v
      | vs => mistyped s!"sorted expected 1 argument, got {vs.length}"
    new (.list (← sortedBy call args.named (← items call v)))
  | _ =>
    match args.positional with
    | v :: rest => do
      let start := rest.head?.or (Attributes.get? args.named "start")
      match start.map (← heap).core with
      | some (.str _) => mistyped "sum() can't sum strings [use ''.join(seq) instead]"
      | _ => do (← items call v).foldlM (fun s w => binary call .add s w) (start.getD (.int 0))
    | [] => mistyped "sum() takes at least 1 positional argument (0 given)"

/-- A whole number in a base, with a sign and a mark of the base. -/
def basedText (base : Nat) (mark : String) (v : Value) : Within R Value := do
  let n ← wholeArgument v
  let digits := String.ofList (Nat.toDigits base n.natAbs)
  pure (.str ((if n < 0 then "-" else "") ++ mark ++ digits))

/-- Calls a built-in function. -/
def callFunction (call : Caller κ) [Calls call R] (name : String) (args : Arguments) : Within R Value := do
  let h ← heap
  match name with
  | "len" => do pure (.int (← lengthOf call (← onlyArgument name args)))
  | "repr" => do pure (.str (← shown call (← onlyArgument name args)))
  | "ascii" => do
    let text ← shown call (← onlyArgument name args)
    pure (.str (String.ofList (Percent.asciiForm text)))
  | "format" =>
    checkCount name 1 2 args
    match args.positional with
    | v :: rest => do
      let specification ← match rest.head? with
        | some w => textArgument "format() argument 2 must be str" w
        | none => pure []
      pure (textValue (← written call v specification))
    | [] => pure .none
  | "bin" => do basedText 2 "0b" (← onlyArgument name args)
  | "hex" => do basedText 16 "0x" (← onlyArgument name args)
  | "oct" => do basedText 8 "0o" (← onlyArgument name args)
  | "callable" => do pure (.bool (isCallable h (← onlyArgument name args)))
  | "abs" | "divmod" | "pow" | "round" => callNumeric call name args
  | "chr" =>
    let n ← smallArgument (← onlyArgument name args)
    if 0 ≤ n ∧ n < 0x110000 then pure (.str (Char.ofNat n.toNat).toString)
    else fail (.raised .value [.str "chr() arg not in range(0x110000)"])
  | "ord" =>
    let v ← onlyArgument name args
    match h.core v with
    | .str s =>
      match s.toList with
      | [c] => pure (.int c.toNat)
      | cs => mistyped s!"ord() expected a character, but string of length {cs.length} found"
    | .bytes [b] => pure (.int b.toNat)
    | _ => mistyped s!"ord() expected string of length 1, but {h.kindOf v} found"
  | "vars" =>
    if !args.named.isEmpty then fail (.noNamed name)
    match args.positional with
    | [v] => attributesOf call v
    | vs => fail (.atMost name 1 vs.length)
  | "getattr" =>
    checkCount name 2 3 args
    match args.positional with
    | [v, n] => do readAttr call v (← needsName n)
    | [v, n, default] => do pure ((← readAttr? call v (← needsName n)).getD default)
    | _ => pure .none
  | "hasattr" =>
    checkCount name 2 2 args
    match args.positional with
    | [v, n] => do pure (.bool (← readAttr? call v (← needsName n)).isSome)
    | _ => pure .none
  | "setattr" =>
    checkCount name 3 3 args
    match args.positional with
    | [v, n, w] =>
      setAttr call v (← needsName n) w
      pure .none
    | _ => pure .none
  | "delattr" =>
    checkCount name 2 2 args
    match args.positional with
    | [v, n] =>
      deleteAttr v (← needsName n)
      pure .none
    | _ => pure .none
  | "isinstance" =>
    checkCount name 2 2 args
    match args.positional with
    | [v, t] => do
      let message := "isinstance() arg 2 must be a type, a tuple of types, or a union"
      pure (.bool (← isAmong h message (typeOf h v) (tupleItems t)))
    | _ => pure .none
  | "issubclass" =>
    checkCount name 2 2 args
    match args.positional with
    | [v, t] => do
      if !Value.sameKey (typeOf h v) (.native (.type .type)) then mistyped "issubclass() arg 1 must be a class"
      pure (.bool (← isAmong h "issubclass() arg 2 must be a class, a tuple of classes, or a union" v (tupleItems t)))
    | _ => pure .none
  | "range" =>
    checkCount name 1 3 args
    let ns ← args.positional.mapM wholeArgument
    match ns with
    | [stop] => new (.list (rangeItems 0 1 (rangeCount 0 stop 1)))
    | [start, stop] => new (.list (rangeItems start 1 (rangeCount start stop 1)))
    | start :: stop :: step :: _ =>
      if step = 0 then fail (.raised .value [.str "range() arg 3 must not be zero"])
      new (.list (rangeItems start step (rangeCount start stop step)))
    | [] => pure .none
  | "print" => pure .none
  | _ =>
    if functionNames.contains name then callOnItems call name args
    else fail (.notCallable (h.kindOf (.native (.function name))))

/-- The argument of a function with one parameter. -/
def oneParameter (function parameter : String) (args : Arguments) : Within R Value := do
  match args.named.find? (·.1 != parameter) with
  | some (n, _) => fail (.unexpected function n)
  | none =>
    match args.positional, args.named with
    | [v], [] => pure v
    | [], (_, v) :: _ => pure v
    | [], [] => fail (.missing function false [parameter])
    | [_], _ :: _ => fail (.repeated function parameter)
    | vs, _ => fail (.tooMany function 1 1 vs.length 0)

def callHelper (call : Caller κ) [Calls call R] (f : Helper) (args : Arguments) : Within R Value := do
  match f with
  | .inc => do binary call .add (← oneParameter f.name "x" args) (.int 1)
  | .double => do binary call .multiply (← oneParameter f.name "x" args) (.int 2)
  | .mul10 => do binary call .multiply (← oneParameter f.name "x" args) (.int 10)
  | .ident => oneParameter f.name "x" args
  | .note => do
    let v ← oneParameter f.name "x" args
    emit (.noted [.str f.name, ← snapshot v])
    pure .none
  | .boom =>
    match args.named with
    | (n, _) :: _ => fail (.unexpected f.name n)
    | [] => fail (.raised .value [.str "boom"])

end Patchwork.Script
