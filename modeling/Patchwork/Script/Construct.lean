import Patchwork.Script.ClassForm

/-!
Calls of built-in types, which make values from others.
-/

namespace Patchwork.Script

open Run Heap

variable {κ : Type} {R : World κ → World κ → Prop} [Still R]

/-- The text of a value; with an encoding the text that bytes stand for. -/
def decodedText (call : Caller κ) [Calls call R] (v encoding errors : Option Value) : Within R Value := do
  let h ← heap
  let isText (v : Value) : Bool :=
    match h.core v with
    | .str _ => true
    | _ => false
  match encoding, errors with
  | none, none =>
    match v with
    | some v => do pure (.str (← textOf call v))
    | none => pure (.str "")
  | some e, _ =>
    if !isText e then mistyped s!"str() argument 'encoding' must be str, not {h.kindOf e}" else decoded h v
  | none, some e =>
    if !isText e then mistyped s!"str() argument 'errors' must be str, not {h.kindOf e}" else decoded h v
where
  decoded (h : Heap) : Option Value → Within R Value
    | none => pure (.str "")
    | some v =>
      match h.core v with
      | .str _ => mistyped "decoding str is not supported"
      | .bytes data => pure (.str ((String.fromUTF8? ⟨data.toArray⟩).getD ""))
      | _ => mistyped s!"decoding to str: need a bytes-like object, {h.kindOf v} found"

/-- A whole number from text. -/
def wholeOfText (s : String) : Within R Value :=
  match Number.excessDigits? 10 s.toList, Number.intOf? s with
  | some n, some _ => fail (.raised .value [.str (Number.digitLimitText n)])
  | _, some n => pure (.int n)
  | _, none => fail (.notInteger s)

/-- A whole number from digits in a base. -/
def wholeInBase (v base : Value) : Within R Value := do
  let b ← wholeArgument base
  if b < 0 ∨ b = 1 ∨ 36 < b then
    fail (.raised .value [.str "int() base must be >= 2 and <= 36, or 0"])
  let base := b.toNat
  let read (cs : List Char) : Within R Value := do
    let excess := if Number.isBinaryBase base then none else Number.excessDigits? (if base = 0 then 10 else base) cs
    match excess, Number.signedOf? (Number.natInBase? base) cs with
    | some n, some _ => fail (.raised .value [.str (Number.digitLimitText n)])
    | none, some n => pure (.int n)
    | _, none => do
      let text ← repr v
      fail (.raised .value [.str s!"invalid literal for int() with base {b}: {text}"])
  match (← heap).core v with
  | .str s => read s.toList
  | .bytes data => read (data.map fun b => Char.ofNat b.toNat)
  | _ => mistyped "int() can't convert non-string with explicit base"

/-- A whole number from a value. -/
def wholeOf (call : Caller κ) [Calls call R] (v : Value) : Within R Value := do
  let h ← heap
  match h.core v with
  | .str s => wholeOfText s
  | .bytes _ => wholeInBase v (.int 10)
  | .float x =>
    match Percent.truncated x with
    | .ok n => pure (.int n)
    | .error f => fail (.format f)
  | core =>
    match core.integer? with
    | some n => pure (.int n)
    | none =>
      match ← askClass call v "__int__" [] with
      | some w => pure w
      | none => fail (.notNumber "int" (h.kindOf v))

/-- A number that is none of those before. -/
def freshNan : Within R Value := do
  pure (.float (Number.Binary64.nanWith (← alloc (.cell none))))

/-- A double from a value. -/
def doubleOf (call : Caller κ) [Calls call R] (v : Value) : Within R Value := do
  let h ← heap
  match h.core v with
  | .str s =>
    match Number.floatOf? s with
    | some x => if x.isNan then freshNan else pure (.float x)
    | none => fail (.notFloat s)
  | core =>
    match double? core with
    | some x => if x.isFinite || !core.integer?.isSome then pure (.float x) else fail .tooLargeForDouble
    | none =>
      match ← askClass call v "__float__" [] with
      | some w => pure w
      | none =>
        mistyped s!"float() argument must be a string or a real number, not {Text.quoted (h.kindOf v)}"

/-- Bytes from whole numbers, or so many zeros. -/
def bytesOf (call : Caller κ) [Calls call R] (v : Value) : Within R Value := do
  let h ← heap
  match h.core v, (h.core v).integer? with
  | .bytes data, _ => pure (.bytes data)
  | .str _, _ => mistyped "string argument without an encoding"
  | _, some n =>
    if n < 0 then fail (.raised .value [.str "negative count"])
    else do
      checkSize 1 n (.raised .memory [])
      pure (.bytes (List.replicate n.toNat 0))
  | _, none => do
    let data ← (← items call v).mapM fun w => do
      let n ← wholeArgument w
      if n < 0 ∨ 255 < n then fail (.raised .value [.str "bytes must be in range(0, 256)"])
      else pure (UInt8.ofNat n.toNat)
    pure (.bytes data)

/-- What the type of a value that scripts cannot name gives for a call. -/
def callOther {α : Type} (name : String) (args : Arguments) : Within R α := do
  let n := args.positional.length
  match name with
  | "NoneType" | "ellipsis" | "NotImplementedType" => mistyped s!"{name} takes no arguments"
  | "function" =>
    match args.positional with
    | v :: _ :: _ => do mistyped s!"function() argument 'code' must be code, not {← kindOf v}"
    | _ => mistyped s!"function() missing required argument {if n = 0 then codeText else globalsText} (pos {n + 1})"
  | "method" => mistyped s!"method expected 2 arguments, got {n}"
  | "module" => mistyped s!"module() takes at most 2 arguments ({n} given)"
  | "SimpleNamespace" => mistyped "no positional arguments expected"
  | "complex" => mistyped s!"complex() takes at most 2 arguments ({n} given)"
  | _ => mistyped s!"cannot create {Text.quoted name} instances"
where
  codeText : String := Text.quoted "code"
  globalsText : String := Text.quoted "globals"

/-- Makes a value of a built-in type. -/
def callType (call : Caller κ) [Calls call R] (t : BuiltinType) (args : Arguments) : Within R Value := do
  let h ← heap
  let atMostOne : Within R Unit := do
    if t ≠ .dict ∧ !args.named.isEmpty then fail (.noNamed t.name)
    if 1 < args.positional.length then fail (.atMost t.name 1 args.positional.length)
  let v? := args.positional.head?
  let given : Within R (List Value) :=
    match v? with
    | some v => items call v
    | none => pure []
  match t with
  | .str => do
    let given := args.positional.length + args.named.length
    if 3 < given then mistyped s!"str() takes at most 3 arguments ({given} given)"
    match args.named.find? fun a => !(["object", "encoding", "errors"].contains a.1) with
    | some (name, _) => mistyped s!"{Text.quoted name} is an invalid keyword argument for str()"
    | none => pure ()
    decodedText call (v?.or (Attributes.get? args.named "object"))
      ((args.positional.drop 1).head?.or (Attributes.get? args.named "encoding"))
      ((args.positional.drop 2).head?.or (Attributes.get? args.named "errors"))
  | .list => do
    atMostOne
    new (.list (← given))
  | .tuple => do
    atMostOne
    pure (.tuple (← given))
  | .set => do
    atMostOne
    let vs ← given
    vs.forM checkKey
    new (.set (vs.foldl Table.addKey []))
  | .dict => do
    atMostOne
    let es ← match v? with
      | some v => entriesOf call v
      | none => pure []
    let all := es ++ args.named.map fun e => (.str e.1, e.2)
    new (.dict (all.foldl (fun d e => Value.insert d e.1 e.2) []))
  | .bool => do
    atMostOne
    match v? with
    | some v => do pure (.bool (← truth call v))
    | none => pure (.bool false)
  | .int => do
    if 2 < args.positional.length then mistyped s!"int() takes at most 2 arguments ({args.positional.length} given)"
    match args.named.find? fun a => a.1 != "base" with
    | some (name, _) => mistyped s!"{Text.quoted name} is an invalid keyword argument for int()"
    | none =>
      match v?, (args.positional.drop 1).head?.or (Attributes.get? args.named "base") with
      | none, none => pure (.int 0)
      | none, some _ => mistyped "int() missing string argument"
      | some v, none => wholeOf call v
      | some v, some base => wholeInBase v base
  | .float => do
    atMostOne
    match v? with
    | none => pure (.float (Number.Binary64.ofInt 0))
    | some v => doubleOf call v
  | .bytes => do
    match args.positional with
    | [] => pure (.bytes [])
    | [v] => bytesOf call v
    | v :: e :: _ =>
      match h.core e, h.core v with
      | .str _, .str s => pure (.bytes s.toUTF8.toList)
      | .str _, _ => mistyped "encoding without a string argument"
      | _, _ => mistyped s!"bytes() argument 'encoding' must be str, not {h.kindOf e}"
  | .object => do
    if !args.positional.isEmpty || !args.named.isEmpty then mistyped "object() takes no arguments"
    new (.instance builtinsDict [] none)
  | .staticMethod => reached .plain
  | .classMethod => reached .ofClass
  | .property => reached .computed
  | .type => do
    match args.positional with
    | [v] => pure (typeOf h v)
    | [name, bases, body] =>
      match h.core name, h.core bases, h.core body with
      | .str name, .tuple bases, .ref body => do
        makeClass call name bases args.named (← alloc (.dict (← entries body)))
      | _, _, _ => mistyped s!"type.__new__() argument 1 must be str, not {h.kindOf name}"
    | _ => mistyped "type() takes 1 or 3 arguments"
  | .other name => callOther name args
where
  reached (access : Access) : Within R Value := do
    match args.positional with
    | f :: rest =>
      if access ≠ .computed && !rest.isEmpty then
        mistyped s!"{access.name} expected 1 argument, got {args.positional.length}"
      new (.reached access f)
    | [] =>
      if access = .computed then new (.reached access .none)
      else mistyped s!"{access.name} expected 1 argument, got 0"

end Patchwork.Script
