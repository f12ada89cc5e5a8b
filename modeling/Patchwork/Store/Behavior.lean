import Patchwork.Store.Attribute

/-!
What classes say about their objects: truth, length, equality, text and attributes. A class that says nothing
leaves them as they are for values of its built-in base.
-/

namespace Patchwork.Run

variable {κ : Type} {R : World κ → World κ → Prop} [Still R]

/-- A method of the class of a value, ready to be called. -/
def ownMethod? (v : Value) (name : String) : Within R (Option Value) := do
  let h ← heap
  match v with
  | .ref a =>
    match h[a]? with
    | some (.instance cls _ _) => pure ((h.classAttr? cls name).map (h.onInstance v))
    | _ => pure none
  | _ => pure none

/-- Calls a method of the class of a value if there is one. -/
def askClass (call : Caller κ) [Calls call R] (v : Value) (name : String) (args : List Value) :
    Within R (Option Value) := do
  match ← ownMethod? v name with
  | some m => do pure (some (← ask call m (.of args)))
  | none => pure none

/-- Fails with a message about types. -/
def mistyped {α : Type} (message : String) : Within R α :=
  fail (.raised .type [.str message])

/-- The value that an operator gives if it leaves the answer to the other operand. -/
def notImplemented : Value :=
  .native (.function "NotImplemented")

/-- A length that a class has given. -/
def givenLength (v : Value) : Within R Nat := do
  match v.integer? with
  | some n =>
    if n < 0 then fail (.raised .value [.str "__len__() should return >= 0"])
    else if Int.pow 2 63 ≤ n then fail (.noIndexFit "int")
    else pure n.toNat
  | none => do fail (.needsInteger (← kindOf v))

/-- Whether a value counts as true. -/
def truth (call : Caller κ) [Calls call R] (v : Value) : Within R Bool := do
  match ← askClass call v "__bool__" [] with
  | some (.bool b) => pure b
  | some w => do mistyped s!"__bool__ should return bool, returned {← kindOf w}"
  | none =>
    match ← askClass call v "__len__" [] with
    | some w => do pure ((← givenLength w) ≠ 0)
    | none => do pure ((← heap).truth v)

/-- How many items a value has. -/
def lengthOf (call : Caller κ) [Calls call R] (v : Value) : Within R Nat := do
  match ← askClass call v "__len__" [] with
  | some w => givenLength w
  | none =>
    let h ← heap
    match h.core v with
    | .str s => pure s.length
    | .bytes data => pure data.length
    | .tuple xs => pure xs.length
    | _ =>
      match h.at? v with
      | some (.list xs) | some (.set xs) => pure xs.length
      | some (.view (.stream _) _) => fail (.lengthType (h.kindOf v))
      | some (.view _ xs) => pure xs.length
      | some (.dict es) | some (.proxy es) => pure es.length
      | some (.table t) => pure t.size
      | _ => fail (.lengthType (h.kindOf v))

/-- The class of an object. -/
def classOf? (h : Heap) : Value → Option Address
  | .ref a =>
    match h[a]? with
    | some (.instance cls _ _) => some cls
    | _ => none
  | _ => none

/-- Whether a class inherits from another one. -/
def inheritsFrom (h : Heap) (cls a : Address) : Bool :=
  cls ≠ a && (h.ancestry Heap.lineageLimit a).contains cls

/-- Whether the second operand's class is a special case of the first one's, so that it is asked first. -/
def isSpecial (h : Heap) (v w : Value) : Bool :=
  match classOf? h v, classOf? h w with
  | some a, some b => inheritsFrom h a b
  | none, some b => (h.nativeBase? b).any fun n => Value.sameKey (.native n) (typeOf h v)
  | _, _ => false

/-- What the classes of two operands say to an operator: the method of the first, or the reflected one of the
second. -/
def askBoth (call : Caller κ) [Calls call R] (v w : Value) (name reflected : String) :
    Within R (Option Value) := do
  let first := (v, name, w)
  let second := (w, reflected, v)
  let order := if isSpecial (← heap) v w then [second, first] else [first, second]
  order.foldlM (fun (found : Option Value) (o : Value × String × Value) => do
    match found with
    | some r => pure (some r)
    | none =>
      match ← askClass call o.1 o.2.1 [o.2.2] with
      | some r => pure (if Value.identical r notImplemented then none else some r)
      | none => pure none) none

/-- What a comparison for equality gives if a class has a say in it. -/
def askEquality (call : Caller κ) [Calls call R] (v w : Value) : Within R (Option Value) :=
  askBoth call v w "__eq__" "__eq__"

/-- Whether all pairs of items pass a test, which is asked up to the first that fails. -/
def allPairs (test : Value → Value → Within R Bool) : List (Value × Value) → Within R Bool
  | [] => pure true
  | (v, w) :: r => do
    if ← test v w then allPairs test r else pure false

/-- Equality of values; the fuel bounds the nesting. -/
def equalWithin (call : Caller κ) [Calls call R] : Nat → Value → Value → Within R Bool
  | 0, _, _ => fail (.raised .recursion [.str "maximum recursion depth exceeded in comparison"])
  | fuel + 1, v, w => do
    let same (a b : Value) : Within R Bool :=
      if Value.identical a b then pure true else equalWithin call fuel a b
    let items (a b : List Value) : Within R Bool :=
      if a.length = b.length then allPairs same (a.zip b) else pure false
    let entries (a b : List (Value × Value)) : Within R Bool :=
      if a.length ≠ b.length then pure false
      else
        match a.mapM fun e => (Value.lookup? b e.1).map fun x => (e.2, x) with
        | some pairs => allPairs same pairs
        | none => pure false
    let attributes (a : Attributes) : List (Value × Value) := a.map fun e => (.str e.1, e.2)
    match ← askEquality call v w with
    | some r => truth call r
    | none =>
      let h ← heap
      match h.core v, h.core w with
      | .float x, .float y => pure (x.equals y)
      | .tuple a, .tuple b => items a b
      | .ref a, .ref b =>
        if a = b then pure true
        else
          match h[a]?, h[b]? with
          | some (.list x), some (.list y) => items x y
          | some (.dict x), some (.dict y) | some (.dict x), some (.proxy y)
          | some (.proxy x), some (.dict y) | some (.proxy x), some (.proxy y) => entries x y
          | some (.plain x), some (.plain y) => entries (attributes x) (attributes y)
          | _, _ => pure (h.same v w)
      | _, _ => pure (h.same v w)

/-- How deeply values that are compared may be nested. -/
def equalityDepth : Nat := 900

/-- Equality of values. -/
def equal (call : Caller κ) [Calls call R] (v w : Value) : Within R Bool :=
  equalWithin call equalityDepth v w

/-- Equality as containers see it: what is the very same value is equal. -/
def equalItem (call : Caller κ) [Calls call R] (v w : Value) : Within R Bool :=
  if Value.identical v w then pure true else equal call v w

/-- The text that a class gives for its objects. -/
def askText (call : Caller κ) [Calls call R] (v : Value) (name : String) : Within R (Option String) := do
  match ← askClass call v name [] with
  | some w =>
    match (← heap).core w with
    | .str s => pure (some s)
    | _ => do mistyped s!"{name} returned non-string (type {← kindOf w})"
  | none => pure none

/-- How deeply printed values are looked through for objects that print themselves. -/
def printedDepth : Nat := 8

/-- The objects in a value whose class gives their printed form; the fuel bounds the nesting. -/
def selfShown (h : Heap) : Nat → Value → List Address
  | 0, _ => []
  | fuel + 1, v =>
    let inside (vs : List Value) : List Address := vs.flatMap (selfShown h fuel)
    let pairs (es : List (Value × Value)) : List Address := inside (es.flatMap fun e => [e.1, e.2])
    match v with
    | .tuple vs => inside vs
    | .ref a =>
      match h[a]? with
      | some (.instance cls _ core) =>
        if (h.classAttr? cls "__repr__").isSome then [a]
        else
          match core with
          | some (.failure _ args) => inside args
          | some v => inside [v]
          | none => []
      | some (.list vs) | some (.set vs) => inside vs
      | some (.view (.stream _) _) => []
      | some (.view _ vs) => inside vs
      | some (.dict es) | some (.proxy es) => pairs es
      | some (.plain attrs) => inside (attrs.map (·.2))
      | _ => []
    | _ => []

/-- Fails on a number with more digits than are written. -/
def checkDigits : Value → Within R Unit
  | .int n => if Number.isLong n then fail (.raised .value [.str Number.longNumberText]) else pure ()
  | _ => pure ()

/-- The printed form of a value; objects in it are asked for theirs. -/
def shown (call : Caller κ) [Calls call R] (v : Value) : Within R String := do
  match ← askText call v "__repr__" with
  | some s => pure s
  | none =>
    checkDigits ((← heap).core v)
    let parts := (selfShown (← heap) printedDepth v).eraseDups
    let forms ← parts.filterMapM fun a => do
      pure ((← askText call (.ref a) "__repr__").map fun s => (a, s))
    let h := forms.foldl (fun h (a, s) => Array.setIfInBounds h a (.token s)) (← heap)
    pure (h.repr v)

/-- The text of a value; a class with a printed form only gives that, unless it inherits a text. -/
def textOf (call : Caller κ) [Calls call R] (v : Value) : Within R String := do
  match ← askText call v "__str__" with
  | some s => pure s
  | none =>
    match (← heap).core v with
    | .str _ | .failure _ _ => str v
    | _ => shown call v

/-- What a class computes for an attribute of its objects. -/
def computedAttr? (call : Caller κ) [Calls call R] (v : Value) (name : String) : Within R (Option Value) := do
  let h ← heap
  match (classOf? h v).bind fun cls => (h.classAttr? cls name).bind h.at? with
  | some (.reached .computed f) => do pure (some (← ask call f (.of [v])))
  | _ => pure none

/-- Reads an attribute; a class may compute it, or say what stands for those that are missing. -/
def readAttr (call : Caller κ) [Calls call R] (v : Value) (name : String) : Within R Value := do
  let read : Within R Value := do
    match ← computedAttr? call v name with
    | some w => pure w
    | none => getAttr v name
  match ← ownMethod? v "__getattr__" with
  | none => read
  | some m =>
    handle read fun c =>
      if c.kind.isA .attributes then ask call m (.of [.str name]) else fail c

/-- Reads an attribute; `none` if it is missing. -/
def readAttr? (call : Caller κ) [Calls call R] (v : Value) (name : String) : Within R (Option Value) :=
  handle (do pure (some (← readAttr call v name))) fun c =>
    if c.kind.isA .attributes then pure none else fail c

end Patchwork.Run
