import Patchwork.Number.Division
import Patchwork.Store.Behavior
import Patchwork.Text.Slice
import Patchwork.Text.Search

/-!
Operators, items and iteration on values.
-/

namespace Patchwork.Script

open Run

variable {κ : Type} {R : World κ → World κ → Prop} [Still R]

/-- A number as a double. -/
def double? : Value → Option Number.Binary64
  | .float x => some x
  | v => v.integer?.map Number.Binary64.ofInt

def ofDouble (x : Float) : Value :=
  .float (Number.Binary64.ofFloat x)

def BinaryOp.sign : BinaryOp → String
  | add => "+"
  | subtract => "-"
  | multiply => "*"
  | matrix => "@"
  | divide => "/"
  | floorDivide => "//"
  | modulo => "%"
  | power => "** or pow()"
  | shiftLeft => "<<"
  | shiftRight => ">>"
  | bitAnd => "&"
  | bitOr => "|"
  | bitXor => "^"

/-- An operation on the bits of two whole numbers, in the two's complement of enough bits. -/
def onBits (f : Nat → Nat → Nat) (a b : Int) : Int :=
  let width := max a.natAbs.log2 b.natAbs.log2 + 2
  let modulus : Int := Int.pow 2 width
  let n : Int := Int.ofNat (f (a % modulus).toNat (b % modulus).toNat) % modulus
  if 2 * n < modulus then n else n - modulus

/-- A power of doubles; that of a negative one to a fraction is complex. -/
def powerOf (x y : Number.Binary64) : Within R Value :=
  let a := x.toFloat
  let b := y.toFloat
  if x.isZero && b < 0 then fail (.division .power)
  else if a < 0 && x.isFinite && y.isFinite && b.floor != b then
    match (Number.Complex.ofReal x).pow? (.ofReal y) with
    | some z => pure (.complex z)
    | none => fail (.division .power)
  else
    let r := Number.Binary64.ofFloat (Float.pow a b)
    if x.isFinite && y.isFinite && !r.isFinite && !r.isNan then fail .outOfDoubles
    else pure (.float r)

/-- A number as a complex one. -/
def complex? : Value → Option Number.Complex
  | .complex z => some z
  | v => (double? v).map Number.Complex.ofReal

/-- Arithmetic on complex numbers; `none` for operators that they do not have. -/
def complexOp (op : BinaryOp) (z w : Number.Complex) : Option (Within R Value) :=
  match op with
  | .add => some (pure (.complex (z.add w)))
  | .subtract => some (pure (.complex (z.sub w)))
  | .multiply => some (pure (.complex (z.mul w)))
  | .divide => some (if w.isZero then fail (.division .complex) else pure (.complex (z.div w)))
  | .power =>
    some (match z.pow? w with
      | some r => pure (.complex r)
      | none => fail (.division .power))
  | _ => none

/-- A whole number as a double, if there is one near it. -/
def nearDouble (n : Int) : Within R Number.Binary64 :=
  let x := Number.Binary64.ofInt n
  if x.isFinite then pure x else fail .tooLargeForDouble

/-- How many bits a number may have. -/
def bitLimit : Nat := Nat.pow 10 9

/-- A power of a whole number. -/
def wholePower (a : Int) (b : Nat) : Within R Value :=
  if a.natAbs ≤ 1 then pure (.int (Int.pow a (if b ≤ 2 then b else 2 - b % 2)))
  else if bitLimit < b * a.natAbs.log2 then fail (.raised .memory [])
  else pure (.int (Int.pow a b))

/-- A whole number shifted to the left. -/
def shiftedLeft (a : Int) (b : Nat) : Within R Value :=
  if a = 0 then pure (.int 0)
  else if 30 * Nat.pow 2 61 ≤ b then fail (.raised .overflow [.str "too many digits in integer"])
  else if bitLimit < b then fail (.raised .memory [])
  else pure (.int (a * Int.pow 2 b))

/-- A whole number shifted to the right. -/
def shiftedRight (a : Int) (b : Nat) : Int :=
  if a.natAbs.log2 < b then (if a < 0 then -1 else 0) else Int.fdiv a (Int.pow 2 b)

/-- Arithmetic on whole numbers. -/
def wholeOp (op : BinaryOp) (a b : Int) : Within R Value :=
  match op with
  | .add => pure (.int (a + b))
  | .subtract => pure (.int (a - b))
  | .multiply => pure (.int (a * b))
  | .divide =>
    if b = 0 then fail (.division .wholeQuotient)
    else pure (.float (Number.Binary64.ofRatio (decide (a * b < 0)) a.natAbs b.natAbs))
  | .floorDivide => if b = 0 then fail (.division .whole) else pure (.int (Int.fdiv a b))
  | .modulo => if b = 0 then fail (.division .wholeModulo) else pure (.int (Int.fmod a b))
  | .power =>
    if 0 ≤ b then wholePower a b.toNat
    else do powerOf (← nearDouble a) (← nearDouble b)
  | .shiftLeft => if b < 0 then negativeShift else shiftedLeft a b.toNat
  | .shiftRight => if b < 0 then negativeShift else pure (.int (shiftedRight a b.toNat))
  | .bitAnd => pure (.int (onBits (· &&& ·) a b))
  | .bitOr => pure (.int (onBits (· ||| ·) a b))
  | .bitXor => pure (.int (onBits (· ^^^ ·) a b))
  | .matrix => fail (.operands "@" "int" "int")
where
  negativeShift : Within R Value := fail (.raised .value [.str "negative shift count"])

/-- Arithmetic on doubles; `none` for operators that doubles do not have. -/
def doubleOp (op : BinaryOp) (x y : Number.Binary64) : Option (Within R Value) :=
  let a := x.toFloat
  let b := y.toFloat
  match op with
  | .add => some (pure (ofDouble (a + b)))
  | .subtract => some (pure (ofDouble (a - b)))
  | .multiply => some (pure (ofDouble (a * b)))
  | .divide => some (if b == 0 then fail (.division .fractional) else pure (ofDouble (a / b)))
  | .floorDivide =>
    some (if b == 0 then fail (.division .wholeFractional) else pure (ofDouble (x.floored y).1))
  | .modulo =>
    some (if b == 0 then fail (.division .modulo) else pure (ofDouble (x.floored y).2))
  | .power => some (powerOf x y)
  | _ => none

def repeated {α : Type} (items : List α) (n : Int) : List α :=
  if items.isEmpty then [] else (List.replicate n.toNat items).flatten

/-- How many items a sequence may come to. -/
def sizeLimit : Nat := Nat.pow 10 8

/-- Fails on counts that make a sequence of some length too long; `fault` is for lengths that no machine
word holds. -/
def checkSize (length : Nat) (n : Int) (fault : Cause) : Within R Unit :=
  if Int.pow 2 63 ≤ n ∨ n < -(Int.pow 2 63) then fail (.noIndexFit "int")
  else if Nat.pow 2 63 ≤ length * n.toNat then fail fault
  else if sizeLimit < length * n.toNat then fail (.raised .memory [])
  else pure ()

def tooLongText : Cause :=
  .raised .overflow [.str "repeated string is too long"]

def tooLongBytes : Cause :=
  .raised .overflow [.str "repeated bytes are too long"]

/-- The name of the type of a sequence. -/
def sequenceType? (h : Heap) (v : Value) : Option String :=
  match h.core v with
  | .str _ => some "str"
  | .tuple _ => some "tuple"
  | .bytes _ => some "bytes"
  | _ =>
    match h.at? v with
    | some (.list _) => some "list"
    | _ => none

/-- A sequence repeated. -/
def repeatedValue (h : Heap) (v : Value) (n : Int) : Within R Value := do
  match h.core v with
  | .str s =>
    checkSize s.length n tooLongText
    pure (.str (String.ofList (repeated s.toList n)))
  | .tuple s =>
    checkSize s.length n (.raised .memory [])
    pure (.tuple (repeated s n))
  | .bytes s =>
    checkSize s.length n tooLongBytes
    pure (.bytes (repeated s n))
  | _ =>
    match h.at? v with
    | some (.list s) =>
      checkSize s.length n (.raised .memory [])
      new (.list (repeated s n))
    | _ => pure v

/-- A product in which a sequence takes part, in either order. -/
def product (h : Heap) (sign : String) (a b : Value) : Within R Value :=
  let times (v n : Value) : Within R Value :=
    match (h.core n).integer? with
    | some n => repeatedValue h v n
    | none => fail (.repetition (h.kindOf n))
  if (sequenceType? h a).isSome then times a b
  else if (sequenceType? h b).isSome then times b a
  else fail (.operands sign (h.kindOf a) (h.kindOf b))

/-- A sum that begins with a sequence. -/
def sum (h : Heap) (sign : String) (a b : Value) : Within R Value :=
  match h.core a, h.core b with
  | .str s, .str t => pure (.str (s ++ t))
  | .tuple s, .tuple t => pure (.tuple (s ++ t))
  | .bytes s, .bytes t => pure (.bytes (s ++ t))
  | _, _ =>
    match h.at? a, h.at? b with
    | some (.list s), some (.list t) => new (.list (s ++ t))
    | _, _ =>
      match sequenceType? h a with
      | some type => fail (.concatenation type (h.kindOf b))
      | none => fail (.operands sign (h.kindOf a) (h.kindOf b))

/-- What an operation on bits makes of two truth values. -/
def truthOp? : BinaryOp → Value → Value → Option Bool
  | .bitAnd, .bool a, .bool b => some (a && b)
  | .bitOr, .bool a, .bool b => some (a || b)
  | .bitXor, .bool a, .bool b => some (a != b)
  | _, _, _ => none

/-- An operator on two values, under the sign that failures show. -/
def operate (op : BinaryOp) (sign : String) (a b : Value) : Within R Value := do
  let h ← heap
  let refuse : Within R Value := do fail (.operands sign (h.kindOf a) (h.kindOf b))
  let near : Value → Within R Number.Binary64
    | .float x => pure x
    | v => nearDouble (v.integer?.getD 0)
  let x := h.core a
  let y := h.core b
  if op = .matrix then refuse
  else match truthOp? op x y, x.integer?, y.integer? with
  | some b, _, _ => pure (.bool b)
  | none, some m, some n => wholeOp op m n
  | none, _, _ =>
    match double? x, double? y with
    | some _, some _ => do (doubleOp op (← near x) (← near y)).getD refuse
    | _, _ =>
      match complex? x, complex? y with
      | some z, some w => (complexOp op z w).getD refuse
      | _, _ =>
        match op, x with
        | .add, _ => sum h sign a b
        | .multiply, _ => product h sign a b
        | .modulo, .str s =>
          match Percent.applied h s.toList b with
          | .ok text => pure (.str (String.ofList text))
          | .error f => fail (.format f)
        | .bitOr, _ =>
          match h.at? a, h.at? b with
          | some (.dict s), some (.dict t) => new (.dict (t.foldl (fun d e => Value.insert d e.1 e.2) s))
          | _, _ => refuse
        | _, _ => refuse

/-- The name under which a class says what an operator does. -/
def BinaryOp.word : BinaryOp → String
  | add => "add"
  | subtract => "sub"
  | multiply => "mul"
  | matrix => "matmul"
  | divide => "truediv"
  | floorDivide => "floordiv"
  | modulo => "mod"
  | power => "pow"
  | shiftLeft => "lshift"
  | shiftRight => "rshift"
  | bitAnd => "and"
  | bitOr => "or"
  | bitXor => "xor"

def unary (call : Caller κ) [Calls call R] (op : UnaryOp) (v : Value) : Within R Value := do
  let word := match op with
    | .not => ""
    | .plus => "__pos__"
    | .minus => "__neg__"
    | .invert => "__invert__"
  match ← (if op = .not then pure none else askClass call v word []) with
  | some r => pure r
  | none =>
    let core := (← heap).core v
    match op with
    | .not => pure (.bool (!(← truth call v)))
    | .plus =>
      match core.integer?, core with
      | some n, _ => pure (.int n)
      | none, .float x => pure (.float x)
      | none, .complex z => pure (.complex z)
      | none, _ => fail (.operand "+" (← kindOf v))
    | .minus =>
      match core.integer?, core with
      | some n, _ => pure (.int (-n))
      | none, .float x => pure (ofDouble (-x.toFloat))
      | none, .complex z => pure (.complex z.neg)
      | none, _ => fail (.operand "-" (← kindOf v))
    | .invert =>
      match core.integer? with
      | some n => pure (.int (-n - 1))
      | none => fail (.operand "~" (← kindOf v))

/-- Lexicographic order of text. -/
def textOrder (s t : String) : Ordering :=
  compare s t

/-- The order of two values; none for what is no number, and the two values at fault if they have no order.
The fuel bounds the nesting. -/
def order (h : Heap) : Nat → Value → Value → Except (Value × Value) (Option Ordering)
  | 0, a, b => .error (a, b)
  | fuel + 1, a, b =>
    let x := h.core a
    let y := h.core b
    match x.integer?, y.integer?, x, y with
    | some m, some n, _, _ => .ok (some (compare m n))
    | some m, _, _, .float y => .ok (y.compareInt? m)
    | _, some n, .float x, _ => .ok ((x.compareInt? n).map Ordering.swap)
    | _, _, .float x, .float y => .ok (x.compare? y)
    | _, _, .str s, .str t => .ok (some (textOrder s t))
    | _, _, .tuple s, .tuple t => ordered (order h fuel) s t
    | _, _, _, _ =>
      match h.at? a, h.at? b with
      | some (.list s), some (.list t) => ordered (order h fuel) s t
      | _, _ =>
        match h.setItems? a, h.setItems? b with
        | some s, some t => .ok (Heap.inclusion s t)
        | _, _ => .error (a, b)
where
  ordered (f : Value → Value → Except (Value × Value) (Option Ordering)) :
      List Value → List Value → Except (Value × Value) (Option Ordering)
    | [], [] => .ok (some .eq)
    | [], _ :: _ => .ok (some .lt)
    | _ :: _, [] => .ok (some .gt)
    | x :: r, y :: q => if h.same x y then ordered f r q else f x y

/-- How many items a value may give one by one. -/
def itemLimit : Nat := 1000000

/-- The answers of a class that is asked for item after item, until it fails with an error of a kind; the fuel
bounds their number. -/
def askedItems (ask : Nat → Within R Value) (last : ErrorKind) : Nat → Nat → Within R (List Value)
  | 0, _ => throw .exhausted
  | fuel + 1, n => do
    let item ← handle (do pure (some (← ask n))) fun c =>
      if c.kind.isA last then pure none else fail c
    match item with
    | some v => do pure (v :: (← askedItems ask last fuel (n + 1)))
    | none => pure []

/-- The items that a built-in value gives one by one. -/
def builtinItems (v : Value) : Within R (List Value) := do
  let h ← heap
  match h.core v with
  | .str s => pure (s.toList.map fun c => .str c.toString)
  | .tuple items => pure items
  | .bytes data => pure (data.map fun b => .int b.toNat)
  | _ =>
    match h.at? v with
    | some (.list items) | some (.set items) | some (.view _ items) => pure items
    | some (.dict entries) | some (.proxy entries) => pure (entries.map (·.1))
    | some (.table t) => pure t.keys
    | _ => fail (.noIteration (h.kindOf v))

/-- The items that a value gives one by one. -/
def items (call : Caller κ) [Calls call R] (v : Value) : Within R (List Value) := do
  match ← askClass call v "__iter__" [] with
  | some w =>
    match ← ownMethod? w "__next__", ← object? w with
    | some m, _ => askedItems (fun _ => ask call m (.of [])) .stopIteration itemLimit 0
    | none, some (.view (.stream _) items) => pure items
    | none, _ => do mistyped s!"iter() returned non-iterator of type {Text.quoted (← kindOf w)}"
  | none =>
    match ← ownMethod? v "__getitem__", (← heap).core v with
    | some m, .ref a =>
      if v matches .ref _ && Value.identical v (.ref a) then
        askedItems (fun n => ask call m (.of [.int n])) .index itemLimit 0
      else builtinItems v
    | _, _ => builtinItems v

/-! ## Sets, and operators on all values -/

/-- What an operator makes of the items of two sets. -/
def setOp? (op : BinaryOp) (xs ys : List Value) : Option (List Value) :=
  let without (xs ys : List Value) := xs.filter fun v => !Table.holds ys v
  match op with
  | .bitOr => some (ys.foldl Table.addKey xs)
  | .bitAnd => some (xs.filter (Table.holds ys))
  | .bitXor => some (without xs ys ++ without ys xs)
  | .subtract => some (without xs ys)
  | _ => none

/-- The items that an operator on sets takes from a value. -/
def operandItems (call : Caller κ) [Calls call R] (v : Value) : Within R (List Value) := do
  let vs ← items call v
  vs.forM checkKey
  pure (vs.foldl Table.addKey [])

/-- An operator on sets; the other side of a view may be whatever has items. -/
def combinedSets? (call : Caller κ) [Calls call R] (op : BinaryOp) (a b : Value) : Within R (Option Value) := do
  let h ← heap
  let isSet (v : Value) := h.at? v matches some (.set _)
  let isView (v : Value) := (h.setItems? v).isSome && !isSet v
  if (setOp? op [] []).isSome && (isView a || isView b || (isSet a && isSet b)) then
    let xs ← operandItems call a
    match setOp? op xs (← operandItems call b) with
    | some vs => do pure (some (← new (.set vs)))
    | none => pure none
  else pure none

/-- An operator that classes may have a say in. -/
def operateWith (call : Caller κ) [Calls call R] (op : BinaryOp) (sign : String) (a b : Value) :
    Within R Value := do
  match ← askBoth call a b s!"__{op.word}__" s!"__r{op.word}__" with
  | some r => pure r
  | none =>
    match ← combinedSets? call op a b with
    | some r => pure r
    | none => operate op sign a b

def binary (call : Caller κ) [Calls call R] (op : BinaryOp) (a b : Value) : Within R Value :=
  operateWith call op op.sign a b

/-- The entries of a mapping, each with what reads its value; none of what is no mapping. -/
def mappingEntries? (call : Caller κ) [Calls call R] (v : Value) :
    Within R (Option (List (Value × Within R Value))) := do
  let own ← ownMethod? v "__iter__"
  match own, ← object? v with
  | none, some (.dict es) | none, some (.proxy es) => pure (some (es.map fun e => (e.1, pure e.2)))
  | _, some (.table t) => pure (some (t.keys.map fun k => (k, ask call (.bound v "__getitem__") (.of [k]))))
  | _, _ =>
    match ← readAttr? call v "keys" with
    | none => pure none
    | some m =>
      let read ← readAttr? call v "__getitem__"
      let keys ← items call (← ask call m (.of []))
      pure (some (keys.map fun k =>
        (k, match read with
          | some g => ask call g (.of [k])
          | none => do fail (.noIndexing (← kindOf v)))))

/-- Whether a value counts as a sequence where an item is deleted. -/
def isSequential (h : Heap) (v : Value) : Bool :=
  (sequenceType? h v).isSome ||
    match v, h.at? v with
    | _, some (.set _) | _, some (.view _ _) | _, some (.instance _ _ _) => true
    | _, _ => false

/-- Whether a value has items without being repeatable. -/
def isUnrepeatable (h : Heap) (v : Value) : Bool :=
  (sequenceType? h v).isNone &&
    (isSequential h v ||
      match h.at? v with
      | some (.dict _) | some (.proxy _) | some (.table _) => true
      | _ => false)

/-- How an operator with an assignment is written. -/
def BinaryOp.assignSign : BinaryOp → String
  | power => "**="
  | op => op.sign ++ "="

/-- An operator with an assignment; lists, sets and dictionaries change in place. -/
def augmented (call : Caller κ) [Calls call R] (op : BinaryOp) (a b : Value) : Within R Value := do
  let own ← askClass call a s!"__i{op.word}__" [b]
  match own with
  | some r => pure r
  | none =>
    let h ← heap
    match op, h.core a, h.at? a, b with
    | .add, .ref r, some (.list xs), b => do
      let more ← items call b
      write r (.items (xs ++ more))
      pure a
    | .multiply, .ref r, some (.list xs), b =>
      match (h.core b).integer? with
      | some n => do
        checkSize xs.length n (.raised .memory [])
        write r (.items (repeated xs n))
        pure a
      | none => fail (.repetition (h.kindOf b))
    | .bitOr, .ref r, some (.dict es), b =>
      match h.at? b with
      | some (.dict more) =>
        write r (.entries (more.foldl (fun d e => Value.insert d e.1 e.2) es))
        pure a
      | _ => operateWith call op op.assignSign a b
    | .multiply, _, _, b =>
      match ← askBoth call a b "__mul__" "__rmul__" with
      | some r => pure r
      | none =>
        if isUnrepeatable h a && (sequenceType? h b).isSome then
          fail (.operands op.assignSign (h.kindOf a) (h.kindOf b))
        else operate op op.assignSign a b
    | op, .ref r, some (.set xs), b =>
      match (match h.at? b with
        | some (.set ys) => setOp? op xs ys
        | _ => none) with
      | some vs =>
        write r (.items vs)
        pure a
      | none => operateWith call op op.assignSign a b
    | _, _, _, b => operateWith call op op.assignSign a b

/-- Whether one of some items equals a value. -/
def anyEqual (call : Caller κ) [Calls call R] (v : Value) : List Value → Within R Bool
  | [] => pure false
  | w :: r => do
    if ← equalItem call w v then pure true else anyEqual call v r

/-- Whether a value holds another. -/
def holds (call : Caller κ) [Calls call R] (container v : Value) : Within R Bool := do
  let h ← heap
  match ← askClass call container "__contains__" [v] with
  | some r => truth call r
  | none =>
    match h.core container with
    | .str s =>
      match h.core v with
      | .str t => pure (Text.contains t.toList s.toList)
      | _ => fail (.textMember (h.kindOf v))
    | .tuple items => anyEqual call v items
    | _ =>
      match h.at? container with
      | some (.list items) | some (.view .values items) | some (.view .items items)
      | some (.view (.stream _) items) => anyEqual call v items
      | some (.set items) | some (.view .keys items) =>
        checkKey v
        pure (Table.holds items v)
      | some (.dict entries) | some (.proxy entries) =>
        checkKey v
        pure (Value.hasKey entries v)
      | some (.table t) =>
        checkKey v
        pure (t.contains v)
      | _ =>
        handle (do anyEqual call v (← items call container)) fun c =>
          match c with
          | .noIteration type => fail (.noMembership type)
          | c => fail c

def Comparison.sign : Comparison → String
  | equal => "=="
  | unequal => "!="
  | less => "<"
  | atMost => "<="
  | greater => ">"
  | atLeast => ">="
  | identical => "is"
  | distinct => "is not"
  | member => "in"
  | absent => "not in"

/-- The names under which classes say how their objects compare: for the first operand and the second. -/
def Comparison.words : Comparison → String × String
  | less => ("__lt__", "__gt__")
  | atMost => ("__le__", "__ge__")
  | greater => ("__gt__", "__lt__")
  | _ => ("__ge__", "__le__")

/-- A comparison; classes may answer with any value. -/
def compareValues (call : Caller κ) [Calls call R] (op : Comparison) (a b : Value) : Within R Value := do
  let ranked (accept : Ordering → Bool) : Within R Value := do
    match ← askBoth call a b op.words.1 op.words.2 with
    | some r => pure r
    | none =>
      let h ← heap
      match order h Heap.depthLimit a b with
      | .ok o => pure (.bool (o.any accept))
      | .error (x, y) => fail (.ordering op.sign (h.kindOf x) (h.kindOf y))
  match op with
  | .equal => do
    match ← askEquality call a b with
    | some r => pure r
    | none => pure (.bool (← equal call a b))
  | .unequal => do
    match ← askBoth call a b "__ne__" "__ne__" with
    | some r => pure r
    | none => pure (.bool (!(← equal call a b)))
  | .less => ranked (· == .lt)
  | .atMost => ranked (· != .gt)
  | .greater => ranked (· == .gt)
  | .atLeast => ranked (· != .lt)
  | .identical => pure (.bool (Value.identical a b))
  | .distinct => pure (.bool (!Value.identical a b))
  | .member => do pure (.bool (← holds call b a))
  | .absent => do pure (.bool (!(← holds call b a)))

/-- Whether a comparison holds. -/
def compares (call : Caller κ) [Calls call R] (op : Comparison) (a b : Value) : Within R Bool := do
  truth call (← compareValues call op a b)

/-- A key for a slice: its three bounds. -/
def sliceKey (start stop step : Value) : Value :=
  .tuple [.native (.function "slice"), start, stop, step]

/-- The slice that a key stands for, if it is one. -/
def sliceOf? (call : Caller κ) [Calls call R] (key : Value) : Within R (Option Text.Slice) := do
  match key with
  | .tuple [.native (.function "slice"), start, stop, step] =>
    let bound (v : Value) : Within R (Option Int) := do
      match v, ((← heap).core v).integer? with
      | .none, _ => pure none
      | _, some n => pure (some n)
      | v, none =>
        match ← askClass call v "__index__" [] with
        | some w => pure w.integer?
        | none => mistyped "slice indices must be integers or None or have an __index__ method"
    let step := (← bound step).getD 1
    if step = 0 then fail (.raised .value [.str "slice step cannot be zero"])
    pure (some ⟨← bound start, ← bound stop, step⟩)
  | _ => pure none

/-- Fails on an index that no machine word holds. -/
def checkIndex (i : Int) (type : String) : Within R Unit :=
  if -(Int.pow 2 63) ≤ i ∧ i < Int.pow 2 63 then pure ()
  else fail (.raised .index [.str s!"cannot fit {Text.quoted type} into an index-sized integer"])

/-- An item of a sequence. -/
def sequenceItem (call : Caller κ) [Calls call R] (kind : String) (type : String) (items : List Value) (key : Value)
    (rebuild : List Value → Within R Value) : Within R Value := do
  match ← sliceOf? call key with
  | some s => rebuild (s.part items)
  | none =>
    match ((← heap).core key).integer? with
    | some i => do
      checkIndex i (← kindOf key)
      let place := if i < 0 then i + items.length else i
      match if place < 0 then none else items[place.toNat]? with
      | some v => pure v
      | none => fail (.outOfRange (kind ++ " index"))
    | none => fail (.badIndex type (← kindOf key))

/-- Fails on a key that a dictionary cannot have. -/
def checkEntryKey (key : Value) : Within R Unit := do
  match key with
  | .tuple [.native (.function "slice"), _, _, _] => fail (.unhashable "slice")
  | key => checkKey key

/-- A key of a sequence as a whole number, if its class says which. -/
def placeKey (call : Caller κ) [Calls call R] (v key : Value) : Within R Value := do
  if (sequenceType? (← heap) v).isSome then
    match ← askClass call key "__index__" [] with
    | some k => pure k
    | none => pure key
  else pure key

/-- An item of a built-in value. -/
def builtinItem (call : Caller κ) [Calls call R] (v key : Value) : Within R Value := do
  let h ← heap
  match h.core v with
  | .str s =>
    sequenceItem call "string" "str" (s.toList.map fun c => .str c.toString) key fun items =>
      pure (.str (String.join (items.map fun
        | .str t => t
        | _ => "")))
  | .tuple items => sequenceItem call "tuple" "tuple" items key fun items => pure (.tuple items)
  | .bytes data =>
    sequenceItem call "index" "byte" (data.map fun b => .int b.toNat) key fun items =>
      pure (.bytes (items.map fun
        | .int n => UInt8.ofNat n.toNat
        | _ => 0))
  | .native (.type t) =>
    match t with
    | .dict | .list | .set | .tuple | .type => do
      let part (v : Value) : Within R String := do
        match v with
        | .native n => pure n.name
        | v => repr v
      let parts ← match key with
        | .tuple vs => vs.mapM part
        | v => do pure [← part v]
      new (.generic s!"{t.name}[{Heap.listed parts}]")
    | _ => fail (.noClassIndexing t.name)
  | .native (.error k) => fail (.noClassIndexing k.name)
  | core =>
    match h.at? v with
    | some (.list items) => sequenceItem call "list" "list" items key fun items => new (.list items)
    | some (.dict entries) | some (.proxy entries) =>
      checkEntryKey key
      match Value.lookup? entries key with
      | some w => pure w
      | none =>
        match ← askClass call v "__missing__" [key] with
        | some w => pure w
        | none => fail (.noKey key)
    | some (.table _) => ask call (.bound core "__getitem__") (.of [key])
    | some (.class c) => fail (.noClassIndexing c.name)
    | _ => fail (.noIndexing (h.kindOf v))

/-- Reads an item. -/
def getItem (call : Caller κ) [Calls call R] (v key : Value) : Within R Value := do
  match ← askClass call v "__getitem__" [key] with
  | some w => pure w
  | none => do builtinItem call v (← placeKey call v key)

/-- Puts items in the place of a slice of a list; one with a step keeps its length. -/
def setSlice (call : Caller κ) [Calls call R] (a : Address) (old : List Value) (s : Text.Slice) (value : Value) :
    Within R Unit := do
  let refusal := if s.step = 1 then "can only assign an iterable" else "must assign iterable to extended slice"
  let new ← handle (items call value) fun c =>
    match c with
    | .noIteration _ => mistyped refusal
    | c => fail c
  if s.step = 1 then write a (.items (s.spliced new old))
  else
    let places := s.places old.length
    if new.length = places.length then
      write a (.items ((places.zip new).foldl (fun xs p => xs.set p.1 p.2) old))
    else
      fail (.raised .value [.str (s!"attempt to assign sequence of size {new.length} " ++
        s!"to extended slice of size {places.length}")])

/-- Stores an item of a built-in value. -/
def setBuiltinItem (call : Caller κ) [Calls call R] (v key value : Value) : Within R Unit := do
  let h ← heap
  match h.core v with
  | .ref a =>
    match h[a]? with
    | some (.list items) =>
      match ← sliceOf? call key, (h.core key).integer? with
      | some s, _ => setSlice call a items s value
      | none, some i =>
        checkIndex i (h.kindOf key)
        let place := if i < 0 then i + items.length else i
        if 0 ≤ place ∧ place.toNat < items.length then write a (.items (items.set place.toNat value))
        else fail (.outOfRange "list assignment index")
      | none, none => fail (.badIndex "list" (h.kindOf key))
    | some (.dict entries) =>
      checkEntryKey key
      write a (.entries (Value.insert entries key value))
    | some (.table _) => let _ ← ask call (.bound (.ref a) "__setitem__") (.of [key, value])
    | _ => fail (.noIndexAssignment (h.kindOf v))
  | _ => fail (.noIndexAssignment (h.kindOf v))

/-- Stores an item. -/
def setItem (call : Caller κ) [Calls call R] (v key value : Value) : Within R Unit := do
  match ← askClass call v "__setitem__" [key, value] with
  | some _ => pure ()
  | none => do setBuiltinItem call v (← placeKey call v key) value

/-- Removes an item of a built-in value. -/
def deleteBuiltinItem (call : Caller κ) [Calls call R] (v key : Value) : Within R Unit := do
  let h ← heap
  let refuse : Within R Unit := fail (.noItemDeletion (isSequential h v && key.integer?.isSome) (h.kindOf v))
  match h.core v with
  | .ref a =>
    match h[a]? with
    | some (.list items) =>
      match ← sliceOf? call key, (h.core key).integer? with
      | some s, _ => write a (.items (s.without items))
      | none, some i =>
        checkIndex i (h.kindOf key)
        let place := if i < 0 then i + items.length else i
        if 0 ≤ place ∧ place.toNat < items.length then write a (.items (items.eraseIdx place.toNat))
        else fail (.outOfRange "list assignment index")
      | none, none => fail (.badIndex "list" (h.kindOf key))
    | some (.dict entries) =>
      checkEntryKey key
      if Value.hasKey entries key then write a (.entries (Value.erase entries key)) else fail (.noKey key)
    | some (.table _) => let _ ← ask call (.bound (.ref a) "__delitem__") (.of [key])
    | _ => refuse
  | _ => refuse

/-- Removes an item. -/
def deleteItem (call : Caller κ) [Calls call R] (v key : Value) : Within R Unit := do
  match ← askClass call v "__delitem__" [key] with
  | some _ => pure ()
  | none => do deleteBuiltinItem call v (← placeKey call v key)

end Patchwork.Script
