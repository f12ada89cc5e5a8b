/-!
Double precision numbers by their bit pattern: decoding, correct rounding of a ratio, and the shortest
decimal that reads back.
-/

namespace Patchwork.Number

/-- A double precision number. -/
structure Binary64 where
  bits : UInt64
  deriving DecidableEq, Inhabited

/-- What a bit pattern stands for: `significand * 2 ^ exponent`, an infinity, or no number. -/
inductive Magnitude where
  | finite (significand : Nat) (exponent : Int)
  | infinite
  | nan
  deriving DecidableEq

namespace Binary64

def ofFloat (x : Float) : Binary64 := ⟨x.toBits⟩

def toFloat (x : Binary64) : Float := Float.ofBits x.bits

def isNegative (x : Binary64) : Bool :=
  Nat.pow 2 63 ≤ x.bits.toNat

/-- Without its sign. -/
def absolute (x : Binary64) : Binary64 := ⟨x.bits &&& 0x7fffffffffffffff⟩

def magnitude (x : Binary64) : Magnitude :=
  let body := x.bits.toNat % Nat.pow 2 63
  let field := body / Nat.pow 2 52
  let fraction := body % Nat.pow 2 52
  if field = 2047 then
    if fraction = 0 then .infinite else .nan
  else if field = 0 then .finite fraction (-1074)
  else .finite (fraction + Nat.pow 2 52) (Int.ofNat field - 1075)

/-- The pattern with the given sign over a magnitude below 2 ^ 63. -/
def signed (negative : Bool) (body : Nat) : Binary64 :=
  ⟨UInt64.ofNat (if negative then body + Nat.pow 2 63 else body)⟩

def infinity (negative : Bool) : Binary64 := signed negative (2047 * Nat.pow 2 52)

def nan : Binary64 := signed false (2047 * Nat.pow 2 52 + Nat.pow 2 51)

/-- One of the patterns that stand for no number. -/
def nanWith (payload : Nat) : Binary64 :=
  signed false (2047 * Nat.pow 2 52 + Nat.pow 2 51 + payload % Nat.pow 2 51)

/-- The quotient rounded to the nearest whole number, a tie to the even one. -/
def roundDiv (num den : Nat) : Nat :=
  let q := num / den
  let r := num % den
  if 2 * r < den then q else if den < 2 * r then q + 1 else q + q % 2

/-- `num / den` scaled by `2 ^ shift`, as a fraction. -/
def scaled (num den : Nat) (shift : Int) : Nat × Nat :=
  if 0 ≤ shift then (num * Nat.pow 2 shift.toNat, den) else (num, den * Nat.pow 2 (-shift).toNat)

/-- The double nearest to `num / den`, a tie to the even significand. -/
def ofRatio (negative : Bool) (num den : Nat) : Binary64 :=
  if num = 0 ∨ den = 0 then signed negative 0
  else
    let guess : Int := Int.ofNat num.log2 - Int.ofNat den.log2
    let (n, d) := scaled num den (-guess)
    let top := if d ≤ n then guess else guess - 1
    let exponent := max (top - 52) (-1074)
    let (n, d) := scaled num den (-exponent)
    let significand := roundDiv n d
    let (significand, exponent) :=
      if significand = Nat.pow 2 53 then (Nat.pow 2 52, exponent + 1) else (significand, exponent)
    if 971 < exponent then infinity negative
    else if significand < Nat.pow 2 52 then signed negative significand
    else signed negative ((exponent + 1075).toNat * Nat.pow 2 52 + (significand - Nat.pow 2 52))

/-- The double nearest to `digits * 10 ^ exponent`. -/
def ofDecimal (negative : Bool) (digits : Nat) (exponent : Int) : Binary64 :=
  let size : Int := Int.ofNat (Nat.toDigits 10 digits).length + exponent
  if digits = 0 ∨ size < -400 then signed negative 0
  else if 400 < size then infinity negative
  else if 0 ≤ exponent then ofRatio negative (digits * Nat.pow 10 exponent.toNat) 1
  else ofRatio negative digits (Nat.pow 10 (-exponent).toNat)

def ofInt (n : Int) : Binary64 :=
  ofRatio (decide (n < 0)) n.natAbs 1

/-- A finite magnitude as a fraction. -/
def fraction (significand : Nat) (exponent : Int) : Nat × Nat :=
  scaled significand 1 exponent

/-- The whole number that a finite double equals. -/
def toInt? (x : Binary64) : Option Int :=
  match x.magnitude with
  | .finite m e =>
    let (n, d) := fraction m e
    if n % d = 0 then some (if x.isNegative then -Int.ofNat (n / d) else Int.ofNat (n / d)) else none
  | _ => none

def isNan (x : Binary64) : Bool :=
  x.magnitude == .nan

def isZero (x : Binary64) : Bool :=
  x.bits.toNat % Nat.pow 2 63 == 0

/-- Equality as numbers: both zeros are equal and not-a-number equals nothing. -/
def equals (x y : Binary64) : Bool :=
  !x.isNan && !y.isNan && (x.bits == y.bits || (x.isZero && y.isZero))

/-- The power of ten of the leading digit of `num / den`, at most 400 below one. -/
def leadingPower (num den : Nat) : Int :=
  if den ≤ num then Int.ofNat ((Nat.toDigits 10 (num / den)).length - 1)
  else
    match (List.range 400).find? fun k => den ≤ num * Nat.pow 10 (k + 1) with
    | some k => -(Int.ofNat (k + 1))
    | none => -400

/-- A decimal `digits * 10 ^ power`. -/
structure Decimal where
  digits : Nat
  power : Int
  deriving DecidableEq

/-- `num / den` measured in units of `10 ^ power`, as a fraction. -/
def inUnits (num den : Nat) (power : Int) : Nat × Nat :=
  if 0 ≤ power then (num, den * Nat.pow 10 power.toNat) else (num * Nat.pow 10 (-power).toNat, den)

/-- The point of the grid `10 ^ power` nearest to `4 m / (4 d)` between the bounds, if one lies there.
All bounds are numerators over `den`. -/
def gridHit? (value low high den : Nat) (closed : Bool) (power : Int) : Option Decimal :=
  let (v, d) := inUnits value den power
  let (lo, _) := inUnits low den power
  let (hi, _) := inUnits high den power
  let inside (g : Nat) : Bool :=
    if closed then lo ≤ g * d && g * d ≤ hi else lo < g * d && g * d < hi
  let below := v / d
  let above := below + 1
  let nearBelow := 2 * (v % d) < d || (2 * (v % d) == d && below % 2 == 0)
  if inside below && (nearBelow || !inside above) then some ⟨below, power⟩
  else if inside above then some ⟨above, power⟩
  else none

/-- The shortest decimal that reads back as a positive finite double, the nearest of those. -/
def shortest (significand : Nat) (exponent : Int) : Decimal :=
  let narrow := significand = Nat.pow 2 52 ∧ -1074 < exponent
  let (value, den) := scaled (4 * significand) 4 exponent
  let (low, _) := scaled (4 * significand - if narrow then 1 else 2) 4 exponent
  let (high, _) := scaled (4 * significand + 2) 4 exponent
  let top := leadingPower value den
  let hits := (List.range 17).filterMap fun (n : Nat) =>
    gridHit? value low high den (significand % 2 == 0) (top - Int.ofNat n)
  hits.head?.getD ⟨0, 0⟩

end Binary64

end Patchwork.Number
