import Patchwork.Number.Binary64

/-!
Division: floored division, rounding and order of doubles, and powers and inverses among what divisions of whole numbers
leave over.
-/

namespace Patchwork.Number.Binary64

/-- Whether a double is finite. -/
def isFinite (x : Binary64) : Bool :=
  match x.magnitude with
  | .finite _ _ => true
  | _ => false

/-- What a division toward zero leaves over, which is exact and has the sign of `x`. -/
def remainder (x y : Binary64) : Binary64 :=
  match x.magnitude, y.magnitude with
  | .finite m e, .finite n f =>
    let (a, b) := fraction m e
    let (c, d) := fraction n f
    if c = 0 then nan else ofRatio x.isNegative ((a * d) % (c * b)) (b * d)
  | .finite _ _, .infinite => x
  | _, _ => nan

/-- Zero with the sign of a double. -/
def zeroLike (x : Binary64) : Float :=
  (signed x.isNegative 0).toFloat

/-- The floored quotient and the remainder that belongs to it; `y` is not zero. -/
def floored (x y : Binary64) : Float × Float :=
  let a := x.toFloat
  let b := y.toFloat
  let r := (x.remainder y).toFloat
  let q := (a - r) / b
  let crosses := r != 0 && decide (b < 0) != decide (r < 0)
  let left := if crosses then r + b else if r == 0 then zeroLike y else r
  let q := if crosses then q - 1 else q
  let whole := if q != 0 then (if q - q.floor > 0.5 then q.floor + 1 else q.floor) else zeroLike (ofFloat (a / b))
  (whole, left)

/-- The nearest whole multiple of a power of ten, counted in it; a half goes to the even neighbour. -/
def rounded? (x : Binary64) (places : Int) : Option Int :=
  match x.magnitude with
  | .finite m e =>
    let (a, b) := fraction m e
    let n := Int.ofNat (roundDiv (a * Nat.pow 10 places.toNat) (b * Nat.pow 10 (-places).toNat))
    some (if x.isNegative then -n else n)
  | _ => none

/-- A double rounded to a number of decimal places. -/
def roundedTo (x : Binary64) (places : Int) : Binary64 :=
  if 400 < places then x
  else if places < -400 then signed x.isNegative 0
  else
    match x.rounded? places with
    | some n => ofDecimal x.isNegative n.natAbs (-places)
    | none => x

/-- How a whole number and a double compare; not at all if the double is no number. -/
def compareInt? (n : Int) (x : Binary64) : Option Ordering :=
  match x.magnitude with
  | .nan => none
  | .infinite => some (if x.isNegative then .gt else .lt)
  | .finite m e =>
    let (a, b) := fraction m e
    some (compare (n * b) (if x.isNegative then -Int.ofNat a else Int.ofNat a))

def compare? (x y : Binary64) : Option Ordering :=
  if x.isNan || y.isNan then none
  else if x.toFloat < y.toFloat then some .lt
  else if x.equals y then some .eq
  else some .gt

end Patchwork.Number.Binary64

namespace Patchwork.Number

/-! ## Residues -/

/-- What a division by `m` leaves over of a power, with one step for each bit of the exponent. -/
def residuePower (m a b : Nat) : Nat :=
  if h : b = 0 then 1 % m
  else
    let half := residuePower m a (b / 2)
    let square := half * half % m
    if b % 2 = 0 then square else square * a % m
termination_by b
decreasing_by exact Nat.div_lt_self (Nat.pos_of_ne_zero h) (by decide)

/-- Factors of two numbers in a sum that is their greatest common divisor. -/
def cofactors (a b : Nat) : Int × Int :=
  if _h : b = 0 then (1, 0)
  else
    let (x, y) := cofactors b (a % b)
    (y, x - Int.ofNat (a / b) * y)
termination_by b
decreasing_by exact Nat.mod_lt a (Nat.pos_of_ne_zero _h)

/-- The number whose product with `a` leaves one over, if there is one. -/
def inverse? (m a : Nat) : Option Nat :=
  if Nat.gcd a m = 1 then some (Int.fmod (cofactors a m).1 m).toNat else none

end Patchwork.Number
