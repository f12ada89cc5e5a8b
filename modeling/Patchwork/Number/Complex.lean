import Patchwork.Number.Division
import Patchwork.Number.FloatText

/-!
Complex numbers of double precision.
-/

namespace Patchwork.Number

structure Complex where
  re : Binary64
  im : Binary64
  deriving DecidableEq, Inhabited

namespace Complex

def ofReal (x : Binary64) : Complex :=
  ⟨x, Binary64.ofInt 0⟩

def ofFloats (re im : Float) : Complex :=
  ⟨.ofFloat re, .ofFloat im⟩

def isReal (z : Complex) : Bool :=
  z.im.isZero

def isZero (z : Complex) : Bool :=
  z.re.isZero && z.im.isZero

def equals (z w : Complex) : Bool :=
  z.re.equals w.re && z.im.equals w.im

def add (z w : Complex) : Complex :=
  ofFloats (z.re.toFloat + w.re.toFloat) (z.im.toFloat + w.im.toFloat)

def sub (z w : Complex) : Complex :=
  ofFloats (z.re.toFloat - w.re.toFloat) (z.im.toFloat - w.im.toFloat)

def mul (z w : Complex) : Complex :=
  let (a, b, c, d) := (z.re.toFloat, z.im.toFloat, w.re.toFloat, w.im.toFloat)
  ofFloats (a * c - b * d) (a * d + b * c)

def neg (z : Complex) : Complex :=
  ofFloats (-z.re.toFloat) (-z.im.toFloat)

/-- A quotient; the divisor is scaled by its larger part. -/
def div (z w : Complex) : Complex :=
  let (a, b, c, d) := (z.re.toFloat, z.im.toFloat, w.re.toFloat, w.im.toFloat)
  if d.abs ≤ c.abs then
    let ratio := d / c
    let scale := c + d * ratio
    ofFloats ((a + b * ratio) / scale) ((b - a * ratio) / scale)
  else
    let ratio := c / d
    let scale := c * ratio + d
    ofFloats ((a * ratio + b) / scale) ((b * ratio - a) / scale)

def modulus (z : Complex) : Float :=
  let a := z.re.toFloat
  let b := z.im.toFloat
  if z.im.isZero then a.abs else if z.re.isZero then b.abs else (a * a + b * b).sqrt

/-- A power by modulus and argument; `none` for zero to a power that it does not have. -/
def pow? (z w : Complex) : Option Complex :=
  let (c, d) := (w.re.toFloat, w.im.toFloat)
  if w.isZero then some (ofFloats 1 0)
  else if z.isZero then if !w.isReal || c < 0 then none else some (ofFloats 0 0)
  else
    let size := z.modulus
    let angle := Float.atan2 z.im.toFloat z.re.toFloat
    let length := Float.pow size c
    let phase := angle * c
    let (length, phase) :=
      if w.isReal then (length, phase) else (length / (angle * d).exp, phase + d * size.log)
    some (ofFloats (length * phase.cos) (length * phase.sin))

/-- One part without a superfluous zero fraction. -/
def partText (x : Binary64) : String :=
  match x.text.toList.reverse with
  | '0' :: '.' :: r => String.ofList r.reverse
  | _ => x.text

def text (z : Complex) : String :=
  let im := partText z.im ++ "j"
  if z.re.isZero && !z.re.isNegative then im
  else
    let sign := if z.im.isNegative && !z.im.isNan then "" else "+"
    "(" ++ partText z.re ++ sign ++ im ++ ")"

end Complex

end Patchwork.Number
