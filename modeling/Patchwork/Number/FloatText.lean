import Patchwork.Number.Binary64
import Patchwork.Number.Integer

/-!
Decimal text of double precision numbers: reading, the shortest form, and fixed places.
-/

namespace Patchwork.Number

open Patchwork.Text

namespace Binary64

/-- Drops trailing zeros of the digits into the power. -/
def trimZeros : Nat → Decimal → Decimal
  | 0, d => d
  | fuel + 1, d =>
    if d.digits ≠ 0 ∧ d.digits % 10 = 0 then trimZeros fuel ⟨d.digits / 10, d.power + 1⟩ else d

def digitChars (n : Nat) : List Char :=
  Nat.toDigits 10 n

/-- An exponent with its sign and at least two digits. -/
def exponentText (e : Int) : List Char :=
  let ds := digitChars e.natAbs
  'e' :: (if e < 0 then '-' else '+') :: (if ds.length < 2 then '0' :: ds else ds)

/-- A positive decimal: positional between 10 ^ -4 and 10 ^ 16, else with an exponent; a whole number
keeps one zero behind the point. -/
def decimalText (d : Decimal) : List Char :=
  let ds := digitChars d.digits
  let point : Int := Int.ofNat ds.length + d.power
  if -4 < point ∧ point ≤ 16 then
    if point ≤ 0 then '0' :: '.' :: (List.replicate (-point).toNat '0' ++ ds)
    else if ds.length ≤ point.toNat then
      ds ++ List.replicate (point.toNat - ds.length) '0' ++ ['.', '0']
    else ds.take point.toNat ++ '.' :: ds.drop point.toNat
  else
    let mantissa := match ds with
      | [] => []
      | [c] => [c]
      | c :: r => c :: '.' :: r
    mantissa ++ exponentText (point - 1)

/-- The shortest text that reads back. -/
def text (x : Binary64) : String :=
  let sign := if x.isNegative then ['-'] else []
  match x.magnitude with
  | .nan => "nan"
  | .infinite => String.ofList (sign ++ "inf".toList)
  | .finite 0 _ => String.ofList (sign ++ "0.0".toList)
  | .finite m e => String.ofList (sign ++ decimalText (trimZeros 20 (shortest m e)))

/-- The unsigned text with a fixed number of places, a half going to the even neighbour. -/
def fixedText (places : Nat) (significand : Nat) (exponent : Int) : List Char :=
  let (n, d) := fraction significand exponent
  let ds := digitChars (roundDiv (n * Nat.pow 10 places) d)
  let ds := List.replicate (places + 1 - ds.length) '0' ++ ds
  let whole := ds.take (ds.length - places)
  if places = 0 then whole else whole ++ '.' :: ds.drop (ds.length - places)

/-- The unsigned text with one digit before the point, `places` behind it, and an exponent. -/
def scientificText (places : Nat) (significand : Nat) (exponent : Int) : List Char :=
  let (n, d) := fraction significand exponent
  let top := if n = 0 then 0 else leadingPower n d
  let (u, v) := inUnits n d (top - Int.ofNat places)
  let r := roundDiv u v
  let (r, top) := if (digitChars r).length > places + 1 then (r / 10, top + 1) else (r, top)
  let ds := digitChars r
  let ds := ds ++ List.replicate (places + 1 - ds.length) '0'
  let mantissa := if places = 0 then ds.take 1 else ds.take 1 ++ '.' :: ds.drop 1
  mantissa ++ exponentText top

end Binary64

/-- The text in the reading alphabet: digits of any script and white space become ASCII. -/
def plainDigit (c : Char) : Char :=
  match digitValue? c with
  | some d => Char.ofNat (0x30 + d)
  | none => if isWhite c then ' ' else c

/-- Underscores must stand between digits; they are dropped. -/
def dropUnderscores (last : Char) : List Char → Option (List Char)
  | [] => if last == '_' then none else some []
  | c :: r =>
    if c == '_' then
      if last.isDigit then dropUnderscores c r else none
    else if last == '_' && !c.isDigit then none
    else (dropUnderscores c r).map (c :: ·)

/-- The digits of an exponent with an optional sign, all of the text. -/
def exponentOf? (s : List Char) : Option Int :=
  let digits (r : List Char) : Option Nat := if r.isEmpty || !r.all Char.isDigit then none else natOf? r
  match s with
  | '+' :: r => (digits r).map Int.ofNat
  | '-' :: r => (digits r).map fun n => -Int.ofNat n
  | r => (digits r).map Int.ofNat

/-- Unsigned decimal text: digits, at most one point, an optional exponent; the value is
`digits * 10 ^ power`. -/
def decimalOf? (s : List Char) : Option (Nat × Int) :=
  let whole := s.takeWhile Char.isDigit
  let rest := s.dropWhile Char.isDigit
  let (part, rest) := match rest with
    | '.' :: r => (r.takeWhile Char.isDigit, r.dropWhile Char.isDigit)
    | r => ([], r)
  if whole.isEmpty && part.isEmpty then none
  else
    let digits := (natOf? (whole ++ part)).getD 0
    let power : Int := -Int.ofNat part.length
    match rest with
    | [] => some (digits, power)
    | c :: r =>
      if c == 'e' || c == 'E' then (exponentOf? r).map fun e => (digits, power + e) else none

/-- Unsigned text of a number, infinity or not-a-number. -/
def unsignedOf? (negative : Bool) (s : List Char) : Option Binary64 :=
  let low := String.ofList (s.map Char.toLower)
  if low = "inf" ∨ low = "infinity" then some (Binary64.infinity negative)
  else if low = "nan" then some Binary64.nan
  else (decimalOf? s).map fun (digits, power) => Binary64.ofDecimal negative digits power

/-- The double that a text stands for, white space around it allowed. -/
def floatOf? (s : String) : Option Binary64 := do
  let cs := stripWhere (· == ' ') (s.toList.map plainDigit)
  let cs ← if cs.contains '_' then dropUnderscores ' ' cs else some cs
  match cs with
  | '+' :: r => unsignedOf? false r
  | '-' :: r => unsignedOf? true r
  | r => unsignedOf? false r

end Patchwork.Number
