import Patchwork.Text.Class
import Patchwork.Text.Search

/-!
Reading whole numbers: white space around, a sign, digits of any script, single underscores between digits. In
bases above ten letters follow the ten digits, and a mark in front of the digits may name the base.
-/

namespace Patchwork.Number

open Patchwork.Text

/-- The value of a digit in a base. -/
def baseDigit? (base : Nat) (c : Char) : Option Nat :=
  let value := if c.isAlpha then some (c.toLower.toNat - 87) else digitValue? c
  value.filter (· < base)

/-- Digits onto `value`; `ready` says that a digit came last, so that an underscore or the end may
follow. -/
def digitsOnto (base value : Nat) (ready : Bool) : List Char → Option Nat
  | [] => if ready then some value else none
  | c :: r =>
    if c == '_' then
      if ready then digitsOnto base value false r else none
    else
      match baseDigit? base c with
      | some d => digitsOnto base (value * base + d) true r
      | none => none

/-- An unsigned whole number. -/
def natOf? (s : List Char) : Option Nat :=
  digitsOnto 10 0 false s

/-- A whole number with an optional sign, white space around it allowed; `read` reads what has no sign. -/
def signedOf? (read : List Char → Option Nat) (s : List Char) : Option Int :=
  match stripWhere isWhite s with
  | '+' :: r => (read r).map Int.ofNat
  | '-' :: r => (read r).map fun n => -Int.ofNat n
  | r => (read r).map Int.ofNat

def intOf? (s : String) : Option Int :=
  signedOf? natOf? s.toList

/-- The base that a mark in front of the digits names, and the digits. -/
def markedBase? : List Char → Option (Nat × List Char)
  | '0' :: c :: r =>
    let base :=
      match c.toLower with
      | 'x' => some 16
      | 'o' => some 8
      | 'b' => some 2
      | _ => none
    base.map fun b => (b, if r.head? = some '_' then r.drop 1 else r)
  | _ => none

/-- An unsigned whole number in a base. In base 0 a mark says which; without one a number other than zero does
not begin with a zero. -/
def natInBase? (base : Nat) (s : List Char) : Option Nat :=
  match (markedBase? s).filter fun m => base = 0 || base = m.1 with
  | some (b, r) => digitsOnto b 0 false r
  | none =>
    if base = 0 then (natOf? s).filter fun n => s.head? != some '0' || n = 0
    else digitsOnto base 0 false s

/-- Whether numbers in a base are read however long they are. -/
def isBinaryBase (base : Nat) : Bool :=
  [2, 4, 8, 16, 32].contains base

/-- The most digits that a number to be read may have. -/
def digitLimit : Nat := 4300

/-- How many digits a numeral has, if that is more than is read. -/
def excessDigits? (base : Nat) (s : List Char) : Option Nat :=
  let n := s.countP fun c => (baseDigit? base c).isSome
  if digitLimit < n then some n else none

/-- What is said of a numeral with too many digits. -/
def digitLimitText (digits : Nat) : String :=
  s!"Exceeds the limit ({digitLimit} digits) for integer string conversion: value has {digits} digits; use " ++
    "sys.set_int_max_str_digits() to increase the limit"

/-- Whether a number has more digits than are written. -/
def isLong (n : Int) : Bool :=
  Nat.pow 10 digitLimit ≤ n.natAbs

/-- What is said of a number that has too many digits to be written. -/
def longNumberText : String :=
  s!"Exceeds the limit ({digitLimit} digits) for integer string conversion; use " ++
    "sys.set_int_max_str_digits() to increase the limit"

end Patchwork.Number
