import Patchwork.Store.Percent

/-!
Specifications of fields: fill, side, sign, width, grouping, precision and the letter of a form.
-/

namespace Patchwork

open Patchwork.Number

/-- What a field looks like. -/
structure Specification where
  fill : Option Char
  side : Option Char
  sign : Option Char
  alternate : Bool
  zero : Bool
  width : Nat
  /-- The mark between groups of digits. -/
  mark : Option Char
  precision : Option Nat
  letter : Option Char
  deriving DecidableEq

namespace Specification

inductive Fault where
  | bothMarks
  | marked (mark letter : Char)
  | noPrecision
  | unread (text type : String)
  | unknownLetter (c : Char) (type : String)
  | signedText
  | blankText
  | alternateText
  | innerText
  | preciseInteger
  | signedChar
  | alternateChar
  | charRange
  | unsupported (type : String)
  /-- A number that no machine word holds. -/
  | tooManyDigits
  | tooPrecise
  | tooLargeForDouble
  | memory
  deriving DecidableEq

def Fault.message : Fault → String
  | bothMarks => "Cannot specify both ',' and '_'."
  | marked m c => "Cannot specify '" ++ m.toString ++ "' with '" ++ c.toString ++ "'."
  | noPrecision => "Format specifier missing precision"
  | unread text type => "Invalid format specifier '" ++ text ++ "' for object of type '" ++ type ++ "'"
  | unknownLetter c type =>
    "Unknown format code '" ++ c.toString ++ "' for object of type '" ++ type ++ "'"
  | signedText => "Sign not allowed in string format specifier"
  | blankText => "Space not allowed in string format specifier"
  | alternateText => "Alternate form (#) not allowed in string format specifier"
  | innerText => "'=' alignment not allowed in string format specifier"
  | preciseInteger => "Precision not allowed in integer format specifier"
  | signedChar => "Sign not allowed with integer format specifier 'c'"
  | alternateChar => "Alternate form (#) not allowed with integer format specifier 'c'"
  | charRange => "%c arg not in range(0x110000)"
  | unsupported type => "unsupported format string passed to " ++ type ++ ".__format__"
  | tooManyDigits => "Too many decimal digits in format string"
  | tooPrecise => "precision too big"
  | tooLargeForDouble => "int too large to convert to float"
  | memory => ""

def Fault.kind : Fault → ErrorKind
  | charRange | tooLargeForDouble => .overflow
  | unsupported _ => .type
  | memory => .memory
  | _ => .value

def isSide (c : Char) : Bool :=
  ['<', '>', '=', '^'].contains c

/-- Leading digits as a number, if there are any, and the rest. -/
def number? (s : List Char) : Except Fault (Option Nat × List Char) :=
  match natOf? (s.takeWhile Text.isDecimal) with
  | some n => if Nat.pow 2 63 ≤ n then .error .tooManyDigits else .ok (some n, s.dropWhile Text.isDecimal)
  | none => .ok (none, s)

/-- The letters that allow a mark between groups. -/
def allowsMark (mark : Char) (letter : Option Char) : Bool :=
  match letter with
  | none => true
  | some c => "defgEG%F".toList.contains c || (mark == '_' && "boxX".toList.contains c)

/-- Reads a specification for a value of some type; `usual` is the letter that stands for none. -/
def parse (text : List Char) (type : String) (usual : Option Char) : Except Fault Specification := do
  let (fill, side, s) := match text with
    | f :: a :: r =>
      if isSide a then (some f, some a, r)
      else if isSide f then (none, some f, a :: r)
      else (none, none, text)
    | [a] => if isSide a then (none, some a, []) else (none, none, text)
    | [] => (none, none, [])
  let (sign, s) := match s with
    | c :: r => if c == '+' || c == '-' || c == ' ' then (some c, r) else (none, s)
    | [] => (none, [])
  let (alternate, s) := match s with
    | '#' :: r => (true, r)
    | s => (false, s)
  let (zero, s) := match s with
    | '0' :: r => if fill.isNone then (true, r) else (false, s)
    | s => (false, s)
  let (width, s) ← number? s
  let (mark, s) ← match s with
    | ',' :: '_' :: _ | '_' :: ',' :: _ => .error .bothMarks
    | ',' :: r => .ok (some ',', r)
    | '_' :: r => .ok (some '_', r)
    | s => .ok (none, s)
  let (precision, s) ← match s with
    | '.' :: r =>
      match ← number? r with
      | (some n, r) => .ok (some n, r)
      | (none, _) => .error .noPrecision
    | s => .ok (none, s)
  let letter ← match s with
    | [] => .ok usual
    | [c] => .ok (some c)
    | _ => .error (.unread (String.ofList text) type)
  match mark, letter with
  | some m, some c => if !allowsMark m letter then .error (.marked m c)
  | _, _ => .ok ()
  .ok ⟨fill, side, sign, alternate, zero, width.getD 0, mark, precision, letter⟩

/-- A body filled up to the width; `=` fills between `lead` and the body. -/
def filled (v : Specification) (usual : Char) (lead body : List Char) : List Char :=
  let missing := v.width - (lead.length + body.length)
  let fill := v.fill.getD (if v.zero then '0' else ' ')
  let pad (n : Nat) := List.replicate n fill
  match v.side.getD (if v.zero && usual == '>' then '=' else usual) with
  | '<' => lead ++ body ++ pad missing
  | '^' => pad (missing / 2) ++ lead ++ body ++ pad (missing - missing / 2)
  | '=' => lead ++ pad missing ++ body
  | _ => pad missing ++ lead ++ body

/-- Digits, the last one first, with a mark before each further group. -/
def groupedFrom (mark : Char) (size : Nat) (taken : Nat) : List Char → List Char
  | [] => []
  | d :: r =>
    if taken = size then mark :: d :: groupedFrom mark size 1 r
    else d :: groupedFrom mark size (taken + 1) r

/-- How many digits it takes to be at least `width` long with the marks. -/
def digitsFor (size width : Nat) : Nat → Nat → Nat
  | 0, n => n
  | fuel + 1, n => if width ≤ n + (n - 1) / size then n else digitsFor size width fuel (n + 1)

/-- A number filled up, its digits in groups. Zeros that fill up are grouped as well. -/
def numeral (v : Specification) (size : Nat) (lead digits tail : List Char) : List Char :=
  match v.mark with
  | none => v.filled '>' lead (digits ++ tail)
  | some mark =>
    let fillsZero := v.fill.getD (if v.zero then '0' else ' ') == '0' && v.side.getD (if v.zero then '=' else '>') == '='
    let width := if fillsZero then v.width - (lead.length + tail.length) else 0
    let count := digitsFor size width width digits.length
    let all := List.replicate (count - digits.length) '0' ++ digits
    v.filled '>' lead ((groupedFrom mark size 0 all.reverse).reverse ++ tail)

def signText (v : Specification) (negative : Bool) : List Char :=
  if negative then ['-']
  else
    match v.sign with
    | some '+' => ['+']
    | some ' ' => [' ']
    | _ => []

/-- A text by a specification. -/
def writeText (v : Specification) (s : List Char) : Except Fault (List Char) :=
  match v.letter with
  | some 's' | none =>
    if v.sign == some ' ' then .error .blankText
    else if v.sign.isSome then .error .signedText
    else if v.alternate then .error .alternateText
    else if v.side == some '=' then .error .innerText
    else .ok (v.filled '<' [] ((v.precision.map s.take).getD s))
  | some c => .error (.unknownLetter c "str")

/-- A double in the shortest form that reads back, or with a number of significant digits. -/
def shortest (v : Specification) (x : Binary64) : List Char :=
  match v.precision with
  | none => x.text.toList.filter (· != '-')
  | some p =>
    let precision := max 1 p
    match x.magnitude with
    | .finite m e =>
      let long := Binary64.scientificText (precision - 1) m e
      let power := (Number.intOf? (String.ofList ((long.dropWhile (· != 'e')).drop 1))).getD 0
      if power < -4 ∨ Int.ofNat precision ≤ power + 1 then
        Percent.trimFraction (long.takeWhile (· != 'e')) ++ long.dropWhile (· != 'e')
      else
        let text := Percent.trimFraction (Binary64.fixedText (Int.ofNat precision - 1 - power).toNat m e)
        if text.contains '.' then text else text ++ ['.', '0']
    | _ => x.text.toList.filter (· != '-')

/-- A double by a specification. -/
def writeReal (v : Specification) (type : String) (x : Binary64) : Except Fault (List Char) := do
  let plain : Percent.Conversion := ⟨false, false, false, v.alternate, false, 0, v.precision⟩
  let negative := x.isNegative && !x.isNan
  match v.letter.filter fun c => !"eEfFgGn%".toList.contains c with
  | some c => .error (.unknownLetter c type)
  | none => .ok ()
  if v.precision.any (Nat.pow 2 31 ≤ ·) then .error .tooPrecise
  let body := match v.letter with
    | none => v.shortest x
    | some 'n' => plain.real 'g' x.absolute
    | some '%' => plain.real 'f' (Binary64.ofFloat (x.absolute.toFloat * 100)) ++ ['%']
    | some c => plain.real c x.absolute
  let digits := body.takeWhile Char.isDigit
  .ok (v.numeral 3 (v.signText negative) digits (body.drop digits.length))

/-- A whole number by a specification. -/
def writeInteger (v : Specification) (type : String) (n : Int) : Except Fault (List Char) := do
  let based (base : Nat) (lead : String) (size : Nat) (upper : Bool) : List Char :=
    let ds := Nat.toDigits base n.natAbs
    v.numeral size (v.signText (decide (n < 0)) ++ if v.alternate then lead.toList else [])
      (if upper then ds.map Char.toUpper else ds) []
  match v.letter with
  | some c =>
    if "eEfFgG%".toList.contains c then
      let x := Binary64.ofInt n
      if x.magnitude = .infinite then .error .tooLargeForDouble else v.writeReal type x
    else if !"bcdnoxX".toList.contains c then .error (.unknownLetter c type)
    else if v.precision.isSome then .error .preciseInteger
    else
      match c with
      | 'b' => .ok (based 2 "0b" 4 false)
      | 'o' => .ok (based 8 "0o" 4 false)
      | 'x' => .ok (based 16 "0x" 4 false)
      | 'X' => .ok (based 16 "0X" 4 true)
      | 'c' =>
        if v.sign.isSome then .error .signedChar
        else if v.alternate then .error .alternateChar
        else if 0 ≤ n ∧ n < 0x110000 then .ok (v.filled '<' [] [Char.ofNat n.toNat])
        else .error .charRange
      | _ => .ok (based 10 "" 3 false)
  | none => if v.precision.isSome then .error .preciseInteger else .ok (based 10 "" 3 false)

/-- What is written, unless the field is too wide. -/
def fitted (v : Specification) (written : Specification → Except Fault (List Char)) :
    Except Fault (List Char) := do
  if Percent.widthLimit < v.width then
    let _ ← written { v with width := 0 }
    .error .memory
  written v

/-- A value by a specification; an empty one shows its text. -/
def write (h : Heap) (v : Value) (text : List Char) : Except Fault (List Char) :=
  if text.isEmpty then .ok (h.str v).toList
  else
    let type := h.kindOf v
    match v, v.integer? with
    | .str s, _ => do (← parse text type (some 's')).fitted fun v => v.writeText s.toList
    | .float x, _ => do (← parse text type none).fitted fun v => v.writeReal type x
    | _, some n => do (← parse text type none).fitted fun v => v.writeInteger type n
    | _, none => .error (.unsupported type)

end Specification

end Patchwork
