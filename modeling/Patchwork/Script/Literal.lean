import Patchwork.Script.Syntax
import Patchwork.Script.Scan
import Patchwork.Number.FloatText
import Patchwork.Number.Integer
import Patchwork.Text.Name

/-!
Reading the literals of scripts: numbers and quoted text.
-/

namespace Patchwork.Script

open Patchwork.Number

def hexDigit? (c : Char) : Option Nat :=
  if c.isDigit then some (c.toNat - 0x30)
  else if 'a' ≤ c ∧ c ≤ 'f' then some (c.toNat - 0x57)
  else if 'A' ≤ c ∧ c ≤ 'F' then some (c.toNat - 0x37)
  else none

/-- The value of digits to a base. -/
def digitsTo (base : Nat) (s : List Char) : Nat :=
  s.foldl (fun n c => n * base + (hexDigit? c).getD 0) 0

/-- A number token; a letter behind it makes it imaginary. -/
def numberOf? (token : List Char) : Option Expr :=
  let s := token.filter (· != '_')
  match s with
  | '0' :: x :: r =>
    if x == 'x' || x == 'X' then some (.int (digitsTo 16 r))
    else if x == 'o' || x == 'O' then some (.int (digitsTo 8 r))
    else if x == 'b' || x == 'B' then some (.int (digitsTo 2 r))
    else marked s
  | _ => marked s
where
  marked (s : List Char) : Option Expr :=
    match s.getLast? with
    | some c =>
      if c == 'j' || c == 'J' then
        (decimalOf? s.dropLast).map fun (digits, power) => .imaginary (Binary64.ofDecimal false digits power)
      else decimal s
    | none => none
  decimal (s : List Char) : Option Expr :=
    if s.all Char.isDigit then
      if s.length ≤ digitLimit then some (.int (digitsTo 10 s)) else none
    else (decimalOf? s).map fun (digits, power) => .float (Binary64.ofDecimal false digits power)

/-- A fixed number of hexadecimal digits. -/
def hexAt? (n : Nat) (s : List Char) : Option (Nat × List Char) :=
  let ds := s.take n
  if ds.length = n ∧ ds.all fun c => (hexDigit? c).isSome then some (digitsTo 16 ds, s.drop n) else none

/-- The code point of a hexadecimal escape. -/
def charOf? (n : Nat) : Option Char :=
  if n < 0xd800 ∨ (0xdfff < n ∧ n < 0x110000) then some (Char.ofNat n) else none

/-- Quoted text with its escapes resolved; an unknown escape stands for itself. `text` is read so far,
reversed. -/
def unescape? (bytes : Bool) : Nat → List Char → List Char → Option (List Char)
  | 0, _, _ => none
  | fuel + 1, text, s =>
    match s with
    | [] => some text.reverse
    | '\\' :: c :: r =>
      let plain (d : Char) := unescape? bytes fuel (d :: text) r
      let hex (n : Nat) :=
        match hexAt? n r with
        | some (v, r) => (charOf? v).bind fun d => unescape? bytes fuel (d :: text) r
        | none => none
      match c with
      | '\n' => unescape? bytes fuel text r
      | '\\' => plain '\\'
      | '\x27' => plain '\x27'
      | '"' => plain '"'
      | 'a' => plain '\x07'
      | 'b' => plain '\x08'
      | 'f' => plain '\x0c'
      | 'n' => plain '\n'
      | 'r' => plain '\r'
      | 't' => plain '\t'
      | 'v' => plain '\x0b'
      | 'x' => hex 2
      | 'u' => if bytes then unescape? bytes fuel (c :: '\\' :: text) r else hex 4
      | 'N' =>
        if bytes then unescape? bytes fuel (c :: '\\' :: text) r
        else
          match r with
          | '\x7b' :: q =>
            let name := q.takeWhile (· != '\x7d')
            match q.drop name.length, Text.Name.lookup? (String.ofList name) with
            | _ :: rest, some d => unescape? bytes fuel (d :: text) rest
            | _, _ => none
          | _ => none
      | 'U' => if bytes then unescape? bytes fuel (c :: '\\' :: text) r else hex 8
      | _ =>
        if isOctalDigit c then
          let ds := c :: (r.take 2).takeWhile isOctalDigit
          unescape? bytes fuel (Char.ofNat (digitsTo 8 ds) :: text) (r.drop (ds.length - 1))
        else unescape? bytes fuel (c :: '\\' :: text) r
    | c :: r => unescape? bytes fuel (c :: text) r

/-- A text token: its characters, and whether they stand for bytes. -/
def textOf? (token : List Char) : Option (List Char × Bool) := do
  let (marks, q) ← quoteAt? token
  let lead := (token.take marks).map Char.toLower
  let body := token.drop marks
  let width := if 6 ≤ body.length && body.take 3 == [q, q, q] then 3 else 1
  let inner := (body.drop width).take (body.length - 2 * width)
  let bytes := lead.contains 'b'
  if bytes && inner.any (0x7f < ·.toNat) then none
  if lead.contains 'f' && inner.any (fun c => c == '\x7b' || c == '\x7d') then none
  if lead.contains 'r' then some (inner, bytes)
  else (unescape? bytes (inner.length + 1) [] inner).map (·, bytes)

end Patchwork.Script
