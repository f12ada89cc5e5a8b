import Patchwork.Json.Basic
import Patchwork.Number.FloatText
import Patchwork.Number.Integer

/-!
Reading JSON text. The first fault found is reported with its place; the words `NaN`, `Infinity` and
`-Infinity` are read as numbers.
-/

namespace Patchwork.Json

open Patchwork.Number

/-- What is wrong with a text. -/
inductive Fault where
  | value
  | memberName
  | colon
  | comma
  | openString
  | control
  | escape
  | unicodeEscape
  | extra
  | byteOrderMark
  /-- A whole number with more digits than are read. -/
  | digits (count : Nat)
  deriving DecidableEq

def Fault.message : Fault → String
  | value => "Expecting value"
  | memberName => "Expecting property name enclosed in double quotes"
  | colon => "Expecting ':' delimiter"
  | comma => "Expecting ',' delimiter"
  | openString => "Unterminated string starting at"
  | control => "Invalid control character at"
  | escape => "Invalid \\escape"
  | unicodeEscape => "Invalid \\uXXXX escape"
  | extra => "Extra data"
  | byteOrderMark => "Unexpected UTF-8 BOM (decode using utf-8-sig)"
  | digits count => digitLimitText count

/-- A fault together with the number of characters from its place to the end of the text. -/
abbrev Read (α : Type) := Except (Fault × Nat) α

def fail {α : Type} (f : Fault) (rest : List Char) : Read α :=
  .error (f, rest.length)

def skip (s : List Char) : List Char :=
  s.dropWhile fun c => c == ' ' || c == '\t' || c == '\n' || c == '\r'

def hexValue? (c : Char) : Option Nat :=
  if c.isDigit then some (c.toNat - 0x30)
  else if 'a' ≤ c ∧ c ≤ 'f' then some (c.toNat - 0x57)
  else if 'A' ≤ c ∧ c ≤ 'F' then some (c.toNat - 0x37)
  else none

/-- Four hexadecimal digits. -/
def hex4? : List Char → Option (Nat × List Char)
  | a :: b :: c :: d :: r => do
    let a ← hexValue? a
    let b ← hexValue? b
    let c ← hexValue? c
    let d ← hexValue? d
    some (((a * 16 + b) * 16 + c) * 16 + d, r)
  | _ => none

def isHighSurrogate (n : Nat) : Bool := 0xd800 ≤ n && n < 0xdc00

def isLowSurrogate (n : Nat) : Bool := 0xdc00 ≤ n && n < 0xe000

/-- One code point for a pair of surrogates; a lone surrogate has no character and becomes U+FFFD. -/
def unicodeChar (n : Nat) (rest : List Char) : Char × List Char :=
  let lone : Char × List Char :=
    (if isHighSurrogate n || isLowSurrogate n then Char.ofNat 0xfffd else Char.ofNat n, rest)
  match rest with
  | '\\' :: 'u' :: r =>
    if isHighSurrogate n then
      match hex4? r with
      | some (m, r') =>
        if isLowSurrogate m then (Char.ofNat (0x10000 + (n - 0xd800) * 0x400 + (m - 0xdc00)), r') else lone
      | none => lone
    else lone
  | _ => lone

def escapeChar? (c : Char) : Option Char :=
  match c with
  | '"' => some '"'
  | '\\' => some '\\'
  | '/' => some '/'
  | 'b' => some '\x08'
  | 'f' => some '\x0c'
  | 'n' => some '\n'
  | 'r' => some '\r'
  | 't' => some '\t'
  | _ => none

/-- The rest of a string behind its opening quote, which stands at `start`; `text` is read so far,
reversed. -/
def stringFrom (start : List Char) : Nat → List Char → List Char → Read (String × List Char)
  | 0, _, _ => fail .openString start
  | fuel + 1, text, s =>
    match s with
    | [] => fail .openString start
    | '"' :: r => .ok (String.ofList text.reverse, r)
    | ['\\'] => fail .openString start
    | '\\' :: 'u' :: r =>
      if r.length ≤ 4 then fail .unicodeEscape ('u' :: r)
      else
        match hex4? r with
        | some (n, r') =>
          let (c, r'') := unicodeChar n r'
          stringFrom start fuel (c :: text) r''
        | none => fail .unicodeEscape ('u' :: r)
    | '\\' :: c :: r =>
      match escapeChar? c with
      | some d => stringFrom start fuel (d :: text) r
      | none => fail .escape s
    | c :: r => if c.toNat < 0x20 then fail .control s else stringFrom start fuel (c :: text) r

def stringAt (s : List Char) : Read (String × List Char) :=
  stringFrom s s.length [] (s.drop 1)

/-- The longest number at the head of the text, with its rest; `none` if no number starts there. -/
def number? (s : List Char) : Option (Json × List Char) :=
  let (negative, r) := match s with
    | '-' :: r => (true, r)
    | r => (false, r)
  let whole := match r with
    | '0' :: _ => ['0']
    | r => r.takeWhile Char.isDigit
  if whole.isEmpty then none
  else
    let r := r.drop whole.length
    let places := match r with
      | '.' :: q => q.takeWhile Char.isDigit
      | _ => []
    let r := if places.isEmpty then r else r.drop (places.length + 1)
    let power := match r with
      | c :: q =>
        if c == 'e' || c == 'E' then
          let sign := match q with
            | '+' :: _ => ['+']
            | '-' :: _ => ['-']
            | _ => []
          let digits := (q.drop sign.length).takeWhile Char.isDigit
          if digits.isEmpty then [] else sign ++ digits
        else []
      | [] => []
    let r := if power.isEmpty then r else r.drop (power.length + 1)
    if places.isEmpty && power.isEmpty then
      let n : Int := Int.ofNat ((natOf? whole).getD 0)
      some (.int (if negative then -n else n), r)
    else
      let digits := (natOf? (whole ++ places)).getD 0
      let e := (exponentOf? power).getD 0 - Int.ofNat places.length
      some (.float (Binary64.ofDecimal negative digits e), r)

/-- A word that stands for a value. -/
def word? (s : List Char) : Option (Json × List Char) :=
  let words : List (String × Json) := [("null", .null), ("true", .bool true), ("false", .bool false),
    ("NaN", .float Binary64.nan), ("Infinity", .float (Binary64.infinity false)),
    ("-Infinity", .float (Binary64.infinity true))]
  words.findSome? fun (w, v) => (Text.after? w.toList s).map fun r => (v, r)

mutual

/-- One value at the head of the text; the fuel bounds the nesting and the number of members. -/
def valueAt : Nat → List Char → Read (Json × List Char)
  | 0, s => fail .value s
  | fuel + 1, s =>
    match s with
    | '"' :: _ => (stringAt s).map fun (t, r) => (.str t, r)
    | '\x7b' :: r =>
      match skip r with
      | '\x7d' :: r => .ok (.obj [], r)
      | r => membersAt fuel [] r
    | '[' :: r =>
      match skip r with
      | ']' :: r => .ok (.arr [], r)
      | r => itemsAt fuel [] r
    | _ =>
      match word? s with
      | some found => .ok found
      | none =>
        match number? s with
        | some (.int n, r) =>
          if r.length + digitLimit < s.length && n.natAbs ≠ 0 then
            match excessDigits? 10 (s.take (s.length - r.length)) with
            | some count => fail (.digits count) s
            | none => .ok (.int n, r)
          else .ok (.int n, r)
        | some found => .ok found
        | none => fail .value s

/-- The members of an open object. -/
def membersAt : Nat → List (String × Json) → List Char → Read (Json × List Char)
  | 0, _, s => fail .value s
  | fuel + 1, members, s =>
    match s with
    | '"' :: _ => do
      let (name, r) ← stringAt s
      match skip r with
      | ':' :: r =>
        let (value, r) ← valueAt fuel (skip r)
        let members := insertMember members name value
        match skip r with
        | '\x7d' :: r => .ok (.obj members, r)
        | ',' :: r => membersAt fuel members (skip r)
        | r => fail .comma r
      | r => fail .colon r
    | _ => fail .memberName s

/-- The items of an open array, reversed so far. -/
def itemsAt : Nat → List Json → List Char → Read (Json × List Char)
  | 0, _, s => fail .value s
  | fuel + 1, items, s => do
    let (value, r) ← valueAt fuel s
    match skip r with
    | ']' :: r => .ok (.arr (value :: items).reverse, r)
    | ',' :: r => itemsAt fuel (value :: items) (skip r)
    | r => fail .comma r

end

/-- A whole text. -/
def document (s : List Char) : Read Json :=
  match s with
  | '\ufeff' :: _ => fail .byteOrderMark s
  | _ => do
    let (value, r) ← valueAt (s.length + 1) (skip s)
    match skip r with
    | [] => .ok value
    | r => fail .extra r

/-- Whether a fault has a place in the text. -/
def Fault.hasPlace : Fault → Bool
  | digits _ => false
  | _ => true

/-- The message for a fault, with line, column and index of its place. -/
def placed (s : List Char) (f : Fault) (left : Nat) : String :=
  let place := s.length - left
  let lead := s.take place
  let line := lead.count '\n' + 1
  let column := (lead.reverse.takeWhile (· != '\n')).length + 1
  if f.hasPlace then s!"{f.message}: line {line} column {column} (char {place})" else f.message

/-- Reads a text, or says what is wrong with it. -/
def parse (s : String) : Except (Fault × String) Json :=
  match document s.toList with
  | .ok value => .ok value
  | .error (f, left) => .error (f, placed s.toList f left)

end Patchwork.Json
