import Patchwork.Text.Class
import Patchwork.Text.Search

/-!
The lexical classes of scripts, as the length of the longest member at the head of a text.
-/

namespace Patchwork.Script

open Patchwork.Text

/-- Digits with single underscores between them; the length, or zero. -/
def digitsWith (p : Char → Bool) : List Char → Nat
  | [] => 0
  | c :: r =>
    if p c then 1 + digitsWith p r
    else
      match c, r with
      | '_', d :: q => if p d then 2 + digitsWith p q else 0
      | _, _ => 0

/-- As `digitsWith`, but the first character must be a digit. -/
def digitRun (p : Char → Bool) (s : List Char) : Nat :=
  match s with
  | c :: _ => if p c then digitsWith p s else 0
  | [] => 0

def decimalRun (s : List Char) : Nat :=
  digitRun Char.isDigit s

def isHex (c : Char) : Bool :=
  c.isDigit || ('a' ≤ c && c ≤ 'f') || ('A' ≤ c && c ≤ 'F')

def isOctalDigit (c : Char) : Bool :=
  '0' ≤ c && c ≤ '7'

def isBinaryDigit (c : Char) : Bool :=
  c == '0' || c == '1'

/-- An exponent of a number. -/
def exponentRun (s : List Char) : Nat :=
  match s with
  | e :: r =>
    if e == 'e' || e == 'E' then
      match r with
      | sign :: q =>
        if sign == '+' || sign == '-' then
          if decimalRun q = 0 then 0 else 2 + decimalRun q
        else if decimalRun r = 0 then 0 else 1 + decimalRun r
      | [] => 0
    else 0
  | [] => 0

/-- A number with a point or an exponent. -/
def floatRun (s : List Char) : Nat :=
  let whole := decimalRun s
  match s.drop whole with
  | '.' :: r =>
    let places := decimalRun r
    if whole = 0 ∧ places = 0 then 0
    else whole + 1 + places + exponentRun (r.drop places)
  | r => if whole = 0 ∨ exponentRun r = 0 then 0 else whole + exponentRun r

/-- A whole number with a base mark. -/
def basedRun (s : List Char) : Nat :=
  match s with
  | '0' :: x :: r =>
    let digits (p : Char → Bool) : Nat :=
      match r with
      | '_' :: q => if digitRun p q = 0 then 0 else 1 + digitRun p q
      | _ => digitRun p r
    let n :=
      if x == 'x' || x == 'X' then digits isHex
      else if x == 'b' || x == 'B' then digits isBinaryDigit
      else if x == 'o' || x == 'O' then digits isOctalDigit
      else 0
    if n = 0 then 0 else 2 + n
  | _ => 0

/-- A whole number: zeros only, or without a leading zero. -/
def wholeRun (s : List Char) : Nat :=
  if basedRun s ≠ 0 then basedRun s
  else
    match s with
    | '0' :: _ => digitRun (· == '0') s
    | _ => decimalRun s

def isImaginary : List Char → Bool
  | c :: _ => c == 'j' || c == 'J'
  | [] => false

/-- A number of any form. -/
def numberRun (s : List Char) : Nat :=
  let whole := decimalRun s
  let real := floatRun s
  if whole ≠ 0 ∧ isImaginary (s.drop whole) then whole + 1
  else if real ≠ 0 then if isImaginary (s.drop real) then real + 1 else real
  else wholeRun s

/-- The operators, longer ones before those that they start with. -/
def operators : List String :=
  ["**=", "//=", "<<=", ">>=", "...", "!=", "%=", "&=", "**", "*=", "+=", "-=", "->", "//", "/=", ":=",
    "<<", "<=", "==", ">=", ">>", "@=", "^=", "|=", "%", "&", "(", ")", "*", "+", ",", "-", ".", "/", ":",
    ";", "<", "=", ">", "@", "[", "]", "^", "\x7b", "|", "\x7d", "~"]

def operatorRun (s : List Char) : Nat :=
  match operators.find? fun w => Text.startsWith w.toList s with
  | some w => w.length
  | none => 0

def isNameChar (c : Char) : Bool :=
  isAlphanumeric c || c == '_'

/-- The marks that may stand in front of a quote. -/
def isStringMark (s : List Char) : Bool :=
  ["", "b", "r", "u", "f", "br", "rb", "fr", "rf"].contains (String.ofList (s.map Char.toLower))

/-- The length of the marks in front of a quote, and the quote. -/
def quoteAt? (s : List Char) : Option (Nat × Char) :=
  let marks := s.takeWhile Char.isAlpha
  match s.drop marks.length with
  | q :: _ =>
    if (q == '"' || q == '\x27') && marks.length ≤ 2 && isStringMark marks then some (marks.length, q)
    else none
  | [] => none

/-- How many characters are left up to and with the closing quote or quotes. A backslash takes the next
character with it, but not a line feed. -/
def closing? (quote : Char) (triple : Bool) : Nat → List Char → Option Nat
  | _, [] => none
  | taken, '\\' :: c :: r => if c == '\n' then none else closing? quote triple (taken + 2) r
  | _, ['\\'] => none
  | taken, c :: r =>
    if c == quote then
      if !triple then some (taken + 1)
      else
        match r with
        | d :: e :: _ => if d == quote && e == quote then some (taken + 3) else closing? quote triple (taken + 1) r
        | _ => none
    else closing? quote triple (taken + 1) r

/-- How a quoted text that starts on a line goes on. -/
inductive Quote where
  | closed (length : Nat)
  | continued
  | broken

/-- The rest of a quoted text on one line, behind its quote. -/
def quoteEnd (quote : Char) : Nat → List Char → Quote
  | _, [] => .broken
  | _, '\\' :: '\n' :: _ => .continued
  | _, '\\' :: '\r' :: '\n' :: _ => .continued
  | taken, '\\' :: _ :: r => quoteEnd quote (taken + 2) r
  | _, ['\\'] => .broken
  | taken, c :: r =>
    if c == '\n' then .broken
    else if c == quote then .closed (taken + 1)
    else quoteEnd quote (taken + 1) r

/-- What stands at the head of a line's rest. -/
inductive Lexeme where
  | finish
  | joint (length : Nat)
  | comment (length : Nat)
  | triple (marks : Nat) (quote : Char)
  | number (length : Nat)
  | lineEnd (length : Nat)
  | operator (length : Nat)
  | quoted (length : Nat)
  | openQuoted (quote : Char)
  | name (length : Nat)
  | stray

/-- The lexeme of a text that starts with a letter or a sign. -/
def plainLexeme (s : List Char) : Lexeme :=
  if numberRun s ≠ 0 then .number (numberRun s)
  else
    let op := operatorRun s
    if op ≠ 0 then .operator op
    else
      let name := (s.takeWhile isNameChar).length
      let other : Lexeme := if name = 0 then .stray else .name name
      match quoteAt? s with
      | some (marks, q) =>
        match quoteEnd q (marks + 1) (s.drop (marks + 1)) with
        | .closed n => .quoted n
        | .continued => .openQuoted q
        | .broken => other
      | none => other

def lexeme (s : List Char) : Lexeme :=
  match s with
  | [] => .finish
  | '\\' :: '\n' :: _ => .joint 2
  | '\\' :: '\r' :: '\n' :: _ => .joint 3
  | '\n' :: _ => .lineEnd 1
  | '\r' :: '\n' :: _ => .lineEnd 2
  | '#' :: r => .comment (1 + (r.takeWhile fun c => c != '\r' && c != '\n').length)
  | _ =>
    match quoteAt? s with
    | some (marks, q) =>
      match s.drop (marks + 1) with
      | a :: b :: _ => if a == q && b == q then .triple marks q else plainLexeme s
      | _ => plainLexeme s
    | none => plainLexeme s

end Patchwork.Script
