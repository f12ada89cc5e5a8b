import Patchwork.Number.Integer
import Patchwork.Text.Class

/-!
Forms: texts with fields that are filled in later. In brace style a field stands between braces and may say how
its value is converted and shown, in dollar style it is a name behind a dollar.
-/

namespace Patchwork.Text

/-- A part of a form. -/
inductive FormPart where
  | text (c : Char)
  | field (name : String) (conversion : Option Char) (specification : List Char)
  /-- A mark that stands alone. -/
  | bare
  /-- What cannot be read, with the reason. -/
  | broken (reason : String)

/-! ## Dollar style -/

def isFieldStart (c : Char) : Bool :=
  c.isAlpha || c == '_'

def isFieldChar (c : Char) : Bool :=
  c.isAlphanum || c == '_'

/-- The parts of a form in dollar style; the fuel bounds their number. -/
def dollarParts : Nat → List Char → List FormPart
  | 0, _ => []
  | fuel + 1, s =>
    match s with
    | [] => []
    | '$' :: '$' :: r => .text '$' :: dollarParts fuel r
    | '$' :: '\x7b' :: r =>
      let name := r.takeWhile isFieldChar
      match name, r.dropWhile isFieldChar with
      | c :: _, '\x7d' :: q =>
        if isFieldStart c then .field (String.ofList name) none [] :: dollarParts fuel q
        else .bare :: dollarParts fuel ('\x7b' :: r)
      | _, _ => .bare :: dollarParts fuel ('\x7b' :: r)
    | '$' :: r =>
      let name := r.takeWhile isFieldChar
      match name with
      | c :: _ =>
        if isFieldStart c then .field (String.ofList name) none [] :: dollarParts fuel (r.dropWhile isFieldChar)
        else .bare :: dollarParts fuel r
      | [] => .bare :: dollarParts fuel r
    | c :: r => .text c :: dollarParts fuel r

/-! ## Brace style -/

/-- What stands between braces, with braces inside it, and the rest. -/
def untilBrace (depth : Nat) : List Char → Option (List Char × List Char)
  | [] => none
  | '\x7b' :: r => (untilBrace (depth + 1) r).map fun p => ('\x7b' :: p.1, p.2)
  | '\x7d' :: r =>
    match depth with
    | 0 => some ([], r)
    | d + 1 => (untilBrace d r).map fun p => ('\x7d' :: p.1, p.2)
  | c :: r => (untilBrace depth r).map fun p => (c :: p.1, p.2)

/-- The name of a field, up to what ends it; what stands in brackets belongs to it. -/
def fieldName (bracketed : Bool) : List Char → Except String (List Char × List Char)
  | [] => .error "expected '\x7d' before end of string"
  | c :: r =>
    if bracketed then do
      let (name, rest) ← fieldName (c != ']') r
      .ok (c :: name, rest)
    else if c == '\x7b' then .error "unexpected '\x7b' in field name"
    else if c == '\x7d' || c == ':' || c == '!' then .ok ([], c :: r)
    else do
      let (name, rest) ← fieldName (c == '[') r
      .ok (c :: name, rest)

/-- A field with its conversion and its specification, and the rest behind its brace. -/
def braceField (s : List Char) : Except String (FormPart × List Char) := do
  let (name, r) ← fieldName false s
  let name := String.ofList name
  let specified (conversion : Option Char) (r : List Char) : Except String (FormPart × List Char) :=
    match untilBrace 0 r with
    | some (spec, r) => .ok (.field name conversion spec, r)
    | none => .error "unmatched '\x7b' in format spec"
  match r with
  | '!' :: [] => .error "end of string while looking for conversion specifier"
  | '!' :: c :: [] => specified (some c) []
  | '!' :: c :: '\x7d' :: r => .ok (.field name (some c) [], r)
  | '!' :: c :: ':' :: r => specified (some c) r
  | '!' :: _ => .error "expected ':' after conversion specifier"
  | ':' :: r => specified none r
  | r => .ok (.field name none [], r.drop 1)

/-- The parts of a form in brace style, up to the first fault; the fuel bounds their number. -/
def braceParts : Nat → List Char → List FormPart
  | 0, _ => []
  | fuel + 1, s =>
    match s with
    | [] => []
    | '\x7b' :: '\x7b' :: r => .text '\x7b' :: braceParts fuel r
    | '\x7d' :: '\x7d' :: r => .text '\x7d' :: braceParts fuel r
    | ['\x7b'] => [.broken "Single '\x7b' encountered in format string"]
    | '\x7d' :: _ => [.broken "Single '\x7d' encountered in format string"]
    | '\x7b' :: r =>
      match braceField r with
      | .ok (part, r) => part :: braceParts fuel r
      | .error text => [.broken text]
    | c :: r => .text c :: braceParts fuel r

/-! ## Names of fields -/

/-- What a name of a field asks of its value. -/
inductive FieldStep where
  | member (name : String)
  | item (key : String)
  | place (n : Nat)
  /-- What cannot be read, with the reason. -/
  | broken (reason : String)
  deriving DecidableEq

/-- The word that a name of a field begins with, and the rest. -/
def firstWord (name : List Char) : List Char × List Char :=
  name.span fun c => c != '.' && c != '['

/-- The number that a word of digits stands for. -/
def wordPlace? (word : List Char) : Option Nat :=
  if word.all isDecimal then Number.natOf? word else none

/-- Whether no sequence can have a place. -/
def isFarPlace (n : Nat) : Bool :=
  Nat.pow 2 63 ≤ n

def farPlaceText : String :=
  "Too many decimal digits in format string"

/-- The steps behind the first word of a name, up to the first fault; the fuel bounds their number. -/
def fieldSteps : Nat → List Char → List FieldStep
  | 0, _ | _, [] => []
  | fuel + 1, '.' :: r =>
    match firstWord r with
    | ([], _) => [.broken "Empty attribute in format string"]
    | (name, r) => .member (String.ofList name) :: fieldSteps fuel r
  | fuel + 1, '[' :: r =>
    match r.span (· != ']') with
    | (_, []) => [.broken "Missing ']' in format string"]
    | ([], _) => [.broken "Empty attribute in format string"]
    | (key, _ :: r) =>
      match wordPlace? key with
      | some n => if isFarPlace n then [.broken farPlaceText] else .place n :: fieldSteps fuel r
      | none => .item (String.ofList key) :: fieldSteps fuel r
  | _, _ => [.broken "Only '.' or '[' may follow ']' in format field specifier"]

end Patchwork.Text
