import Patchwork.Pattern.Basic
import Patchwork.Pattern.Search
import Patchwork.Pattern.Escape

/-!
Replacement templates, text in which a backslash starts an escape or refers to a group, and replacing what a pattern
matches.
-/

namespace Patchwork.Pattern

open Patchwork.Text Patchwork.Number

/-- What a template is made of. -/
inductive Piece where
  | code (n : Nat)
  | group (n : Nat)
  deriving DecidableEq

/-- Why a template cannot be read: a fault of its text, or a group name that the pattern lacks. -/
inductive TemplateFault where
  | fault (f : Fault)
  | unknownName
  deriving DecidableEq

namespace Template

/-- Reading with the number of characters of the whole template. -/
def faultAt {α : Type} (length : Nat) (rest : List Char) (cause : Cause) : Except TemplateFault α :=
  .error (.fault ⟨cause, some (length - rest.length)⟩)

/-- Hexadecimal digits onto `value`; `shown` is the escape as read so far. -/
def hexOnto (length : Nat) : Nat → Nat → List Char → List Char → Except TemplateFault (Nat × List Char)
  | 0, value, _, s => .ok (value, s)
  | n + 1, value, shown, s =>
    match s with
    | c :: r =>
      match Name.hexValue? c with
      | some d => hexOnto length n (value * 16 + d) (shown ++ [c]) r
      | none => faultAt length r (.shortEscape (String.ofList shown))
    | [] => faultAt length [] (.shortEscape (String.ofList shown))

/-- A character by its name in braces, which holds letters and spaces only. -/
def namedChar (length : Nat) (s : List Char) : Except TemplateFault (Char × List Char) :=
  let isNamed (c : Char) : Bool := c.isAlpha || c == ' '
  match s with
  | '\x7b' :: r =>
    match r.dropWhile isNamed with
    | '\x7d' :: rest =>
      match Name.lookup? (String.ofList (r.takeWhile isNamed)) with
      | some c => .ok (c, rest)
      | none => faultAt length rest .unknownCharacter
    | _ => faultAt length s (.badEscape 'N')
  | _ => faultAt length s (.badEscape 'N')

/-- A group in angle brackets. -/
def namedGroup (p : Program) (length : Nat) (s : List Char) : Except TemplateFault (Nat × List Char) :=
  match s with
  | '<' :: r =>
    let name := r.takeWhile fun c => c != ')' && c != '>'
    let r := r.dropWhile fun c => c != ')' && c != '>'
    if name.isEmpty then faultAt length r .missingName
    else if !isNumeral name && !isIdentifier name then faultAt length r .badName
    else
      match r with
      | '>' :: r =>
        match natOf? name with
        | some n => if n ≤ p.groups then .ok (n, r) else faultAt length r .badGroup
        | none =>
          match p.names.find? (·.1 == String.ofList name) with
          | some (_, n) => .ok (n, r)
          | none => .error .unknownName
      | r => faultAt length r (.missing ">")
  | s => faultAt length s (.missing "<")

/-- One to three octal digits onto `value`. -/
def octalOnto : Nat → Nat → List Char → Nat × List Char
  | 0, value, s => (value, s)
  | n + 1, value, s =>
    match s with
    | c :: r => if isOctal c then octalOnto n (value * 8 + octalValue c) r else (value, s)
    | [] => (value, [])

/-- What a digit behind a backslash stands for: three octal digits or a group of at most two digits. -/
def digitEscape (c : Char) (s : List Char) : Piece × List Char :=
  let one := c.toNat - 0x30
  match s with
  | d :: r =>
    if d.isDigit then
      let two := one * 10 + (d.toNat - 0x30)
      match r with
      | e :: q =>
        if isOctal c && isOctal d && isOctal e then
          (.code ((one * 8 + octalValue d) * 8 + octalValue e), q)
        else (.group two, r)
      | [] => (.group two, [])
    else (.group one, s)
  | [] => (.group one, [])

/-- What stands behind a backslash. -/
def escape (p : Program) (length : Nat) (s : List Char) : Except TemplateFault (List Piece × List Char) :=
  match s with
  | [] => faultAt length [] .openEscape
  | c :: r =>
    if c.isAlpha then
      match controlEscape? c, hexLength? c with
      | some d, _ => .ok ([.code d.toNat], r)
      | none, some n => do
        let (value, r) ← hexOnto length n 0 [c] r
        .ok ([.code value], r)
      | none, none =>
        if c == 'g' then do
          let (n, r) ← namedGroup p length r
          .ok ([.group n], r)
        else if c == 'N' then do
          let (c, r) ← namedChar length r
          .ok ([.code c.toNat], r)
        else faultAt length r (.badEscape c)
    else if c == '0' then
      let (value, r) := octalOnto 2 0 r
      .ok ([.code value], r)
    else if c.isDigit then
      let (piece, r) := digitEscape c r
      .ok ([piece], r)
    else if c == '\\' then .ok ([.code '\\'.toNat], r)
    else .ok ([.code '\\'.toNat, .code c.toNat], r)

/-- Whether all numbers in some pieces are those of characters. -/
def areCharacters (pieces : List Piece) : Bool :=
  pieces.all fun
    | .code n => n < 0x110000
    | .group _ => true

/-- The pieces of the rest of a template; the fuel bounds their number. What stands before a group has to be
characters by the time the group is read: `sound` says whether it is. -/
def piecesFrom (p : Program) (length : Nat) : Nat → Bool → List Char → Except TemplateFault (List Piece)
  | 0, _, _ => .ok []
  | fuel + 1, sound, s =>
    match s with
    | [] => if sound then .ok [] else .error (.fault ⟨.codePointRange, none⟩)
    | '\\' :: r => do
      let (pieces, r) ← escape p length r
      if !sound && pieces.any (· matches .group _) then .error (.fault ⟨.codePointRange, none⟩)
      .ok (pieces ++ (← piecesFrom p length fuel (sound && areCharacters pieces) r))
    | c :: r => do
      .ok (.code c.toNat :: (← piecesFrom p length fuel sound r))

/-- The pieces of a template for a pattern. -/
def pieces (p : Program) (template : List Char) : Except TemplateFault (List Piece) :=
  piecesFrom p template.length (template.length + 1) true template

end Template

/-- The text that a group holds, or nothing if it took no part. Group zero is the whole match. -/
def Match.group? (m : Match) (text : Array Char) (n : Nat) : Option (List Char) :=
  if n = 0 then some (Scene.between text m.start m.stop)
  else (m.groups.find? (·.1 == n)).map fun (_, s) => Scene.between text s.start s.stop

/-- The text with each match replaced; the matches are given from left to right. -/
def splice (text : List Char) (pos : Nat) : List (Match × List Char) → List Char
  | [] => text.drop pos
  | (m, new) :: rest => (text.drop pos).take (m.start - pos) ++ new ++ splice text m.stop rest

/-- One match filled into a template; `none` if the template names a group that does not exist. -/
def fill? (p : Program) (text : Array Char) (m : Match) : List Piece → Option (List Char)
  | [] => some []
  | .code c :: rest => (fill? p text m rest).map (Char.ofNat c :: ·)
  | .group n :: rest =>
    if n ≤ p.groups then (fill? p text m rest).map (((m.group? text n).getD []) ++ ·) else none

end Patchwork.Pattern
