import Patchwork.Pattern.Reader
import Patchwork.Pattern.Property
import Patchwork.Text.Name

/-!
What stands behind a backslash in the extended dialect, outside sets and in them.
-/

namespace Patchwork.Pattern

open Patchwork.Text Patchwork.Number Reader

def isOctal (c : Char) : Bool :=
  '0' ≤ c && c ≤ '7'

def octalValue (c : Char) : Nat :=
  c.toNat - 0x30

/-- How many digits a hexadecimal escape takes. -/
def hexLength? (c : Char) : Option Nat :=
  match c with
  | 'x' => some 2
  | 'u' => some 4
  | 'U' => some 8
  | _ => none

/-- The digits of a hexadecimal escape onto `value`; `text` is the escape read so far, `start` the place of its
digits. -/
def hexEscape (start : Nat) : Nat → Nat → List Char → Reader Char
  | 0, value, text =>
    if value < 0x110000 then pure (Char.ofNat value)
    else failAt (.badCodePoint (String.ofList text)) start
  | n + 1, value, text => do
    match (← next false).bind fun c => (Name.hexValue? c).map fun d => (c, d) with
    | some (c, d) => hexEscape start n (value * 16 + d) (text ++ [c])
    | none => failAt (.shortEscape (String.ofList text)) start

/-- Up to `n` more octal digits onto `value`. -/
def octalOnto : Nat → Nat → Reader Nat
  | 0, value => pure value
  | n + 1, value => do
    let saved ← rest
    match ← next false with
    | some c => if isOctal c then octalOnto n (value * 8 + octalValue c) else setRest saved; pure value
    | none => setRest saved; pure value

/-- Letters that stand for a control character. -/
def controlEscape? (c : Char) : Option Char :=
  match c with
  | 'a' => some '\x07'
  | 'b' => some '\x08'
  | 'f' => some '\x0c'
  | 'n' => some '\n'
  | 'r' => some '\r'
  | 't' => some '\t'
  | 'v' => some '\x0b'
  | _ => none

/-- Letters that stand for a class of characters or for its complement. -/
def classEscape? (letters : Alphabet) (c : Char) : Option CharSet :=
  match c with
  | 'd' => some (.category .digit letters)
  | 'D' => some (.complement (.category .digit letters))
  | 'h' => some (.category .blank letters)
  | 's' => some (.category .space letters)
  | 'S' => some (.complement (.category .space letters))
  | 'w' => some (.category .word letters)
  | 'W' => some (.complement (.category .word letters))
  | _ => none

/-- Letters that stand for a place; `running` asks for the breaks between words of running text. -/
def placeEscape? (letters : Alphabet) (running : Bool) (c : Char) : Option Node :=
  match c with
  | 'A' => some (.place .textStart)
  | 'b' => some (.place (if running then .wordBreak else .boundary letters))
  | 'B' => some (.place (if running then .noWordBreak else .inner letters))
  | 'K' => some .keep
  | 'm' => some (.place (if running then .breakBefore else .wordStart letters))
  | 'M' => some (.place (if running then .breakBehind else .wordEnd letters))
  | 'Z' => some (.place .textEnd)
  | 'z' => some (.place .textEnd)
  | _ => none

/-- The line endings: carriage return and line feed together, or one line break. -/
def lineEnding : Node :=
  .atomic (.alt (.seq (.char '\r' .exact) (.char '\n' .exact))
    (.set (.unionOf (.range '\n' '\r') [.single '\x85', .single '\u2028', .single '\u2029']) .exact))

def literalChar (c : Char) : Reader Node := do
  pure (.char c (← casing))

/-- A reference to the text of a group. The group may still be unknown. -/
def reference (name : String) (start : Nat) : Reader Node := do
  refer .same name start
  pure (.same ((← numberOf? name).getD 0) (← casing))

/-- A reference in angle brackets. -/
def bracketedReference : Reader Node := do
  expect "<"
  let start ← place
  let name ← groupName (some 1)
  expect ">"
  if ← isOpen name then fail .openGroup
  reference name start

/-- A reference by its digits. -/
def numberedReference (digits : List Char) : Reader Node := do
  let name := String.ofList digits
  if ← isOpen name then fail .openGroup
  reference name (← place)

/-- An escape that starts with a digit: an octal character, or a group reference of at most two digits. -/
def numericEscape (c : Char) : Reader Node := do
  if c == '0' then literalChar (Char.ofNat (← octalOnto 2 0))
  else
    let one ← rest
    match ← next false with
    | some d =>
      if d.isDigit then
        let two ← rest
        match ← next false with
        | some e =>
          if isOctal c && isOctal d && isOctal e then
            let value := (octalValue c * 8 + octalValue d) * 8 + octalValue e
            literalChar (Char.ofNat (if ← has .ascii then value % 0x100 else value))
          else setRest two; numberedReference [c, d]
        | none => setRest two; numberedReference [c, d]
      else setRest one; numberedReference [c]
    | none => setRest one; numberedReference [c]

/-- Reads the character behind a backslash, where white space always counts. -/
def escaped : Reader Char := do
  match ← next true with
  | some c => pure c
  | none => fail .openEscape

def isNameChar (c : Char) : Bool :=
  c.isAlphanum || c == ' ' || c == '-'

/-- A character by its name in braces; anything else is no such escape. -/
def namedChar : Reader Char := do
  let saved ← rest
  if ← accept "\x7b" then
    let s ← get
    let (name, r) := runOf false isNameChar s.rest.length s.rest
    setRest r
    if ← accept "\x7d" then
      match Name.lookup? (String.ofList name) with
      | some c => pure c
      | none => fail .unknownCharacter
    else setRest saved; pure 'N'
  else pure 'N'

def isPropertyChar (c : Char) : Bool :=
  c.isAlphanum || [' ', '&', '_', '-', '.'].contains c

/-- The name of a property, perhaps with a value behind a colon or an equals sign. -/
def propertyName : Reader (Option (List Char) × List Char) := do
  let name ← takeRun isPropertyChar
  let saved ← rest
  match ← next false with
  | some c =>
    if c == ':' || c == '=' then
      let value := stripWhere isBlank (← takeRun fun c => isPropertyChar c || c == '/')
      if value.isEmpty then setRest saved; pure (none, name) else pure (some name, value)
    else setRest saved; pure (none, name)
  | none => setRest saved; pure (none, name)

/-- A property that has been named, within ASCII if the flags say so. -/
def propertyNamed (property : Option (List Char)) (value : List Char) (bracketed negated : Bool) :
    Reader CharSet := do
  match Property.lookup property value bracketed with
  | .error cause => fail cause
  | .ok s =>
    let s := if ← has .ascii then .inter (.range '\x00' '\x7f') s else s
    pure (if negated then .complement s else s)

/-- A property in braces or by one letter, behind `p` or `P`; `none` if it is neither. -/
def property (negated : Bool) : Reader (Option CharSet) := do
  let saved ← rest
  match ← next false with
  | some '\x7b' =>
    let inverted ← accept "^"
    let (name, value) ← propertyName
    if ← accept "\x7d" then some <$> propertyNamed name value false (negated != inverted)
    else setRest saved; pure none
  | some c =>
    if "CLMNPSZ".toList.contains c then some <$> propertyNamed none [c] false negated
    else setRest saved; pure none
  | none => setRest saved; pure none

/-- An escape outside a set. -/
def escape : Reader Node := do
  let c ← escaped
  if let some n := hexLength? c then literalChar (← hexEscape (← place) n 0 [c])
  else if c == 'g' then
    match ← attempt bracketedReference with
    | some n => pure n
    | none => literalChar c
  else if c == 'G' then pure (.place .searchStart)
  else if c == 'L' then
    expect "<"
    let _ ← groupName (some 1)
    expect ">"
    fail .unknownList
  else if c == 'N' then literalChar (← namedChar)
  else if c == 'p' || c == 'P' then
    match ← property (c == 'P') with
    | some s => pure (.set (if ← has .ignoreCase then Property.caseless s else s) .exact)
    | none => literalChar c
  else if c == 'R' then pure lineEnding
  else if c == 'X' then pure .cluster
  else if c.isAlpha then
    let letters ← alphabet
    match placeEscape? letters (← has .word) c with
    | some n => pure n
    | none =>
      match classEscape? letters c with
      | some s => pure (.set s .exact)
      | none =>
        match controlEscape? c with
        | some d => pure (.char d .exact)
        | none => fail (.badEscape c)
  else if c.isDigit then numericEscape c
  else literalChar c

/-- An escape inside a set. -/
def setEscape : Reader CharSet := do
  let c ← escaped
  if let some n := hexLength? c then pure (.single (← hexEscape (← place) n 0 [c]))
  else if c == 'N' then pure (.single (← namedChar))
  else if c == 'p' || c == 'P' then
    match ← property (c == 'P') with
    | some s => pure s
    | none => pure (.single c)
  else if c.isAlpha then
    match classEscape? (← alphabet) c with
    | some s => pure s
    | none =>
      match controlEscape? c with
      | some d => pure (.single d)
      | none => fail (.badEscape c)
  else if c.isDigit then
    if isOctal c then pure (.single (Char.ofNat (← octalOnto 2 (octalValue c))))
    else fail (.badEscape c)
  else pure (.single c)

end Patchwork.Pattern
