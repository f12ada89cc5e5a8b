import Patchwork.Pattern.Syntax
import Patchwork.Text.WordBreak

/-!
Which places of a text a pattern's assertions hold at.
-/

namespace Patchwork.Pattern

open Patchwork.Text

/-- The text under search, the place the search began at, and what the search is bound to. -/
structure Scene where
  text : Array Char
  anchor : Nat
  rule : RoundRule
  referred : List Nat
  most : Option Nat

namespace Scene

/-- The character next to a place in the direction of reading, and the place behind it. -/
def step? (scene : Scene) (backward : Bool) (pos : Nat) : Option (Char × Nat) :=
  if backward then
    match pos with
    | 0 => none
    | p + 1 => scene.text[p]?.map fun c => (c, p)
  else scene.text[pos]?.map fun c => (c, pos + 1)

def before? (scene : Scene) (pos : Nat) : Option Char :=
  match pos with
  | 0 => none
  | p + 1 => scene.text[p]?

def wordBefore (scene : Scene) (letters : Alphabet) (pos : Nat) : Bool :=
  ((scene.before? pos).map (Category.word.holds letters)).getD false

def wordAfter (scene : Scene) (letters : Alphabet) (pos : Nat) : Bool :=
  (scene.text[pos]?.map (Category.word.holds letters)).getD false

/-- The text between two places. -/
def between (text : Array Char) (start stop : Nat) : List Char :=
  (text.extract start stop).toList

def partsWords (scene : Scene) (pos : Nat) : Bool :=
  WordBreak.isBreak (between scene.text 0 pos).reverse (between scene.text pos scene.text.size)

/-- The next place at which a written character ends. -/
def clusterEnd (scene : Scene) : Nat → Nat → Nat
  | 0, pos => pos
  | left + 1, pos =>
    match scene.text[pos]? with
    | none => pos
    | some c =>
      if Grapheme.isBreak (between scene.text 0 pos).reverse c then pos else clusterEnd scene left (pos + 1)

/-- The last place before `pos` at which a written character begins. -/
def clusterStart (scene : Scene) : Nat → Nat
  | 0 => 0
  | pos + 1 =>
    match scene.text[pos]? with
    | none => pos
    | some c =>
      if Grapheme.isBreak (between scene.text 0 pos).reverse c then pos else clusterStart scene pos

/-- One written character next to a place. -/
def clusterStep? (scene : Scene) (backward : Bool) (pos : Nat) : Option Nat :=
  if backward then if pos = 0 then none else some (scene.clusterStart pos)
  else if pos < scene.text.size then some (scene.clusterEnd (scene.text.size - pos) (pos + 1)) else none

end Scene

def LineRule.ends (rule : LineRule) (c : Char) : Bool :=
  match rule with
  | feed => c == '\n'
  | separator => WordBreak.isNewline c

/-- Whether a line begins at a place; a carriage return and its line feed are not parted. -/
def LineRule.startsAt (rule : LineRule) (scene : Scene) (pos : Nat) : Bool :=
  match scene.before? pos with
  | none => true
  | some c =>
    match rule with
    | feed => c == '\n'
    | separator => if c == '\r' then scene.text[pos]? != some '\n' else WordBreak.isNewline c

def LineRule.endsAt (rule : LineRule) (scene : Scene) (pos : Nat) : Bool :=
  match scene.text[pos]? with
  | none => true
  | some c =>
    match rule with
    | feed => c == '\n'
    | separator => if c == '\n' then scene.before? pos != some '\r' else WordBreak.isNewline c

/-- Whether nothing but one line ending stands behind a place. -/
def LineRule.endsTextAt (rule : LineRule) (scene : Scene) (pos : Nat) : Bool :=
  match Scene.between scene.text pos scene.text.size with
  | [] => true
  | [c] => rule.ends c && rule.endsAt scene pos
  | [c, d] => rule == separator && c == '\r' && d == '\n'
  | _ => false

def Place.holds (scene : Scene) (pos : Nat) : Place → Bool
  | textStart => pos == 0
  | textEnd => pos == scene.text.size
  | lineStart rule => rule.startsAt scene pos
  | lineEnd rule => rule.endsAt scene pos
  | finalEnd rule => rule.endsTextAt scene pos
  | someText => scene.text.size != 0
  | searchStart => pos == scene.anchor
  | boundary letters => scene.wordBefore letters pos != scene.wordAfter letters pos
  | inner letters => scene.wordBefore letters pos == scene.wordAfter letters pos
  | wordStart letters => !scene.wordBefore letters pos && scene.wordAfter letters pos
  | wordEnd letters => scene.wordBefore letters pos && !scene.wordAfter letters pos
  | wordBreak => scene.partsWords pos
  | noWordBreak => !scene.partsWords pos
  | breakBefore => scene.partsWords pos && scene.wordAfter .newest pos
  | breakBehind => scene.partsWords pos && scene.wordBefore .newest pos

end Patchwork.Pattern
