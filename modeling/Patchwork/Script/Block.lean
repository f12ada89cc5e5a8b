import Patchwork.Script.Scan
import Patchwork.Text.Lines

/-!
The block of lines that holds a definition: from its decorators or its first line to the last line of its
body, or one logical line for an anonymous function.
-/

namespace Patchwork.Script

open Patchwork.Text

/-- What is known of a block while its tokens pass. -/
structure BlockFinder where
  depth : Int
  lambda : Bool
  started : Bool
  passing : Bool
  decorating : Bool
  last : Nat
  bodyColumn : Option Nat

namespace BlockFinder

def start : BlockFinder := ⟨0, false, false, false, false, 1, none⟩

/-- The effect of a token; `none` if the block has ended, with what is known then. -/
def feed (b : BlockFinder) (t : Token) : BlockFinder × Bool :=
  if !b.started && !b.decorating then
    let word := String.ofList t.text
    let opens := word == "def" || word == "class" || word == "lambda"
    ({ b with
        decorating := word == "@"
        lambda := b.lambda || word == "lambda"
        started := opens
        passing := true }, false)
  else if t.kind = .newline then
    let b := { b with passing := false, last := t.row }
    if b.lambda then (b, true) else ({ b with decorating := false }, false)
  else if b.passing then (b, false)
  else
    match t.kind with
    | .indent =>
      let column := if b.bodyColumn.isNone && b.started then some t.endColumn else b.bodyColumn
      ({ b with bodyColumn := column, depth := b.depth + 1, passing := true }, false)
    | .dedent => ({ b with depth := b.depth - 1 }, b.depth - 1 ≤ 0)
    | .comment =>
      match b.bodyColumn with
      | some column => (if column ≤ t.column then { b with last := t.row } else b, false)
      | none => (b, false)
    | .gap => (b, false)
    | _ => (b, b.depth = 0)

/-- Runs over tokens until the block ends; says whether it did. -/
def run (b : BlockFinder) : List Token → BlockFinder × Bool
  | [] => (b, false)
  | t :: rest =>
    match b.feed t with
    | (b, true) => (b, true)
    | (b, false) => b.run rest

end BlockFinder

/-- How many lines the definition at the head of some lines takes. If the lines break off inside a quote
or a bracket before its end, that outcome is returned instead. -/
def blockLength (lines : List (List Char)) : Except Outcome Nat :=
  let (tokens, outcome) := scan lines
  let (b, ended) := BlockFinder.start.run tokens
  if ended then .ok b.last
  else
    match outcome with
    | .complete | .unevenIndent => .ok b.last
    | broken => .error broken

/-- A word followed by white space; the rest behind it. -/
def wordAndBlank (w : String) (s : List Char) : Bool :=
  match after? w.toList s with
  | some (c :: _) => isBlank c
  | _ => false

/-- Whether the word for an anonymous function stands somewhere in a line, before a colon or a blank. -/
def holdsLambda (last : Char) : List Char → Bool
  | [] => false
  | c :: r =>
    (!isNameChar last &&
      match after? "lambda".toList (c :: r) with
      | some (d :: _) => d == ':' || isBlank d
      | _ => false) || (c != '\n' && holdsLambda c r)

/-- Lines on which a definition may start. -/
def opensBlock (line : List Char) : Bool :=
  let body := line.dropWhile isBlank
  wordAndBlank "def" body ||
    (match after? "async".toList body with
      | some (c :: r) => isBlank c && wordAndBlank "def" (r.dropWhile isBlank)
      | _ => false) ||
    (match body with
      | '@' :: _ => true
      | _ => false) ||
    holdsLambda ' ' line

/-- The last line at or before line `n`, counted from zero, on which a definition may start; line zero if
there is none. `none` if a line is missing. -/
def openingLine? (lines : List (List Char)) : Nat → Option Nat
  | 0 => some 0
  | n + 1 =>
    match lines[n + 1]? with
    | some line => if opensBlock line then some (n + 1) else openingLine? lines n
    | none => none

end Patchwork.Script
