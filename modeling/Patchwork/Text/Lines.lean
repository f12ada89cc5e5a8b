/-!
Splitting text into lines that keep their ends, and removal of the indentation that all lines share.
-/

namespace Patchwork.Text

/-- Characters that end a line under the wide reading. -/
def isLineBreak (c : Char) : Bool :=
  let n := c.toNat
  (0xa ≤ n && n ≤ 0xd) || (0x1c ≤ n && n ≤ 0x1e) || n == 0x85 || n == 0x2028 || n == 0x2029

/-- Lines that `isEnd` characters close; `line` is the open line, reversed. -/
def linesFrom (isEnd : Char → Bool) (line : List Char) : List Char → List (List Char)
  | [] => if line.isEmpty then [] else [line.reverse]
  | c :: r =>
    if isEnd c then (c :: line).reverse :: linesFrom isEnd [] r else linesFrom isEnd (c :: line) r

/-- Lines that end with a line feed only. -/
def feedLines (s : List Char) : List (List Char) :=
  linesFrom (· == '\n') [] s

/-- As `linesFrom`, but a carriage return and line feed end a line together. -/
def wideLinesFrom (line : List Char) : List Char → List (List Char)
  | [] => if line.isEmpty then [] else [line.reverse]
  | '\r' :: '\n' :: r => ('\n' :: '\r' :: line).reverse :: wideLinesFrom [] r
  | c :: r =>
    if isLineBreak c then (c :: line).reverse :: wideLinesFrom [] r else wideLinesFrom (c :: line) r

/-- Lines under the wide reading: all Unicode line boundaries, and CR LF as one. -/
def wideLines (s : List Char) : List (List Char) :=
  wideLinesFrom [] s

/-- Turns CR LF and lone CR into LF. -/
def unixEnds : List Char → List Char
  | [] => []
  | '\r' :: '\n' :: r => '\n' :: unixEnds r
  | '\r' :: r => '\n' :: unixEnds r
  | c :: r => c :: unixEnds r

/-! ## Indentation -/

def isIndent (c : Char) : Bool :=
  c == ' ' || c == '\t'

/-- The longest common lead of two texts. -/
def commonLead : List Char → List Char → List Char
  | a :: x, b :: y => if a = b then a :: commonLead x y else []
  | _, _ => []

/-- A line of blanks and tabs only becomes empty and keeps its end. -/
def clearBlank (line : List Char) : List Char :=
  match line.dropWhile isIndent with
  | [] => []
  | '\n' :: _ => ['\n']
  | _ => line

/-- The indentation of a line that holds text. -/
def lead? (line : List Char) : Option (List Char) :=
  match line.dropWhile isIndent with
  | [] => none
  | '\n' :: _ => none
  | _ => some (line.takeWhile isIndent)

/-- The indentation shared by all lines that hold text. -/
def margin (lines : List (List Char)) : List Char :=
  match lines.filterMap lead? with
  | [] => []
  | m :: ms => ms.foldl commonLead m

/-- Removes the shared margin and empties blank lines. -/
def dedent (s : List Char) : List Char :=
  let lines := (feedLines s).map clearBlank
  let width := (margin lines).length
  lines.flatMap fun line => if (lead? line).isSome then line.drop width else line

end Patchwork.Text
