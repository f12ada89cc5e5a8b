import Patchwork.Script.Literal
import Patchwork.Text.Lines
import Patchwork.Text.Normal

/-!
The words of a script that compiles: what its parser reads.
-/

namespace Patchwork.Script

open Patchwork.Text

inductive WordKind where
  | name
  | keyword
  | sign
  | literal
  | newline
  | indent
  | dedent
  | finish
  deriving DecidableEq, Inhabited

/-- A word with its row; a literal has its value with it. -/
structure Word where
  kind : WordKind
  text : String
  literal : Expr
  row : Nat
  deriving Inhabited

def keywords : List String :=
  ["False", "None", "True", "and", "as", "assert", "async", "await", "break", "class", "continue", "def",
    "del", "elif", "else", "except", "finally", "for", "from", "global", "if", "import", "in", "is",
    "lambda", "nonlocal", "not", "or", "pass", "raise", "return", "try", "while", "with", "yield"]

def byteOf (c : Char) : UInt8 :=
  UInt8.ofNat c.toNat

/-- The word of a token; `some none` for tokens that a parser does not see. -/
def wordOf? (t : Token) : Option (Option Word) :=
  let text := String.ofList t.text
  let plain (kind : WordKind) : Option (Option Word) := some (some ⟨kind, text, .none, t.row⟩)
  match t.kind with
  | .comment | .gap => some none
  | .name =>
    if keywords.contains text then plain .keyword
    else if t.text.all isIdentPart then some (some ⟨.name, Normal.identifier text, .none, t.row⟩)
    else none
  | .number => (numberOf? t.text).map fun e => some ⟨.literal, text, e, t.row⟩
  | .text =>
    (textOf? t.text).map fun (s, bytes) =>
      some ⟨.literal, text, if bytes then .bytes (s.map byteOf) else .str (String.ofList s), t.row⟩
  | .operator =>
    match t.text with
    | c :: _ => if isAlphanumeric c then none else plain .sign
    | [] => none
  | .newline => plain .newline
  | .indent => plain .indent
  | .dedent => plain .dedent
  | .finish => plain .finish
  | .stray => none

/-- Characters that a name may be made of before it is looked at closely. -/
def isNameLike (c : Char) : Bool :=
  c.isAlphanum || c == '_' || 0x80 ≤ c.toNat

/-- The token of a name, or of what only looks like one. -/
def nameToken (text : List Char) (row column endColumn : Nat) : Token :=
  ⟨if (text.head?.map isIdentStart).getD false then .name else .stray, text, row, column, endColumn⟩

/-- Tokens in which marks and other characters beyond ASCII belong to the names that they touch. -/
def joinNames : List Token → List Token
  | [] => []
  | t :: r =>
    match joinNames r with
    | u :: q =>
      let touches := t.row = u.row && t.endColumn = u.column && t.text.all isNameLike && u.text.all isNameLike
      let begins := match t.kind, t.text with
        | .text, _ | .number, _ => false
        | _, c :: _ => !c.isDigit
        | _, [] => false
      let follows := match u.kind with
        | .name | .number | .stray | .operator => !u.text.isEmpty
        | _ => false
      if touches && begins && follows then
        nameToken (t.text ++ u.text) t.row t.column u.endColumn :: q
      else lone t :: u :: q
    | [] => [t]
where
  lone (t : Token) : Token :=
    if t.kind = .stray && t.text.all isNameLike then nameToken t.text t.row t.column t.endColumn else t

/-- How deeply blocks may be indented. -/
def indentLimit : Nat := 99

/-- How deeply brackets may be nested. -/
def bracketLimit : Int := 200

/-- The width of the blanks at the head of a line where a tab is as wide as a blank. -/
def narrowWidth (line : List Char) : Nat :=
  (line.takeWhile isLineBlank).foldl (fun n c => if c == '\x0c' then 0 else n + 1) 0

/-- Whether a line holds a joint only. -/
def isJointLine (line : List Char) : Bool :=
  line.dropWhile isLineBlank == ['\\', '\n']

/-- The width of a statement's indentation where a tab is as wide as a blank; that of the first indented joint
counts for the lines behind it. -/
def leadWidth (lines : Array (List Char)) : Nat → Nat
  | 0 => 0
  | row + 1 =>
    let line := lines[row]?.getD []
    let before := match row with
      | 0 => 0
      | above + 1 => if isJointLine (lines[above]?.getD []) then leadWidth lines (above + 1) else 0
    if before ≠ 0 then before
    else if isJointLine line then (indentOf 0 0 line).1
    else narrowWidth line

/-- Whether indentation means the same for tabs of all widths, and neither it nor the brackets go too deep;
`widths` are those of the open blocks with narrow tabs, and `fresh` says that a statement starts. -/
def isSteady (lines : Array (List Char)) (widths : List Nat) (depth : Int) (fresh : Bool) : List Token → Bool
  | [] => true
  | t :: r =>
    let width := leadWidth lines t.row
    match t.kind with
    | .indent =>
      widths.headD 0 < width && widths.length ≤ indentLimit && isSteady lines (width :: widths) depth true r
    | .dedent => isSteady lines (widths.drop 1) depth true r
    | .newline => isSteady lines widths depth true r
    | .comment | .gap => isSteady lines widths depth fresh r
    | .operator =>
      let inner := depth + depthOf t.text
      (!fresh || width == widths.headD 0) && inner ≤ bracketLimit && isSteady lines widths inner false r
    | .finish => true
    | _ => (!fresh || width == widths.headD 0) && isSteady lines widths depth false r

/-- The words of a text with any line ends, if it is made of words only. -/
def words? (text : List Char) : Option (List Word) :=
  let lines := feedLines (unixEnds text)
  match scan lines with
  | (tokens, .complete) =>
    if isSteady lines.toArray [0] 0 true tokens then ((joinNames tokens).mapM wordOf?).map fun ws => ws.filterMap id
    else none
  | _ => none

end Patchwork.Script
