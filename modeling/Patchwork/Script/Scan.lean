import Patchwork.Script.Lexeme

/-!
Scanning lines into tokens. Text that fits no class is kept as stray tokens, so that a scan also serves
texts that are not scripts; it ends early at inconsistent indentation or at an open quote or bracket.
-/

namespace Patchwork.Script

inductive TokenKind where
  | name
  | number
  | text
  | operator
  | comment
  | newline
  | gap
  | indent
  | dedent
  | stray
  | finish
  deriving DecidableEq

/-- A token from a row and column to another; rows count from one. -/
structure Token where
  kind : TokenKind
  text : List Char
  row : Nat
  column : Nat
  endColumn : Nat

/-- How a scan ends: at the end of the lines, at inconsistent indentation, or with a quote or a statement
still open; the place of the open quote, or the row behind the last line, is kept. -/
inductive Outcome where
  | complete
  | unevenIndent
  | openText (row column : Nat)
  | openStatement (row : Nat)
  deriving DecidableEq

/-- A quoted text that is still open: what was read of it, where it started, its quotes, and whether each of
its lines must end in a joint. -/
structure OpenText where
  text : List Char
  row : Nat
  column : Nat
  quote : Char
  triple : Bool
  joined : Bool

/-- What a scan carries from line to line; tokens are kept newest first. A quoted text that broke off makes
the next one `strict`: its lines must end in joints even between triple quotes. -/
structure Scanner where
  tokens : List Token
  indents : List Nat
  depth : Int
  continued : Bool
  strict : Bool
  pending : Option OpenText

namespace Scanner

def start : Scanner := ⟨[], [0], 0, false, false, none⟩

def push (s : Scanner) (kind : TokenKind) (text : List Char) (row column endColumn : Nat) : Scanner :=
  { s with tokens := ⟨kind, text, row, column, endColumn⟩ :: s.tokens }

end Scanner

/-- The column behind leading blanks and their number: a tab goes to the next multiple of eight, a form
feed back to the start. -/
def indentOf (column taken : Nat) : List Char → Nat × Nat
  | ' ' :: r => indentOf (column + 1) (taken + 1) r
  | '\t' :: r => indentOf ((column / 8 + 1) * 8) (taken + 1) r
  | '\x0c' :: r => indentOf 0 (taken + 1) r
  | _ => (column, taken)

def isLineBlank (c : Char) : Bool :=
  c == ' ' || c == '\x0c' || c == '\t'

/-- The change of bracket depth at an operator. -/
def depthOf (op : List Char) : Int :=
  match op with
  | [c] => if c == '(' || c == '[' || c == '\x7b' then 1 else if c == ')' || c == ']' || c == '\x7d' then -1 else 0
  | _ => 0

/-- The tokens of the rest of a line from column `pos` on; the fuel bounds their number. -/
def scanRest (row : Nat) : Nat → Nat → List Char → Scanner → Scanner
  | 0, _, _, st => st
  | fuel + 1, pos, s, st =>
    if s.isEmpty then st
    else
      let blanks := (s.takeWhile isLineBlank).length
      let at_ := pos + blanks
      let body := s.drop blanks
      let take (kind : TokenKind) (n : Nat) : Scanner :=
        scanRest row fuel (at_ + n) (body.drop n) (st.push kind (body.take n) row at_ (at_ + n))
      match lexeme body with
      | .finish => st
      | .joint n => scanRest row fuel (at_ + n) (body.drop n) { st with continued := true }
      | .comment n => take .comment n
      | .number n => take .number n
      | .name n =>
        match body with
        | c :: _ => take (if Text.isIdentStart c then .name else .operator) n
        | [] => st
      | .quoted n => take .text n
      | .lineEnd n => take (if 0 < st.depth then .gap else .newline) n
      | .operator n =>
        let st := { st with depth := st.depth + depthOf (body.take n) }
        scanRest row fuel (at_ + n) (body.drop n) (st.push .operator (body.take n) row at_ (at_ + n))
      | .triple marks q =>
        match closing? q true (marks + 3) (body.drop (marks + 3)) with
        | some n => take .text n
        | none => { st with pending := some ⟨body, row, at_, q, true, st.strict⟩ }
      | .openQuoted q => { st with pending := some ⟨body, row, at_, q, false, true⟩ }
      | .stray =>
        scanRest row fuel (pos + 1) (s.drop 1) (st.push .stray (s.take 1) row pos (pos + 1))

/-- Closes indented blocks down to a column. -/
def closeBlocks (row pos column : Nat) : List Nat → Scanner → Option Scanner
  | [], _ => none
  | top :: below, st =>
    if column < top then
      if (top :: below).contains column then
        closeBlocks row pos column below ({ st with indents := below }.push .dedent [] row pos pos)
      else none
    else some st

/-- What a line does to the scan. -/
inductive LineStep where
  | next (st : Scanner)
  | last (st : Scanner)
  | uneven (st : Scanner)

/-- A line that starts a statement. -/
def scanStatement (row : Nat) (line : List Char) (st : Scanner) : LineStep :=
  let (column, pos) := indentOf 0 0 line
  let body := line.drop pos
  match body with
  | [] => .last st
  | c :: _ =>
    if c == '#' || c == '\r' || c == '\n' then
      let comment := if c == '#' then
          (body.reverse.dropWhile fun d => d == '\r' || d == '\n').reverse
        else []
      let st := if comment.isEmpty then st else st.push .comment comment row pos (pos + comment.length)
      let pos := pos + comment.length
      .next (st.push .gap (line.drop pos) row pos line.length)
    else
      let top := st.indents.headD 0
      let st := if top < column then
          ({ st with indents := column :: st.indents }).push .indent (line.take pos) row 0 pos
        else st
      match closeBlocks row pos column st.indents st with
      | some st => .next (scanRest row (body.length + 1) pos body st)
      | none => .uneven st

/-- One line of the scan. -/
def scanLine (row : Nat) (line : List Char) (st : Scanner) : LineStep :=
  match st.pending with
  | some o =>
    match closing? o.quote o.triple 0 line with
    | some n =>
      let st := { st with pending := none, strict := false }.push .text (o.text ++ line.take n) o.row o.column n
      .next (scanRest row (line.length + 1) n (line.drop n) st)
    | none =>
      if o.joined && !Text.endsWith ['\\', '\n'] line && !Text.endsWith ['\\', '\r', '\n'] line then
        .next ({ st with pending := none, strict := true }.push .stray (o.text ++ line) o.row o.column line.length)
      else .next { st with pending := some { o with text := o.text ++ line } }
  | none =>
    if st.depth = 0 ∧ st.continued = false then scanStatement row line st
    else .next (scanRest row (line.length + 1) 0 line { st with continued := false })

/-- What closes a scan: a missing line end, the open blocks, and the end mark. -/
def scanEnd (row : Nat) (last : List Char) (st : Scanner) : Scanner :=
  let ended := match last.getLast? with
    | some c => c == '\n' || c == '\r'
    | none => true
  let remark := match Text.stripWhere Text.isBlank last with
    | '#' :: _ => true
    | _ => false
  let st := if ended || remark then st else st.push .newline [] (row - 1) last.length (last.length + 1)
  let st := st.indents.dropLast.foldl (fun st _ => st.push .dedent [] row 0 0) st
  st.push .finish [] row 0 0

/-- Scans lines that start with number `row`; `last` is the line before. -/
def scanFrom (row : Nat) (last : List Char) (st : Scanner) : List (List Char) → Scanner × Outcome
  | [] =>
    match st.pending with
    | some o => (st, .openText o.row o.column)
    | none =>
      if st.depth ≠ 0 ∨ st.continued = true then (st, .openStatement row)
      else (scanEnd row last st, .complete)
  | line :: rest =>
    match scanLine row line st with
    | .next st => scanFrom (row + 1) line st rest
    | .last st => (scanEnd row last st, .complete)
    | .uneven st => (st, .unevenIndent)

/-- The tokens of some lines in order, and how the scan ended. -/
def scan (lines : List (List Char)) : List Token × Outcome :=
  let (st, outcome) := scanFrom 1 [] .start lines
  (st.tokens.reverse, outcome)

end Patchwork.Script
