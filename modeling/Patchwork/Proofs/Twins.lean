import Patchwork.Proofs.Labels
import Patchwork.Proofs.Lexemes

/-!
Scans in other rows. A line does to a scan what it does to another one that has read the same tokens in other places, as long
as its own row and the other one are as wide where a statement starts.
-/

namespace Patchwork

open Text

namespace Script

/-! ## Pieces of a line -/

/-- What stands at the head of a line's rest, behind some blanks: a token, an operator, which counts for the depth, a
joint, or a quote that is still open. -/
inductive Piece where
  | none
  | token (kind : TokenKind) (skip length : Nat)
  | sign (skip length : Nat)
  | joint (skip length : Nat)
  | opens (skip : Nat) (quote : Char) (triple : Bool)

/-- The piece for a lexeme; `inner` says that a bracket is open. -/
def Lexeme.piece (inner : Bool) (skip : Nat) (body : List Char) : Lexeme → Piece
  | .finish => .none
  | .joint n => .joint skip n
  | .comment n => .token .comment skip n
  | .number n => .token .number skip n
  | .name n => .token (if body.head?.any isIdentStart then .name else .operator) skip n
  | .quoted n => .token .text skip n
  | .lineEnd n => .token (if inner then .gap else .newline) skip n
  | .operator n => .sign skip n
  | .triple marks q =>
    match closing? q true (marks + 3) (body.drop (marks + 3)) with
    | some n => .token .text skip n
    | Option.none => .opens skip q true
  | .openQuoted q => .opens skip q false
  | .stray => .token .stray 0 1

/-- The number of blanks at the head of a text. -/
def blanks (s : List Char) : Nat :=
  (s.takeWhile isLineBlank).length

def pieceAt (inner : Bool) (s : List Char) : Piece :=
  if s.isEmpty then .none else (lexeme (s.drop (blanks s))).piece inner (blanks s) (s.drop (blanks s))

namespace Scanner

/-- Takes a token off a text. -/
def took (st : Scanner) (kind : TokenKind) (skip length row pos : Nat) (s : List Char) : Scanner :=
  st.push kind ((s.drop skip).take length) row (pos + skip) (pos + skip + length)

/-- Leaves a quote open. -/
def left (st : Scanner) (skip row pos : Nat) (quote : Char) (triple : Bool) (s : List Char) : Scanner :=
  { st with pending := some ⟨s.drop skip, row, pos + skip, quote, triple, !triple || st.strict⟩ }

end Scanner

/-- Goes on behind a piece. -/
def scanPiece (row fuel pos : Nat) (s : List Char) (st : Scanner) : Piece → Scanner
  | .none => st
  | .token kind skip n => scanRest row fuel (pos + skip + n) (s.drop (skip + n)) (st.took kind skip n row pos s)
  | .sign skip n =>
    scanRest row fuel (pos + skip + n) (s.drop (skip + n))
      ({ st with depth := st.depth + depthOf ((s.drop skip).take n) }.took .operator skip n row pos s)
  | .joint skip n => scanRest row fuel (pos + skip + n) (s.drop (skip + n)) { st with continued := true }
  | .opens skip q triple => st.left skip row pos q triple s

variable {row pos fuel : Nat} {s b x g : List Char} {st st' : Scanner}

theorem scanRest_piece (row fuel pos : Nat) (s : List Char) (st : Scanner) :
    scanRest row (fuel + 1) pos s st = scanPiece row fuel pos s st (pieceAt (0 < st.depth) s) := by
  rw [scanRest, pieceAt]
  split
  · rfl
  next filled =>
  rw [← blanks]
  dsimp only
  cases found : lexeme (s.drop (blanks s)) with
  | finish => rfl
  | joint n => simp only [Lexeme.piece, scanPiece, List.drop_drop]
  | comment n => simp only [Lexeme.piece, scanPiece, List.drop_drop, Scanner.took]
  | number n => simp only [Lexeme.piece, scanPiece, List.drop_drop, Scanner.took]
  | name n =>
      cases rest : s.drop (blanks s) with
      | nil =>
          rw [rest] at found
          cases found
      | cons c t =>
          simp only [Lexeme.piece, scanPiece, ← List.drop_drop, Scanner.took, rest, List.head?_cons, Option.any_some]
          rfl
  | quoted n => simp only [Lexeme.piece, scanPiece, List.drop_drop, Scanner.took]
  | lineEnd n => simp only [Lexeme.piece, scanPiece, List.drop_drop, Scanner.took, decide_eq_true_eq]
  | operator n => simp only [Lexeme.piece, scanPiece, List.drop_drop, Scanner.took]
  | triple m q =>
      simp only [Lexeme.piece]
      cases closing? q true (m + 3) ((s.drop (blanks s)).drop (m + 3)) with
      | none => rfl
      | some n => simp only [scanPiece, List.drop_drop, Scanner.took]
  | openQuoted q => rfl
  | stray => rfl

def Piece.Moves : Piece → Prop
  | .token _ _ n | .sign _ n | .joint _ n => 0 < n
  | _ => True

theorem pieceAt_moves (inner : Bool) (s : List Char) : (pieceAt inner s).Moves := by
  rw [pieceAt]
  split
  · trivial
  have moves := lexeme_moves (s.drop (blanks s))
  generalize lexeme (s.drop (blanks s)) = x at moves
  cases x with
  | triple m q =>
      rw [Lexeme.piece]
      split
      · next n closed => exact Nat.lt_of_le_of_lt (Nat.zero_le _) (closing?_lt closed)
      · trivial
  | stray => exact Nat.one_pos
  | _ => exact moves

/-- How many tokens a line may have is no matter as long as they are enough. -/
theorem scanRest_fuel {fuel fuel' : Nat} (h : s.length < fuel) (h' : s.length < fuel') (row pos : Nat) (st : Scanner) :
    scanRest row fuel pos s st = scanRest row fuel' pos s st := by
  induction fuel generalizing fuel' pos s st with
  | zero => cases h
  | succ fuel ih =>
      obtain ⟨fuel', rfl⟩ := Nat.exists_eq_add_one_of_ne_zero (Nat.ne_zero_of_lt h')
      rw [scanRest_piece, scanRest_piece]
      have further {skip n : Nat} (moves : 0 < n) (filled : s ≠ []) (pos : Nat) (st : Scanner) :
          scanRest row fuel pos (s.drop (skip + n)) st = scanRest row fuel' pos (s.drop (skip + n)) st := by
        have some_ := List.length_pos_iff.mpr filled
        exact ih (by rw [List.length_drop]; omega) (by rw [List.length_drop]; omega) pos st
      have moves := pieceAt_moves (0 < st.depth) s
      by_cases filled : s = []
      · rw [filled]
        rfl
      generalize pieceAt (0 < st.depth) s = p at moves
      cases p with
      | none => rfl
      | token kind skip n => exact further moves filled _ _
      | sign skip n => exact further moves filled _ _
      | joint skip n => exact further moves filled _ _
      | opens skip q triple => rfl

/-! ## Scans that differ in rows and columns -/

/-- Whether a statement starts behind some kinds of tokens, the newest first. -/
def freshAfter : List TokenKind → Bool
  | [] => true
  | .indent :: _ | .dedent :: _ | .newline :: _ => true
  | .comment :: ks | .gap :: ks => freshAfter ks
  | _ => false

/-- Whether the indentation of a token's row counts. -/
def isLed (kind : TokenKind) (fresh : Bool) : Bool :=
  match kind with
  | .indent => true
  | .dedent | .newline | .comment | .gap | .finish => false
  | _ => fresh

/-- What a token is: its kind, its text, and the width of its row's indentation where that counts. -/
abbrev Mark := TokenKind × List Char × Option Nat

def freshBehind (ts : List Token) : Bool :=
  freshAfter (ts.map (·.kind))

def marks (width : Nat → Nat) : List Token → List Mark
  | [] => []
  | t :: ts => (t.kind, t.text, if isLed t.kind (freshBehind ts) then some (width t.row) else none) :: marks width ts

variable {w w' : Nat → Nat} {ts ts' : List Token} {row' : Nat}

theorem isLed_fresh {kind : TokenKind} (plain : kind ≠ .indent) {fresh : Bool} (h : isLed kind fresh = true) :
    fresh = true := by
  cases kind <;> first | exact h | exact absurd rfl plain | cases h

theorem marks_kinds (w : Nat → Nat) (ts : List Token) : (marks w ts).map (·.1) = ts.map (·.kind) := by
  induction ts with
  | nil => rfl
  | cons t ts ih => rw [marks, List.map_cons, List.map_cons, ih]

theorem marks_fresh (h : marks w ts = marks w' ts') : freshBehind ts = freshBehind ts' := by
  rw [freshBehind, freshBehind, ← marks_kinds w, h, marks_kinds]

/-- Scans that have read the same, though on other rows. -/
structure Twin (w w' : Nat → Nat) (st st' : Scanner) : Prop where
  tokens : marks w st.tokens = marks w' st'.tokens
  indents : st.indents = st'.indents
  depth : st.depth = st'.depth
  continued : st.continued = st'.continued
  strict : st.strict = st'.strict
  pending : st.pending.map (fun o => (o.text, o.quote, o.triple, o.joined)) =
    st'.pending.map fun o => (o.text, o.quote, o.triple, o.joined)
  led : freshBehind st.tokens = true → st.pending.map (w ·.row) = st'.pending.map (w' ·.row)

namespace Twin

theorem refl (w : Nat → Nat) (st : Scanner) : Twin w w st st :=
  ⟨rfl, rfl, rfl, rfl, rfl, rfl, fun _ => rfl⟩

theorem start (w w' : Nat → Nat) : Twin w w' .start .start :=
  ⟨rfl, rfl, rfl, rfl, rfl, rfl, fun _ => rfl⟩

theorem closed (h : Twin w w' st st') (shut : st.pending = none) : st'.pending = none := by
  have same := h.pending
  rw [shut] at same
  exact Option.map_eq_none_iff.mp same.symm

theorem fresh (h : Twin w w' st st') : freshBehind st.tokens = freshBehind st'.tokens :=
  marks_fresh h.tokens

theorem push (h : Twin w w' st st') (shut : st.pending = none) (kind : TokenKind) (text : List Char)
    {row row' : Nat} (level : isLed kind (freshBehind st.tokens) = true → w row = w' row') (a b a' b' : Nat) :
    Twin w w' (st.push kind text row a b) (st'.push kind text row' a' b') where
  tokens := by
    rw [Scanner.push, Scanner.push, marks, marks, ← h.fresh, h.tokens]
    dsimp only
    cases led : isLed kind (freshBehind st.tokens) with
    | true => rw [level led]
    | false => rfl
  indents := h.indents
  depth := h.depth
  continued := h.continued
  strict := h.strict
  pending := h.pending
  led _ := by rw [Scanner.push, Scanner.push, shut, h.closed shut, Option.map_none, Option.map_none]

/-- Some tokens are the same on all rows. -/
theorem pushUnled (h : Twin w w' st st') (shut : st.pending = none) (kind : TokenKind) (unled : isLed kind true = false)
    (text : List Char) (row row' a b a' b' : Nat) :
    Twin w w' (st.push kind text row a b) (st'.push kind text row' a' b') := by
  refine h.push shut kind text (fun led => ?_) a b a' b'
  cases kind <;> first | exact Bool.noConfusion led | exact Bool.noConfusion unled

theorem deeper (h : Twin w w' st st') (n : Int) :
    Twin w w' { st with depth := st.depth + n } { st' with depth := st'.depth + n } :=
  { h with depth := congrArg (· + n) h.depth }

theorem going (h : Twin w w' st st') (goes : Bool) :
    Twin w w' { st with continued := goes } { st' with continued := goes } :=
  { h with continued := rfl }

theorem indented (h : Twin w w' st st') (indents : List Nat) :
    Twin w w' { st with indents := indents } { st' with indents := indents } :=
  { h with indents := rfl }

theorem took (h : Twin w w' st st') (shut : st.pending = none) (kind : TokenKind) (skip n : Nat) {row row' : Nat}
    (level : isLed kind (freshBehind st.tokens) = true → w row = w' row') (pos pos' : Nat) (s : List Char) :
    Twin w w' (st.took kind skip n row pos s) (st'.took kind skip n row' pos' s) :=
  h.push shut kind _ level _ _ _ _

theorem left (h : Twin w w' st st') {skip row row' : Nat} (level : freshBehind st.tokens = true → w row = w' row')
    (pos pos' : Nat) (q : Char) (triple : Bool) (s : List Char) :
    Twin w w' (st.left skip row pos q triple s) (st'.left skip row' pos' q triple s) :=
  { h with
    pending := by
      rw [Scanner.left, Scanner.left, h.strict]
      rfl
    led := fun fresh => congrArg some (level fresh) }

end Twin

/-- A line or a part of one: nothing stands behind a line feed. -/
def OneLine (s : List Char) : Prop :=
  ∀ a t, s = a ++ '\n' :: t → t = []

theorem OneLine.drop (h : OneLine s) (n : Nat) : OneLine (s.drop n) := by
  intro a t split
  refine h (s.take n ++ a) t ?_
  rw [List.append_assoc, ← split, List.take_append_drop]

theorem lexeme_lineEnd {n : Nat} (h : lexeme s = .lineEnd n) :
    ∃ a t, s = a ++ '\n' :: t ∧ n = a.length + 1 := by
  have plain (s : List Char) : plainLexeme s ≠ .lineEnd n := by
    rw [plainLexeme]
    dsimp only
    repeat' split
    all_goals exact fun same => Lexeme.noConfusion same
  rw [lexeme.eq_def] at h
  split at h
  case h_4 t => exact ⟨[], t, rfl, (Lexeme.lineEnd.inj h).symm⟩
  case h_5 t => exact ⟨['\r'], t, rfl, (Lexeme.lineEnd.inj h).symm⟩
  case h_7 =>
    repeat' split at h
    all_goals first
      | cases h
      | exact absurd h (plain _)
  all_goals cases h

/-- The kinds of tokens that stand in the rest of a line. -/
theorem pieceAt_token {inner : Bool} {kind : TokenKind} {skip n : Nat} (h : pieceAt inner s = .token kind skip n) :
    kind ≠ .indent ∧ kind ≠ .dedent ∧ (kind = .newline → OneLine s → s.drop (skip + n) = []) := by
  rw [pieceAt] at h
  split at h
  · cases h
  cases found : lexeme (s.drop (blanks s)) with
  | lineEnd n =>
      rw [found] at h
      cases h
      obtain ⟨a, t, split, rfl⟩ := lexeme_lineEnd found
      refine ⟨?_, ?_, fun _ line => ?_⟩
      · cases inner <;> exact nofun
      · cases inner <;> exact nofun
      · rw [← List.drop_drop, split, line.drop _ _ _ split]
        simp
  | name n =>
      rw [found] at h
      cases h
      generalize (s.drop (blanks s)).head?.any isIdentStart = start
      cases start <;> exact ⟨nofun, nofun, nofun⟩
  | triple m q =>
      rw [found, Lexeme.piece] at h
      split at h
      · cases h
        exact ⟨nofun, nofun, nofun⟩
      · cases h
  | _ =>
      rw [found] at h
      cases h
      all_goals exact ⟨nofun, nofun, nofun⟩

theorem freshAfter_piece {kind : TokenKind} {ks : List TokenKind} (indent : kind ≠ .indent) (dedent : kind ≠ .dedent)
    (newline : kind ≠ .newline) (old : freshAfter ks = false) : freshAfter (kind :: ks) = false := by
  cases kind <;> first | exact old | rfl | contradiction

theorem scanRest_twin (h : Twin w w' st st') (shut : st.pending = none) {row row' : Nat}
    (level : w row = w' row' ∨ freshBehind st.tokens = false ∧ OneLine s) (fuel pos pos' : Nat) :
    Twin w w' (scanRest row fuel pos s st) (scanRest row' fuel pos' s st') := by
  induction fuel generalizing pos pos' s st st' with
  | zero => exact h
  | succ fuel ih =>
      rw [scanRest_piece, scanRest_piece, ← h.depth]
      have led {kind : TokenKind} (plain : kind ≠ .indent) (counts : isLed kind (freshBehind st.tokens) = true) :
          w row = w' row' :=
        level.resolve_right fun old => Bool.noConfusion (old.1.symm.trans (isLed_fresh plain counts))
      cases found : pieceAt (0 < st.depth) s with
      | none => exact h
      | token kind skip n =>
          obtain ⟨indent, dedent, newline⟩ := pieceAt_token found
          have taken := h.took shut kind skip n (led indent) pos pos' s
          rcases level with same | ⟨old, line⟩
          · exact ih taken shut (.inl same) _ _
          · by_cases ends : kind = .newline
            · -- a statement would start behind it, but the line is over
              rw [scanPiece, scanPiece, newline ends line]
              cases fuel <;> exact taken
            · exact ih taken shut (.inr ⟨freshAfter_piece indent dedent ends old, line.drop _⟩) _ _
      | sign skip n =>
          have taken := (h.deeper (depthOf ((s.drop skip).take n))).took shut .operator skip n
            (led TokenKind.noConfusion) pos pos' s
          exact ih taken shut (level.imp_right fun old => ⟨rfl, old.2.drop _⟩) _ _
      | joint skip n => exact ih (h.going true) shut (level.imp_right fun old => ⟨old.1, old.2.drop _⟩) _ _
      | opens skip q triple =>
          exact h.left (fun fresh => level.resolve_right fun old => Bool.noConfusion (old.1.symm.trans fresh)) pos pos' q
            triple s

/-- Two lines do the same to twin scans. -/
inductive LineStep.Twin (w w' : Nat → Nat) : LineStep → LineStep → Prop where
  | next {st st' : Scanner} (h : Script.Twin w w' st st') : LineStep.Twin w w' (.next st) (.next st')
  | last {st st' : Scanner} (h : Script.Twin w w' st st') : LineStep.Twin w w' (.last st) (.last st')
  | uneven {st st' : Scanner} : LineStep.Twin w w' (.uneven st) (.uneven st')

theorem closeBlocks_twin (h : Twin w w' st st') (shut : st.pending = none) (row row' pos pos' column : Nat)
    (indents : List Nat) :
    (closeBlocks row pos column indents st = none ∧ closeBlocks row' pos' column indents st' = none) ∨
      ∃ s₁ s₁', closeBlocks row pos column indents st = some s₁ ∧
        closeBlocks row' pos' column indents st' = some s₁' ∧ Twin w w' s₁ s₁' ∧ s₁.pending = none := by
  induction indents generalizing st st' with
  | nil => exact .inl ⟨rfl, rfl⟩
  | cons top below ih =>
      rw [closeBlocks, closeBlocks]
      split
      · split
        · exact ih ((h.indented below).pushUnled shut _ rfl _ _ _ _ _ _ _) shut
        · exact .inl ⟨rfl, rfl⟩
      · exact .inr ⟨st, st', rfl, rfl, h, shut⟩

/-- A line of a comment or of blanks. -/
theorem gap_twin (h : Twin w w' st st') (shut : st.pending = none) (comment gap : List Char) (row row' pos length : Nat) :
    Twin w w'
      ((if comment.isEmpty then st else st.push .comment comment row pos (pos + comment.length)).push .gap gap row
        (pos + comment.length) length)
      ((if comment.isEmpty then st' else st'.push .comment comment row' pos (pos + comment.length)).push .gap gap row'
        (pos + comment.length) length) := by
  split
  · exact h.pushUnled shut _ rfl _ _ _ _ _ _ _
  · exact (h.pushUnled shut _ rfl _ _ _ _ _ _ _).pushUnled shut _ rfl _ _ _ _ _ _ _

/-- Opens a block if a line is further in than the last one. -/
def Scanner.opened (st : Scanner) (row column pos : Nat) (lead : List Char) : Scanner :=
  if st.indents.headD 0 < column then ({ st with indents := column :: st.indents }).push .indent lead row 0 pos else st

theorem Twin.opened (h : Twin w w' st st') (shut : st.pending = none) {row row' : Nat} (level : w row = w' row')
    (column pos : Nat) (lead : List Char) :
    Twin w w' (st.opened row column pos lead) (st'.opened row' column pos lead) ∧
      (st.opened row column pos lead).pending = none := by
  rw [Scanner.opened, Scanner.opened, ← h.indents]
  split
  · exact ⟨(h.indented (column :: st.indents)).push shut .indent lead (fun _ => level) _ _ _ _, shut⟩
  · exact ⟨h, shut⟩

/-- A line that starts a statement, from its first character on. -/
theorem scanStatement_eq (row : Nat) (line : List Char) (st : Scanner) :
    scanStatement row line st =
      match line.drop (indentOf 0 0 line).2 with
      | [] => .last st
      | c :: t =>
        if c == '#' || c == '\r' || c == '\n' then
          let comment := if c == '#' then ((c :: t).reverse.dropWhile fun d => d == '\r' || d == '\n').reverse else []
          .next ((if comment.isEmpty then st
            else st.push .comment comment row (indentOf 0 0 line).2 ((indentOf 0 0 line).2 + comment.length)).push .gap
              (line.drop ((indentOf 0 0 line).2 + comment.length)) row ((indentOf 0 0 line).2 + comment.length) line.length)
        else
          let st := st.opened row (indentOf 0 0 line).1 (indentOf 0 0 line).2 (line.take (indentOf 0 0 line).2)
          match closeBlocks row (indentOf 0 0 line).2 (indentOf 0 0 line).1 st.indents st with
          | some st => .next (scanRest row ((c :: t).length + 1) (indentOf 0 0 line).2 (c :: t) st)
          | none => .uneven st := by
  rw [scanStatement]
  dsimp only
  cases line.drop (indentOf 0 0 line).2 <;> rfl

theorem scanStatement_twin (h : Twin w w' st st') (shut : st.pending = none) {row row' : Nat} (level : w row = w' row')
    (line : List Char) : LineStep.Twin w w' (scanStatement row line st) (scanStatement row' line st') := by
  rw [scanStatement_eq, scanStatement_eq]
  cases line.drop (indentOf 0 0 line).2 with
  | nil => exact .last h
  | cons c t =>
      dsimp only
      split
      · exact .next (gap_twin h shut _ _ _ _ _ _)
      · obtain ⟨opened, shut⟩ := h.opened shut level (indentOf 0 0 line).1 (indentOf 0 0 line).2
          (line.take (indentOf 0 0 line).2)
        rw [← opened.indents]
        rcases closeBlocks_twin opened shut row row' (indentOf 0 0 line).2 (indentOf 0 0 line).2 (indentOf 0 0 line).1 _ with
          ⟨none, none'⟩ | ⟨s₁, s₁', found, found', twin, shut⟩
        · rw [none, none']
          exact .uneven
        · rw [found, found']
          exact .next (scanRest_twin twin shut (.inl level) _ _ _)

theorem scanLine_open (row : Nat) (line : List Char) {st : Scanner} {o : OpenText} (h : st.pending = some o) :
    scanLine row line st =
      match closing? o.quote o.triple 0 line with
      | some n => .next (scanRest row (line.length + 1) n (line.drop n)
          (({ st with pending := none, strict := false }).push .text (o.text ++ line.take n) o.row o.column n))
      | none =>
        if o.joined && !Text.endsWith ['\\', '\n'] line && !Text.endsWith ['\\', '\r', '\n'] line then
          .next (({ st with pending := none, strict := true }).push .stray (o.text ++ line) o.row o.column line.length)
        else .next { st with pending := some { o with text := o.text ++ line } } := by
  obtain ⟨tokens, indents, depth, continued, strict, pending⟩ := st
  cases h
  rfl

theorem scanLine_shut (row : Nat) (line : List Char) {st : Scanner} (h : st.pending = none) :
    scanLine row line st =
      if st.depth = 0 ∧ st.continued = false then scanStatement row line st
      else .next (scanRest row (line.length + 1) 0 line { st with continued := false }) := by
  rw [scanLine, h]

/-- A quote that was open is not any more. -/
theorem Twin.shut (h : Twin w w' st st') (strict : Bool) :
    Twin w w' { st with pending := none, strict := strict } { st' with pending := none, strict := strict } :=
  { h with strict := rfl, pending := rfl, led := fun _ => rfl }

theorem Twin.opens (h : Twin w w' st st') {o : OpenText} (pending : st.pending = some o) :
    ∃ o', st'.pending = some o' ∧ o.text = o'.text ∧ o.quote = o'.quote ∧ o.triple = o'.triple ∧
      o.joined = o'.joined ∧ (freshBehind st.tokens = true → w o.row = w' o'.row) := by
  have same := h.pending
  have led := h.led
  cases pending' : st'.pending with
  | none =>
      rw [pending, pending'] at same
      cases same
  | some o' =>
      rw [pending, pending'] at same led
      obtain ⟨text, quote, triple, joined⟩ : o.text = o'.text ∧ o.quote = o'.quote ∧ o.triple = o'.triple ∧
          o.joined = o'.joined := by simpa using same
      exact ⟨o', rfl, text, quote, triple, joined, fun fresh => Option.some.inj (led fresh)⟩

theorem scanLine_twin (h : Twin w w' st st') {row row' : Nat} (level : w row = w' row') (line : List Char) :
    LineStep.Twin w w' (scanLine row line st) (scanLine row' line st') := by
  cases pending : st.pending with
  | none =>
      rw [scanLine_shut row line pending, scanLine_shut row' line (h.closed pending)]
      by_cases starts : st.depth = 0 ∧ st.continued = false
      · rw [if_pos starts, if_pos (h.depth ▸ h.continued ▸ starts)]
        exact scanStatement_twin h pending level line
      · rw [if_neg starts, if_neg (h.depth ▸ h.continued ▸ starts)]
        exact .next (scanRest_twin (h.going false) pending (.inl level) _ _ _)
  | some o =>
      obtain ⟨o', pending', text, quote, triple, joined, led⟩ := h.opens pending
      rw [scanLine_open row line pending, scanLine_open row' line pending', ← text, ← quote, ← triple, ← joined]
      have row {kind : TokenKind} (plain : kind ≠ .indent) (counts : isLed kind (freshBehind st.tokens) = true) :
          w o.row = w' o'.row :=
        led (isLed_fresh plain counts)
      cases closing? o.quote o.triple 0 line with
      | some n =>
          exact .next (scanRest_twin ((h.shut false).push rfl .text _ (row TokenKind.noConfusion) _ _ _ _) rfl (.inl level)
            _ _ _)
      | none =>
          dsimp only
          split
          · exact .next ((h.shut true).push rfl .stray _ (row TokenKind.noConfusion) _ _ _ _)
          · exact .next { h with
              pending := by simp [quote, triple, joined]
              led := fun fresh => congrArg some (led fresh) }

end Script
end Patchwork
