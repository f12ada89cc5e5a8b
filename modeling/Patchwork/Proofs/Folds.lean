import Patchwork.Proofs.Twins

/-!
Lines that lose joints. If no quote is open at a joint, and a blank or a bracket is next to it, its line is read up to it as
it is read when the text below follows at once, and that line is read there as it was by itself. So a scan of the lines that
are left reads what a scan of all lines reads, up to rows.
-/

namespace Patchwork

open Text

namespace Script

/-! ## Before a joint -/

section

variable {row row' pos pos' fuel fuel' : Nat} {s b x y g : List Char} {st st' : Scanner} {w w' : Nat → Nat} {inner : Bool}

/-- Nothing but blanks. -/
def Blank (b : List Char) : Prop :=
  ∀ c ∈ b, isLineBlank c = true

theorem blank_nil : Blank [] :=
  fun _ none => absurd none List.not_mem_nil

theorem blanks_append (h : Blank b) (x : List Char) : blanks (b ++ x) = b.length + blanks x := by
  rw [blanks, blanks, List.takeWhile_append_of_pos h, List.length_append]

def Piece.later (k : Nat) : Piece → Piece
  | .none => .none
  | .token kind skip n => .token kind (k + skip) n
  | .sign skip n => .sign (k + skip) n
  | .joint skip n => .joint (k + skip) n
  | .opens skip q triple => .opens (k + skip) q triple

theorem drop_blanks (h : Blank b) (x : List Char) : (b ++ x).drop (blanks (b ++ x)) = x.drop (blanks x) := by
  rw [blanks_append h, ← List.drop_drop, List.drop_left]

/-- Blanks at the head of a text put its first piece off, if it can be read. -/
theorem pieceAt_blanks (h : Blank b) (known : lexeme (x.drop (blanks x)) ≠ .stray) (inner : Bool) :
    pieceAt inner (b ++ x) = (pieceAt inner x).later b.length := by
  by_cases empty : x = []
  · subst empty
    rw [pieceAt, drop_blanks h]
    split <;> rfl
  · have filled : (b ++ x).isEmpty = false := by simp [empty]
    have filled' : x.isEmpty = false := by simp [empty]
    rw [pieceAt, pieceAt, filled, filled', drop_blanks h, blanks_append h]
    rw [if_neg Bool.false_ne_true, if_neg Bool.false_ne_true]
    cases found : lexeme (x.drop (blanks x)) with
    | stray => exact absurd found known
    | triple m q =>
        rw [Lexeme.piece, Lexeme.piece]
        split <;> rfl
    | _ => rfl

theorem scanPiece_later (row fuel pos : Nat) (b x : List Char) (st : Scanner) (p : Piece) :
    scanPiece row fuel pos (b ++ x) st (p.later b.length) = scanPiece row fuel (pos + b.length) x st p := by
  have behind (n : Nat) : (b ++ x).drop (b.length + n) = x.drop n := by rw [← List.drop_drop, List.drop_left]
  cases p <;> simp only [Piece.later, scanPiece, Scanner.took, Scanner.left, behind, ← Nat.add_assoc] <;>
    simp only [Nat.add_assoc b.length, behind]

/-- No token of a scan is stray. -/
def Scanner.Clean (st : Scanner) : Prop :=
  ∀ t ∈ st.tokens, t.kind ≠ .stray

theorem Scanner.Clean.before (h : st'.Clean) (first : st.tokens <:+ st'.tokens) : st.Clean :=
  fun t ht => h t (first.subset ht)

/-- What is no lexeme leaves a stray token. -/
theorem Scanner.Clean.known (h : (scanRest row (fuel + 1) pos s st).Clean) : lexeme (s.drop (blanks s)) ≠ .stray := by
  intro stray
  rw [scanRest_piece, pieceAt] at h
  have filled : s.isEmpty = false := by
    cases s with
    | nil => cases stray
    | cons c s => rfl
  rw [filled, stray] at h
  exact h _ ((scanRest_tokens row fuel _ _ _).subset List.mem_cons_self) rfl

/-- Blanks at the head of a text that can be read are no matter. -/
theorem scanRest_blanks (h : Blank b) (clean : (scanRest row (fuel + 1) (pos + b.length) x st).Clean) :
    scanRest row (fuel + 1) pos (b ++ x) st = scanRest row (fuel + 1) (pos + b.length) x st := by
  rw [scanRest_piece, scanRest_piece, pieceAt_blanks h clean.known, scanPiece_later]

/-- No lexeme goes on from a text to the next one: there is a stop where one ends or where the other starts. -/
def Separate (x g : List Char) : Prop :=
  Stops g ∨ ∀ c, x.getLast? = some c → IsStop c

theorem Separate.drop (h : Separate x g) (n : Nat) : Separate (x.drop n) g := by
  refine h.imp_right fun last c hc => last c ?_
  rw [List.getLast?_drop] at hc
  split at hc
  · cases hc
  · exact hc

/-- A kind of token that a statement goes on behind. -/
def Goes (kind : TokenKind) : Prop :=
  ∀ ks, freshAfter (kind :: ks) = false

/-- A piece that is read both before a joint and before something else. -/
inductive Shared (inner : Bool) (x g : List Char) : Piece → Prop where
  | token {kind : TokenKind} {k n : Nat} (goes : Goes kind) (known : kind ≠ .stray) (some_ : 0 < n)
    (room : k + n ≤ x.length) (there : pieceAt inner (x ++ g) = .token kind k n) : Shared inner x g (.token kind k n)
  | sign {k n : Nat} (some_ : 0 < n) (room : k + n ≤ x.length) (there : pieceAt inner (x ++ g) = .sign k n) :
    Shared inner x g (.sign k n)

theorem Worded.of_ahead {d : Char} {t z u : List Char} (h : Ahead (d :: t)) (comment : d ≠ '#') (filled : z ≠ [])
    (front : d :: t = z ++ u) : Worded z where
  filled := filled
  comment := by
    cases z with
    | nil => exact nofun
    | cons e z =>
        obtain ⟨rfl, -⟩ := List.cons.inj front
        exact fun same => comment (Option.some.inj same)
  feed within := h.feed (front ▸ List.mem_append_left u within)
  back within := h.back (front ▸ List.mem_append_left u within)

/-- What a text is read up to, before a joint or something else. -/
theorem Separate.front {d : Char} {t : List Char} (h : Ahead (d :: t)) (separate : Separate (d :: t) g) (comment : d ≠ '#')
    (text : isLineBlank d = false) (plain : d ∉ lones) :
    ∃ z, Worded z ∧ (d :: t = z ∧ Stops g ∨ ∃ c, d :: t = z ++ [c] ∧ IsStop c) := by
  rcases separate with stops | last
  · exact ⟨d :: t, .of_ahead h comment (List.cons_ne_nil d t) (List.append_nil _).symm, .inl ⟨rfl, stops⟩⟩
  · rcases List.eq_nil_or_concat (d :: t) with none | ⟨z, c, split⟩
    · cases none
    rw [List.concat_eq_append] at split
    have end_ : (d :: t).getLast? = some c := by rw [split, List.getLast?_append, List.getLast?_singleton, Option.some_or]
    have stop := last c end_
    refine ⟨z, .of_ahead h comment ?_ split, .inr ⟨c, split, stop⟩⟩
    rintro rfl
    obtain ⟨rfl, -⟩ := List.cons.inj split
    rcases stop.cases with blank | rfl | lone
    · cases blank.symm.trans text
    · exact h.last end_
    · exact plain lone

theorem Shared.known {p : Piece} (h : Shared inner x g p) : lexeme ((x ++ g).drop (blanks (x ++ g))) ≠ .stray := by
  intro stray
  have filled : (x ++ g).isEmpty = false := by
    rcases rest : x ++ g with _ | ⟨d, t⟩
    · rw [rest] at stray
      cases stray
    · rfl
  have piece : pieceAt inner (x ++ g) = .token .stray 0 1 := by
    rw [pieceAt, filled, stray]
    rfl
  cases h with
  | token _ known _ _ there =>
      rw [piece] at there
      cases there
      exact known rfl
  | sign _ _ there =>
      rw [piece] at there
      cases there

theorem pieceAt_ahead (h : Ahead x) (separate : Separate x g) (filled : ¬ Blank x) (inner : Bool) :
    (∃ k n, pieceAt inner (x ++ joint) = .token .comment k n) ∨
      (∃ k q triple, pieceAt inner (x ++ joint) = .opens k q triple) ∨
      (∃ k n, pieceAt inner (x ++ joint) = .token .stray k n) ∨
      ∃ p, pieceAt inner (x ++ joint) = p ∧ Shared inner x g p := by
  have blank : Blank (x.takeWhile isLineBlank) := fun c hc => List.all_eq_true.mp List.all_takeWhile c hc
  have split : x.takeWhile isLineBlank ++ x.dropWhile isLineBlank = x := List.takeWhile_append_dropWhile
  rcases rest : x.dropWhile isLineBlank with _ | ⟨d, t⟩
  · rw [rest, List.append_nil] at split
    exact absurd (split ▸ blank) filled
  rw [rest] at split
  generalize x.takeWhile isLineBlank = b at blank split
  have text : isLineBlank d = false := by
    have := List.head_dropWhile_not isLineBlank (l := x) (by rw [rest]; exact List.cons_ne_nil d t)
    simpa [rest] using this
  subst split
  have read (r : List Char) : pieceAt inner (b ++ d :: t ++ r) =
      (lexeme (d :: t ++ r)).piece inner b.length (d :: t ++ r) := by
    have here : blanks (b ++ (d :: t ++ r)) = b.length := by
      rw [blanks_append blank, blanks, List.cons_append, List.takeWhile_cons_of_neg (by simp [text])]
      rfl
    rw [List.append_assoc, pieceAt, here, List.drop_left, if_neg (by simp)]
  have tail : Ahead (d :: t) := by simpa using h.drop b.length
  have behind : Separate (d :: t) g := by simpa using separate.drop b.length
  have room : (b ++ d :: t).length = b.length + (d :: t).length := List.length_append
  simp only [read]
  by_cases comment : d = '#'
  · subst comment
    exact .inl ⟨b.length, _, rfl⟩
  by_cases lone : d ∈ lones
  · have there := read g
    simp only [List.cons_append, lexeme_lone lone] at there ⊢
    exact .inr (.inr (.inr ⟨_, rfl, .sign Nat.one_pos (by simp) there⟩))
  obtain ⟨z, word, front⟩ := behind.front tail comment text lone
  rcases lexeme_ahead tail word front with ⟨q, opens⟩ | ⟨same, within⟩
  · exact .inr (.inl ⟨b.length, q, false, by rw [opens]; rfl⟩)
  have there := read g
  rw [same] at there
  generalize lexeme (d :: t ++ joint) = found at there within
  cases found with
  | number n | quoted n =>
      have least : b.length + n ≤ (b ++ d :: t).length := by have := within.2; omega
      exact .inr (.inr (.inr ⟨_, rfl, .token (fun _ => rfl) TokenKind.noConfusion within.1 least there⟩))
  | name n =>
      refine .inr (.inr (.inr ⟨_, rfl, .token (fun _ => ?_) ?_ within.1 (by have := within.2; omega) there⟩))
      all_goals generalize (d :: t ++ joint).head?.any isIdentStart = start
      all_goals cases start
      · rfl
      · rfl
      · exact TokenKind.noConfusion
      · exact TokenKind.noConfusion
  | operator n => exact .inr (.inr (.inr ⟨_, rfl, .sign within.1 (by have := within.2; omega) there⟩))
  | stray => exact .inr (.inr (.inl ⟨0, 1, rfl⟩))
  | triple m q =>
      have room' : m + 3 ≤ (d :: t).length := within
      have drop (r : List Char) : (d :: t ++ r).drop (m + 3) = (d :: t).drop (m + 3) ++ r :=
        List.drop_append_of_le_length room'
      simp only [Lexeme.piece, drop] at there ⊢
      rcases closing?_ahead q true (m + 3) (tail.drop (m + 3)) g with goes | ⟨n, least, most, closed, closed'⟩
      · exact .inr (.inl ⟨b.length, q, true, by rw [goes]⟩)
      · rw [List.length_drop] at most
        rw [closed'] at there
        rw [closed]
        exact .inr (.inr (.inr ⟨_, rfl, .token (fun _ => rfl) TokenKind.noConfusion (by omega) (by omega) there⟩))
  | _ => cases within

theorem take_drop_append {k n : Nat} (room : k + n ≤ x.length) (r : List Char) :
    ((x ++ r).drop k).take n = (x.drop k).take n := by
  rw [List.drop_append_of_le_length (by omega), List.take_append_of_le_length (by rw [List.length_drop]; omega)]

theorem took_append {k n : Nat} (room : k + n ≤ x.length) (st : Scanner) (kind : TokenKind) (row pos : Nat) (r : List Char) :
    st.took kind k n row pos (x ++ r) = st.took kind k n row pos x := by
  rw [Scanner.took, Scanner.took, take_drop_append room]

/-- A scan with only blanks to read before a text. -/
def GoesOn (row : Nat) (g : List Char) (st out : Scanner) : Prop :=
  ∃ b pos fuel, Blank b ∧ (b ++ g).length < fuel ∧ out = scanRest row fuel pos (b ++ g) st

theorem joint_lexeme : lexeme (joint.drop (blanks joint)) = .joint 2 :=
  rfl

/-- A scan behind a joint, and one that has read as much on a line that goes on with other text. -/
structure LeavesOff (w w' : Nat → Nat) (row' : Nat) (g : List Char) (st out : Scanner) : Prop where
  goes : st.continued = true
  mid : freshBehind st.tokens = false
  on : ∃ st₂, Twin w w' { st with continued := false } st₂ ∧ GoesOn row' g st₂ out

/-- Up to a joint a line is read as it is read before something else. -/
theorem scanRest_ahead (h : Twin w w' st st') (shut : st.pending = none) (goes : st.continued = false)
    (level : w row = w' row' ∨ freshBehind st.tokens = false) (mid : ¬ Blank x ∨ freshBehind st.tokens = false)
    (ahead : Ahead x) (separate : Separate x g) (blank : Blank b)
    (room : (x ++ joint).length < fuel) (room' : (b ++ (x ++ g)).length < fuel') (pos pos' : Nat)
    (clean : (scanRest row fuel pos (x ++ joint) st).Clean)
    (closed : (scanRest row fuel pos (x ++ joint) st).pending = none)
    (comments : ∀ t ∈ (scanRest row fuel pos (x ++ joint) st).tokens, t.kind = .comment → t.row ≠ row) :
    LeavesOff w w' row' g (scanRest row fuel pos (x ++ joint) st) (scanRest row' fuel' pos' (b ++ (x ++ g)) st') := by
  induction fuel generalizing fuel' pos pos' b x st st' with
  | zero => cases room
  | succ fuel ih =>
      obtain ⟨fuel', rfl⟩ := Nat.exists_eq_add_one_of_ne_zero (Nat.ne_zero_of_lt room')
      by_cases only : Blank x
      · have piece : pieceAt (0 < st.depth) (x ++ joint) = .joint x.length 2 :=
          pieceAt_blanks only (fun stray => Lexeme.noConfusion (joint_lexeme.symm.trans stray)) _
        have read : scanRest row (fuel + 1) pos (x ++ joint) st = { st with continued := true } := by
          rw [scanRest_piece, piece, scanPiece, ← List.drop_drop, List.drop_left]
          cases fuel <;> rfl
        rw [read]
        refine ⟨rfl, mid.resolve_left fun filled => filled only, st', ?_, b ++ x, pos', fuel' + 1, ?_, ?_, ?_⟩
        · exact { h with continued := goes.symm.trans h.continued }
        · exact fun c hc => (List.mem_append.mp hc).elim (blank c) (only c)
        · rwa [List.append_assoc]
        · rw [List.append_assoc]
      · rw [scanRest_piece] at clean closed comments
        rw [scanRest_piece, scanRest_piece row' fuel', ← h.depth]
        rcases pieceAt_ahead ahead separate only (0 < st.depth) with
          ⟨k, n, comment⟩ | ⟨k, q, triple, opens⟩ | ⟨k, n, stray⟩ | ⟨p, here, shared⟩
        · rw [comment] at comments
          exact absurd rfl (comments _ ((scanRest_tokens _ _ _ _ _).subset List.mem_cons_self) rfl)
        · rw [opens] at closed
          cases closed
        · rw [stray] at clean
          exact absurd rfl (clean _ ((scanRest_tokens _ _ _ _ _).subset List.mem_cons_self))
        · rw [here] at clean closed comments ⊢
          rw [pieceAt_blanks blank shared.known, scanPiece_later]
          rw [List.length_append] at room'
          have drop {k : Nat} (le : k ≤ x.length) (r : List Char) : (x ++ r).drop k = x.drop k ++ r :=
            List.drop_append_of_le_length le
          have less {k n : Nat} (some_ : 0 < n) (le : k + n ≤ x.length) :
              (x.drop (k + n) ++ joint).length < fuel ∧ ([] ++ (x.drop (k + n) ++ g)).length < fuel' := by
            simp only [List.length_append, List.length_drop, List.length_nil] at room room' ⊢
            omega
          cases shared with
          | @token kind k n mid _ some_ le there =>
              rw [there]
              simp only [scanPiece, drop le, took_append le] at clean closed comments ⊢
              have plain : kind ≠ .indent := fun same => Bool.noConfusion ((same ▸ mid []).symm.trans rfl)
              have led (counts : isLed kind (freshBehind st.tokens) = true) : w row = w' row' :=
                level.resolve_right fun old => Bool.noConfusion (old.symm.trans (isLed_fresh plain counts))
              obtain ⟨here, there⟩ := less some_ le
              exact ih (h.took shut kind k n led pos (pos' + b.length) x) shut goes (.inr (mid _)) (.inr (mid _))
                (ahead.drop (k + n)) (separate.drop (k + n)) blank_nil here there (pos + k + n) (pos' + b.length + k + n)
                clean closed comments
          | @sign k n some_ le there =>
              rw [there]
              simp only [scanPiece, drop le, took_append le, take_drop_append le] at clean closed comments ⊢
              obtain ⟨here, there⟩ := less some_ le
              have taken := (h.deeper (depthOf ((x.drop k).take n))).took shut .operator k n
                (fun fresh => level.resolve_right fun old => Bool.noConfusion (old.symm.trans fresh)) pos (pos' + b.length) x
              exact ih taken shut goes (.inr rfl) (.inr rfl) (ahead.drop (k + n)) (separate.drop (k + n)) blank_nil
                here there (pos + k + n) (pos' + b.length + k + n) clean closed comments

end

variable {row row' pos fuel : Nat} {s l l' b p g last last' : List Char} {ls ls' : List (List Char)}
  {st st' st₁ : Scanner} {w w' : Nat → Nat}

/-! ## Open quotes and open joints -/

/-- A quote and a joint are not open at once. -/
def Scanner.Calm (st : Scanner) : Prop :=
  st.pending ≠ none → st.continued = false

theorem lexeme_joint {n : Nat} (h : lexeme s = .joint n) : ∃ a t, s = a ++ '\n' :: t ∧ n = a.length + 1 := by
  have plain (s : List Char) : plainLexeme s ≠ .joint n := by
    rw [plainLexeme]
    dsimp only
    repeat' split
    all_goals exact fun same => Lexeme.noConfusion same
  rw [lexeme.eq_def] at h
  split at h
  case h_2 t => exact ⟨['\\'], t, rfl, (Lexeme.joint.inj h).symm⟩
  case h_3 t => exact ⟨['\\', '\r'], t, rfl, (Lexeme.joint.inj h).symm⟩
  case h_7 =>
    repeat' split at h
    all_goals first
      | cases h
      | exact absurd h (plain _)
  all_goals cases h

theorem pieceAt_joint {inner : Bool} {skip n : Nat} (line : OneLine s) (h : pieceAt inner s = .joint skip n) :
    s.drop (skip + n) = [] := by
  rw [pieceAt] at h
  split at h
  · cases h
  cases found : lexeme (s.drop (blanks s)) with
  | joint n =>
      rw [found] at h
      cases h
      obtain ⟨a, t, split, rfl⟩ := lexeme_joint found
      rw [← List.drop_drop, split, line.drop _ _ _ split]
      simp
  | triple m q =>
      rw [found, Lexeme.piece] at h
      split at h <;> cases h
  | _ =>
      rw [found] at h
      cases h

theorem scanRest_calm (line : OneLine s) (shut : st.pending = none) (goes : st.continued = false) (fuel pos : Nat) :
    (scanRest row fuel pos s st).Calm := by
  induction fuel generalizing pos s st with
  | zero => exact fun _ => goes
  | succ fuel ih =>
      rw [scanRest_piece]
      cases found : pieceAt (0 < st.depth) s with
      | none => exact fun _ => goes
      | token kind k n =>
          rw [scanPiece]
          refine ih (line.drop _) ?_ ?_ _
          · exact shut
          · exact goes
      | sign k n =>
          rw [scanPiece]
          refine ih (line.drop _) ?_ ?_ _
          · exact shut
          · exact goes
      | joint k n =>
          rw [scanPiece, pieceAt_joint line found]
          intro open_
          cases fuel <;> exact absurd shut open_
      | opens k q triple => exact fun _ => goes

theorem closeBlocks_keeps {row pos column : Nat} {indents : List Nat} (h : closeBlocks row pos column indents st = some st') :
    st'.continued = st.continued ∧ st'.pending = st.pending ∧ st'.depth = st.depth := by
  induction indents generalizing st with
  | nil => cases h
  | cons top below ih =>
      rw [closeBlocks] at h
      split at h
      · split at h
        · obtain ⟨goes, pending, depth⟩ := ih h
          exact ⟨goes, pending, depth⟩
        · cases h
      · cases h
        exact ⟨rfl, rfl, rfl⟩

theorem Scanner.opened_keeps (st : Scanner) (row column pos : Nat) (lead : List Char) :
    (st.opened row column pos lead).continued = st.continued ∧ (st.opened row column pos lead).pending = st.pending ∧
      (st.opened row column pos lead).depth = st.depth := by
  rw [Scanner.opened]
  split <;> exact ⟨rfl, rfl, rfl⟩

theorem scanLine_calm (line : OneLine l) (h : st.Calm) (step : scanLine row l st = .next st₁) : st₁.Calm := by
  cases pending : st.pending with
  | some o =>
      have goes : st.continued = false := h (by rw [pending]; exact Option.some_ne_none o)
      rw [scanLine_open row l pending] at step
      split at step
      · cases step
        refine scanRest_calm (line.drop _) ?_ ?_ _ _
        · rfl
        · exact goes
      · split at step <;> cases step <;> exact fun _ => goes
  | none =>
      rw [scanLine_shut row l pending] at step
      split at step
      · next starts =>
          rw [scanStatement_eq] at step
          split at step
          · cases step
          · next c t rest =>
              have tail : OneLine (c :: t) := rest ▸ line.drop _
              split at step
              · cases step
                intro _
                repeat' split
                all_goals exact starts.2
              · dsimp only at step
                split at step
                · next st₂ closed =>
                    cases step
                    obtain ⟨goes, shut, -⟩ := closeBlocks_keeps closed
                    obtain ⟨goes', shut', -⟩ := st.opened_keeps row (indentOf 0 0 l).1 (indentOf 0 0 l).2
                      (l.take (indentOf 0 0 l).2)
                    exact scanRest_calm tail (shut.trans (shut'.trans pending)) (goes.trans (goes'.trans starts.2)) _ _
                · cases step
      · cases step
        refine scanRest_calm line ?_ ?_ _ _
        · exact pending
        · rfl

/-! ## The end of a scan -/

/-- Whether a last line gets no line end of its own when a scan closes. -/
def closesLine (last : List Char) : Bool :=
  (match last.getLast? with
    | some c => c == '\n' || c == '\r'
    | none => true) ||
  match Text.stripWhere Text.isBlank last with
  | '#' :: _ => true
  | _ => false

/-- Ends the last line. -/
def Scanner.lineEnded (st : Scanner) (row : Nat) (last : List Char) : Scanner :=
  if closesLine last then st else st.push .newline [] (row - 1) last.length (last.length + 1)

def Scanner.dedented (st : Scanner) (row : Nat) (indents : List Nat) : Scanner :=
  indents.foldl (fun st _ => st.push .dedent [] row 0 0) st

theorem scanEnd_eq (row : Nat) (last : List Char) (st : Scanner) :
    scanEnd row last st =
      ((st.lineEnded row last).dedented row (st.lineEnded row last).indents.dropLast).push .finish [] row 0 0 :=
  rfl

namespace Twin

theorem lineEnded (h : Twin w w' st st') (shut : st.pending = none) (row row' : Nat)
    (same : closesLine last = closesLine last') :
    Twin w w' (st.lineEnded row last) (st'.lineEnded row' last') ∧ (st.lineEnded row last).pending = none := by
  rw [Scanner.lineEnded, Scanner.lineEnded, ← same]
  split
  · exact ⟨h, shut⟩
  · exact ⟨h.pushUnled shut _ rfl _ _ _ _ _ _ _, shut⟩

theorem dedented (h : Twin w w' st st') (shut : st.pending = none) (row row' : Nat) (indents : List Nat) :
    Twin w w' (st.dedented row indents) (st'.dedented row' indents) ∧ (st.dedented row indents).pending = none := by
  induction indents generalizing st st' with
  | nil => exact ⟨h, shut⟩
  | cons n indents ih => exact ih (h.pushUnled shut _ rfl _ _ _ _ _ _ _) shut

end Twin

theorem scanEnd_twin (h : Twin w w' st st') (shut : st.pending = none) (row row' : Nat)
    (same : closesLine last = closesLine last') : Twin w w' (scanEnd row last st) (scanEnd row' last' st') := by
  obtain ⟨ended, shut⟩ := h.lineEnded shut row row' same
  obtain ⟨closed, shut⟩ := ended.dedented shut row row' (st.lineEnded row last).indents.dropLast
  rw [scanEnd_eq, scanEnd_eq, ← ended.indents]
  exact closed.pushUnled shut .finish rfl _ _ _ _ _ _ _

/-! ## Lines before a joint -/

theorem indentOf_blanks (column taken : Nat) (s : List Char) : (indentOf column taken s).2 = taken + blanks s := by
  fun_induction indentOf column taken s with
  | case1 column taken s ih => rw [ih, blanks, blanks, List.takeWhile_cons_of_pos rfl, List.length_cons]; omega
  | case2 column taken s ih => rw [ih, blanks, blanks, List.takeWhile_cons_of_pos rfl, List.length_cons]; omega
  | case3 column taken s ih => rw [ih, blanks, blanks, List.takeWhile_cons_of_pos rfl, List.length_cons]; omega
  | case4 s column taken blank tab feed =>
      have none : blanks s = 0 := by
        cases s with
        | nil => rfl
        | cons c s =>
            have text : isLineBlank c = false := by
              simp only [isLineBlank, Bool.or_eq_false_iff, beq_eq_false_iff_ne]
              exact ⟨⟨fun same => blank s (by rw [same]), fun same => feed s (by rw [same])⟩,
                fun same => tab s (by rw [same])⟩
            rw [blanks, List.takeWhile_cons_of_neg (by simp [text])]
            rfl
      rw [none]
      rfl

/-- A line is indented as the text at its head is. -/
theorem indentOf_append (filled : ¬ Blank p) (r : List Char) (column taken : Nat) :
    indentOf column taken (p ++ r) = indentOf column taken p := by
  fun_induction indentOf column taken p with
  | case1 column taken p ih => exact ih fun blank => filled fun c hc => (List.mem_cons.mp hc).elim (· ▸ rfl) (blank c)
  | case2 column taken p ih => exact ih fun blank => filled fun c hc => (List.mem_cons.mp hc).elim (· ▸ rfl) (blank c)
  | case3 column taken p ih => exact ih fun blank => filled fun c hc => (List.mem_cons.mp hc).elim (· ▸ rfl) (blank c)
  | case4 p column taken blank tab feed =>
      cases p with
      | nil => exact absurd (fun _ none => absurd none List.not_mem_nil) filled
      | cons c p =>
          rw [List.cons_append, indentOf.eq_4]
          · exact fun r same => blank p (by rw [(List.cons.inj same).1])
          · exact fun r same => tab p (by rw [(List.cons.inj same).1])
          · exact fun r same => feed p (by rw [(List.cons.inj same).1])

theorem blanks_filled (filled : ¬ Blank p) : ∃ c t, p.drop (blanks p) = c :: t ∧ isLineBlank c = false := by
  induction p with
  | nil => exact absurd (fun _ none => absurd none List.not_mem_nil) filled
  | cons c p ih =>
      cases blank : isLineBlank c with
      | true =>
          rw [blanks, List.takeWhile_cons_of_pos blank]
          exact ih fun rest => filled fun d hd => (List.mem_cons.mp hd).elim (· ▸ blank) (rest d)
      | false =>
          rw [blanks, List.takeWhile_cons_of_neg (by simp [blank])]
          exact ⟨c, p, rfl, blank⟩

/-- A comment is not empty. -/
theorem comment_filled (t : List Char) :
    ((('#' :: t ++ joint).reverse.dropWhile fun d => d == '\r' || d == '\n').reverse).isEmpty = false := by
  have back : ('#' :: t ++ joint).reverse = '\n' :: '\\' :: ('#' :: t).reverse := by simp [joint]
  rw [back, List.dropWhile_cons_of_pos rfl, List.dropWhile_cons_of_neg (by decide)]
  simp

section

variable (h : Twin w w' st st') (level : w row = w' row') (ahead : Ahead p) (separate : Separate p g) (clean : st₁.Clean)
  (closed : st₁.pending = none) (comments : ∀ t ∈ st₁.tokens, t.kind = .comment → t.row ≠ row)
include h level ahead separate clean closed comments

/-- A quote that is open when the line starts ends before the joint. -/
theorem scanLine_ahead_quoted {o : OpenText} (goes : st.continued = false) (pending : st.pending = some o)
    (step : scanLine row (p ++ joint) st = .next st₁) :
    ∃ out, scanLine row' (p ++ g) st' = .next out ∧ LeavesOff w w' row' g st₁ out := by
  obtain ⟨o', pending', text, quote, triple, joined, led⟩ := h.opens pending
  rw [scanLine_open row _ pending] at step
  rw [scanLine_open row' _ pending', ← text, ← quote, ← triple, ← joined]
  rcases closing?_ahead o.quote o.triple 0 ahead g with unclosed | ⟨n, -, most, here, there⟩
  · rw [unclosed] at step
    dsimp only at step
    split at step
    · cases step
      exact absurd rfl (clean _ List.mem_cons_self)
    · cases step
      cases closed
  · rw [Nat.zero_add] at most
    rw [here] at step
    rw [there]
    dsimp only at step ⊢
    have drop (r : List Char) : (p ++ r).drop n = p.drop n ++ r := List.drop_append_of_le_length most
    have take (r : List Char) : (p ++ r).take n = p.take n := List.take_append_of_le_length most
    rw [drop, take] at step
    rw [drop, take]
    cases step
    have read := (h.shut false).push rfl .text (o.text ++ p.take n) (fun fresh => led fresh) o.column n o'.column n
    have less (r : List Char) : (p.drop n ++ r).length < (p ++ r).length + 1 := by
      rw [List.length_append, List.length_append, List.length_drop]
      omega
    exact ⟨_, rfl, scanRest_ahead read rfl goes (.inl level) (.inr rfl) (ahead.drop n) (separate.drop n) blank_nil
      (less joint) (less g) n n clean closed comments⟩

/-- A statement starts on the line. -/
theorem scanStatement_ahead (goes : st.continued = false) (shut : st.pending = none) (filled : ¬ Blank p)
    (step : scanStatement row (p ++ joint) st = .next st₁) :
    ∃ out, scanStatement row' (p ++ g) st' = .next out ∧ LeavesOff w w' row' g st₁ out := by
  rw [scanStatement_eq] at step ⊢
  obtain ⟨c, t, rest, text⟩ := blanks_filled filled
  have start : (indentOf 0 0 p).2 = blanks p := (indentOf_blanks 0 0 p).trans (Nat.zero_add _)
  have short : blanks p ≤ p.length := (List.takeWhile_prefix _).length_le
  have drop (r : List Char) : (p ++ r).drop (blanks p) = c :: (t ++ r) := by
    rw [List.drop_append_of_le_length short, rest, List.cons_append]
  have take (r : List Char) : (p ++ r).take (blanks p) = p.take (blanks p) := List.take_append_of_le_length short
  simp only [indentOf_append filled, start, drop, take] at step ⊢
  have inside : c ∈ p := List.mem_of_mem_drop (rest ▸ List.mem_cons_self)
  have feed : c ≠ '\n' := fun same => ahead.feed (same ▸ inside)
  have back : c ≠ '\r' := fun same => ahead.back (same ▸ inside)
  by_cases mark : c = '#'
  · -- the whole line would be a comment
    subst mark
    have filled := comment_filled t
    rw [List.cons_append] at filled
    have mark : ('#' == '#') = true := rfl
    simp only [mark, Bool.true_or, if_true, filled, Bool.false_eq_true, if_false] at step
    cases step
    exact absurd rfl (comments ⟨.comment, _, row, _, _⟩ (List.mem_cons_of_mem _ List.mem_cons_self) rfl)
  · have plain : (c == '#' || c == '\r' || c == '\n') = false := by simp [mark, back, feed]
    rw [plain, if_neg Bool.false_ne_true] at step
    simp only [plain, Bool.false_eq_true, if_false]
    obtain ⟨opened, shut⟩ := h.opened shut level (indentOf 0 0 p).1 (blanks p) (p.take (blanks p))
    obtain ⟨kept, -, -⟩ := st.opened_keeps row (indentOf 0 0 p).1 (blanks p) (p.take (blanks p))
    rw [← opened.indents]
    rcases closeBlocks_twin opened shut row row' (blanks p) (blanks p) (indentOf 0 0 p).1 _ with
      ⟨none, -⟩ | ⟨s₁, s₁', found, found', twin, shut⟩
    · rw [none] at step
      cases step
    · rw [found] at step
      rw [found']
      cases step
      have tail : Ahead (c :: t) := rest ▸ ahead.drop (blanks p)
      have behind : Separate (c :: t) g := rest ▸ separate.drop (blanks p)
      have goes₁ : s₁.continued = false := (closeBlocks_keeps found).1.trans (kept.trans goes)
      refine ⟨_, rfl, scanRest_ahead twin shut goes₁ (.inl level) (.inl fun blank => ?_) tail behind blank_nil
        (Nat.lt_succ_self _) (Nat.lt_succ_self _) (blanks p) (blanks p) clean closed comments⟩
      rw [blank c List.mem_cons_self] at text
      cases text

/-- What a line does to a scan before its joint, it does before something else. -/
theorem scanLine_ahead (calm : st.Calm) (filled : ¬ Blank p) (step : scanLine row (p ++ joint) st = .next st₁) :
    ∃ out, scanLine row' (p ++ g) st' = .next out ∧ LeavesOff w w' row' g st₁ out := by
  cases pending : st.pending with
  | some o =>
      have goes : st.continued = false := calm (by rw [pending]; exact Option.some_ne_none o)
      exact scanLine_ahead_quoted h level ahead separate clean closed comments goes pending step
  | none =>
      rw [scanLine_shut row _ pending] at step
      rw [scanLine_shut row' _ (h.closed pending)]
      by_cases starts : st.depth = 0 ∧ st.continued = false
      · rw [if_pos starts] at step
        rw [if_pos (h.depth ▸ h.continued ▸ starts)]
        exact scanStatement_ahead h level ahead separate clean closed comments starts.2 pending filled step
      · rw [if_neg starts] at step
        rw [if_neg (h.depth ▸ h.continued ▸ starts)]
        cases step
        exact ⟨_, rfl, scanRest_ahead (h.going false) pending rfl (.inl level) (.inl filled) ahead separate blank_nil
          (Nat.lt_succ_self _) (Nat.lt_succ_self (p ++ g).length) 0 0 clean closed comments⟩

end

/-! ## Lines without joints -/

/-- The lines from a row on are as wide at their heads as `width` tells. -/
def Rows (width : Nat → Nat) (row : Nat) : List (List Char) → Prop
  | [] => True
  | l :: ls => width row = narrowWidth l ∧ Rows width (row + 1) ls

theorem narrowWidth_append (filled : ¬ Blank p) (r : List Char) : narrowWidth (p ++ r) = narrowWidth p := by
  have lead : (p ++ r).takeWhile isLineBlank = p.takeWhile isLineBlank := by
    rw [List.takeWhile_append, if_neg]
    intro whole
    refine filled fun c hc => ?_
    rw [← (List.takeWhile_prefix isLineBlank).eq_of_length whole] at hc
    exact List.all_eq_true.mp List.all_takeWhile c hc
  rw [narrowWidth, narrowWidth, lead]

/-- Lines from which joints are taken, and what becomes of them, with the scan before the first one. -/
inductive Folds : Nat → Scanner → List (List Char) → List (List Char) → Prop where
  | done {row : Nat} {st : Scanner} : Folds row st [] []
  | last {row : Nat} {st st₁ : Scanner} {l : List Char} (step : scanLine row l st = .last st₁) : Folds row st [l] [l]
  | keep {row : Nat} {st st₁ : Scanner} {l : List Char} {ls ls' : List (List Char)}
      (step : scanLine row l st = .next st₁) (line : OneLine l) (rest : Folds (row + 1) st₁ ls ls') :
      Folds row st (l :: ls) (l :: ls')
  | join {row : Nat} {st st₁ : Scanner} {p b l l' : List Char} {ls ls' : List (List Char)}
      (step : scanLine row (p ++ joint) st = .next st₁) (shut : st₁.pending = none)
      (comments : ∀ t ∈ st₁.tokens, t.kind = .comment → t.row ≠ row) (ahead : Ahead p) (filled : ¬ Blank p)
      (blank : Blank b) (separate : Separate p (b ++ l')) (ended : closesLine (p ++ (b ++ l')) = closesLine l')
      (rest : Folds (row + 1) st₁ (l :: ls) (l' :: ls')) : Folds row st ((p ++ joint) :: l :: ls) ((p ++ (b ++ l')) :: ls')

/-- A scan that comes to its end has a twin that does. -/
def Follows (w w' : Nat → Nat) (scanned scanned' : Scanner × Outcome) : Prop :=
  ∀ fin, scanned = (fin, .complete) → fin.Clean → ∃ fin', scanned' = (fin', .complete) ∧ Twin w w' fin fin'

theorem scanFrom_next (step : scanLine row l st = .next st₁) (last : List Char) (ls : List (List Char)) :
    scanFrom row last st (l :: ls) = scanFrom (row + 1) l st₁ ls := by
  rw [scanFrom, step]

/-- A scan that comes to its end has nothing open there. -/
theorem scanFrom_end {last : List Char} {fin : Scanner} (ends : scanFrom row last st [] = (fin, .complete)) :
    st.Rests ∧ fin = scanEnd row last st := by
  rcases scanFrom_nil row last st with ⟨o, here, other, -⟩ | ⟨rests, here⟩
  · rw [here] at ends
    exact absurd (congrArg Prod.snd ends) other
  · rw [here] at ends
    exact ⟨rests, (congrArg Prod.fst ends).symm⟩

/-- What a scan reads is there from the line on that it was read of. -/
theorem scanFrom_clean {last : List Char} {fin : Scanner} {o : Outcome} (step : scanLine row l st = .next st₁)
    (ends : scanFrom row last st (l :: ls) = (fin, o)) (clean : fin.Clean) : st₁.Clean := by
  have first := scanFrom_tokens (row + 1) l st₁ ls
  rw [← scanFrom_next step last, ends] at first
  exact clean.before first

/-- Only blanks come last, and nothing is read of them. -/
theorem scanLine_last (step : scanLine row l st = .last st₁) : st₁ = st ∧ st₁.pending = none ∧ Blank l := by
  cases pending : st.pending with
  | some o =>
      rw [scanLine_open row l pending] at step
      split at step
      · cases step
      · split at step <;> cases step
  | none =>
      rw [scanLine_shut row l pending] at step
      split at step
      · rw [scanStatement_eq] at step
        split at step
        · next none =>
            cases step
            refine ⟨rfl, pending, Classical.byContradiction fun filled => ?_⟩
            obtain ⟨c, t, rest, -⟩ := blanks_filled filled
            rw [indentOf_blanks, Nat.zero_add, rest] at none
            cases none
        · dsimp only at step
          repeat' split at step
          all_goals cases step
      · cases step

theorem Twin.clean (h : Twin w w' st st') (clean : st.Clean) : st'.Clean := by
  have kinds := congrArg (List.map (·.1)) h.tokens
  rw [marks_kinds, marks_kinds] at kinds
  intro t ht stray
  have within : TokenKind.stray ∈ st.tokens.map (·.kind) := kinds ▸ stray ▸ List.mem_map_of_mem ht
  obtain ⟨u, hu, same⟩ := List.mem_map.mp within
  exact clean u hu same

/-- Where a line goes on behind a joint it may stand behind other text. -/
theorem scanLine_goesOn {out st₂ : Scanner} (h : Twin w w' { st with continued := false } st₂) (goes : st.continued = true)
    (shut : st.pending = none) (mid : freshBehind st.tokens = false) (line : OneLine l) (on : GoesOn row' l st₂ out)
    (step : scanLine row l st = .next st₁) (clean : st₁.Clean) : Twin w w' st₁ out := by
  obtain ⟨b, pos, fuel, blank, room, rfl⟩ := on
  rw [scanLine_shut row l shut, if_neg (by simp [goes])] at step
  cases step
  obtain ⟨fuel, rfl⟩ := Nat.exists_eq_add_one_of_ne_zero (Nat.ne_zero_of_lt room)
  rw [List.length_append] at room
  have enough : l.length < fuel + 1 := by omega
  rw [scanRest_fuel (Nat.lt_succ_self l.length) enough] at clean ⊢
  have twin : Twin w w' (scanRest row (fuel + 1) 0 l _) (scanRest row' (fuel + 1) (pos + b.length) l st₂) :=
    scanRest_twin h shut (.inr ⟨mid, line⟩) (fuel + 1) 0 (pos + b.length)
  rwa [scanRest_blanks blank (twin.clean clean)]

section

variable (w w')

/-- At the head of a line. -/
def Folds.Starts (row : Nat) (st : Scanner) (ls ls' : List (List Char)) : Prop :=
  ∀ {row' : Nat} {st' : Scanner} {last last' : List Char}, Twin w w' st st' → st.Calm →
    Rows w row ls → Rows w' row' ls' → closesLine last = closesLine last' →
    Follows w w' (scanFrom row last st ls) (scanFrom row' last' st' ls')

/-- Behind a joint that is taken out. -/
def Folds.Continues (row : Nat) (st : Scanner) (ls ls' : List (List Char)) : Prop :=
  ∀ {row' : Nat} {st₂ out : Scanner} {last last' l' : List Char} {ls₁ : List (List Char)}, ls' = l' :: ls₁ →
    st.continued = true → st.pending = none → freshBehind st.tokens = false →
    Twin w w' { st with continued := false } st₂ → GoesOn row' l' st₂ out → closesLine last' = closesLine l' →
    Rows w row ls → Rows w' (row' + 1) ls₁ →
    Follows w w' (scanFrom row last st ls) (scanFrom (row' + 1) last' out ls₁)

end

namespace Folds

theorem starts_done : Starts w w' row st [] [] := by
  intro row' st' last last' twin calm _ _ same fin ends clean
  obtain ⟨⟨shut, depth, goes⟩, rfl⟩ := scanFrom_end ends
  have there : scanFrom row' last' st' [] = (scanEnd row' last' st', .complete) := by
    rw [scanFrom, twin.closed shut]
    exact if_neg (by simp [← twin.depth, depth, ← twin.continued, goes])
  exact ⟨_, there, scanEnd_twin twin shut row row' same⟩

theorem starts_last (step : scanLine row l st = .last st₁) : Starts w w' row st [l] [l] := by
  intro row' st' last last' twin calm lead lead' same fin ends clean
  rw [scanFrom, step] at ends
  cases ends
  have twins := scanLine_twin twin (lead.1.trans lead'.1.symm) l
  rw [step] at twins
  generalize there : scanLine row' l st' = step' at twins
  cases twins with
  | last twin' =>
      rw [scanFrom, there]
      exact ⟨_, rfl, scanEnd_twin twin' (scanLine_last step).2.1 row row' same⟩

/-- A last line without text is not behind a joint. -/
theorem continues_last (step : scanLine row l st = .last st₁) : Continues w w' row st [l] [l] := by
  intro row' st₂ out last last' l' ls₁ split goes shut
  rw [scanLine_shut row l shut, if_neg (by simp [goes])] at step
  cases step

theorem starts_keep (step : scanLine row l st = .next st₁) (line : OneLine l) (rest : Starts w w' (row + 1) st₁ ls ls') :
    Starts w w' row st (l :: ls) (l :: ls') := by
  intro row' st' last last' twin calm lead lead' same
  have twins := scanLine_twin twin (lead.1.trans lead'.1.symm) l
  rw [step] at twins
  rw [scanFrom_next step]
  generalize there : scanLine row' l st' = step' at twins
  cases twins with
  | next twin' =>
      rw [scanFrom_next there]
      exact rest twin' (scanLine_calm line calm step) lead.2 lead'.2 rfl

theorem continues_keep (step : scanLine row l st = .next st₁) (line : OneLine l)
    (rest : Starts w w' (row + 1) st₁ ls ls') : Continues w w' row st (l :: ls) (l :: ls') := by
  intro row' st₂ out last last' l' ls₁ split goes shut mid twin on same lead lead' fin ends clean
  obtain ⟨rfl, rfl⟩ := List.cons.inj split
  have read := scanLine_goesOn twin goes shut mid line on step (scanFrom_clean step ends clean)
  rw [scanFrom_next step] at ends
  exact rest read (scanLine_calm line (fun pending => absurd shut pending) step) lead.2 lead' same.symm fin ends clean

theorem goesOn_behind {out : Scanner} {row' : Nat} (blank : Blank b) (on : GoesOn row' (b ++ l') st out) :
    GoesOn row' l' st out := by
  obtain ⟨b', pos, fuel, blank', room, read⟩ := on
  rw [← List.append_assoc] at room read
  exact ⟨b' ++ b, pos, fuel, fun c hc => (List.mem_append.mp hc).elim (blank' c) (blank c), room, read⟩

section

variable (step : scanLine row (p ++ joint) st = .next st₁) (closed : st₁.pending = none)
  (comments : ∀ t ∈ st₁.tokens, t.kind = .comment → t.row ≠ row) (ahead : Ahead p) (blank : Blank b)
  (separate : Separate p (b ++ l')) (ended : closesLine (p ++ (b ++ l')) = closesLine l')
  (rest : Continues w w' (row + 1) st₁ (l :: ls) (l' :: ls'))
include step closed comments ahead blank separate ended rest

theorem starts_join (filled : ¬ Blank p) : Starts w w' row st ((p ++ joint) :: l :: ls) ((p ++ (b ++ l')) :: ls') := by
  intro row' st' last last' twin calm lead lead' same fin ends clean
  have level : w row = w' row' := by
    rw [lead.1, lead'.1, narrowWidth_append filled, narrowWidth_append filled]
  obtain ⟨out, there, goes, mid, st₂, twin', on⟩ :=
    scanLine_ahead twin level ahead separate (scanFrom_clean step ends clean) closed comments calm filled step
  rw [scanFrom_next there]
  rw [scanFrom_next step] at ends
  exact rest rfl goes closed mid twin' (goesOn_behind blank on) ended lead.2 lead'.2 fin ends clean

theorem continues_join : Continues w w' row st ((p ++ joint) :: l :: ls) ((p ++ (b ++ l')) :: ls') := by
  intro row' st₂ out last last' m ls₁ split goes shut mid twin on same lead lead' fin ends clean
  obtain ⟨rfl, rfl⟩ := List.cons.inj split
  obtain ⟨b', pos, fuel, blank', room, rfl⟩ := on
  have known := scanFrom_clean step ends clean
  rw [scanFrom_next step] at ends
  rw [scanLine_shut row _ shut, if_neg (by simp [goes])] at step
  cases step
  obtain ⟨goes', mid', st₃, twin', on⟩ := scanRest_ahead twin shut rfl (.inr mid) (.inr mid) ahead separate blank'
    (Nat.lt_succ_self (p ++ joint).length) room 0 pos known closed comments
  exact rest rfl goes' closed mid' twin' (goesOn_behind blank on) (same.trans ended) lead.2 lead' fin ends clean

end

theorem follows (h : Folds row st ls ls') :
    Starts w w' row st ls ls' ∧ (ls ≠ [] → Continues w w' row st ls ls') := by
  induction h with
  | done => exact ⟨starts_done, fun filled => absurd rfl filled⟩
  | last step => exact ⟨starts_last step, fun _ => continues_last step⟩
  | keep step line rest ih => exact ⟨starts_keep step line ih.1, fun _ => continues_keep step line ih.1⟩
  | join step shut comments ahead filled blank separate ended rest ih =>
      have on : Continues w w' _ _ _ _ := ih.2 (List.cons_ne_nil _ _)
      exact ⟨starts_join step shut comments ahead blank separate ended on filled,
        fun _ => continues_join step shut comments ahead blank separate ended on⟩

end Folds

end Script
end Patchwork
