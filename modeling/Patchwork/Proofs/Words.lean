import Mathlib.Data.List.Chain
import Patchwork.Proofs.Seams

/-!
The words of a text by its tokens. No two tokens of a text touch in one word if none of them is stray, so the words depend on
what the tokens are and on how far in their statements stand.
-/

namespace Patchwork

open Text

namespace Script

variable {row pos fuel n k : Nat} {c : Char} {s : List Char} {st st' : Scanner} {t u : Token} {ts ts' : List Token}
  {w w' : Nat → Nat} {kind : TokenKind} {inner : Bool}

/-! ## Where words begin and end -/

/-- What is known of the characters at both ends of a lexeme. -/
def Lexeme.Bounded (s : List Char) : Lexeme → Prop
  | .comment _ | .lineEnd _ | .operator _ => ∀ c ∈ s.head?, isNameLike c = false
  | .number _ => ∀ c ∈ s.head?, isNameLike c = true → isNameChar c = true
  | .name n => (∀ c ∈ s.head?, isNameChar c = true) ∧ ∀ c ∈ (s.drop n).head?, isNameChar c = false
  | _ => True

theorem isNameChar_of_digit (h : c.isDigit = true) : isNameChar c = true := by
  have small : c.toNat < 0x80 := by
    rw [Char.isDigit, Bool.and_eq_true, decide_eq_true_eq, decide_eq_true_eq] at h
    have := UInt32.le_iff_toNat_le.mp h.2
    rw [Char.toNat]
    have : '9'.val.toNat = 57 := rfl
    omega
  rw [isNameChar, isAlphanumeric, if_pos small, Char.isAlphanum, h, Bool.or_true, Bool.true_or]

/-- A number starts with a digit or a point. -/
theorem numberRun_head (h : numberRun (c :: s) ≠ 0) : c.isDigit = true ∨ c = '.' := by
  by_contra other
  rw [not_or, Bool.not_eq_true] at other
  obtain ⟨digit, point⟩ := other
  have zero : c ≠ '0' := by
    rintro rfl
    cases digit
  have decimal : decimalRun (c :: s) = 0 := by simp [decimalRun, digitRun, digit]
  have real : floatRun (c :: s) = 0 := by
    rw [floatRun_plain (by simp [decimal, point]), if_pos (.inl decimal)]
  have whole : wholeRun (c :: s) = 0 := by rw [wholeRun_plain (by simpa using zero), decimal]
  exact h (by simp [numberRun, decimal, real, whole])

/-- No operator starts like a name. -/
theorem operators_apart : operators.all (fun w => w.toList.head?.any (!isNameLike ·)) = true := by
  decide

theorem operatorRun_head (h : operatorRun (c :: s) ≠ 0) : isNameLike c = false := by
  rw [operatorRun] at h
  split at h
  · next w found =>
      have apart := List.all_eq_true.mp operators_apart w (List.mem_of_find?_eq_some found)
      have start := List.find?_some found
      rw [startsWith_iff] at start
      cases front : w.toList with
      | nil => simp [front] at apart
      | cons d r =>
          rw [front, List.cons_prefix_cons] at start
          rw [front] at apart
          simpa [start.1] using apart
  · exact absurd rfl h

theorem signLexeme_bounded {other : Lexeme} (h : other.Bounded s) : (signLexeme s other).Bounded s := by
  rw [signLexeme]
  split
  · next number =>
      intro c hc like
      obtain ⟨r, rfl⟩ := List.head?_eq_some_iff.mp hc
      rcases numberRun_head number with digit | rfl
      · exact isNameChar_of_digit digit
      · cases like
  · split
    · next operator =>
        intro c hc
        obtain ⟨r, rfl⟩ := List.head?_eq_some_iff.mp hc
        exact operatorRun_head operator
    · exact h

theorem nameLexeme_bounded (s : List Char) : (nameLexeme s).Bounded s := by
  rw [nameLexeme]
  split
  · trivial
  · next some_ =>
      constructor
      · intro c hc
        obtain ⟨r, rfl⟩ := List.head?_eq_some_iff.mp hc
        by_contra other
        exact some_ (by rw [List.takeWhile_cons_of_neg other]; rfl)
      · intro c hc
        have split : s.takeWhile isNameChar ++ s.dropWhile isNameChar = s := List.takeWhile_append_dropWhile
        have rest : (s.takeWhile isNameChar ++ s.dropWhile isNameChar).drop (s.takeWhile isNameChar).length =
            s.dropWhile isNameChar := List.drop_left
        rw [split] at rest
        have ends := List.head?_dropWhile_not isNameChar s
        rw [rest] at hc
        rw [hc] at ends
        simpa using ends

theorem plainLexeme_bounded (s : List Char) : (plainLexeme s).Bounded s := by
  cases found : quoteAt? s with
  | none => exact plainLexeme_none found ▸ signLexeme_bounded (nameLexeme_bounded s)
  | some mark =>
      rw [plainLexeme_some found]
      refine signLexeme_bounded ?_
      cases quoteEnd mark.2 (mark.1 + 1) (s.drop (mark.1 + 1)) with
      | broken => exact nameLexeme_bounded s
      | closed n => trivial
      | continued => trivial

theorem lexeme_bounded (s : List Char) : (lexeme s).Bounded s := by
  rw [lexeme.eq_def]
  split
  case h_4 | h_5 | h_6 => exact fun c hc => Option.some.inj hc ▸ rfl
  case h_7 =>
    repeat' split
    all_goals first
      | exact plainLexeme_bounded s
      | trivial
  all_goals trivial

/-! ## Tokens that touch -/

namespace Token

/-- A token behind which a name may go on. -/
structure Leads (t : Token) : Prop where
  filled : t.text ≠ []
  like : t.text.all isNameLike = true
  text : t.kind ≠ .text
  number : t.kind ≠ .number

/-- A token that goes on a name where it touches one. -/
structure Trails (u : Token) : Prop where
  filled : u.text ≠ []
  like : u.text.all isNameLike = true
  kind : u.kind = .name ∨ u.kind = .number ∨ u.kind = .stray ∨ u.kind = .operator

/-- Two tokens that are one word. -/
structure Touches (u t : Token) : Prop where
  row : t.row = u.row
  column : t.endColumn = u.column
  leads : t.Leads
  trails : u.Trails

end Token

/-- Tokens apart from each other are words of their own. -/
theorem joinNames_apart_all (known : ∀ t ∈ ts, t.kind ≠ .stray) (apart : ts.IsChain fun t u => ¬ u.Touches t) :
    joinNames ts = ts := by
  induction ts with
  | nil => rfl
  | cons t r ih =>
      obtain ⟨first, rest⟩ := List.forall_mem_cons.mp known
      rw [joinNames, ih rest apart.tail]
      have alone : joinNames.lone t = t := by simp [joinNames.lone, first]
      cases r with
      | nil => rfl
      | cons u q =>
          have parted : ¬ u.Touches t := (List.isChain_cons_cons.mp apart).1
          dsimp only
          rw [alone, if_neg]
          intro joined
          refine parted ?_
          simp only [Bool.and_eq_true, decide_eq_true_eq] at joined
          obtain ⟨⟨⟨⟨⟨row, column⟩, like⟩, like'⟩, begins⟩, follows⟩ := joined
          refine ⟨row, column, ⟨?_, like, ?_, ?_⟩, ⟨?_, like', ?_⟩⟩
          · intro none
            rw [none] at begins
            cases kind : t.kind <;> simp [kind] at begins
          · intro kind
            simp [kind] at begins
          · intro kind
            simp [kind] at begins
          · intro none
            rw [none] at follows
            cases kind : u.kind <;> simp [kind] at follows
          · cases kind : u.kind <;> simp [kind] at follows ⊢

theorem head_taken (filled : s.take n ≠ []) (like : (s.take n).all isNameLike = true) :
    ∃ c, s.head? = some c ∧ isNameLike c = true := by
  cases s with
  | nil => simp at filled
  | cons c r =>
      cases n with
      | zero => simp at filled
      | succ n =>
          rw [List.take_succ_cons, List.all_cons, Bool.and_eq_true] at like
          exact ⟨c, rfl, like.1⟩

/-- A token off the head of a text starts a name where it looks like one, and takes all of it. -/
theorem pieceAt_bounded (found : pieceAt inner s = .token kind k n) (known : kind ≠ .stray) {u : Token}
    (own : u.kind = kind) (text : u.text = (s.drop k).take n) :
    (u.Trails → ∃ c, (s.drop k).head? = some c ∧ isNameChar c = true) ∧
      (u.Leads → ∀ c ∈ (s.drop (k + n)).head?, isNameChar c = false) := by
  have like {n : Nat} (filled : u.text ≠ []) (like : u.text.all isNameLike = true)
      (same : u.text = (s.drop (blanks s)).take n) : ∃ c, (s.drop (blanks s)).head? = some c ∧ isNameLike c = true := by
    rw [same] at filled like
    exact head_taken filled like
  rw [pieceAt] at found
  split at found
  · cases found
  have bounded := lexeme_bounded (s.drop (blanks s))
  cases lexed : lexeme (s.drop (blanks s)) with
  | stray =>
      rw [lexed] at found
      cases found
      exact absurd rfl known
  | triple m q =>
      rw [lexed, Lexeme.piece] at found
      split at found
      · cases found
        exact ⟨fun trails => absurd trails.kind (by simp [own]), fun leads => absurd own leads.text⟩
      · cases found
  | quoted m =>
      rw [lexed] at found
      cases found
      exact ⟨fun trails => absurd trails.kind (by simp [own]), fun leads => absurd own leads.text⟩
  | comment m | lineEnd m =>
      rw [lexed] at found bounded
      cases found
      have none (filled : u.text ≠ []) (same : u.text.all isNameLike = true) : False := by
        obtain ⟨c, head, yes⟩ := like filled same text
        cases yes.symm.trans (bounded c head)
      exact ⟨fun trails => (none trails.filled trails.like).elim, fun leads => (none leads.filled leads.like).elim⟩
  | number m =>
      rw [lexed] at found bounded
      cases found
      refine ⟨fun trails => ?_, fun leads => absurd own leads.number⟩
      obtain ⟨c, head, yes⟩ := like trails.filled trails.like text
      exact ⟨c, head, bounded c head yes⟩
  | name m =>
      rw [lexed] at found bounded
      cases found
      refine ⟨fun trails => ?_, fun leads c hc => ?_⟩
      · obtain ⟨c, head, -⟩ := like trails.filled trails.like text
        exact ⟨c, head, bounded.1 c head⟩
      · rw [← List.drop_drop] at hc
        exact bounded.2 c hc
  | _ =>
      rw [lexed] at found
      cases found

theorem pieceAt_sign (found : pieceAt inner s = .sign k n) {u : Token} (text : u.text = (s.drop k).take n) :
    ¬ u.Trails ∧ ¬ u.Leads := by
  rw [pieceAt] at found
  split at found
  · cases found
  have bounded := lexeme_bounded (s.drop (blanks s))
  cases lexed : lexeme (s.drop (blanks s)) with
  | operator m =>
      rw [lexed] at found bounded
      cases found
      have none (filled : u.text ≠ []) (like : u.text.all isNameLike = true) : False := by
        rw [text] at filled like
        obtain ⟨c, head, yes⟩ := head_taken filled like
        cases yes.symm.trans (bounded c head)
      exact ⟨fun trails => none trails.filled trails.like, fun leads => none leads.filled leads.like⟩
  | triple m q =>
      rw [lexed, Lexeme.piece] at found
      split at found <;> cases found
  | _ =>
      rw [lexed] at found
      cases found

/-- No two tokens of a scan touch, and what is read next does not touch the last one. -/
structure Scanner.Parted (row pos : Nat) (s : List Char) (st : Scanner) : Prop where
  chain : st.tokens.IsChain fun u t => ¬ u.Touches t
  last : ∀ t ∈ st.tokens.head?, t.row < row ∨
    t.row = row ∧ t.endColumn ≤ pos ∧ (t.endColumn = pos → t.Leads → ∀ c ∈ s.head?, isNameChar c = false)

/-- No two tokens of the rows before one touch. -/
structure Scanner.PartedAbove (row : Nat) (st : Scanner) : Prop where
  chain : st.tokens.IsChain fun u t => ¬ u.Touches t
  last : ∀ t ∈ st.tokens.head?, t.row < row
  open_ : ∀ o ∈ st.pending, o.row < row

namespace Scanner

theorem PartedAbove.parted (h : st.PartedAbove row) (pos : Nat) (s : List Char) : st.Parted row pos s :=
  ⟨h.chain, fun t ht => .inl (h.last t ht)⟩

theorem Parted.above (h : st.Parted row pos s) (shut : st.pending = none) : st.PartedAbove (row + 1) where
  chain := h.chain
  last t ht := (h.last t ht).elim (fun before => Nat.lt_succ_of_lt before) fun here => Nat.lt_succ_of_le here.1.le
  open_ o ho := by rw [shut] at ho; cases ho

/-- A token that starts no name where it touches the last one. -/
theorem Parted.push (h : st.Parted row pos s) {text : List Char} {column endColumn : Nat} {r : List Char}
    (later : pos ≤ column)
    (trails : Token.Trails ⟨kind, text, row, column, endColumn⟩ → column = pos →
      ∃ c, s.head? = some c ∧ isNameChar c = true)
    (leads : Token.Leads ⟨kind, text, row, column, endColumn⟩ → ∀ c ∈ r.head?, isNameChar c = false) :
    (st.push kind text row column endColumn).Parted row endColumn r where
  chain := by
    refine List.isChain_cons.mpr ⟨fun t ht touches => ?_, h.chain⟩
    rcases h.last t ht with before | ⟨-, most, shut⟩
    · exact absurd touches.row (Nat.ne_of_lt before)
    · have same : t.endColumn = column := touches.column
      have here : column = pos := Nat.le_antisymm (same ▸ most) later
      obtain ⟨c, head, yes⟩ := trails touches.trails here
      cases yes.symm.trans (shut (same.trans here) touches.leads c head)
  last t ht := by
    obtain rfl := Option.some.inj ht
    exact .inr ⟨rfl, Nat.le_refl _, fun _ => leads⟩

/-- A token without text, or one that starts and ends no name. -/
theorem Parted.pushApart (h : st.Parted row pos s) {text : List Char} {column : Nat} (later : pos ≤ column)
    (apart : text ≠ [] → text.all isNameLike = false) (endColumn : Nat) (r : List Char) :
    (st.push kind text row column endColumn).Parted row endColumn r := by
  have none (filled : text ≠ []) (like : text.all isNameLike = true) : False :=
    Bool.noConfusion (like.symm.trans (apart filled))
  exact h.push later (fun trails => (none trails.filled trails.like).elim) fun leads => (none leads.filled leads.like).elim

end Scanner

theorem scanRest_parted (h : st.Parted row pos s) (shut : st.pending = none) (clean : (scanRest row fuel pos s st).Clean) :
    (scanRest row fuel pos s st).PartedAbove (row + 1) := by
  induction fuel generalizing pos s st with
  | zero => exact h.above shut
  | succ fuel ih =>
      rw [scanRest_piece] at clean ⊢
      cases found : pieceAt (0 < st.depth) s with
      | none => exact h.above shut
      | token kind k n =>
          rw [found, scanPiece] at clean
          have known : kind ≠ .stray := fun stray =>
            clean _ ((scanRest_tokens row fuel _ _ _).subset List.mem_cons_self) stray
          obtain ⟨trails, leads⟩ := pieceAt_bounded found known
            (u := ⟨kind, (s.drop k).take n, row, pos + k, pos + k + n⟩) rfl rfl
          refine ih (h.push (Nat.le_add_right pos k) (fun u here => ?_) leads) shut clean
          obtain rfl : k = 0 := by omega
          exact trails u
      | sign k n =>
          rw [found, scanPiece] at clean
          obtain ⟨trails, leads⟩ := pieceAt_sign found (u := ⟨.operator, (s.drop k).take n, row, pos + k, pos + k + n⟩) rfl
          have deeper : Scanner.Parted row pos s { st with depth := st.depth + depthOf ((s.drop k).take n) } :=
            ⟨h.chain, h.last⟩
          exact ih (deeper.push (Nat.le_add_right pos k) (fun u => absurd u trails) fun u => absurd u leads) shut clean
      | joint k n =>
          rw [found, scanPiece] at clean
          have moves : 0 < n := by
            have moves := pieceAt_moves (0 < st.depth) s
            rwa [found] at moves
          refine ih ⟨h.chain, fun t ht => (h.last t ht).imp_right fun here => ?_⟩ shut clean
          have most := here.2.1
          exact ⟨here.1, by omega, fun same => by omega⟩
      | opens k q triple =>
          exact { h.above shut with open_ := fun o ho => Option.some.inj ho ▸ Nat.lt_succ_self row }

theorem closeBlocks_parted {column : Nat} {indents : List Nat} (h : st.Parted row pos s)
    (closed : closeBlocks row pos column indents st = some st') : st'.Parted row pos s := by
  induction indents generalizing st with
  | nil => cases closed
  | cons top below ih =>
      rw [closeBlocks] at closed
      split at closed
      · split at closed
        · have closing : Scanner.Parted row pos s { st with indents := below } := ⟨h.chain, h.last⟩
          exact ih (closing.pushApart (Nat.le_refl pos) (fun filled => absurd rfl filled) pos s) closed
        · cases closed
      · cases closed
        exact h

theorem opened_parted (h : st.PartedAbove row) (column : Nat) {lead : List Char} (blank : Blank lead) (s : List Char) :
    (st.opened row column pos lead).Parted row pos s := by
  rw [Scanner.opened]
  split
  · have opening : Scanner.Parted row 0 s { st with indents := column :: st.indents } :=
      ⟨h.chain, fun t ht => .inl (h.last t ht)⟩
    refine opening.pushApart (Nat.le_refl 0) (fun filled => ?_) pos s
    obtain ⟨c, r, rfl⟩ := List.exists_cons_of_ne_nil filled
    have other : isNameLike c = false := by
      have := blank c List.mem_cons_self
      simp only [isLineBlank, Bool.or_eq_true, beq_iff_eq] at this
      rcases this with (rfl | rfl) | rfl <;> rfl
    rw [List.all_cons, other, Bool.false_and]
  · exact h.parted pos s

/-- A comment on a line of its own, and what is behind it. -/
theorem remarked_parted (h : st.PartedAbove row) (shut : st.pending = none) (comment gap : List Char) (pos length : Nat) :
    (st.remarked comment gap row pos length).PartedAbove (row + 1) := by
  have none {kind : TokenKind} (other : kind = .comment ∨ kind = .gap) (text : List Char) (a b : Nat) :
      ¬ Token.Trails ⟨kind, text, row, a, b⟩ := fun trails => by
    have kinds := trails.kind
    rcases other with rfl | rfl <;> simp at kinds
  have noted : (if comment.isEmpty then st else st.push .comment comment row pos (pos + comment.length)).Parted row
      (pos + comment.length) [] := by
    split
    · exact h.parted _ []
    · exact (h.parted pos []).push (Nat.le_refl pos) (fun trails => (none (.inl rfl) _ _ _ trails).elim) nofun
  have behind : (st.remarked comment gap row pos length).Parted row length [] :=
    noted.push (Nat.le_refl _) (fun trails => (none (.inr rfl) _ _ _ trails).elim) nofun
  refine behind.above ?_
  rw [Scanner.remarked]
  split <;> exact shut

theorem scanStatement_parted {line : List Char} (h : st.PartedAbove row) (shut : st.pending = none)
    (step : scanStatement row line st = .next st') (clean : st'.Clean) : st'.PartedAbove (row + 1) := by
  rw [scanStatement_eq] at step
  split at step
  · cases step
  · next c t _ =>
      split at step
      · cases step
        exact remarked_parted h shut _ _ _ _
      · dsimp only at step
        split at step
        · next st₁ closed =>
            cases step
            have blank : Blank (line.take (indentOf 0 0 line).2) := by
              rw [indentOf_blanks, Nat.zero_add, blanks, ← List.prefix_iff_eq_take.mp (List.takeWhile_prefix _)]
              exact fun c hc => List.all_eq_true.mp List.all_takeWhile c hc
            have kept := (closeBlocks_keeps closed).2.1.trans ((st.opened_keeps row _ _ _).2.1.trans shut)
            exact scanRest_parted (closeBlocks_parted (opened_parted h _ blank _) closed) kept clean
        · cases step

theorem scanLine_parted {line : List Char} (h : st.PartedAbove row) (step : scanLine row line st = .next st')
    (clean : st'.Clean) : st'.PartedAbove (row + 1) := by
  cases pending : st.pending with
  | none =>
      rw [scanLine_shut row line pending] at step
      split at step
      · exact scanStatement_parted h pending step clean
      · cases step
        have going : ({ st with continued := false } : Scanner).Parted row 0 line := ⟨h.chain, (h.parted 0 line).last⟩
        exact scanRest_parted going pending clean
  | some o =>
      have before := h.open_ o pending
      rw [scanLine_open row line pending] at step
      split at step
      · next n closed =>
          cases step
          refine scanRest_parted (s := line.drop n) ⟨?_, fun t ht => .inl (Option.some.inj ht ▸ before)⟩ rfl clean
          refine List.isChain_cons.mpr ⟨fun t _ touches => ?_, h.chain⟩
          exact absurd touches.trails.kind (by simp)
      · split at step
        · cases step
          exact absurd rfl (clean _ List.mem_cons_self)
        · cases step
          exact ⟨h.chain, fun t ht => Nat.lt_succ_of_lt (h.last t ht),
            fun u hu => Option.some.inj hu ▸ Nat.lt_succ_of_lt before⟩

/-- A token without text touches none. -/
theorem Scanner.push_parted (h : st.tokens.IsChain fun u t => ¬ u.Touches t) (kind : TokenKind) (row a b : Nat) :
    (st.push kind [] row a b).tokens.IsChain fun u t => ¬ u.Touches t :=
  List.isChain_cons.mpr ⟨fun _ _ touches => touches.trails.filled rfl, h⟩

theorem scanEnd_parted (h : st.tokens.IsChain fun u t => ¬ u.Touches t) (row : Nat) (last : List Char) :
    (scanEnd row last st).tokens.IsChain fun u t => ¬ u.Touches t := by
  have ended : (st.lineEnded row last).tokens.IsChain fun u t => ¬ u.Touches t := by
    rw [Scanner.lineEnded]
    split
    · exact h
    · exact Scanner.push_parted h _ _ _ _
  rw [scanEnd_eq]
  refine Scanner.push_parted ?_ _ _ _ _
  generalize (st.lineEnded row last).indents.dropLast = indents
  generalize st.lineEnded row last = st₁ at ended
  induction indents generalizing st₁ with
  | nil => exact ended
  | cons n indents ih => exact ih _ (Scanner.push_parted ended _ _ _ _)

theorem scanFrom_parted {last : List Char} {lines : List (List Char)} (h : st.PartedAbove row)
    (ends : scanFrom row last st lines = (st', .complete)) (clean : st'.Clean) :
    st'.tokens.IsChain fun u t => ¬ u.Touches t := by
  induction lines generalizing row last st with
  | nil =>
      rcases scanFrom_nil row last st with ⟨o, here, other, -⟩ | ⟨-, here⟩
      · rw [here] at ends
        exact absurd (congrArg Prod.snd ends) other
      · rw [here] at ends
        cases ends
        exact scanEnd_parted h.chain row last
  | cons line rest ih =>
      cases step : scanLine row line st with
      | next st₁ =>
          have parted := scanLine_parted h step (scanFrom_clean step ends clean)
          rw [scanFrom_next step] at ends
          exact ih parted ends
      | last st₁ =>
          rw [scanFrom, step] at ends
          cases ends
          exact scanEnd_parted ((scanLine_last step).1 ▸ h.chain) row last
      | uneven st₁ =>
          rw [scanFrom, step] at ends
          cases congrArg Prod.snd ends

/-! ## Words that marks tell -/

theorem marks_drop (w : Nat → Nat) (ts : List Token) (n : Nat) : (marks w ts).drop n = marks w (ts.drop n) := by
  induction ts generalizing n with
  | nil => simp [marks]
  | cons t ts ih =>
      cases n with
      | zero => rfl
      | succ n => exact ih n

/-- What tokens are in kind and text. -/
def Token.reading (t : Token) : TokenKind × List Char :=
  (t.kind, t.text)

theorem marks_readings (h : marks w ts = marks w' ts') : ts.map Token.reading = ts'.map Token.reading := by
  have shown (w : Nat → Nat) (ts : List Token) : (marks w ts).map (fun m => (m.1, m.2.1)) = ts.map Token.reading := by
    induction ts with
    | nil => rfl
    | cons t ts ih => rw [marks, List.map_cons, ih]; rfl
  rw [← shown w, h, shown]

/-- Indentation is steady by what the tokens are and by how far in their statements stand. -/
theorem isSteady_marks {a b : Array (List Char)} {us us' : List Token} (ts ts' : List Token)
    (h : marks (leadWidth a) (us.reverse ++ ts) = marks (leadWidth b) (us'.reverse ++ ts')) (even : us.length = us'.length)
    (widths : List Nat) (depth : Int) :
    isSteady a widths depth (freshBehind ts) us = isSteady b widths depth (freshBehind ts') us' := by
  induction us generalizing us' ts ts' widths depth with
  | nil =>
      obtain rfl := List.length_eq_zero_iff.mp even.symm
      rw [isSteady, isSteady]
  | cons t r ih =>
      cases us' with
      | nil => cases even
      | cons t' r' =>
          have even : r.length = r'.length := Nat.succ.inj even
          rw [List.reverse_cons, List.reverse_cons, List.append_assoc, List.append_assoc, List.singleton_append,
            List.singleton_append] at h
          have here := congrArg (List.drop r.length) h
          rw [marks_drop, marks_drop, List.drop_left' (List.length_reverse), List.drop_left' (by simp [even])] at here
          have rest (widths : List Nat) (depth : Int) := ih _ _ h even widths depth
          rw [← marks_fresh here] at rest
          rw [marks, marks] at here
          obtain ⟨head, tail⟩ := List.cons.inj here
          obtain ⟨kind, mark⟩ := Prod.mk.inj head
          obtain ⟨text, level⟩ := Prod.mk.inj mark
          have wide (led : isLed t.kind (freshBehind ts) = true) : leadWidth a t.row = leadWidth b t'.row := by
            rw [← marks_fresh tail, ← kind, if_pos led, if_pos led] at level
            exact Option.some.inj level
          have fresh : freshBehind ts' = freshBehind ts := (marks_fresh tail).symm
          rw [isSteady, isSteady, fresh, ← kind, ← text]
          cases known : t.kind with
          | indent =>
              rw [freshBehind, List.map_cons, known] at rest
              simp only [wide (known ▸ rfl)]
              exact congrArg _ (rest _ _)
          | dedent | newline | comment | gap =>
              rw [freshBehind, List.map_cons, known] at rest
              exact rest _ _
          | finish => rfl
          | name | number | text | operator | stray =>
              rw [freshBehind, List.map_cons, known] at rest
              cases now : freshBehind ts with
              | false =>
                  simp only [Bool.not_false, Bool.true_or]
                  exact congrArg _ (rest _ _)
              | true =>
                  simp only [wide (known ▸ now)]
                  exact congrArg _ (rest _ _)

/-- A word without its row. -/
def Word.unplaced (w : Word) : Word :=
  { w with row := 0 }

theorem wordOf?_reading (h : t.reading = u.reading) :
    (wordOf? t).map (·.map Word.unplaced) = (wordOf? u).map (·.map Word.unplaced) := by
  obtain ⟨kind, text⟩ := Prod.mk.inj h
  rw [wordOf?, wordOf?, ← kind, ← text]
  cases known : t.kind with
  | name =>
      dsimp only
      split
      · rfl
      · split <;> rfl
  | number =>
      simp only [Option.map_map]
      rfl
  | text =>
      simp only [Option.map_map]
      rfl
  | operator =>
      dsimp only
      cases t.text with
      | nil => rfl
      | cons c r =>
          dsimp only
          split <;> rfl
  | _ => rfl

theorem mapM_wordOf?_readings {us : List Token} (h : ts.map Token.reading = us.map Token.reading) :
    ((ts.mapM wordOf?).map fun ws => (ws.filterMap id).map Word.unplaced) =
      (us.mapM wordOf?).map fun ws => (ws.filterMap id).map Word.unplaced := by
  induction ts generalizing us with
  | nil =>
      obtain rfl := List.map_eq_nil_iff.mp h.symm
      rfl
  | cons t r ih =>
      cases us with
      | nil => cases h
      | cons u q =>
          obtain ⟨head, tail⟩ := List.cons.inj h
          have rest := ih tail
          have first := wordOf?_reading head
          rw [List.mapM_cons, List.mapM_cons]
          generalize wordOf? t = found at first ⊢
          generalize wordOf? u = found' at first ⊢
          generalize r.mapM wordOf? = others at rest ⊢
          generalize q.mapM wordOf? = others' at rest ⊢
          rcases found with _ | x <;> rcases found' with _ | y
          · rfl
          · cases first
          · cases first
          · have here : x.map Word.unplaced = y.map Word.unplaced := Option.some.inj first
            rcases others with _ | ws <;> rcases others' with _ | ws'
            · rfl
            · cases rest
            · cases rest
            · have behind : (ws.filterMap id).map Word.unplaced = (ws'.filterMap id).map Word.unplaced :=
                Option.some.inj rest
              refine congrArg some ?_
              cases x <;> cases y <;> simp_all

/-- Texts whose tokens are marked alike have the same words, though in other rows. -/
theorem words?_marks {a b : List Char} {st st' : Scanner}
    (ends : scanFrom 1 [] .start (feedLines (unixEnds a)) = (st, .complete)) (clean : st.Clean)
    (ends' : scanFrom 1 [] .start (feedLines (unixEnds b)) = (st', .complete)) (clean' : st'.Clean)
    (same : marks (leadWidth (feedLines (unixEnds a)).toArray) st.tokens =
      marks (leadWidth (feedLines (unixEnds b)).toArray) st'.tokens) :
    (words? a).map (·.map Word.unplaced) = (words? b).map (·.map Word.unplaced) := by
  have apart {lines : List (List Char)} {st : Scanner} (ends : scanFrom 1 [] .start lines = (st, .complete))
      (clean : st.Clean) : joinNames st.tokens.reverse = st.tokens.reverse := by
    refine joinNames_apart_all (fun t ht => clean t (List.mem_reverse.mp ht)) (List.isChain_reverse.mpr ?_)
    have start : Scanner.start.PartedAbove 1 :=
      ⟨List.isChain_nil, fun _ h => absurd h (Option.not_mem_none _), fun _ h => absurd h (Option.not_mem_none _)⟩
    exact scanFrom_parted start ends clean
  have readings : st.tokens.reverse.map Token.reading = st'.tokens.reverse.map Token.reading := by
    rw [List.map_reverse, marks_readings same, List.map_reverse]
  have steady : isSteady (feedLines (unixEnds a)).toArray [0] 0 true st.tokens.reverse =
      isSteady (feedLines (unixEnds b)).toArray [0] 0 true st'.tokens.reverse := by
    have lengths := congrArg List.length readings
    rw [List.length_map, List.length_map] at lengths
    refine isSteady_marks [] [] ?_ lengths [0] 0
    rwa [List.reverse_reverse, List.append_nil, List.reverse_reverse, List.append_nil]
  rw [words?, words?, scan, scan, ends, ends']
  dsimp only
  rw [apart ends clean, apart ends' clean', steady]
  split
  · rw [Option.map_map, Option.map_map]
    exact mapM_wordOf?_readings readings
  · rfl

end Script
end Patchwork
