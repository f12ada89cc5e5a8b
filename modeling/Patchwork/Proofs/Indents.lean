import Patchwork.Proofs.Folds

/-!
Lines that lose blanks at their heads. Unless a quote is open, such a line is read as before, but for the blocks that it opens
and closes.
-/

namespace Patchwork

open Text

namespace Script

variable {row pos pos' fuel : Nat} {s b x l last last' : List Char} {st st' st₁ st₁' : Scanner}

/-- A token that does not open or close a block. -/
def Token.isContent (t : Token) : Bool :=
  t.kind != .indent && t.kind != .dedent

/-- What tokens hold apart from blocks, and in which rows. -/
def contents (ts : List Token) : List (TokenKind × List Char × Nat) :=
  (ts.filter (·.isContent)).map fun t => (t.kind, t.text, t.row)

theorem contents_push (st : Scanner) {kind : TokenKind} (indent : kind ≠ .indent) (dedent : kind ≠ .dedent)
    (text : List Char) (row a b : Nat) :
    contents (st.push kind text row a b).tokens = (kind, text, row) :: contents st.tokens := by
  have content : Token.isContent ⟨kind, text, row, a, b⟩ = true := by simp [Token.isContent, indent, dedent]
  rw [Scanner.push, contents, List.filter_cons_of_pos content]
  rfl

/-- A scan opens or closes a block. -/
theorem contents_block (st : Scanner) {kind : TokenKind} (block : kind = .indent ∨ kind = .dedent) (text : List Char)
    (row a b : Nat) : contents (st.push kind text row a b).tokens = contents st.tokens := by
  have other : ¬ Token.isContent ⟨kind, text, row, a, b⟩ = true := by
    rcases block with rfl | rfl <;> exact Bool.false_ne_true
  rw [Scanner.push, contents, List.filter_cons_of_neg other, contents]

/-- Scans that have read the same, but for blocks. -/
structure Alike (st st' : Scanner) : Prop where
  tokens : contents st.tokens = contents st'.tokens
  depth : st.depth = st'.depth
  continued : st.continued = st'.continued
  strict : st.strict = st'.strict
  pending : st.pending.map (fun o => (o.text, o.row, o.quote, o.triple, o.joined)) =
    st'.pending.map fun o => (o.text, o.row, o.quote, o.triple, o.joined)

namespace Alike

theorem refl (st : Scanner) : Alike st st :=
  ⟨rfl, rfl, rfl, rfl, rfl⟩

theorem trans (h : Alike st st') (h' : Alike st' st₁) : Alike st st₁ :=
  ⟨h.tokens.trans h'.tokens, h.depth.trans h'.depth, h.continued.trans h'.continued, h.strict.trans h'.strict,
    h.pending.trans h'.pending⟩

theorem symm (h : Alike st st') : Alike st' st :=
  ⟨h.tokens.symm, h.depth.symm, h.continued.symm, h.strict.symm, h.pending.symm⟩

theorem shut (h : Alike st st') : st.pending = none ↔ st'.pending = none := by
  have same := h.pending
  rw [← Option.map_eq_none_iff, same, Option.map_eq_none_iff]

theorem push (h : Alike st st') {kind : TokenKind} (indent : kind ≠ .indent) (dedent : kind ≠ .dedent) (text : List Char)
    (row a b a' b' : Nat) : Alike (st.push kind text row a b) (st'.push kind text row a' b') :=
  { h with
    tokens := by rw [contents_push st indent dedent, contents_push st' indent dedent, h.tokens] }

theorem took (h : Alike st st') {kind : TokenKind} (indent : kind ≠ .indent) (dedent : kind ≠ .dedent) (skip n : Nat) :
    Alike (st.took kind skip n row pos s) (st'.took kind skip n row pos' s) :=
  h.push indent dedent _ _ _ _ _ _

theorem left (h : Alike st st') (skip : Nat) (q : Char) (triple : Bool) :
    Alike (st.left skip row pos q triple s) (st'.left skip row pos' q triple s) :=
  { h with
    pending := by
      rw [Scanner.left, Scanner.left, h.strict]
      rfl }

theorem block (h : Alike st st') {kind : TokenKind} (block : kind = .indent ∨ kind = .dedent) (indents : List Nat)
    (text : List Char) (row a b : Nat) : Alike (({ st with indents := indents }).push kind text row a b) st' :=
  { h with tokens := (contents_block _ block text row a b).trans h.tokens }

end Alike

theorem scanRest_alike (h : Alike st st') : Alike (scanRest row fuel pos s st) (scanRest row fuel pos' s st') := by
  induction fuel generalizing pos pos' s st st' with
  | zero => exact h
  | succ fuel ih =>
      rw [scanRest_piece, scanRest_piece, ← h.depth]
      cases found : pieceAt (0 < st.depth) s with
      | none => exact h
      | token kind k n =>
          obtain ⟨indent, dedent, -⟩ := pieceAt_token found
          exact ih (h.took indent dedent k n)
      | sign k n =>
          refine ih (Alike.took ?_ TokenKind.noConfusion TokenKind.noConfusion k n)
          exact { h with depth := congrArg (· + _) h.depth }
      | joint k n => exact ih { h with continued := rfl }
      | opens k q triple =>
          exact h.left k q triple

theorem closeBlocks_alike {column : Nat} {indents : List Nat} (closed : closeBlocks row pos column indents st = some st₁) :
    Alike st₁ st := by
  induction indents generalizing st with
  | nil => cases closed
  | cons top below ih =>
      rw [closeBlocks] at closed
      split at closed
      · split at closed
        · exact (ih closed).trans ((Alike.refl st).block (.inr rfl) below [] row pos pos)
        · cases closed
      · obtain rfl := Option.some.inj closed
        exact .refl _

theorem opened_alike (st : Scanner) (row column pos : Nat) (lead : List Char) : Alike (st.opened row column pos lead) st := by
  rw [Scanner.opened]
  split
  · exact (Alike.refl st).block (.inl rfl) _ lead row 0 pos
  · exact .refl st

/-- A comment or blanks on a line of their own. -/
def Scanner.remarked (st : Scanner) (comment gap : List Char) (row pos length : Nat) : Scanner :=
  (if comment.isEmpty then st else st.push .comment comment row pos (pos + comment.length)).push .gap gap row
    (pos + comment.length) length

theorem remarked_alike (h : Alike st st') (comment gap : List Char) (length length' : Nat) :
    Alike (st.remarked comment gap row pos length) (st'.remarked comment gap row pos' length') := by
  rw [Scanner.remarked, Scanner.remarked]
  refine Alike.push ?_ TokenKind.noConfusion TokenKind.noConfusion _ _ _ _ _ _
  split
  · exact h
  · exact h.push TokenKind.noConfusion TokenKind.noConfusion _ _ _ _ _ _

/-- Two lines do the same to scans that are alike, unless the indentation of one is uneven. -/
inductive LineStep.Alike : LineStep → LineStep → Prop where
  | next {st st' : Scanner} (h : Script.Alike st st') : LineStep.Alike (.next st) (.next st')
  | last {st st' : Scanner} (h : Script.Alike st st') : LineStep.Alike (.last st) (.last st')
  | uneven {st : Scanner} {step : LineStep} : LineStep.Alike (.uneven st) step
  | uneven' {st : Scanner} {step : LineStep} : LineStep.Alike step (.uneven st)

theorem scanStatement_alike (h : Alike st st') (blank : Blank b) :
    LineStep.Alike (scanStatement row (b ++ x) st) (scanStatement row x st') := by
  have start (s : List Char) : (indentOf 0 0 s).2 = blanks s := (indentOf_blanks 0 0 s).trans (Nat.zero_add _)
  rw [scanStatement_eq, scanStatement_eq]
  simp only [start, ← List.drop_drop, drop_blanks blank x]
  cases x.drop (blanks x) with
  | nil => exact .last h
  | cons c t =>
      dsimp only
      split
      · exact .next (remarked_alike h _ _ _ _)
      · generalize (indentOf 0 0 (b ++ x)).1 = column
        generalize (b ++ x).take (blanks (b ++ x)) = lead
        generalize (indentOf 0 0 x).1 = column'
        generalize x.take (blanks x) = lead'
        have opened := opened_alike st row column (blanks (b ++ x)) lead
        have opened' := opened_alike st' row column' (blanks x) lead'
        cases closed : closeBlocks row (blanks (b ++ x)) column (st.opened row column (blanks (b ++ x)) lead).indents
            (st.opened row column (blanks (b ++ x)) lead) with
        | none => exact .uneven
        | some st₁ =>
            cases closed' : closeBlocks row (blanks x) column' (st'.opened row column' (blanks x) lead').indents
                (st'.opened row column' (blanks x) lead') with
            | none => exact .uneven'
            | some st₁' =>
                have here := (closeBlocks_alike closed).trans opened
                have there := (closeBlocks_alike closed').trans opened'
                exact .next (scanRest_alike (here.trans (h.trans there.symm)))

theorem Alike.opens (h : Alike st st') {o : OpenText} (pending : st.pending = some o) :
    ∃ o', st'.pending = some o' ∧ o.text = o'.text ∧ o.row = o'.row ∧ o.quote = o'.quote ∧ o.triple = o'.triple ∧
      o.joined = o'.joined := by
  have same := h.pending
  cases pending' : st'.pending with
  | none =>
      rw [pending, pending'] at same
      cases same
  | some o' =>
      rw [pending, pending'] at same
      exact ⟨o', rfl, by simpa using same⟩

/-- A line that may lose blanks at its head, but not if a quote is open. -/
theorem scanLine_alike (h : Alike st st') (blank : Blank b) (kept : st.pending ≠ none → b = [])
    (clean : ∀ st₁, scanLine row (b ++ x) st = .next st₁ → st₁.Clean) :
    LineStep.Alike (scanLine row (b ++ x) st) (scanLine row x st') := by
  cases pending : st.pending with
  | none =>
      have shut := h.shut.mp pending
      rw [scanLine_shut row _ pending] at clean ⊢
      rw [scanLine_shut row _ shut]
      by_cases starts : st.depth = 0 ∧ st.continued = false
      · rw [if_pos starts, if_pos (h.depth ▸ h.continued ▸ starts)]
        exact scanStatement_alike h blank
      · rw [if_neg starts] at clean ⊢
        rw [if_neg (h.depth ▸ h.continued ▸ starts)]
        have clean := clean _ rfl
        have going : Alike { st with continued := false } { st' with continued := false } := { h with continued := rfl }
        refine .next ?_
        rw [List.length_append] at clean ⊢
        have known := clean.known
        rw [drop_blanks blank] at known
        have enough : x.length < b.length + x.length + 1 := by omega
        rw [scanRest_piece, pieceAt_blanks blank known, scanPiece_later, ← scanRest_piece,
          scanRest_fuel enough (Nat.lt_succ_self x.length)]
        exact scanRest_alike going
  | some o =>
      obtain rfl := kept (by rw [pending]; exact Option.some_ne_none o)
      obtain ⟨o', pending', text, row, quote, triple, joined⟩ := h.opens pending
      rw [List.nil_append, scanLine_open _ x pending, scanLine_open _ x pending', ← text, ← row, ← quote, ← triple,
        ← joined]
      have closed (strict : Bool) : Alike { st with pending := none, strict := strict }
          { st' with pending := none, strict := strict } :=
        { h with strict := rfl, pending := rfl }
      cases closing? o.quote o.triple 0 x with
      | some n => exact .next (scanRest_alike ((closed false).push TokenKind.noConfusion TokenKind.noConfusion _ _ _ _ _ _))
      | none =>
          dsimp only
          split
          · exact .next ((closed true).push TokenKind.noConfusion TokenKind.noConfusion _ _ _ _ _ _)
          · exact .next { h with pending := by simp [quote, triple, joined, row] }

theorem Scanner.lineEnded_alike (h : Alike st st') (same : closesLine last = closesLine last') :
    Alike (st.lineEnded row last) (st'.lineEnded row last') := by
  rw [Scanner.lineEnded, Scanner.lineEnded, ← same]
  split
  · exact h
  · exact h.push TokenKind.noConfusion TokenKind.noConfusion _ _ _ _ _ _

theorem Scanner.dedented_alike (st : Scanner) (row : Nat) (indents : List Nat) : Alike (st.dedented row indents) st := by
  induction indents generalizing st with
  | nil => exact .refl st
  | cons n indents ih => exact (ih _).trans ((Alike.refl st).block (.inr rfl) st.indents [] row 0 0)

theorem scanEnd_alike (h : Alike st st') (same : closesLine last = closesLine last') :
    Alike (scanEnd row last st) (scanEnd row last' st') := by
  have ended : Alike (st.lineEnded row last) (st'.lineEnded row last') := Scanner.lineEnded_alike h same
  have blocks := Scanner.dedented_alike (st.lineEnded row last) row (st.lineEnded row last).indents.dropLast
  have blocks' := Scanner.dedented_alike (st'.lineEnded row last') row (st'.lineEnded row last').indents.dropLast
  rw [scanEnd_eq, scanEnd_eq]
  exact (blocks.trans (ended.trans blocks'.symm)).push TokenKind.noConfusion TokenKind.noConfusion _ _ _ _ _ _

/-- The comments of a row are the same. -/
theorem Alike.comments (h : Alike st st') (none : ∀ t ∈ st.tokens, t.kind = .comment → t.row ≠ row) :
    ∀ t ∈ st'.tokens, t.kind = .comment → t.row ≠ row := by
  intro t ht comment here
  have content : t.isContent = true := by rw [Token.isContent, comment]; rfl
  have within : (t.kind, t.text, t.row) ∈ contents st.tokens := by
    rw [h.tokens]
    exact List.mem_map_of_mem (List.mem_filter.mpr ⟨ht, content⟩)
  obtain ⟨u, hu, same⟩ := List.mem_map.mp within
  obtain ⟨kind, same⟩ := Prod.mk.inj same
  exact none u (List.mem_filter.mp hu).1 (kind.trans comment) ((Prod.mk.inj same).2.trans here)

theorem Alike.clean (h : Alike st st') (clean : st.Clean) : st'.Clean := by
  intro t ht stray
  have content : t.isContent = true := by rw [Token.isContent, stray]; rfl
  have within : (t.kind, t.text, t.row) ∈ contents st.tokens := by
    rw [h.tokens]
    exact List.mem_map_of_mem (List.mem_filter.mpr ⟨ht, content⟩)
  obtain ⟨u, hu, same⟩ := List.mem_map.mp within
  exact clean u (List.mem_filter.mp hu).1 ((Prod.mk.inj same).1.trans stray)

end Script
end Patchwork
