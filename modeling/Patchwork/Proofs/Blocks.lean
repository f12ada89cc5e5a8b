import Patchwork.Script.Block

/-!
Lines, and the blocks that stand in them. Lines end in the same places for all who read a text if nothing but line feeds
ends one. A blank line behind a definition does not belong to its block.
-/

namespace Patchwork

/-! ## Lines -/

namespace Text

variable {line s t : List Char}

theorem wideLinesFrom_flatten (line s : List Char) : (wideLinesFrom line s).flatten = line.reverse ++ s := by
  fun_induction wideLinesFrom line s with
  | case1 line blank => simpa using blank
  | case2 => simp
  | case3 line r ih => simp [ih]
  | case4 line c r _ _ ih => simp [ih]
  | case5 line c r _ _ ih => simp [ih]

theorem wideLines_flatten (s : List Char) : (wideLines s).flatten = s :=
  wideLinesFrom_flatten [] s

theorem wideLinesFrom_nonempty (line s : List Char) : [] ∉ wideLinesFrom line s := by
  fun_induction wideLinesFrom line s with
  | case1 => exact List.not_mem_nil
  | case2 line blank => simpa using blank
  | case3 line r ih => simpa using ih
  | case4 line c r _ _ ih => simpa using ih
  | case5 line c r _ _ ih => exact ih

/-- One character at a time, but where a carriage return and a line feed stand together. -/
theorem wideLinesFrom_cons (line : List Char) {c : Char} {r : List Char} (alone : c = '\r' → r.head? ≠ some '\n') :
    wideLinesFrom line (c :: r) =
      if isLineBreak c then (c :: line).reverse :: wideLinesFrom [] r else wideLinesFrom (c :: line) r := by
  refine wideLinesFrom.eq_3 line c r fun r' here next => alone here ?_
  rw [next]
  rfl

theorem apart_append {c : Char} {r : List Char} (alone : ∀ r', c = '\r' → r = '\n' :: r' → False) (more : r ≠ [])
    (t : List Char) (here : c = '\r') : (r ++ t).head? ≠ some '\n' := by
  cases r with
  | nil => exact absurd rfl more
  | cons d r =>
      intro next
      cases next
      exact alone r here rfl

/-- What stands behind a line feed stands in lines of its own. -/
theorem wideLinesFrom_append (h : s.getLast? = some '\n') (t : List Char) :
    wideLinesFrom line (s ++ t) = wideLinesFrom line s ++ wideLines t := by
  fun_induction wideLinesFrom line s with
  | case1 => cases h
  | case2 => cases h
  | case3 line r ih =>
      rw [List.cons_append, List.cons_append, wideLinesFrom]
      cases r with
      | nil => rfl
      | cons c r => rw [ih (by simpa using h), List.cons_append]
  | case4 line c r alone ends ih =>
      cases r with
      | nil =>
          cases h
          rfl
      | cons d r =>
          have apart := apart_append alone (List.cons_ne_nil d r) t
          rw [List.cons_append, wideLinesFrom_cons line apart, if_pos ends, ih (by simpa using h), List.cons_append]
  | case5 line c r alone goes ih =>
      cases r with
      | nil =>
          cases h
          exact absurd rfl goes
      | cons d r =>
          have apart := apart_append alone (List.cons_ne_nil d r) t
          rw [List.cons_append, wideLinesFrom_cons line apart, if_neg goes, ih (by simpa using h)]

theorem wideLines_append (h : s.getLast? = some '\n') (t : List Char) :
    wideLines (s ++ t) = wideLines s ++ wideLines t :=
  wideLinesFrom_append h t

/-- A text without line ends is one line. -/
theorem wideLinesFrom_unbroken (line : List Char) (h : ∀ c ∈ s, isLineBreak c = false) :
    wideLinesFrom line (s ++ ['\n']) = [line.reverse ++ s ++ ['\n']] := by
  induction s generalizing line with
  | nil => simp [wideLinesFrom, isLineBreak]
  | cons c r ih =>
      have within : isLineBreak c = false := h c List.mem_cons_self
      have apart : c = '\r' → (r ++ ['\n']).head? ≠ some '\n' := by
        rintro rfl
        cases within
      rw [List.cons_append, wideLinesFrom_cons line apart, if_neg (by rw [within]; exact Bool.false_ne_true),
        ih _ fun d hd => h d (List.mem_cons_of_mem c hd)]
      simp

/-- The two ways of splitting a text agree where nothing but line feeds ends a line. -/
theorem wideLinesFrom_eq_linesFrom (line : List Char) (h : ∀ c ∈ s, isLineBreak c = true → c = '\n') :
    wideLinesFrom line s = linesFrom (· == '\n') line s := by
  induction s generalizing line with
  | nil => rfl
  | cons c r ih =>
      have apart : c = '\r' → r.head? ≠ some '\n' := by
        rintro rfl
        cases h '\r' List.mem_cons_self rfl
      have rest := fun line => ih line fun d hd => h d (List.mem_cons_of_mem c hd)
      have both : isLineBreak c = (c == '\n') := by
        cases ends : isLineBreak c with
        | true => exact (beq_iff_eq.mpr (h c List.mem_cons_self ends)).symm
        | false =>
            refine (beq_eq_false_iff_ne.mpr ?_).symm
            rintro rfl
            cases ends
      rw [wideLinesFrom_cons line apart, linesFrom, both, rest, rest]

theorem wideLines_eq_feedLines (h : ∀ c ∈ s, isLineBreak c = true → c = '\n') : wideLines s = feedLines s :=
  wideLinesFrom_eq_linesFrom [] h

/-- The last line of a text ends as the text does. -/
theorem wideLines_getLast {last : List Char} (h : (wideLines s).getLast? = some last) : last.getLast? = s.getLast? := by
  obtain ⟨lines, split⟩ := List.getLast?_eq_some_iff.mp h
  have joined := wideLines_flatten s
  rw [split, List.flatten_append, List.flatten_singleton] at joined
  have filled : last ≠ [] := by
    rintro rfl
    exact wideLinesFrom_nonempty [] s (List.mem_of_getLast? h)
  rw [← joined, List.getLast?_append, List.getLast?_eq_some_getLast filled, Option.some_or]

end Text

/-! ## Scans -/

namespace Script

/-- The tokens of a scan that goes on stay. -/
theorem scanRest_tokens (row fuel pos : Nat) (s : List Char) (st : Scanner) :
    st.tokens <:+ (scanRest row fuel pos s st).tokens := by
  induction fuel generalizing pos s st with
  | zero => exact List.suffix_rfl
  | succ fuel ih =>
      rw [scanRest]
      split
      · exact List.suffix_rfl
      · dsimp only
        repeat' split
        all_goals first
          | exact List.suffix_rfl
          | exact List.IsSuffix.trans List.suffix_rfl (ih _ _ { st with continued := true })
          | refine List.IsSuffix.trans ?_ (ih _ _ _)
            exact List.suffix_cons _ _

theorem closeBlocks_tokens {row pos column : Nat} {indents : List Nat} {st st' : Scanner}
    (h : closeBlocks row pos column indents st = some st') : st.tokens <:+ st'.tokens := by
  induction indents generalizing st with
  | nil => cases h
  | cons top below ih =>
      rw [closeBlocks] at h
      split at h
      · split at h
        · exact (List.suffix_cons _ _).trans (ih h)
        · cases h
      · cases h
        exact List.suffix_rfl

/-- What a line leaves of the scan, whether it is the last one or not. -/
def LineStep.scanner : LineStep → Scanner
  | .next st | .last st | .uneven st => st

theorem scanStatement_tokens (row : Nat) (line : List Char) (st : Scanner) :
    st.tokens <:+ (scanStatement row line st).scanner.tokens := by
  rw [scanStatement]
  generalize indentOf 0 0 line = start
  obtain ⟨column, pos⟩ := start
  dsimp only
  split
  · exact List.suffix_rfl
  split
  · refine List.IsSuffix.trans ?_ (List.suffix_cons _ _)
    repeat' split
    all_goals first
      | exact List.suffix_rfl
      | exact List.suffix_cons _ _
  · split
    · next closed =>
        refine List.IsSuffix.trans ?_ ((closeBlocks_tokens closed).trans (scanRest_tokens _ _ _ _ _))
        split
        · exact List.suffix_cons _ _
        · exact List.suffix_rfl
    · dsimp only [LineStep.scanner]
      split
      · exact List.suffix_cons _ _
      · exact List.suffix_rfl

theorem scanLine_tokens (row : Nat) (line : List Char) (st : Scanner) :
    st.tokens <:+ (scanLine row line st).scanner.tokens := by
  rw [scanLine]
  split
  · split
    · refine List.IsSuffix.trans ?_ (scanRest_tokens _ _ _ _ _)
      exact List.suffix_cons _ _
    · split
      · exact List.suffix_cons _ _
      · exact List.suffix_rfl
  · split
    · exact scanStatement_tokens row line st
    · exact scanRest_tokens _ _ _ _ { st with continued := false }

theorem dedents_tokens (row : Nat) (indents : List Nat) (st : Scanner) :
    ∃ ts, (indents.foldl (fun st _ => st.push .dedent [] row 0 0) st).tokens = ts ++ st.tokens ∧
      ∀ t ∈ ts, t.kind = .dedent := by
  induction indents generalizing st with
  | nil => exact ⟨[], rfl, nofun⟩
  | cons _ r ih =>
      obtain ⟨ts, pushed, dedents⟩ := ih (st.push .dedent [] row 0 0)
      refine ⟨ts ++ [⟨.dedent, [], row, 0, 0⟩], ?_, ?_⟩
      · rw [List.foldl_cons, pushed, List.append_assoc]
        rfl
      · intro t ht
        rcases List.mem_append.mp ht with ht | ht
        · exact dedents t ht
        · rw [List.mem_singleton.mp ht]

theorem dedents_suffix (row : Nat) (indents : List Nat) (st : Scanner) :
    st.tokens <:+ (indents.foldl (fun st _ => st.push .dedent [] row 0 0) st).tokens := by
  obtain ⟨ts, pushed, -⟩ := dedents_tokens row indents st
  exact ⟨ts, pushed.symm⟩

theorem scanEnd_tokens (row : Nat) (last : List Char) (st : Scanner) :
    st.tokens <:+ (scanEnd row last st).tokens := by
  rw [scanEnd]
  refine List.IsSuffix.trans ?_ (List.suffix_cons _ _)
  refine List.IsSuffix.trans ?_ (dedents_suffix row _ _)
  generalize (_ || _ : Bool) = ended
  cases ended with
  | true => exact List.suffix_rfl
  | false => exact List.suffix_cons _ _

/-- Behind a line feed a scan closes with the open blocks and the end mark. -/
theorem scanEnd_closers (row : Nat) {last : List Char} (st : Scanner) (h : ∀ c, last.getLast? = some c → c = '\n') :
    ∃ ts, (scanEnd row last st).tokens = ts ++ st.tokens ∧ ∀ t ∈ ts, t.kind = .dedent ∨ t.kind = .finish := by
  have plain : scanEnd row last st =
      (st.indents.dropLast.foldl (fun st _ => st.push .dedent [] row 0 0) st).push .finish [] row 0 0 := by
    rw [scanEnd]
    cases there : last.getLast? with
    | none => rfl
    | some c =>
        cases h c there
        rfl
  obtain ⟨ts, pushed, dedents⟩ := dedents_tokens row st.indents.dropLast st
  refine ⟨⟨.finish, [], row, 0, 0⟩ :: ts, ?_, ?_⟩
  · rw [plain, List.cons_append, ← pushed]
    rfl
  · intro t ht
    rcases List.mem_cons.mp ht with rfl | ht
    · exact .inr rfl
    · exact .inl (dedents t ht)

theorem scanFrom_tokens (row : Nat) (last : List Char) (st : Scanner) (lines : List (List Char)) :
    st.tokens <:+ (scanFrom row last st lines).1.tokens := by
  induction lines generalizing row last st with
  | nil =>
      rw [scanFrom]
      repeat' split
      all_goals first
        | exact List.suffix_rfl
        | exact scanEnd_tokens row last st
  | cons line lines ih =>
      rw [scanFrom]
      have stepped := scanLine_tokens row line st
      cases step : scanLine row line st with
      | next st' =>
          rw [step] at stepped
          exact stepped.trans (ih (row + 1) line st')
      | last st' =>
          rw [step] at stepped
          exact stepped.trans (scanEnd_tokens row last st')
      | uneven st' =>
          rw [step] at stepped
          exact stepped

/-- A scan of some lines comes to its end before the others, or goes on from there. -/
theorem scanFrom_append (row : Nat) (last : List Char) (st : Scanner) (lines more : List (List Char)) :
    scanFrom row last st (lines ++ more) = scanFrom row last st lines ∨
      ∃ st', scanFrom row last st lines = scanFrom (row + lines.length) (lines.getLast?.getD last) st' [] ∧
        scanFrom row last st (lines ++ more) = scanFrom (row + lines.length) (lines.getLast?.getD last) st' more := by
  induction lines generalizing row last st with
  | nil => exact .inr ⟨st, rfl, rfl⟩
  | cons line lines ih =>
      rw [List.cons_append, scanFrom, scanFrom]
      cases scanLine row line st with
      | next st =>
          rcases ih (row + 1) line st with same | ⟨st', here, there⟩
          · exact .inl same
          · rw [List.length_cons, Nat.add_comm lines.length 1, ← Nat.add_assoc, List.getLast?_cons, Option.getD_some]
            exact .inr ⟨st', here, there⟩
      | last st => exact .inl rfl
      | uneven st => exact .inl rfl

/-- Nothing is left open behind a line. -/
def Scanner.Rests (st : Scanner) : Prop :=
  st.pending = none ∧ st.depth = 0 ∧ st.continued = false

/-- Where the lines end, something is left open or the scan closes. -/
theorem scanFrom_nil (row : Nat) (last : List Char) (st : Scanner) :
    (∃ o, scanFrom row last st [] = (st, o) ∧ o ≠ .complete ∧ o ≠ .unevenIndent) ∨
      st.Rests ∧ scanFrom row last st [] = (scanEnd row last st, .complete) := by
  rw [scanFrom]
  cases pending : st.pending with
  | some o => exact .inl ⟨_, rfl, nofun, nofun⟩
  | none =>
      by_cases left : st.depth ≠ 0 ∨ st.continued = true
      · exact .inl ⟨_, if_pos left, nofun, nofun⟩
      · have rests : st.depth = 0 ∧ st.continued = false := by simpa using left
        exact .inr ⟨⟨pending, rests⟩, if_neg left⟩

theorem scanFrom_blank (row : Nat) (last : List Char) {st : Scanner} (h : st.Rests) :
    scanFrom row last st [['\n']] = (scanEnd (row + 1) ['\n'] (st.push .gap ['\n'] row 0 1), .complete) := by
  obtain ⟨pending, depth, continued⟩ := h
  have gap : scanLine row ['\n'] st = .next (st.push .gap ['\n'] row 0 1) := by
    rw [scanLine, pending]
    exact if_pos ⟨depth, continued⟩
  rw [scanFrom, gap]
  dsimp only
  rw [scanFrom]
  simp [Scanner.push, pending, depth, continued]

namespace BlockFinder

variable {b : BlockFinder} {ts us : List Token}

/-- Tokens behind the end of a block are not looked at. -/
theorem run_append (b : BlockFinder) (ts us : List Token) :
    b.run (ts ++ us) = if (b.run ts).2 then b.run ts else (b.run ts).1.run us := by
  induction ts generalizing b with
  | nil => rfl
  | cons t r ih =>
      rw [List.cons_append, run, run]
      cases fed : b.feed t with
      | mk b' ended =>
          cases ended with
          | true => rfl
          | false => exact ih b'

theorem feed_last {t : Token} (newline : t.kind ≠ .newline) (comment : t.kind ≠ .comment) :
    (b.feed t).1.last = b.last := by
  rw [feed]
  split
  · rfl
  split
  · rfl
  · split <;> first | rfl | exact absurd ‹_› comment

/-- Only a statement's end and a comment move the end of a block. -/
theorem run_last (h : ∀ t ∈ ts, t.kind ≠ .newline ∧ t.kind ≠ .comment) : (b.run ts).1.last = b.last := by
  induction ts generalizing b with
  | nil => rfl
  | cons t r ih =>
      obtain ⟨newline, comment⟩ := h t List.mem_cons_self
      have same := feed_last (b := b) newline comment
      rw [run]
      cases fed : b.feed t with
      | mk b' ended =>
          rw [fed] at same
          cases ended with
          | true => exact same
          | false => exact (ih fun t ht => h t (List.mem_cons_of_mem _ ht)).trans same

end BlockFinder

/-! ## Blocks -/

theorem blockLength_ended {lines : List (List Char)} {ts : List Token} (h : ts <+: (scan lines).1)
    (ended : (BlockFinder.start.run ts).2 = true) : blockLength lines = .ok (BlockFinder.start.run ts).1.last := by
  obtain ⟨more, split⟩ := h
  rw [blockLength]
  cases scanned : scan lines with
  | mk tokens outcome =>
      rw [scanned] at split
      dsimp only at split ⊢
      rw [← split, BlockFinder.run_append, if_pos ended]
      exact if_pos ended

/-- Behind the last statement or comment of a text that can be scanned to its end nothing belongs to a block. -/
theorem blockLength_complete {lines : List (List Char)} {ts more : List Token} (h : scan lines = (ts ++ more, .complete))
    (silent : ∀ t ∈ more, t.kind ≠ .newline ∧ t.kind ≠ .comment) :
    blockLength lines = .ok (BlockFinder.start.run ts).1.last := by
  cases ended : (BlockFinder.start.run ts).2 with
  | true => exact blockLength_ended (by rw [h]; exact List.prefix_append ts more) ended
  | false =>
      rw [blockLength, h]
      dsimp only
      rw [BlockFinder.run_append, if_neg (ne_true_of_eq_false ended), BlockFinder.run_last silent]
      exact ite_self _

/-- A blank line behind a block does not belong to it. -/
theorem blockLength_blank {lines : List (List Char)} {n : Nat} (h : blockLength lines = .ok n)
    (ends : ∀ last, lines.getLast? = some last → last.getLast? = some '\n') : blockLength (lines ++ [['\n']]) = .ok n := by
  rcases scanFrom_append 1 [] .start lines [['\n']] with same | ⟨st, here, there⟩
  · rw [← h, blockLength, blockLength, scan, scan, same]
  have feed : ∀ c, (lines.getLast?.getD []).getLast? = some c → c = '\n' := by
    intro c last
    cases filled : lines.getLast? with
    | none =>
        rw [filled] at last
        cases last
    | some line =>
        rw [filled, Option.getD_some, ends line filled] at last
        exact (Option.some.inj last).symm
  generalize lines.getLast?.getD [] = last at here there feed
  generalize 1 + lines.length = row at here there
  have first : st.tokens.reverse <+: (scan lines).1 := by
    rw [scan, here]
    exact List.reverse_prefix.mpr (scanFrom_tokens row last st [])
  have longer : st.tokens.reverse <+: (scan (lines ++ [['\n']])).1 := by
    rw [scan, there]
    exact List.reverse_prefix.mpr (scanFrom_tokens row last st [['\n']])
  cases ended : (BlockFinder.start.run st.tokens.reverse).2 with
  | true => rw [← h, blockLength_ended first ended, blockLength_ended longer ended]
  | false =>
      rcases scanFrom_nil row last st with ⟨o, stuck, broken⟩ | ⟨rests, closed⟩
      · rw [blockLength, scan, here, stuck] at h
        dsimp only at h
        rw [ended, if_neg Bool.false_ne_true] at h
        split at h
        · exact absurd rfl broken.1
        · exact absurd rfl broken.2
        · cases h
      · obtain ⟨ts, tokens, closers⟩ := scanEnd_closers row st feed
        have feed' : ∀ c, ['\n'].getLast? = some c → c = '\n' := fun c is => (Option.some.inj is).symm
        obtain ⟨ts', tokens', closers'⟩ := scanEnd_closers (row + 1) (st.push .gap ['\n'] row 0 1) feed'
        have silent {ts : List Token} (closers : ∀ t ∈ ts, t.kind = .dedent ∨ t.kind = .finish) :
            ∀ t ∈ ts, t.kind ≠ .newline ∧ t.kind ≠ .comment := by
          intro t ht
          rcases closers t ht with kind | kind <;> rw [kind] <;> exact ⟨nofun, nofun⟩
        have short : scan lines = (st.tokens.reverse ++ ts.reverse, .complete) := by
          rw [scan, here, closed]
          dsimp only
          rw [tokens, List.reverse_append]
        have long : scan (lines ++ [['\n']]) =
            (st.tokens.reverse ++ ⟨.gap, ['\n'], row, 0, 1⟩ :: ts'.reverse, .complete) := by
          rw [scan, there, scanFrom_blank row last rests]
          dsimp only
          rw [tokens', List.reverse_append, Scanner.push, List.reverse_cons, List.append_assoc]
          rfl
        rw [← h, blockLength_complete short (silent fun t ht => closers t (List.mem_reverse.mp ht)),
          blockLength_complete long]
        intro t ht
        rcases List.mem_cons.mp ht with rfl | ht
        · exact ⟨nofun, nofun⟩
        · exact silent closers' t (List.mem_reverse.mp ht)

end Script

end Patchwork
