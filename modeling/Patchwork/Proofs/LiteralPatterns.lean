import Patchwork.Pattern.Basic

/-!
Patterns for literal text. Whatever the text is, its escaped form is read back as its characters one behind the other.
-/

namespace Patchwork.Pattern

open Patchwork.Text

/-! ## What a reader does to text without flags -/

namespace Reader

variable {α β : Type} {s t : Reading} {c : Char} {r : List Char}

theorem bind_of_ok {m : Reader α} {a : α} (h : m s = .ok (a, t)) (f : α → Reader β) : (m >>= f) s = f a t := by
  simp only [bind, StateT.bind, h, Except.bind]

theorem get_run (s : Reading) : (get : Reader Reading) s = .ok (s, s) := rfl

theorem rest_run (s : Reading) : rest s = .ok (s.rest, s) := rfl

theorem place_run (s : Reading) : place s = .ok (s.length - s.rest.length, s) := rfl

theorem setRest_run (r : List Char) (s : Reading) : setRest r s = .ok ((), { s with rest := r }) := rfl

theorem has_run (f : Flag) (s : Reading) : has f s = .ok (s.flags.contains f, s) := rfl

theorem next_run {raw : Bool} (plain : s.verbose = false) (text : s.rest = c :: r) :
    next raw s = .ok (some c, { s with rest := r }) := by
  have whole : (s.verbose && !raw) = false := by rw [plain, Bool.false_and]
  rw [next, bind_of_ok (get_run s)]
  simp only [whole, text, Bool.false_eq_true, if_false]
  rfl

theorem next_end {raw : Bool} (plain : s.verbose = false) (text : s.rest = []) : next raw s = .ok (none, s) := by
  have whole : (s.verbose && !raw) = false := by rw [plain, Bool.false_and]
  rw [next, bind_of_ok (get_run s)]
  simp only [whole, text, Bool.false_eq_true, if_false]
  rw [bind_of_ok (setRest_run [] s), ← text]
  rfl

theorem accept_end {word : String} (plain : s.verbose = false) (text : s.rest = []) (some : word.toList ≠ []) :
    accept word s = .ok (false, s) := by
  rw [accept, bind_of_ok (get_run s), plain, text]
  cases read : word.toList with
  | nil => exact absurd read some
  | cons c w => rfl

end Reader

open Reader

variable {s : Reading} {c : Char} {r w : List Char} {fuel : Nat} {items : List Item}

theorem literalChar_run (c : Char) (bare : s.flags = []) : literalChar c s = .ok (.char c .exact, s) := by
  have exact : casing s = .ok (.exact, s) := by
    rw [casing, bind_of_ok (has_run .ignoreCase s), bare]
    rfl
  rw [literalChar, bind_of_ok exact]
  rfl

/-- What is escaped is neither a letter nor a digit, so that its escape stands for nothing but itself. -/
theorem plain_of_escaped (h : (isSpecial c || isBlank c) = true) : c.isAlpha = false ∧ c.isDigit = false := by
  rw [Bool.or_eq_true] at h
  rcases h with special | blank
  · have all : "()[]\x7b\x7d?*+|^$\\.-#&~".toList.all (fun c => !c.isAlpha && !c.isDigit) = true := rfl
    simpa using List.all_eq_true.mp all c (List.contains_iff_mem.mp special)
  · simp only [isBlank, isWhite, Bool.or_eq_true, Bool.and_eq_true, decide_eq_true_eq, beq_iff_eq, Char.toNat] at blank
    have letter : c.isAlpha = (decide (65 ≤ c.val ∧ c.val ≤ 90) || (decide (97 ≤ c.val) && decide (c.val ≤ 122))) := rfl
    have digit : c.isDigit = (decide (48 ≤ c.val) && decide (c.val ≤ 57)) := rfl
    rw [letter, digit]
    simp only [Bool.or_eq_false_iff, Bool.and_eq_false_iff, decide_eq_false_iff_not, UInt32.le_iff_toNat_le,
      UInt32.reduceToNat]
    omega

theorem escape_run (escaped : (isSpecial c || isBlank c) = true) (plain : s.verbose = false) (bare : s.flags = [])
    (text : s.rest = c :: r) : escape s = .ok (.char c .exact, { s with rest := r }) := by
  obtain ⟨noLetter, noDigit⟩ := plain_of_escaped escaped
  have other (d : Char) (letter : d.isAlpha = true) : (c == d) = false := by
    rw [beq_eq_false_iff_ne]
    rintro rfl
    rw [noLetter] at letter
    cases letter
  have short : hexLength? c = none := by
    rw [hexLength?.eq_def]
    split
    all_goals first | rfl | cases noLetter
  have read : Pattern.escaped s = .ok (c, { s with rest := r }) := by
    rw [Pattern.escaped, bind_of_ok (next_run plain text)]
    rfl
  rw [escape, bind_of_ok read]
  simp only [short, other 'g' rfl, other 'G' rfl, other 'L' rfl, other 'N' rfl, other 'p' rfl, other 'P' rfl, other 'R' rfl,
    other 'X' rfl, noLetter, noDigit, Bool.or_self, Bool.false_eq_true, if_false]
  exact literalChar_run c bare

/-! ## Reading the escaped form -/

theorem sequence_end (plain : s.verbose = false) (text : s.rest = []) :
    sequence (fuel + 1) items s = .ok (Node.ofList (items.reverse.filterMap id), s) := by
  rw [sequence, bind_of_ok (rest_run s), bind_of_ok (place_run s), bind_of_ok (next_end plain text)]
  rfl

theorem sequence_escaped (escaped : (isSpecial c || isBlank c) = true) (plain : s.verbose = false) (bare : s.flags = [])
    (text : s.rest = '\\' :: c :: r) :
    sequence (fuel + 1) items s = sequence fuel (some (.char c .exact) :: items) { s with rest := r } := by
  have read := escape_run (s := { s with rest := c :: r }) escaped plain bare rfl
  rw [sequence, bind_of_ok (rest_run s), bind_of_ok (place_run s), bind_of_ok (next_run plain text)]
  simp only [bind_of_ok read]

theorem sequence_letter (letter : isSpecial c = false) (plain : s.verbose = false) (bare : s.flags = [])
    (text : s.rest = c :: r) :
    sequence (fuel + 1) items s = sequence fuel (some (.char c .exact) :: items) { s with rest := r } := by
  have other (d : Char) (special : isSpecial d = true) : c ≠ d := by
    rintro rfl
    rw [letter] at special
    cases special
  have once : quantifier c = pure none := by
    rw [quantifier.eq_def]
    split
    all_goals first | rfl | cases letter
  have notOpen : (c == '\x7b') = false := beq_eq_false_iff_ne.mpr (other _ rfl)
  have itself := literalChar_run (s := { s with rest := r }) c bare
  rw [sequence, bind_of_ok (rest_run s), bind_of_ok (place_run s), bind_of_ok (next_run plain text)]
  simp only [other ')' rfl, other '|' rfl, other '\\' rfl, other '(' rfl, other '.' rfl, other '[' rfl, other '^' rfl,
    other '$' rfl, once, pure_bind, notOpen, Bool.false_eq_true, if_false, imp_self]
  exact bind_of_ok itself _

theorem escapedText_cons (c : Char) (w : List Char) :
    escapedText (c :: w) = (if isSpecial c || isBlank c then ['\\', c] else [c]) ++ escapedText w := rfl

/-- An escaped text is read as its characters, whatever stands before it. -/
theorem sequence_escapedText (room : w.length < fuel) (plain : s.verbose = false) (bare : s.flags = []) :
    sequence fuel items { s with rest := escapedText w } =
      .ok (Node.ofList (items.reverse.filterMap id ++ w.map (.char · .exact)), { s with rest := [] }) := by
  induction w generalizing fuel items with
  | nil =>
      obtain ⟨fuel, rfl⟩ : ∃ f, fuel = f + 1 := Nat.exists_eq_add_one.mpr room
      rw [List.map_nil, List.append_nil]
      exact sequence_end plain rfl
  | cons c w ih =>
      obtain ⟨fuel, rfl⟩ : ∃ f, fuel = f + 1 := Nat.exists_eq_add_one.mpr (Nat.zero_lt_of_lt room)
      have step : sequence (fuel + 1) items { s with rest := escapedText (c :: w) } =
          sequence fuel (some (.char c .exact) :: items) { s with rest := escapedText w } := by
        by_cases escaped : (isSpecial c || isBlank c) = true
        · refine sequence_escaped escaped plain bare (r := escapedText w) ?_
          rw [escapedText_cons, if_pos escaped]
          rfl
        · refine sequence_letter (by simp_all) plain bare (r := escapedText w) ?_
          rw [escapedText_cons, if_neg escaped]
          rfl
      rw [step, ih (Nat.lt_of_succ_lt_succ room)]
      simp

/-- The escaped form of a text is never shorter than the text. -/
theorem length_le_escapedText (w : List Char) : w.length ≤ (escapedText w).length := by
  induction w with
  | nil => exact Nat.le_refl _
  | cons c w ih =>
      have some : 1 ≤ (if isSpecial c || isBlank c then ['\\', c] else [c]).length := by split <;> simp
      rw [escapedText_cons, List.length_append, List.length_cons]
      omega

/-- The program of the escaped form, with nothing else to report. -/
theorem readOnce_escapedText (w : List Char) :
    ∃ s : Reading, readOnce [] [] (escapedText w) = .ok (Node.literal w, s) ∧ s.names = [] ∧ s.count = 0 ∧ s.flags = [] := by
  let start : Reading :=
    { rest := escapedText w, length := (escapedText w).length, global := [], flags := [], verbose := false }
  have room : w.length < 8 * (escapedText w).length + 15 := by have := length_le_escapedText w; omega
  have first : sequence (8 * (escapedText w).length + 15) [none] start = _ :=
    sequence_escapedText (s := start) room rfl rfl
  have read : (alternatives (8 * (escapedText w).length + 16)).run start = .ok (Node.literal w, { start with rest := [] }) := by
    rw [StateT.run, alternatives, bind_of_ok first, bind_of_ok (accept_end rfl rfl (by decide))]
    rfl
  refine ⟨{ start with rest := [] }, ?_, rfl, rfl, rfl⟩
  exact congrArg (· >>= _) read

theorem letters_ofList_chars (w : List Char) : (Node.literal w).letters = w.map (.char · .exact) := by
  induction w with
  | nil => rfl
  | cons c w ih =>
      cases w with
      | nil => rfl
      | cons d w => exact congrArg (Node.char c .exact :: ·) ih

theorem fuseRuns_chars (w : List Char) : Node.fuseRuns (w.map (.char · .exact)) = w.map (.char · .exact) := by
  induction w with
  | nil => rfl
  | cons c w ih => exact congrArg (Node.char c .exact :: ·) ih

theorem fused_literal (w : List Char) : (Node.literal w).fused = Node.literal w := by
  rw [Node.fused, letters_ofList_chars, Node.joined, fuseRuns_chars, Node.literal]

theorem read_escapedText (w : List Char) : readExtended [] (escapedText w) = .ok ({ root := Node.literal w }, []) := by
  obtain ⟨s, once, names, count, flags⟩ := readOnce_escapedText w
  have again : readAgain 24 [] [] (escapedText w) = .ok (Node.literal w, s) := by
    rw [readAgain, once]
    exact if_pos (.inl names)
  rw [readExtended, again]
  simp only [bind, Except.bind, pure, Except.pure, names, count, flags, fused_literal]
  rfl

/-- The pattern for literal text can be read, and its program is that of the text. -/
theorem compile_ofLiteral (text : String) :
    compile .extended (ofLiteral text).source [] = .ok (ofLiteral text) ∧ (ofLiteral text).program = literalProgram text := by
  have read : (ofLiteral text).dialect.read (ofLiteral text).flags (ofLiteral text).source.toList =
      .ok (literalProgram text, []) := by
    rw [ofLiteral, String.toList_ofList]
    exact read_escapedText text.toList
  exact ⟨congrArg (· >>= _) read, by simp only [program, read]⟩

end Patchwork.Pattern
