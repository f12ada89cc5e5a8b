import Mathlib.Data.List.Find
import Patchwork.Proofs.Joints

/-!
What is read off the head of a text. A blank, a backslash or an operator that is part of no other one, such as a bracket,
ends every lexeme outside of quotes, so that what stands before it is read without regard to what comes behind it. A quote on
one line may also go on behind a joint, but then it is open.
-/

namespace Patchwork

open Text

namespace Script

variable {a b r : List Char} {c : Char} {p : Char → Bool}

/-- The operators of one character that no other operator has in it. -/
def lones : List Char :=
  ['(', ')', '[', ']', '\x7b', '\x7d', ',', ';', '~']

/-- The characters that end every lexeme before them outside of quotes. -/
def stops : List Char :=
  [' ', '\x0c', '\t', '\\'] ++ lones

def IsStop (c : Char) : Prop :=
  c ∈ stops

theorem stop_slash : IsStop '\\' := by
  rw [IsStop]
  decide

/-- A text that starts with one. -/
def Stops (g : List Char) : Prop :=
  ∃ c r, g = c :: r ∧ IsStop c

theorem IsStop.of_all (h : IsStop c) (all : stops.all p = true) : p c = true :=
  List.all_eq_true.mp all c h

theorem IsStop.of_none (h : IsStop c) (none : stops.any p = false) : p c = false :=
  Bool.not_eq_true _ ▸ List.any_eq_false.mp none c h

theorem IsStop.digits (h : IsStop c) :
    c.isDigit = false ∧ isHex c = false ∧ isOctalDigit c = false ∧ isBinaryDigit c = false ∧ (c == '0') = false :=
  ⟨h.of_none rfl, h.of_none rfl, h.of_none rfl, h.of_none rfl, h.of_none (p := fun c => c == '0') rfl⟩

theorem IsStop.name (h : IsStop c) : isNameChar c = false ∧ c.isAlpha = false :=
  ⟨h.of_none rfl, h.of_none rfl⟩

theorem IsStop.ne (h : IsStop c) {d : Char} (other : stops.contains d = false) : c ≠ d := by
  rintro rfl
  exact Bool.noConfusion ((List.contains_iff_mem.mpr h).symm.trans other)

theorem IsStop.cases (h : IsStop c) : isLineBlank c = true ∨ c = '\\' ∨ c ∈ lones := by
  have found := h.of_all (p := fun c => isLineBlank c || c == '\\' || lones.contains c) rfl
  simpa [or_assoc] using found

theorem digitsWith_in (digit : p c = true) (r : List Char) : digitsWith p (c :: r) = 1 + digitsWith p r := by
  rw [digitsWith.eq_def]
  simp [digit]

theorem digitsWith_out (other : p c = false) (plain : c ≠ '_') (r : List Char) : digitsWith p (c :: r) = 0 := by
  rw [digitsWith.eq_3 _ _ _ fun _ _ same => absurd same plain, other, if_neg Bool.false_ne_true]

theorem digitsWith_stop (h : IsStop c) (out : p c = false) (b r : List Char) :
    digitsWith p (b ++ c :: r) = digitsWith p b := by
  induction b using digitsWith.induct p with
  | case1 => exact digitsWith_out out (h.ne rfl) r
  | case2 d b digit ih => rw [List.cons_append, digitsWith_in digit, digitsWith_in digit, ih]
  | case3 d b digit mark ih =>
      rw [List.cons_append, List.cons_append, digitsWith.eq_2, digitsWith.eq_2, if_neg mark, if_neg mark, ih]
  | case4 d b other mark =>
      rw [List.cons_append, List.cons_append, digitsWith.eq_2, digitsWith.eq_2, if_neg mark, if_neg mark, if_neg other,
        if_neg other]
  | case5 d b other lone =>
      rw [Bool.not_eq_true] at other
      by_cases mark : d = '_'
      · subst mark
        cases b with
        | nil => simp [digitsWith.eq_2, digitsWith.eq_3, other, out]
        | cons e b => exact absurd rfl (lone e b rfl)
      · rw [List.cons_append, digitsWith_out other mark, digitsWith_out other mark]

theorem digitRun_stop (h : IsStop c) (out : p c = false) (b r : List Char) :
    digitRun p (b ++ c :: r) = digitRun p b := by
  cases b with
  | nil => simp [digitRun, out]
  | cons d b => rw [List.cons_append, digitRun, digitRun, ← List.cons_append, digitsWith_stop h out]

theorem digitsWith_le (p : Char → Bool) (b : List Char) : digitsWith p b ≤ b.length := by
  induction b using digitsWith.induct p with
  | case1 => exact Nat.le_refl 0
  | case2 d b digit ih => rw [digitsWith_in digit, List.length_cons]; omega
  | case3 d b digit mark ih => rw [digitsWith.eq_2, if_neg mark, if_pos digit, List.length_cons, List.length_cons]; omega
  | case4 d b other mark => rw [digitsWith.eq_2, if_neg mark, if_neg other]; omega
  | case5 d b other lone => rw [digitsWith.eq_3 _ _ _ lone, if_neg other]; omega

theorem digitRun_le (p : Char → Bool) (b : List Char) : digitRun p b ≤ b.length := by
  cases b with
  | nil => exact Nat.le_refl 0
  | cons d b =>
      rw [digitRun]
      split
      · exact digitsWith_le p _
      · exact Nat.zero_le _

theorem decimalRun_stop (h : IsStop c) (b r : List Char) : decimalRun (b ++ c :: r) = decimalRun b :=
  digitRun_stop h h.digits.1 b r

theorem exponentRun_stop (h : IsStop c) (b r : List Char) : exponentRun (b ++ c :: r) = exponentRun b := by
  have plus := h.ne (d := '+') rfl
  have minus := h.ne (d := '-') rfl
  have e := h.ne (d := 'e') rfl
  have e' := h.ne (d := 'E') rfl
  have none (r : List Char) : decimalRun (c :: r) = 0 := decimalRun_stop h [] r
  rcases b with _ | ⟨d, _ | ⟨sign, b⟩⟩
  · simp [exponentRun, e, e']
  · simp [exponentRun, plus, minus, none]
  · have rest := decimalRun_stop h b r
    have whole := decimalRun_stop h (sign :: b) r
    rw [List.cons_append] at whole
    simp only [List.cons_append, exponentRun, rest, whole]

theorem exponentRun_le (b : List Char) : exponentRun b ≤ b.length := by
  rcases b with _ | ⟨d, _ | ⟨sign, b⟩⟩
  · exact Nat.le_refl 0
  · simp [exponentRun]
  · have rest : decimalRun b ≤ _ := digitRun_le _ b
    have whole : decimalRun (sign :: b) ≤ _ := digitRun_le _ (sign :: b)
    rw [List.length_cons] at whole
    rw [exponentRun, List.length_cons, List.length_cons]
    repeat' split
    all_goals omega

theorem drop_stop {n : Nat} (short : n ≤ b.length) (c : Char) (r : List Char) : (b ++ c :: r).drop n = b.drop n ++ c :: r :=
  List.drop_append_of_le_length short

theorem floatRun_point {q : List Char} (point : b.drop (decimalRun b) = '.' :: q) :
    floatRun b = if decimalRun b = 0 ∧ decimalRun q = 0 then 0
      else decimalRun b + 1 + decimalRun q + exponentRun (q.drop (decimalRun q)) := by
  rw [floatRun, point]
  rfl

theorem floatRun_plain (plain : ∀ q, b.drop (decimalRun b) ≠ '.' :: q) :
    floatRun b = if decimalRun b = 0 ∨ exponentRun (b.drop (decimalRun b)) = 0 then 0
      else decimalRun b + exponentRun (b.drop (decimalRun b)) := by
  rw [floatRun]
  split
  · next q point => exact absurd point (plain q)
  · rfl

theorem floatRun_stop (h : IsStop c) (b r : List Char) : floatRun (b ++ c :: r) = floatRun b := by
  have short : decimalRun b ≤ b.length := digitRun_le _ b
  have rest : (b ++ c :: r).drop (decimalRun (b ++ c :: r)) = b.drop (decimalRun b) ++ c :: r := by
    rw [decimalRun_stop h, drop_stop short]
  by_cases point : ∃ q, b.drop (decimalRun b) = '.' :: q
  · obtain ⟨q, point⟩ := point
    rw [floatRun_point (q := q ++ c :: r) (by rw [rest, point, List.cons_append]), floatRun_point point,
      decimalRun_stop h, decimalRun_stop h, drop_stop (show decimalRun q ≤ _ from digitRun_le _ q), exponentRun_stop h]
  · rw [not_exists] at point
    have plain : ∀ q, (b ++ c :: r).drop (decimalRun (b ++ c :: r)) ≠ '.' :: q := by
      rw [rest]
      intro q same
      cases tail : b.drop (decimalRun b) with
      | nil =>
          rw [tail] at same
          exact h.ne rfl (List.cons.inj same).1
      | cons d t =>
          rw [tail] at same
          exact point t (by rw [tail, (List.cons.inj same).1])
    rw [floatRun_plain plain, floatRun_plain point, rest, decimalRun_stop h, exponentRun_stop h]

theorem floatRun_le (b : List Char) : floatRun b ≤ b.length := by
  have short : decimalRun b ≤ b.length := digitRun_le _ b
  have split := List.length_drop (i := decimalRun b) (l := b)
  by_cases point : ∃ q, b.drop (decimalRun b) = '.' :: q
  · obtain ⟨q, point⟩ := point
    have places : decimalRun q ≤ q.length := digitRun_le _ q
    have exponent := exponentRun_le (q.drop (decimalRun q))
    rw [point, List.length_cons] at split
    rw [List.length_drop] at exponent
    rw [floatRun_point point]
    split <;> omega
  · have exponent := exponentRun_le (b.drop (decimalRun b))
    rw [floatRun_plain (not_exists.mp point)]
    split <;> omega

/-- The digits behind a base mark. -/
def basedDigits (p : Char → Bool) : List Char → Nat
  | '_' :: q => if digitRun p q = 0 then 0 else 1 + digitRun p q
  | r => digitRun p r

theorem basedDigits_stop (h : IsStop c) (out : p c = false) (b r : List Char) :
    basedDigits p (b ++ c :: r) = basedDigits p b := by
  have mark := h.ne (d := '_') rfl
  have whole := digitRun_stop h out b r
  cases b with
  | nil => simpa [basedDigits, mark] using whole
  | cons d b =>
      by_cases under : d = '_'
      · rw [under, List.cons_append, basedDigits, basedDigits, digitRun_stop h out]
      · rw [List.cons_append] at whole ⊢
        simpa [basedDigits, under] using whole

theorem basedDigits_le (p : Char → Bool) (b : List Char) : basedDigits p b ≤ b.length := by
  rw [basedDigits.eq_def]
  split
  · next q =>
      have := digitRun_le p q
      rw [List.length_cons]
      split <;> omega
  · exact digitRun_le p _

theorem basedRun_mark (x : Char) (r : List Char) : basedRun ('0' :: x :: r) =
    let n := if x == 'x' || x == 'X' then basedDigits isHex r
      else if x == 'b' || x == 'B' then basedDigits isBinaryDigit r
      else if x == 'o' || x == 'O' then basedDigits isOctalDigit r
      else 0
    if n = 0 then 0 else 2 + n := by
  cases r with
  | nil => rfl
  | cons d r =>
      by_cases mark : d = '_'
      · rw [mark]
        rfl
      · simp [basedRun, basedDigits, mark]

theorem basedRun_stop (h : IsStop c) (b r : List Char) : basedRun (b ++ c :: r) = basedRun b := by
  have zero := h.ne (d := '0') rfl
  obtain ⟨-, hex, octal, binary, -⟩ := h.digits
  rcases b with _ | ⟨d, _ | ⟨x, q⟩⟩
  · simp [basedRun, zero]
  · by_cases lead : d = '0'
    · rw [lead, List.cons_append, List.nil_append, basedRun_mark]
      simp [h.ne (d := 'x') rfl, h.ne (d := 'X') rfl, h.ne (d := 'b') rfl, h.ne (d := 'B') rfl, h.ne (d := 'o') rfl,
        h.ne (d := 'O') rfl, basedRun]
    · simp [basedRun, lead]
  · by_cases lead : d = '0'
    · rw [lead, List.cons_append, List.cons_append, basedRun_mark, basedRun_mark, basedDigits_stop h hex,
        basedDigits_stop h octal, basedDigits_stop h binary]
    · simp [basedRun, lead]

theorem basedRun_le (b : List Char) : basedRun b ≤ b.length := by
  rcases b with _ | ⟨d, _ | ⟨x, q⟩⟩
  · exact Nat.le_refl 0
  · simp [basedRun]
  · by_cases lead : d = '0'
    · have hex := basedDigits_le isHex q
      have binary := basedDigits_le isBinaryDigit q
      have octal := basedDigits_le isOctalDigit q
      rw [lead, basedRun_mark, List.length_cons, List.length_cons]
      dsimp only
      repeat' split
      all_goals omega
    · simp [basedRun, lead]

theorem wholeRun_zero (b : List Char) :
    wholeRun ('0' :: b) = if basedRun ('0' :: b) ≠ 0 then basedRun ('0' :: b) else digitRun (· == '0') ('0' :: b) :=
  rfl

theorem wholeRun_plain (plain : b.head? ≠ some '0') : wholeRun b = decimalRun b := by
  cases b with
  | nil => rfl
  | cons d b =>
      have lead : d ≠ '0' := fun same => plain (by rw [same]; rfl)
      cases b <;> simp [wholeRun, basedRun, lead]

theorem wholeRun_stop (h : IsStop c) (b r : List Char) : wholeRun (b ++ c :: r) = wholeRun b := by
  by_cases zero : b.head? = some '0'
  · cases b with
    | nil => cases zero
    | cons d b =>
        obtain rfl := Option.some.inj zero
        have based := basedRun_stop h ('0' :: b) r
        have zeros := digitRun_stop (p := (· == '0')) h h.digits.2.2.2.2 ('0' :: b) r
        rw [List.cons_append] at based zeros ⊢
        rw [wholeRun_zero, wholeRun_zero, based, zeros]
  · have other : (b ++ c :: r).head? ≠ some '0' := by
      cases b with
      | nil => exact fun same => h.ne rfl (Option.some.inj same)
      | cons d b => exact zero
    rw [wholeRun_plain zero, wholeRun_plain other, decimalRun_stop h]

theorem wholeRun_le (b : List Char) : wholeRun b ≤ b.length := by
  by_cases zero : b.head? = some '0'
  · cases b with
    | nil => cases zero
    | cons d b =>
        obtain rfl := Option.some.inj zero
        rw [wholeRun_zero]
        split
        · exact basedRun_le _
        · exact digitRun_le _ _
  · exact wholeRun_plain zero ▸ digitRun_le _ _

theorem isImaginary_stop (h : IsStop c) (b r : List Char) : isImaginary (b ++ c :: r) = isImaginary b := by
  cases b with
  | nil => simp [isImaginary, h.ne (d := 'j') rfl, h.ne (d := 'J') rfl]
  | cons d b => rfl

theorem numberRun_stop (h : IsStop c) (b r : List Char) : numberRun (b ++ c :: r) = numberRun b := by
  have short : decimalRun b ≤ b.length := digitRun_le _ b
  simp only [numberRun, decimalRun_stop h, floatRun_stop h, wholeRun_stop h, drop_stop short, drop_stop (floatRun_le b),
    isImaginary_stop h]

theorem isImaginary_room {n : Nat} (h : isImaginary (b.drop n) = true) : n + 1 ≤ b.length := by
  have := List.length_drop (i := n) (l := b)
  cases rest : b.drop n with
  | nil =>
      rw [rest] at h
      cases h
  | cons d t =>
      rw [rest, List.length_cons] at this
      omega

theorem numberRun_le (b : List Char) : numberRun b ≤ b.length := by
  simp only [numberRun]
  split
  · next imaginary => exact isImaginary_room imaginary.2
  · split
    · split
      · next imaginary => exact isImaginary_room imaginary
      · exact floatRun_le b
    · exact wholeRun_le b

/-- No operator of more than one character has a stop in it. -/
theorem operators_unstopped :
    operators.all (fun w => w.toList.length == 1 || w.toList.all fun c => !stops.contains c) = true := by
  decide

theorem startsWith_short {w : List Char} (short : w.length ≤ b.length) (r : List Char) :
    startsWith w (b ++ r) = startsWith w b := by
  rw [Bool.eq_iff_iff, startsWith_iff, startsWith_iff]
  exact ⟨fun start => List.prefix_of_prefix_length_le start (List.prefix_append b r) short,
    fun start => start.trans (List.prefix_append b r)⟩

theorem startsWith_stop {w : List Char} (h : c ∉ w) (b r : List Char) : startsWith w (b ++ c :: r) = startsWith w b := by
  rcases Nat.le_total w.length b.length with short | long
  · exact startsWith_short short _
  · -- a longer one would have the stop in it
    rw [Bool.eq_iff_iff, startsWith_iff, startsWith_iff]
    refine ⟨fun start => ?_, fun start => start.trans (List.prefix_append b _)⟩
    have front : b <+: w := List.prefix_of_prefix_length_le (List.prefix_append b _) start long
    obtain ⟨t, rfl⟩ := front
    rw [List.prefix_append_right_inj] at start
    cases t with
    | nil => simp
    | cons d t =>
        obtain ⟨rfl, -⟩ := List.cons_prefix_cons.mp start
        simp at h

theorem operatorRun_stop (h : IsStop c) (filled : b ≠ []) (r : List Char) : operatorRun (b ++ c :: r) = operatorRun b := by
  have same : operators.find? (fun w => startsWith w.toList (b ++ c :: r)) =
      operators.find? fun w => startsWith w.toList b := by
    refine List.find?_congr fun w hw => ?_
    rcases Bool.or_eq_true_iff.mp (List.all_eq_true.mp operators_unstopped w hw) with one | none
    · refine startsWith_short ?_ _
      rw [beq_iff_eq.mp one]
      exact List.length_pos_iff.mpr filled
    · refine startsWith_stop (fun within => ?_) b r
      have other := List.all_eq_true.mp none c within
      rw [List.contains_iff_mem.mpr h] at other
      cases other
  rw [operatorRun, operatorRun, same]

theorem operatorRun_le (b : List Char) : operatorRun b ≤ b.length := by
  rw [operatorRun]
  split
  · next w found =>
      have start := List.find?_some found
      rw [startsWith_iff] at start
      exact start.length_le
  · exact Nat.zero_le _

theorem takeWhile_stop (out : p c = false) (b r : List Char) : (b ++ c :: r).takeWhile p = b.takeWhile p := by
  induction b with
  | nil => simp [out]
  | cons d b ih =>
      rw [List.cons_append, List.takeWhile_cons, List.takeWhile_cons, ih]

theorem quoteAt?_stop (h : IsStop c) (b r : List Char) : quoteAt? (b ++ c :: r) = quoteAt? b := by
  have marks := takeWhile_stop h.name.2 b r
  have short : (b.takeWhile Char.isAlpha).length ≤ b.length := (List.takeWhile_prefix _).length_le
  simp only [quoteAt?, marks, drop_stop short]
  cases b.drop (b.takeWhile Char.isAlpha).length with
  | nil => simp [h.ne (d := '"') rfl, h.ne (d := '\x27') rfl]
  | cons d t => rfl

/-- What stands behind the marks of a quoted text. -/
theorem quoteAt?_some {marks : Nat} {q : Char} (h : quoteAt? b = some (marks, q)) :
    (∃ t, b.drop marks = q :: t ∧ b.drop (marks + 1) = t ∧ marks + 1 + t.length = b.length) ∧
      (q = '"' ∨ q = '\x27') := by
  simp only [quoteAt?] at h
  split at h
  · next d t rest =>
      split at h
      · next quote =>
          cases h
          have lengths := congrArg List.length rest
          rw [List.length_drop, List.length_cons] at lengths
          refine ⟨⟨t, rest, ?_, by omega⟩, ?_⟩
          · rw [← List.drop_drop, rest]
            rfl
          · simp only [Bool.and_eq_true, Bool.or_eq_true, beq_iff_eq] at quote
            exact quote.1.1
      · cases h
  · cases h

/-! ## Quotes -/

/-- How a line ends that goes on. -/
def joint : List Char :=
  ['\\', '\n']

theorem quoteEnd_skip {q d : Char} (feed : d ≠ '\n') (back : d ≠ '\r') (t : Nat) (r : List Char) :
    quoteEnd q t ('\\' :: d :: r) = quoteEnd q (t + 2) r := by
  rw [quoteEnd.eq_4 _ _ _ _ (fun same => feed same) fun _ same => absurd same back]

theorem quoteEnd_plain {d : Char} (plain : d ≠ '\\') (q : Char) (t : Nat) (r : List Char) :
    quoteEnd q t (d :: r) = if d == '\n' then .broken else if d == q then .closed (t + 1) else quoteEnd q (t + 1) r := by
  rw [quoteEnd.eq_def]
  split <;> simp_all

theorem closing?_skip {q d : Char} {triple : Bool} (feed : d ≠ '\n') (t : Nat) (r : List Char) :
    closing? q triple t ('\\' :: d :: r) = closing? q triple (t + 2) r := by
  rw [closing?.eq_def]
  simp [feed]

/-- Text that a joint may follow: it is on one line, and its end takes no other character with it. -/
structure Ahead (y : List Char) : Prop where
  feed : '\n' ∉ y
  back : '\r' ∉ y
  last : y.getLast? ≠ some '\\'

variable {y z g : List Char}

theorem Ahead.drop (h : Ahead y) (n : Nat) : Ahead (y.drop n) where
  feed within := h.feed (List.mem_of_mem_drop within)
  back within := h.back (List.mem_of_mem_drop within)
  last := by
    rw [List.getLast?_drop]
    split
    · exact nofun
    · exact h.last

theorem Ahead.tail {d : Char} (h : Ahead (d :: y)) : Ahead y :=
  h.drop 1

theorem quoteEnd_ahead (q : Char) (t : Nat) (h : Ahead y) (g : List Char) :
    quoteEnd q t (y ++ joint) = .continued ∨
      ∃ n, t < n ∧ n ≤ t + y.length ∧ quoteEnd q t (y ++ joint) = .closed n ∧ quoteEnd q t (y ++ g) = .closed n := by
  induction size : y.length using Nat.strong_induction_on generalizing y t with
  | h size ih =>
  subst size
  rcases y with _ | ⟨d, y⟩
  · exact .inl rfl
  by_cases slash : d = '\\'
  · subst slash
    rcases y with _ | ⟨e, y⟩
    · exact absurd rfl h.last
    have feed : e ≠ '\n' := fun same => h.feed (by simp [same])
    have back : e ≠ '\r' := fun same => h.back (by simp [same])
    simp only [List.cons_append, quoteEnd_skip feed back]
    rcases ih _ (by rw [List.length_cons, List.length_cons]; omega) (t + 2) h.tail.tail rfl with
      goes | ⟨n, least, most, closed⟩
    · exact .inl goes
    · exact .inr ⟨n, by omega, by simp only [List.length_cons]; omega, closed⟩
  · have feed : (d == '\n') = false := by
      rw [beq_eq_false_iff_ne]
      exact fun same => h.feed (by simp [same])
    simp only [List.cons_append, quoteEnd_plain slash, feed, Bool.false_eq_true, if_false]
    by_cases quote : (d == q) = true
    · exact .inr ⟨t + 1, by omega, by simp only [List.length_cons]; omega, by rw [if_pos quote], by rw [if_pos quote]⟩
    · simp only [if_neg quote]
      rcases ih _ (by simp) (t + 1) h.tail rfl with goes | ⟨n, least, most, closed⟩
      · exact .inl goes
      · exact .inr ⟨n, by omega, by simp only [List.length_cons]; omega, closed⟩

/-- The next two characters are both the quote. -/
def twice (q : Char) : List Char → Bool
  | d :: e :: _ => d == q && e == q
  | _ => false

theorem closing?_quote {q : Char} (plain : q ≠ '\\') (t : Nat) (d : Char) (r : List Char) :
    closing? q true t (q :: d :: r) =
      if twice q (d :: r) then some (t + 3) else if r = [] then none else closing? q true (t + 1) (d :: r) := by
  cases r <;> simp [closing?, twice, plain]

theorem closing?_other {q d : Char} (plain : d ≠ '\\') (other : d ≠ q) (triple : Bool) (t : Nat) (r : List Char) :
    closing? q triple t (d :: r) = closing? q triple (t + 1) r := by
  rw [closing?.eq_def]
  split <;> simp_all

theorem closing?_lone {q d : Char} (plain : q ≠ '\\') (other : d ≠ '\\') (t : Nat) :
    closing? q true t (d :: joint) = none := by
  have none (t : Nat) : closing? q true t joint = none := by simp [joint, closing?]
  by_cases quote : d = q
  · rw [quote, joint, closing?_quote plain, ← joint, none]
    simp [twice, joint, plain.symm]
  · rw [closing?_other other quote, none]

theorem closing?_single {q : Char} (plain : q ≠ '\\') (t : Nat) (r : List Char) :
    closing? q false t (q :: r) = some (t + 1) := by
  rw [closing?.eq_def]
  split <;> simp_all

theorem closing?_ahead (q : Char) (triple : Bool) (t : Nat) (h : Ahead y) (g : List Char) :
    closing? q triple t (y ++ joint) = none ∨
      ∃ n, t < n ∧ n ≤ t + y.length ∧ closing? q triple t (y ++ joint) = some n ∧
        closing? q triple t (y ++ g) = some n := by
  induction size : y.length using Nat.strong_induction_on generalizing y t with
  | h size ih =>
  subst size
  rcases y with _ | ⟨d, y⟩
  · exact .inl rfl
  by_cases slash : d = '\\'
  · subst slash
    rcases y with _ | ⟨e, y⟩
    · exact absurd rfl h.last
    have feed : e ≠ '\n' := fun same => h.feed (by simp [same])
    simp only [List.cons_append, closing?_skip feed]
    rcases ih _ (by rw [List.length_cons, List.length_cons]; omega) (t + 2) h.tail.tail rfl with
      goes | ⟨n, least, most, closed⟩
    · exact .inl goes
    · exact .inr ⟨n, by omega, by simp only [List.length_cons]; omega, closed⟩
  by_cases quote : d = q
  · subst quote
    have plain : d ≠ '\\' := slash
    cases triple with
    | false =>
        simp only [List.cons_append, closing?_single plain]
        exact .inr ⟨t + 1, by omega, by simp only [List.length_cons]; omega, rfl, rfl⟩
    | true =>
        rcases y with _ | ⟨e, _ | ⟨e', y⟩⟩
        · exact .inl (closing?_lone plain plain t)
        · have other : e ≠ '\\' := fun same => h.last (by rw [same]; rfl)
          refine .inl ?_
          simp only [List.cons_append, List.nil_append]
          rw [closing?_quote plain, closing?_lone plain other]
          simp [joint, twice, plain.symm]
        · simp only [List.cons_append, closing?_quote plain]
          by_cases three : twice d (e :: e' :: y) = true
          · exact .inr ⟨t + 3, by omega, by simp only [List.length_cons]; omega, if_pos three, if_pos three⟩
          · have two (x : List Char) : twice d (e :: e' :: (y ++ x)) = twice d (e :: e' :: y) := rfl
            simp only [two, if_neg three, List.cons_ne_nil, if_false]
            rcases ih _ (by simp) (t + 1) h.tail rfl with goes | ⟨n, least, most, closed⟩
            · exact .inl goes
            · exact .inr ⟨n, by omega, by simp only [List.length_cons] at most ⊢; omega, closed⟩
  · simp only [List.cons_append, closing?_other slash quote]
    rcases ih _ (by simp) (t + 1) h.tail rfl with goes | ⟨n, least, most, closed⟩
    · exact .inl goes
    · exact .inr ⟨n, by omega, by simp only [List.length_cons]; omega, closed⟩

/-! ## Lexemes before a joint -/

/-- The name that a text starts with. -/
def nameLexeme (s : List Char) : Lexeme :=
  if (s.takeWhile isNameChar).length = 0 then .stray else .name (s.takeWhile isNameChar).length

/-- The number or operator that a text starts with, or else another lexeme. -/
def signLexeme (s : List Char) (other : Lexeme) : Lexeme :=
  if numberRun s ≠ 0 then .number (numberRun s)
  else if operatorRun s ≠ 0 then .operator (operatorRun s)
  else other

/-- What a quoted text on one line is by its end. -/
def Quote.lexeme (q : Char) (other : Lexeme) : Quote → Lexeme
  | .closed n => .quoted n
  | .continued => .openQuoted q
  | .broken => other

theorem plainLexeme_none {s : List Char} (h : quoteAt? s = none) : plainLexeme s = signLexeme s (nameLexeme s) := by
  simp only [plainLexeme, h, signLexeme, nameLexeme]

theorem plainLexeme_some {s : List Char} {m : Nat} {q : Char} (h : quoteAt? s = some (m, q)) :
    plainLexeme s = signLexeme s ((quoteEnd q (m + 1) (s.drop (m + 1))).lexeme q (nameLexeme s)) := by
  simp only [plainLexeme, h, signLexeme, nameLexeme]
  cases quoteEnd q (m + 1) (s.drop (m + 1)) <;> rfl

theorem signLexeme_stop (h : IsStop c) (filled : b ≠ []) (r : List Char) (other : Lexeme) :
    signLexeme (b ++ c :: r) other = signLexeme b other := by
  rw [signLexeme, signLexeme, numberRun_stop h, operatorRun_stop h filled]

theorem nameLexeme_stop (h : IsStop c) (b r : List Char) : nameLexeme (b ++ c :: r) = nameLexeme b := by
  rw [nameLexeme, nameLexeme, takeWhile_stop h.name.1]

/-- A text that starts neither with a comment nor with a line end. -/
structure Worded (s : List Char) : Prop where
  filled : s ≠ []
  comment : s.head? ≠ some '#'
  feed : '\n' ∉ s
  back : '\r' ∉ s

theorem head_stop {z : List Char} {e : Char} (inside : e ∉ z) (stop : c ≠ e) (r t : List Char) : z ++ c :: r ≠ e :: t := by
  cases z with
  | nil => exact fun same => stop (List.cons.inj same).1
  | cons d z => exact fun same => inside (by simp [(List.cons.inj same).1])

/-- Text with a stop behind it is read as a word at its head. -/
theorem lexeme_word {z : List Char} (h : Worded z) (stop : IsStop c) (r : List Char) :
    (quoteAt? z = none → lexeme (z ++ c :: r) = plainLexeme (z ++ c :: r)) ∧
    ∀ m q, quoteAt? z = some (m, q) → lexeme (z ++ c :: r) =
      if twice q ((z ++ c :: r).drop (m + 1)) then .triple m q else plainLexeme (z ++ c :: r) := by
  have feed := head_stop h.feed (stop.ne rfl) r
  have back := head_stop h.back (stop.ne rfl) r
  have slash {e : Char} (inside : e ∉ z) (other : c ≠ e) (t : List Char) : z ++ c :: r ≠ '\\' :: e :: t := by
    rcases z with _ | ⟨d, z⟩
    · exact absurd rfl h.filled
    · exact fun same => head_stop (fun within => inside (List.mem_cons_of_mem _ within)) other r t (List.cons.inj same).2
  have marks := quoteAt?_stop stop z r
  rw [lexeme.eq_def]
  split
  case h_1 none => simp at none
  case h_2 same => exact absurd same (slash h.feed (stop.ne rfl) _)
  case h_3 same => exact absurd same (slash h.back (stop.ne rfl) _)
  case h_4 same => exact absurd same (feed _)
  case h_5 same => exact absurd same (back _)
  case h_6 same =>
    rcases z with _ | ⟨d, z⟩
    · exact absurd rfl h.filled
    · exact absurd (congrArg some (List.cons.inj same).1) h.comment
  case h_7 =>
    rw [marks]
    refine ⟨fun none => by rw [none], fun m q found => ?_⟩
    rw [found]
    dsimp only
    split
    · next a b t rest => rw [rest, twice]
    · next other =>
        rcases rest : (z ++ c :: r).drop (m + 1) with _ | ⟨a, _ | ⟨b, t⟩⟩
        · rfl
        · rfl
        · exact absurd rest (other a b t)

/-- An operator that is part of no other one is read wherever it stands first. -/
theorem lexeme_lone (h : c ∈ lones) (r : List Char) : lexeme (c :: r) = .operator 1 := by
  simp only [lones, List.mem_cons, List.not_mem_nil, or_false] at h
  rcases h with rfl | rfl | rfl | rfl | rfl | rfl | rfl | rfl | rfl <;> rfl

/-- A lexeme that is read off the first characters of a text. -/
def Lexeme.Within (n : Nat) : Lexeme → Prop
  | .number k | .name k | .operator k | .quoted k => 0 < k ∧ k ≤ n
  | .triple m _ => m + 3 ≤ n
  | .stray => True
  | _ => False

theorem signLexeme_cases (s : List Char) :
    (∃ x, x.Within s.length ∧ ∀ other, signLexeme s other = x) ∨ ∀ other, signLexeme s other = other := by
  by_cases number : numberRun s = 0
  · by_cases operator : operatorRun s = 0
    · exact .inr fun other => by simp [signLexeme, number, operator]
    · exact .inl ⟨.operator (operatorRun s), ⟨Nat.pos_of_ne_zero operator, operatorRun_le s⟩,
        fun other => by simp [signLexeme, number, operator]⟩
  · exact .inl ⟨.number (numberRun s), ⟨Nat.pos_of_ne_zero number, numberRun_le s⟩,
      fun other => by simp [signLexeme, number]⟩

theorem nameLexeme_within (s : List Char) : (nameLexeme s).Within s.length := by
  rw [nameLexeme]
  split
  · trivial
  · next some_ => exact ⟨Nat.pos_of_ne_zero some_, (List.takeWhile_prefix _).length_le⟩

theorem Lexeme.Within.mono {x : Lexeme} {n k : Nat} (h : x.Within n) (le : n ≤ k) : x.Within k := by
  cases x <;> first | exact h | exact h.trans le | exact ⟨h.1, h.2.trans le⟩

theorem twice_stop {q : Char} (other : c ≠ q) (t r : List Char) : twice q (t ++ c :: r) = twice q t := by
  rcases t with _ | ⟨d, _ | ⟨e, t⟩⟩
  · cases r <;> simp [twice, other]
  · simp [twice, other]
  · rfl

/-- What is read of a text in front of a joint is also read of it in front of something else, unless a quote is open at
the joint. -/
theorem lexeme_ahead (h : Ahead y) (word : Worded z) (front : y = z ∧ Stops g ∨ ∃ c, y = z ++ [c] ∧ IsStop c) :
    (∃ q, lexeme (y ++ joint) = .openQuoted q) ∨
      lexeme (y ++ g) = lexeme (y ++ joint) ∧ (lexeme (y ++ joint)).Within y.length := by
  obtain ⟨c, r, stop, here, c', r', stop', there, short⟩ : ∃ c r, IsStop c ∧ y ++ joint = z ++ c :: r ∧
      ∃ c' r', IsStop c' ∧ y ++ g = z ++ c' :: r' ∧ z.length ≤ y.length := by
    rcases front with ⟨rfl, c, r, rfl, stop⟩ | ⟨c, rfl, stop⟩
    · exact ⟨'\\', ['\n'], stop_slash, rfl, c, r, stop, rfl, Nat.le_refl _⟩
    · exact ⟨c, joint, stop, by simp, c, g, stop, by simp, by simp⟩
  obtain ⟨bare, marked⟩ := lexeme_word word stop r
  obtain ⟨bare', marked'⟩ := lexeme_word word stop' r'
  cases found : quoteAt? z with
  | none =>
      right
      have none := (quoteAt?_stop stop z r).trans found
      have none' := (quoteAt?_stop stop' z r').trans found
      rw [here, there, bare found, bare' found, plainLexeme_none none, plainLexeme_none none', nameLexeme_stop stop,
        nameLexeme_stop stop', signLexeme_stop stop word.filled, signLexeme_stop stop' word.filled]
      refine ⟨rfl, Lexeme.Within.mono ?_ short⟩
      rcases signLexeme_cases z with ⟨x, within, sign⟩ | none
      · rw [sign]
        exact within
      · rw [none]
        exact nameLexeme_within z
  | some mark =>
      obtain ⟨m, q⟩ := mark
      obtain ⟨⟨t, -, rest, lengths⟩, quote⟩ := quoteAt?_some found
      have other {c : Char} (stop : IsStop c) : c ≠ q := by rcases quote with rfl | rfl <;> exact stop.ne rfl
      have behind (c : Char) (r : List Char) : (z ++ c :: r).drop (m + 1) = t ++ c :: r := by
        rw [drop_stop (by omega), rest]
      rw [here, there, marked m q found, marked' m q found, behind, behind, twice_stop (other stop),
        twice_stop (other stop')]
      by_cases three : twice q t = true
      · right
        rw [if_pos three, if_pos three]
        refine ⟨rfl, (?_ : m + 3 ≤ y.length)⟩
        rcases t with _ | ⟨d, _ | ⟨e, t⟩⟩
        · cases three
        · cases three
        · simp only [List.length_cons] at lengths
          omega
      · rw [if_neg three, if_neg three, plainLexeme_some ((quoteAt?_stop stop z r).trans found),
          plainLexeme_some ((quoteAt?_stop stop' z r').trans found), signLexeme_stop stop word.filled,
          signLexeme_stop stop' word.filled, nameLexeme_stop stop, nameLexeme_stop stop', ← here, ← there,
          List.drop_append_of_le_length (by omega), List.drop_append_of_le_length (by omega)]
        rcases signLexeme_cases z with ⟨x, within, sign⟩ | none
        · right
          rw [sign, sign]
          exact ⟨rfl, within.mono short⟩
        · rw [none, none]
          rcases quoteEnd_ahead q (m + 1) (h.drop (m + 1)) g with goes | ⟨n, least, most, closed, closed'⟩
          · left
            exact ⟨q, by rw [goes]; rfl⟩
          · right
            rw [closed, closed']
            rw [List.length_drop] at most
            exact ⟨rfl, by omega, by omega⟩

/-! ## Progress -/

theorem quoteEnd_lt {q : Char} {t n : Nat} {s : List Char} (h : quoteEnd q t s = .closed n) : t < n := by
  fun_induction quoteEnd q t s with
  | case4 t d r _ _ ih => exact Nat.lt_of_le_of_lt (by omega) (ih h)
  | case7 => cases h; omega
  | case8 t d r _ _ _ _ _ _ ih => exact Nat.lt_of_le_of_lt (by omega) (ih h)
  | _ => cases h

theorem closing?_lt {q : Char} {triple : Bool} {t n : Nat} {s : List Char} (h : closing? q triple t s = some n) : t < n := by
  induction size : s.length using Nat.strong_induction_on generalizing s t with
  | h _ ih =>
      subst size
      have further {k : Nat} {r : List Char} (shorter : r.length < s.length) (closed : closing? q triple (t + k) r = some n) :
          t < n := Nat.lt_of_le_of_lt (Nat.le_add_right t k) (ih _ shorter closed rfl)
      rw [closing?.eq_def] at h
      split at h
      · cases h
      · split at h
        · cases h
        · exact further (by simp only [List.length_cons]; omega) h
      · cases h
      · split at h
        · split at h
          · cases h
            exact Nat.lt_succ_self t
          · split at h
            · split at h
              · cases h
                omega
              · exact further (Nat.lt_succ_self _) h
            · cases h
        · exact further (Nat.lt_succ_self _) h

/-- A lexeme that takes some text, or leaves it to what reads quotes. -/
def Lexeme.Moves : Lexeme → Prop
  | .joint n | .comment n | .number n | .lineEnd n | .operator n | .quoted n | .name n => 0 < n
  | _ => True

theorem Lexeme.Within.moves {x : Lexeme} {n : Nat} (h : x.Within n) : x.Moves := by
  cases x <;> first | trivial | exact h.1

theorem plainLexeme_moves (s : List Char) : (plainLexeme s).Moves := by
  have name : (nameLexeme s).Moves := (nameLexeme_within s).moves
  rcases signLexeme_cases s with ⟨x, within, sign⟩ | none
  · cases found : quoteAt? s with
    | none =>
        rw [plainLexeme_none found, sign]
        exact within.moves
    | some mark =>
        rw [plainLexeme_some found, sign]
        exact within.moves
  · cases found : quoteAt? s with
    | none =>
        rw [plainLexeme_none found, none]
        exact name
    | some mark =>
        rw [plainLexeme_some found, none]
        cases closed : quoteEnd mark.2 (mark.1 + 1) (s.drop (mark.1 + 1)) with
        | closed n => exact Nat.lt_of_le_of_lt (Nat.zero_le _) (quoteEnd_lt closed)
        | continued => trivial
        | broken => exact name

theorem lexeme_moves (s : List Char) : (lexeme s).Moves := by
  rw [lexeme.eq_def]
  split
  case h_1 => trivial
  case h_2 => exact Nat.two_pos
  case h_3 => exact Nat.succ_pos 2
  case h_4 => exact Nat.one_pos
  case h_5 => exact Nat.two_pos
  case h_6 => exact Nat.lt_of_lt_of_le Nat.one_pos (Nat.le_add_right 1 _)
  case h_7 =>
    split
    · split
      · split
        · trivial
        · exact plainLexeme_moves s
      · exact plainLexeme_moves s
    · exact plainLexeme_moves s

end Script
end Patchwork
