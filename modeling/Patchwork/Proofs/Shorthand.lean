import Mathlib.Data.List.DropRight
import Patchwork.Pattern.Basic

/-!
The shorthand for identifiers. It is expanded where no backslash stands right before it, which is where its backslash is
not escaped unless two or more backslashes that escape each other stand there.
-/

namespace Patchwork.Pattern

/-- Whether the shorthand stands at a place. -/
def isShorthandAt (s : List Char) (i : Nat) : Bool :=
  s[i]? == some '\\' && s[i + 1]? == some 'i'

/-- How many backslashes stand in a row right before a place. -/
def slashesBefore (s : List Char) (i : Nat) : Nat :=
  ((s.take i).rtakeWhile (· == '\\')).length

/-- The shorthands that no backslash precedes. -/
def isBareAt (s : List Char) (i : Nat) : Bool :=
  isShorthandAt s i && slashesBefore s i == 0

/-- The shorthands whose backslash is not escaped itself: those before it escape each other. -/
def isUnescapedAt (s : List Char) (i : Nat) : Bool :=
  isShorthandAt s i && slashesBefore s i % 2 == 0

/-- A text from place `i` on with an identifier for the two characters at each chosen place; all others are passed on. -/
def expandAt (chosen : Nat → Bool) (i : Nat) : List Char → List Char
  | c :: d :: r => if chosen i then identifier ++ expandAt chosen (i + 2) r else c :: expandAt chosen (i + 1) (d :: r)
  | s => s

variable {s b r : List Char} {c d : Char} {chosen chosen' : Nat → Bool}

theorem isShorthandAt_append (b : List Char) (c : Char) (r : List Char) :
    isShorthandAt (b ++ c :: r) b.length = (c == '\\' && r.head? == some 'i') := by
  rw [isShorthandAt, List.getElem?_append_right (Nat.le_refl _), List.getElem?_append_right (Nat.le_add_right _ 1)]
  simp [List.head?_eq_getElem?]

theorem slashesBefore_append (b s : List Char) :
    slashesBefore (b ++ s) b.length = (b.rtakeWhile (· == '\\')).length := by
  rw [slashesBefore, List.take_left]

theorem isBareAt_append {last : Char} (behind : b.getLast? = some '\\' ↔ last = '\\') (c : Char) (r : List Char) :
    isBareAt (b ++ c :: r) b.length = (c == '\\' && r.head? == some 'i' && last != '\\') := by
  have none : (b.rtakeWhile (· == '\\')).length = 0 ↔ b.getLast? ≠ some '\\' := by
    rw [List.length_eq_zero_iff]
    cases b using List.reverseRecOn with
    | nil => simp
    | append_singleton b c => simp [List.rtakeWhile_concat]
  rw [isBareAt, isShorthandAt_append, slashesBefore_append, Bool.eq_iff_iff, Bool.and_eq_true, Bool.and_eq_true _ (last != _),
    beq_iff_eq (a := List.length _), none, ne_eq, behind, bne_iff_ne]

/-- The expansion takes the shorthands that no backslash precedes. -/
theorem expandFrom_eq {last : Char} (behind : b.getLast? = some '\\' ↔ last = '\\') :
    expandFrom last s = expandAt (isBareAt (b ++ s)) b.length s := by
  fun_induction expandFrom last s generalizing b with
  | case1 => rfl
  | case2 r ih =>
      have passed := ih (b := b ++ ['\\']) (by simp)
      rw [List.length_append, List.append_assoc, List.singleton_append] at passed
      rw [expandAt, isBareAt_append behind, passed]
      rfl
  | case3 last r other ih =>
      have passed := ih (b := b ++ ['\\', 'i']) (by simp)
      rw [List.length_append, List.append_assoc] at passed
      rw [expandAt, isBareAt_append behind, if_pos (by simpa using other), passed]
      rfl
  | case4 last c r none ih =>
      have passed := ih (b := b ++ [c]) (by simp)
      rw [List.length_append, List.append_assoc, List.singleton_append] at passed
      cases r with
      | nil => rw [expandFrom]; rfl
      | cons d r =>
          rw [expandAt, isBareAt_append behind, passed, if_neg]
          · rfl
          · simpa using fun slash shorthand => (none r slash (by rw [shorthand])).elim

theorem shorthand_of_chosen (h : isShorthandAt (b ++ c :: d :: r) b.length = true) : c = '\\' ∧ d = 'i' := by
  rw [isShorthandAt_append] at h
  simpa using h

theorem identifier_ne (r r' : List Char) : identifier ++ r ≠ '\\' :: r' :=
  fun same => absurd (List.head_eq_of_cons_eq same) (by decide)

/-- What is expanded can be told from the outcome. -/
theorem expandAt_inj {n i : Nat} (start : n = b.length)
    (h : ∀ i, chosen i = true → isShorthandAt (b ++ s) i = true)
    (h' : ∀ i, chosen' i = true → isShorthandAt (b ++ s) i = true)
    (same : expandAt chosen n s = expandAt chosen' n s) (behind : n ≤ i) : chosen i = chosen' i := by
  have unchosen (none : isShorthandAt (b ++ s) i = false) : chosen i = chosen' i := by
    rw [Bool.eq_iff_iff]
    exact iff_of_false (fun one => by simp [h i one] at none) fun one => by simp [h' i one] at none
  fun_induction expandAt chosen n s generalizing b with
  | case1 n c d r one ih =>
      obtain ⟨rfl, rfl⟩ := shorthand_of_chosen (start ▸ h n one)
      cases one' : chosen' n with
      | false =>
          rw [expandAt, if_neg (by simp [one'])] at same
          exact absurd same (identifier_ne _ _)
      | true =>
          rw [expandAt, if_pos one', List.append_cancel_left_eq] at same
          rcases Nat.lt_trichotomy i (n + 1) with first | rfl | rest
          · obtain rfl : i = n := by omega
            rw [one, one']
          · refine unchosen ?_
            simp [isShorthandAt, start]
          · have text : b ++ '\\' :: 'i' :: r = (b ++ ['\\', 'i']) ++ r := by simp
            rw [text] at h h' unchosen
            exact ih (by simp [start]) h h' same rest unchosen
  | case2 n c d r other ih =>
      cases one' : chosen' n with
      | true =>
          obtain ⟨rfl, rfl⟩ := shorthand_of_chosen (start ▸ h' n one')
          rw [expandAt, if_pos one'] at same
          exact absurd same.symm (identifier_ne _ _)
      | false =>
          rw [expandAt, if_neg (by simp [one'])] at same
          rcases Nat.eq_or_lt_of_le behind with rfl | rest
          · rw [one', Bool.eq_false_iff.mpr other]
          · have text : b ++ c :: d :: r = (b ++ [c]) ++ d :: r := by simp
            rw [text] at h h' unchosen
            exact ih (by simp [start]) h h' (List.tail_eq_of_cons_eq same) rest unchosen
  | case3 n s short =>
      refine unchosen ?_
      have none : (b ++ s)[i + 1]? = none := by
        rw [List.getElem?_eq_none_iff, List.length_append]
        rcases s with - | ⟨c, - | ⟨d, r⟩⟩
        · simp; omega
        · simp; omega
        · exact (short c d r rfl).elim
      simp [isShorthandAt, none]

theorem isBareAt_iff {i : Nat} : isBareAt s i = true ↔ isShorthandAt s i = true ∧ slashesBefore s i = 0 := by
  rw [isBareAt, Bool.and_eq_true, beq_iff_eq]

theorem isUnescapedAt_iff {i : Nat} :
    isUnescapedAt s i = true ↔ isShorthandAt s i = true ∧ slashesBefore s i % 2 = 0 := by
  rw [isUnescapedAt, Bool.and_eq_true, beq_iff_eq]

theorem expand_eq (source : String) :
    expand source = String.ofList (expandAt (isBareAt source.toList) 0 source.toList) := by
  rw [expand, expandFrom_eq (b := []) (by decide)]
  rfl

/-- Compiling a pattern expands exactly the shorthands that no backslash stands right before, and passes on all other
characters. These are the shorthands whose backslash is not escaped exactly if none of those has backslashes before it:
a shorthand behind two, four or more of them, which escape each other, is missed. -/
theorem compileShorthand_expands (source : String) (flags : Flags) :
    compileShorthand source flags =
        compile .extended (String.ofList (expandAt (isBareAt source.toList) 0 source.toList)) flags ∧
      (expand source = String.ofList (expandAt (isUnescapedAt source.toList) 0 source.toList) ↔
        ∀ i, isUnescapedAt source.toList i = true → slashesBefore source.toList i = 0) := by
  refine ⟨by rw [compileShorthand, expand_eq], ?_⟩
  rw [expand_eq, String.ofList_inj]
  constructor
  · intro same i unescaped
    have bare : isBareAt source.toList i = true :=
      (expandAt_inj (b := []) rfl (fun _ h => (isBareAt_iff.mp h).1) (fun _ h => (isUnescapedAt_iff.mp h).1) same
        (Nat.zero_le i)).trans unescaped
    exact (isBareAt_iff.mp bare).2
  · intro alone
    have same : isBareAt source.toList = isUnescapedAt source.toList := by
      funext i
      rw [Bool.eq_iff_iff]
      constructor
      · intro bare
        obtain ⟨shorthand, none⟩ := isBareAt_iff.mp bare
        exact isUnescapedAt_iff.mpr ⟨shorthand, by rw [none]⟩
      · intro unescaped
        exact isBareAt_iff.mpr ⟨(isUnescapedAt_iff.mp unescaped).1, alone i unescaped⟩
    rw [same]

/-- Two backslashes that escape each other hide the shorthand behind them: what would be a backslash and an identifier
is no pattern at all. -/
theorem escaped_slash_hides_shorthand :
    (compileShorthand "\\\\\\i" []).toOption = none ∧
      (compile .extended (String.ofList (expandAt (isUnescapedAt "\\\\\\i".toList) 0 "\\\\\\i".toList)) []).toOption =
        some ⟨.extended, "\\\\(?:[A-Za-z_][\\w]*)", []⟩ := by
  decide +kernel

end Patchwork.Pattern
