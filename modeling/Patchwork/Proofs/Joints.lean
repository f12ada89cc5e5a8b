import Patchwork.Proofs.Blocks
import Patchwork.Machine
import Patchwork.Source.Normalize

/-!
Joining continued lines. The comments of a text are known by their rows, which line feeds end, and the lines that are
joined by their numbers, to which all other line ends count too. A joint stays where the second number is that of a row
with a comment, and nothing but joints is ever taken out.
-/

namespace Patchwork

open Run Script Text

/-! ## Lines -/

namespace Text

variable {a r s w : List Char}

theorem linesFrom_feed (line : List Char) (whole : '\n' ∉ a) (r : List Char) :
    linesFrom (· == '\n') line (a ++ '\n' :: r) = (line.reverse ++ a ++ ['\n']) :: feedLines r := by
  induction a generalizing line with
  | nil => simp [linesFrom, feedLines]
  | cons c a ih =>
      rw [List.mem_cons, not_or] at whole
      rw [List.cons_append, linesFrom, if_neg (by simpa using Ne.symm whole.1), ih _ whole.2]
      simp

theorem feedLines_cons (whole : '\n' ∉ a) (r : List Char) : feedLines (a ++ '\n' :: r) = (a ++ ['\n']) :: feedLines r :=
  linesFrom_feed [] whole r

theorem linesFrom_open (line : List Char) (whole : '\n' ∉ a) :
    linesFrom (· == '\n') line a = if line.reverse ++ a = [] then [] else [line.reverse ++ a] := by
  induction a generalizing line with
  | nil => cases line <;> simp [linesFrom]
  | cons c a ih =>
      rw [List.mem_cons, not_or] at whole
      rw [linesFrom, if_neg (by simpa using Ne.symm whole.1), ih _ whole.2]
      simp

theorem feedLines_open (whole : '\n' ∉ a) (filled : a ≠ []) : feedLines a = [a] := by
  rw [feedLines, linesFrom_open [] whole]
  simp [filled]

/-- A text is empty, or one line that goes on to its end, or a line and the text behind it. -/
theorem feed_induction {P : List Char → Prop} (empty : P []) (last : ∀ a, a ≠ [] → '\n' ∉ a → P a)
    (line : ∀ a r, '\n' ∉ a → P r → P (a ++ '\n' :: r)) (s : List Char) : P s := by
  by_cases feed : '\n' ∈ s
  · obtain ⟨a, r, split, whole⟩ := List.eq_append_cons_of_mem feed
    rw [split]
    exact line a r whole (feed_induction empty last line r)
  · by_cases filled : s = []
    · exact filled ▸ empty
    · exact last s filled feed
termination_by s.length
decreasing_by
  rw [split, List.length_append, List.length_cons]
  omega

theorem feedLines_flatten (s : List Char) : (feedLines s).flatten = s := by
  induction s using feed_induction with
  | empty => rfl
  | last a filled whole => simp [feedLines_open whole filled]
  | line a r whole ih => simp [feedLines_cons whole, ih]

/-- The first rows of a text are its rows where it is cut behind them. -/
theorem feedLines_take (s : List Char) (row : Nat) : feedLines ((feedLines s).take row).flatten = (feedLines s).take row := by
  induction s using feed_induction generalizing row with
  | empty => simp [feedLines, linesFrom]
  | last a filled whole =>
      rw [feedLines_open whole filled]
      cases row with
      | zero => rfl
      | succ row => simp [feedLines_open whole filled]
  | line a r whole ih =>
      rw [feedLines_cons whole]
      cases row with
      | zero => rfl
      | succ row =>
          rw [List.take_succ_cons, List.flatten_cons, List.append_assoc, List.singleton_append, feedLines_cons whole, ih]

theorem after?_eq_some {w s r : List Char} : after? w s = some r ↔ s = w ++ r := by
  induction w generalizing s with
  | nil => simp [after?]
  | cons a w ih =>
      cases s with
      | nil => simp [after?]
      | cons b s =>
          rw [after?]
          split
          · next same => simp [ih, same]
          · next other => simp [Ne.symm other]

theorem startsWith_iff (w s : List Char) : startsWith w s = true ↔ w <+: s := by
  rw [startsWith, Option.isSome_iff_exists]
  exact exists_congr fun r => after?_eq_some.trans eq_comm

theorem endsWith_iff (w s : List Char) : endsWith w s = true ↔ w <:+ s := by
  rw [endsWith, startsWith_iff, List.reverse_prefix]

/-- The lines of a text end where one of their characters says so. -/
theorem wideLinesFrom_feed (line : List Char) (whole : '\n' ∉ a) :
    ∃ parts tail, wideLinesFrom line (a ++ ['\n']) = parts ++ [tail ++ ['\n']] ∧
      parts.flatten ++ tail = line.reverse ++ a ∧ ∀ p ∈ parts, ∃ c, p.getLast? = some c ∧ isLineBreak c = true ∧ c ≠ '\n' := by
  induction a generalizing line with
  | nil => exact ⟨[], line.reverse, by simp [wideLinesFrom, isLineBreak], by simp, nofun⟩
  | cons c a ih =>
      rw [List.mem_cons, not_or] at whole
      by_cases alone : c = '\r' → (a ++ ['\n']).head? ≠ some '\n'
      · rw [List.cons_append, wideLinesFrom_cons line alone]
        cases breaks : isLineBreak c with
        | true =>
            obtain ⟨parts, tail, lines, text, ends⟩ := ih [] whole.2
            refine ⟨(c :: line).reverse :: parts, tail, ?_, ?_, ?_⟩
            · simp [lines]
            · simpa using text
            · intro p hp
              rcases List.mem_cons.mp hp with rfl | hp
              · exact ⟨c, by simp, breaks, Ne.symm whole.1⟩
              · exact ends p hp
        | false =>
            obtain ⟨parts, tail, lines, text, ends⟩ := ih (c :: line) whole.2
            exact ⟨parts, tail, by simp [lines], by simpa using text, ends⟩
      · -- a carriage return right before the line feed
        obtain ⟨rfl, next⟩ : c = '\r' ∧ (a ++ ['\n']).head? = some '\n' := by simpa using alone
        cases a with
        | nil => exact ⟨[], line.reverse ++ ['\r'], by simp [wideLinesFrom], by simp, nofun⟩
        | cons d a =>
            cases next
            exact absurd List.mem_cons_self whole.2

/-- The last of the lines that a row is made of ends in a joint if the row does. -/
theorem wideLines_feed (whole : '\n' ∉ a) :
    ∃ parts tail, wideLines (a ++ ['\n']) = parts ++ [tail ++ ['\n']] ∧ parts.flatten ++ tail = a ∧
      (∀ p ∈ parts, p.getLast? ≠ some '\n') ∧ (tail.getLast? = some '\\' ↔ a.getLast? = some '\\') := by
  obtain ⟨parts, tail, lines, text, ends⟩ := wideLinesFrom_feed [] whole
  rw [List.reverse_nil, List.nil_append] at text
  refine ⟨parts, tail, lines, text, fun p hp last => ?_, ?_⟩
  · obtain ⟨c, there, -, other⟩ := ends p hp
    rw [there] at last
    exact other (Option.some.inj last)
  · rw [← text, List.getLast?_append]
    cases tail with
    | cons c tail => simp [List.getLast?_cons]
    | nil =>
        refine iff_of_false nofun ?_
        rw [List.getLast?_nil, Option.none_or]
        intro last
        rcases List.eq_nil_or_concat parts with rfl | ⟨parts', p, rfl⟩
        · cases last
        · obtain ⟨c, there, breaks, -⟩ := ends p (by simp)
          simp [List.getLast?_append, there] at last
          rw [last] at breaks
          cases breaks

theorem mem_of_joint {b line x : List Char} (same : b ++ ['\\', '\n'] = line ++ x) (short : x.length ≤ 2) {c : Char}
    (hc : c ∈ b) : c ∈ line := by
  have lengths := congrArg List.length same
  simp only [List.length_append, List.length_cons, List.length_nil] at lengths
  have front : b <+: line :=
    List.prefix_of_prefix_length_le (same ▸ List.prefix_append b _) (List.prefix_append _ x) (by omega)
  exact front.subset hc

/-- No line ends within one that a joint ends. -/
theorem wideLinesFrom_joint {b : List Char} (line s : List Char) (within : ∀ c ∈ line, isLineBreak c = false)
    (hl : b ++ ['\\', '\n'] ∈ wideLinesFrom line s) : ∀ c ∈ b, isLineBreak c = false := by
  have kept {line x : List Char} (within : ∀ c ∈ line, isLineBreak c = false)
      (same : b ++ ['\\', '\n'] = line.reverse ++ x) (short : x.length ≤ 2) : ∀ c ∈ b, isLineBreak c = false :=
    fun c hc => within c (List.mem_reverse.mp (mem_of_joint same short hc))
  fun_induction wideLinesFrom line s with
  | case1 => cases hl
  | case2 line => exact kept within ((List.mem_singleton.mp hl).trans (List.append_nil _).symm) (Nat.zero_le 2)
  | case3 line r ih =>
      rcases List.mem_cons.mp hl with same | hl
      · exact kept (x := ['\r', '\n']) within (by simpa using same) (Nat.le_refl 2)
      · exact ih (fun _ none => absurd none List.not_mem_nil) hl
  | case4 line c r _ _ ih =>
      rcases List.mem_cons.mp hl with same | hl
      · exact kept within (same.trans (List.reverse_cons ..)) (Nat.le_succ 1)
      · exact ih (fun _ none => absurd none List.not_mem_nil) hl
  | case5 line c r _ goes ih =>
      refine ih (fun d hd => ?_) hl
      rcases List.mem_cons.mp hd with rfl | hd
      · simpa using goes
      · exact within d hd

theorem feedLines_mem {line : List Char} (h : line ∈ feedLines s) : ∃ a, '\n' ∉ a ∧ (line = a ++ ['\n'] ∨ line = a) := by
  induction s using feed_induction with
  | empty => cases h
  | last a filled whole =>
      rw [feedLines_open whole filled, List.mem_singleton] at h
      exact ⟨a, whole, .inr h⟩
  | line a r whole ih =>
      rw [feedLines_cons whole] at h
      rcases List.mem_cons.mp h with here | h
      · exact ⟨a, whole, .inl here⟩
      · exact ih h

end Text

/-! ## Rows -/

namespace Source

variable {a r s line : List Char} {drops : Nat → Bool}

/-- Lines from number `row` on, without the joints that end those that `drops` tells. -/
def withoutJoints (drops : Nat → Bool) (row : Nat) : List (List Char) → List Char
  | [] => []
  | line :: rest =>
    (if endsWith ['\\', '\n'] line && drops row then line.take (line.length - 2) else line) ++
      withoutJoints drops (row + 1) rest

theorem joinRows_eq (comments : List Nat) (row : Nat) (lines : List (List Char)) :
    joinRows comments row lines = withoutJoints (fun row => !comments.contains row) row lines := by
  induction lines generalizing row with
  | nil => rfl
  | cons line rest ih => rw [joinRows, withoutJoints, ih]

theorem withoutJoints_append (row : Nat) (lines more : List (List Char)) :
    withoutJoints drops row (lines ++ more) =
      withoutJoints drops row lines ++ withoutJoints drops (row + lines.length) more := by
  induction lines generalizing row with
  | nil => rfl
  | cons line rest ih =>
      rw [List.cons_append, withoutJoints, withoutJoints, ih, List.append_assoc, List.length_cons, Nat.add_assoc,
        Nat.add_comm 1]

theorem withoutJoints_succ (row : Nat) (lines : List (List Char)) :
    withoutJoints drops (row + 1) lines = withoutJoints (fun row => drops (row + 1)) row lines := by
  induction lines generalizing row with
  | nil => rfl
  | cons line rest ih => rw [withoutJoints, withoutJoints, ih]

theorem not_joint (unended : line.getLast? ≠ some '\n') : endsWith ['\\', '\n'] line = false := by
  rw [← Bool.not_eq_true, endsWith_iff]
  rintro ⟨before, rfl⟩
  simp at unended

theorem withoutJoints_unended (row : Nat) {lines : List (List Char)} (h : ∀ line ∈ lines, line.getLast? ≠ some '\n') :
    withoutJoints drops row lines = lines.flatten := by
  induction lines generalizing row with
  | nil => rfl
  | cons line rest ih =>
      rw [withoutJoints, not_joint (h line List.mem_cons_self), ih _ fun l hl => h l (List.mem_cons_of_mem _ hl)]
      simp

theorem joint_iff (a : List Char) : endsWith ['\\', '\n'] (a ++ ['\n']) = true ↔ a.getLast? = some '\\' := by
  rw [endsWith_iff, List.getLast?_eq_some_iff]
  constructor
  · rintro ⟨b, same⟩
    exact ⟨b, by simpa using (List.append_inj_left' (same.symm.trans (List.append_assoc b ['\\'] ['\n']).symm) rfl)⟩
  · rintro ⟨b, rfl⟩
    exact ⟨b, by simp⟩

/-- The number of the line that ends where a row does, with all line ends counted. -/
def wideRow (s : List Char) (row : Nat) : Nat :=
  (wideLines ((feedLines s).take row).flatten).length

theorem wideRow_succ (whole : '\n' ∉ a) (r : List Char) (row : Nat) :
    wideRow (a ++ '\n' :: r) (row + 1) = (wideLines (a ++ ['\n'])).length + wideRow r row := by
  rw [wideRow, feedLines_cons whole, List.take_succ_cons, List.flatten_cons, wideLines_append (by simp),
    List.length_append, wideRow]

theorem take_joint (a : List Char) : (a ++ ['\n']).take ((a ++ ['\n']).length - 2) = a.dropLast := by
  rw [List.length_append, List.length_singleton, List.take_append_of_le_length (by omega), List.dropLast_eq_take]
  congr 1

/-- The lines that make up one row are joined as the row is. -/
theorem withoutJoints_feed (row : Nat) (whole : '\n' ∉ a) :
    withoutJoints drops row (wideLines (a ++ ['\n'])) =
      if endsWith ['\\', '\n'] (a ++ ['\n']) && drops (row + (wideLines (a ++ ['\n'])).length - 1) then a.dropLast
      else a ++ ['\n'] := by
  obtain ⟨parts, tail, lines, text, unended, joint⟩ := wideLines_feed whole
  have same : endsWith ['\\', '\n'] (tail ++ ['\n']) = endsWith ['\\', '\n'] (a ++ ['\n']) := by
    rw [Bool.eq_iff_iff, joint_iff, joint_iff]
    exact joint
  rw [lines, withoutJoints_append, withoutJoints_unended _ unended, withoutJoints, withoutJoints, List.append_nil, same,
    take_joint, List.length_append, List.length_singleton, ← Nat.add_assoc, Nat.add_sub_cancel]
  split
  · next dropped =>
      rw [Bool.and_eq_true, joint_iff, ← joint] at dropped
      have filled : tail ≠ [] := by
        rintro rfl
        cases dropped.1
      rw [← text, List.dropLast_append_of_ne_nil filled]
  · rw [← List.append_assoc, text]

/-- The lines that are joined make up the rows, which lose their joints by the numbers that all line ends give them. -/
theorem withoutJoints_wide (n : Nat) (s : List Char) :
    withoutJoints drops (n + 1) (wideLines s) =
      withoutJoints (fun row => drops (n + wideRow s row)) 1 (feedLines s) := by
  induction s using feed_induction generalizing n with
  | empty => rfl
  | last a filled whole =>
      have unended (line : List Char) (within : line.getLast? = some '\n') : '\n' ∈ line := List.mem_of_getLast? within
      rw [feedLines_open whole filled, withoutJoints_unended, wideLines_flatten, withoutJoints_unended]
      · simp
      · rintro line hl ended
        rw [List.mem_singleton.mp hl] at ended
        exact whole (unended a ended)
      · rintro line hl ended
        refine whole ?_
        rw [← wideLines_flatten a]
        exact List.mem_flatten.mpr ⟨line, hl, unended line ended⟩
  | line a r whole ih =>
      have filled : 0 < (wideLines (a ++ ['\n'])).length := by
        obtain ⟨parts, tail, lines, -⟩ := wideLines_feed whole
        rw [lines, List.length_append, List.length_singleton]
        exact Nat.succ_pos _
      have first : wideRow (a ++ '\n' :: r) 1 = (wideLines (a ++ ['\n'])).length := wideRow_succ whole r 0
      have split : a ++ '\n' :: r = (a ++ ['\n']) ++ r := by simp
      have front : wideLines (a ++ '\n' :: r) = wideLines (a ++ ['\n']) ++ wideLines r := by
        rw [split, wideLines_append (by simp)]
      rw [front, withoutJoints_append, withoutJoints_feed _ whole, feedLines_cons whole, withoutJoints, first, take_joint,
        withoutJoints_succ, Nat.add_right_comm n 1, ih, Nat.add_sub_cancel]
      simp only [wideRow_succ whole, Nat.add_assoc]

theorem joined?_rows {comments : List Nat} (scanned : commentRows? s = some comments) :
    joined? s = some (withoutJoints (fun row => !comments.contains (wideRow s row)) 1 (feedLines s)) := by
  rw [joined?, scanned, Option.map_some, joinRows_eq, withoutJoints_wide (n := 0)]
  simp only [Nat.zero_add]

theorem wideLines_filled {l : List Char} (filled : l ≠ []) :
    0 < (wideLines l).length ∧ ((wideLines l).length = 1 → wideLines l = [l]) := by
  have flat := wideLines_flatten l
  match lines : wideLines l with
  | [] =>
      rw [lines] at flat
      exact absurd flat.symm filled
  | [only] =>
      rw [lines, List.flatten_singleton] at flat
      exact ⟨Nat.succ_pos _, fun _ => by rw [flat]⟩
  | _ :: _ :: _ => exact ⟨Nat.succ_pos _, fun one => by simp at one⟩

/-- A row has at least the number that line feeds give it, and that one only if each row before it is one line. -/
theorem wideRow_le {row : Nat} (there : row ≤ (feedLines s).length) :
    row ≤ wideRow s row ∧ (wideRow s row = row → ∀ line ∈ (feedLines s).take row, wideLines line = [line]) := by
  induction s using feed_induction generalizing row with
  | empty =>
      obtain rfl := Nat.le_zero.mp there
      exact ⟨Nat.zero_le _, fun _ => nofun⟩
  | last a filled whole =>
      rw [feedLines_open whole filled] at there ⊢
      cases row with
      | zero => exact ⟨Nat.zero_le _, fun _ => nofun⟩
      | succ row =>
          obtain rfl : row = 0 := Nat.le_zero.mp (Nat.le_of_succ_le_succ there)
          have one : wideRow a 1 = (wideLines a).length := by
            rw [wideRow, feedLines_open whole filled]
            simp
          rw [Nat.zero_add, one]
          refine ⟨(wideLines_filled filled).1, fun same line hl => ?_⟩
          obtain rfl := List.mem_singleton.mp hl
          exact (wideLines_filled filled).2 same
  | line a r whole ih =>
      cases row with
      | zero => exact ⟨Nat.zero_le _, fun _ => nofun⟩
      | succ row =>
          rw [feedLines_cons whole] at there
          obtain ⟨least, lines⟩ := ih (Nat.le_of_succ_le_succ there)
          obtain ⟨filled, alone⟩ := wideLines_filled (l := a ++ ['\n']) (by simp)
          rw [wideRow_succ whole, feedLines_cons whole, List.take_succ_cons]
          refine ⟨by omega, fun same line hl => ?_⟩
          rcases List.mem_cons.mp hl with rfl | hl
          · exact alone (by omega)
          · exact lines (by omega) line hl

/-- Rows have the numbers that line feeds give them if nothing else ends a line. -/
theorem wideRow_plain (plain : ∀ c ∈ s, isLineBreak c = true → c = '\n') {row : Nat}
    (there : row ≤ (feedLines s).length) : wideRow s row = row := by
  have within : ∀ c ∈ ((feedLines s).take row).flatten, isLineBreak c = true → c = '\n' := by
    intro c hc
    obtain ⟨line, hl, hc⟩ := List.mem_flatten.mp hc
    refine plain c ?_
    rw [← feedLines_flatten s]
    exact List.mem_flatten.mpr ⟨line, List.mem_of_mem_take hl, hc⟩
  rw [wideRow, wideLines_eq_feedLines within, feedLines_take, List.length_take_of_le there]

end Source

/-! ## Comments -/

namespace Script

variable {line s : List Char} {row : Nat} {st st' : Scanner} {t : Token}

/-- A token ends where its line does, or at a carriage return. -/
def Token.ReachesEnd (t : Token) (line : List Char) : Prop :=
  ∃ before after, line = before ++ t.text ++ after ∧ before.length = t.column ∧
    t.endColumn = t.column + t.text.length ∧ t.text ≠ [] ∧ t.text.getLast? ≠ some '\n' ∧
    ∀ c, after.head? = some c → c = '\r' ∨ c = '\n'

/-- The comments among the tokens of a scan are of a kind. -/
def Scanner.Comments (P : Token → Prop) (st : Scanner) : Prop :=
  ∀ t ∈ st.tokens, t.kind = .comment → P t

theorem Scanner.Comments.push {P : Token → Prop} (h : st.Comments P) {kind : TokenKind} {text : List Char}
    {row column endColumn : Nat} (own : kind = .comment → P ⟨kind, text, row, column, endColumn⟩) :
    (st.push kind text row column endColumn).Comments P := by
  intro t ht comment
  rcases List.mem_cons.mp ht with rfl | ht
  · exact own comment
  · exact h t ht comment

theorem Scanner.Comments.push_other {P : Token → Prop} (h : st.Comments P) {kind : TokenKind} {text : List Char}
    {row column endColumn : Nat} (other : kind ≠ .comment) : (st.push kind text row column endColumn).Comments P :=
  h.push fun comment => absurd comment other

theorem plainLexeme_comment (s : List Char) (n : Nat) : plainLexeme s ≠ .comment n := by
  rw [plainLexeme]
  dsimp only
  repeat' split
  all_goals exact nofun

/-- A comment starts with its mark and goes on to a line end. -/
theorem lexeme_comment {n : Nat} (h : lexeme s = .comment n) :
    ∃ r, s = '#' :: r ∧ n = 1 + (r.takeWhile fun c => c != '\r' && c != '\n').length := by
  unfold lexeme at h
  split at h
  case h_6 r => exact ⟨r, rfl, (Lexeme.comment.inj h).symm⟩
  case h_7 =>
    repeat' split at h
    all_goals first
      | exact absurd h (plainLexeme_comment s n)
      | cases h
  all_goals cases h

theorem reachesEnd_mark {r : List Char} {column : Nat} (here : line.drop column = '#' :: r) :
    Token.ReachesEnd ⟨.comment, (line.drop column).take (1 + (r.takeWhile fun c => c != '\r' && c != '\n').length), row,
      column, column + (1 + (r.takeWhile fun c => c != '\r' && c != '\n').length)⟩ line := by
  have room : column < line.length := by
    rw [← Nat.not_le, ← List.drop_eq_nil_iff, here]
    exact List.cons_ne_nil _ _
  have split : r = r.takeWhile (fun c => c != '\r' && c != '\n') ++ r.dropWhile fun c => c != '\r' && c != '\n' :=
    List.takeWhile_append_dropWhile.symm
  have text : (line.drop column).take (1 + (r.takeWhile fun c => c != '\r' && c != '\n').length) =
      '#' :: r.takeWhile fun c => c != '\r' && c != '\n' := by
    rw [here, Nat.add_comm, List.take_succ_cons, ← List.prefix_iff_eq_take.mp (List.takeWhile_prefix _)]
  refine ⟨line.take column, r.dropWhile fun c => c != '\r' && c != '\n', ?_, ?_, ?_, ?_, ?_, ?_⟩
  · rw [text, List.append_assoc, List.cons_append, ← split, ← here, List.take_append_drop]
  · exact List.length_take_of_le (Nat.le_of_lt room)
  · rw [text, List.length_cons, Nat.add_comm 1]
  · rw [text]
    exact List.cons_ne_nil _ _
  · rw [text]
    intro last
    rcases List.mem_cons.mp (List.mem_of_getLast? last) with same | within
    · cases same
    · have kept := List.all_eq_true.mp List.all_takeWhile _ within
      simp at kept
  · intro c first
    have ended := List.head?_dropWhile_not (fun c => c != '\r' && c != '\n') r
    rw [first] at ended
    simpa [Decidable.or_iff_not_imp_left] using ended

/-- The comments in the rest of a line reach its end. -/
theorem scanRest_comments {P : Token → Prop} (own : ∀ t : Token, t.row = row → t.ReachesEnd line → P t)
    (fuel pos : Nat) {s : List Char} (here : s = line.drop pos) (h : st.Comments P) :
    (scanRest row fuel pos s st).Comments P := by
  induction fuel generalizing pos s st with
  | zero => exact h
  | succ fuel ih =>
      have behind (n : Nat) : (s.drop n) = line.drop (pos + n) := by rw [here, List.drop_drop]
      rw [scanRest]
      split
      · exact h
      dsimp only
      generalize (s.takeWhile isLineBlank).length = blanks
      have next (n : Nat) : (s.drop blanks).drop n = line.drop (pos + blanks + n) := by
        rw [behind, List.drop_drop]
      cases lexed : lexeme (s.drop blanks) with
      | comment n =>
          obtain ⟨r, body, rfl⟩ := lexeme_comment lexed
          refine ih _ (next _) (h.push fun _ => own _ rfl ?_)
          rw [behind] at body ⊢
          exact reachesEnd_mark body
      | _ =>
          dsimp only
          repeat' split
          all_goals first
            | exact h
            | exact ih _ (next _) h
            | exact ih _ (next _) (h.push_other (by decide))
            | exact ih _ (behind 1) (h.push_other (by decide))

theorem closeBlocks_comments {P : Token → Prop} {pos column : Nat} {indents : List Nat}
    (h : st.Comments P) (closed : closeBlocks row pos column indents st = some st') : st'.Comments P := by
  induction indents generalizing st with
  | nil => cases closed
  | cons top below ih =>
      rw [closeBlocks] at closed
      split at closed
      · split at closed
        · have popped : ({ st with indents := below } : Scanner).Comments P := h
          refine ih ?_ closed
          exact popped.push_other (by decide)
        · cases closed
      · cases closed
        exact h

/-- A comment that begins a line is what is left of it without the line end. -/
theorem reachesEnd_stripped {body : List Char} {column : Nat} (here : body = line.drop column)
    (filled : (body.reverse.dropWhile fun d => d == '\r' || d == '\n').reverse ≠ []) :
    Token.ReachesEnd ⟨.comment, (body.reverse.dropWhile fun d => d == '\r' || d == '\n').reverse, row, column,
      column + (body.reverse.dropWhile fun d => d == '\r' || d == '\n').reverse.length⟩ line := by
  have split : (body.reverse.dropWhile fun d => d == '\r' || d == '\n').reverse ++
      (body.reverse.takeWhile fun d => d == '\r' || d == '\n').reverse = body := by
    rw [← List.reverse_append, List.takeWhile_append_dropWhile, List.reverse_reverse]
  have room : column < line.length := by
    rw [← Nat.not_le, ← List.drop_eq_nil_iff, ← here]
    rintro rfl
    exact filled rfl
  refine ⟨line.take column, (body.reverse.takeWhile fun d => d == '\r' || d == '\n').reverse, ?_, ?_, rfl, filled, ?_, ?_⟩
  · rw [List.append_assoc, split, here, List.take_append_drop]
  · exact List.length_take_of_le (Nat.le_of_lt room)
  · dsimp only
    rw [List.getLast?_reverse]
    intro first
    have ended := List.head?_dropWhile_not (fun d => d == '\r' || d == '\n') body.reverse
    rw [first] at ended
    cases ended
  · intro c first
    have within : c ∈ body.reverse.takeWhile fun d => d == '\r' || d == '\n' :=
      List.mem_reverse.mp (List.mem_of_head? first)
    simpa using List.all_eq_true.mp List.all_takeWhile _ within

theorem scanStatement_comments {P : Token → Prop} (own : ∀ t : Token, t.row = row → t.ReachesEnd line → P t)
    (h : st.Comments P) : (scanStatement row line st).scanner.Comments P := by
  rw [scanStatement]
  generalize indentOf 0 0 line = start
  obtain ⟨column, pos⟩ := start
  dsimp only
  split
  · exact h
  next c r _ =>
  split
  · -- a line without a statement
    refine Scanner.Comments.push_other ?_ (by decide)
    cases c == '#' with
    | true =>
        simp only [↓reduceIte]
        split
        · exact h
        · next filled => exact h.push fun _ => own _ rfl (reachesEnd_stripped rfl (by simpa using filled))
    | false => exact h
  · have opened : (if st.indents.headD 0 < column then
        ({ st with indents := column :: st.indents }).push .indent (line.take pos) row 0 pos else st).Comments P := by
      split
      · have nested : ({ st with indents := column :: st.indents } : Scanner).Comments P := h
        exact nested.push_other (by decide)
      · exact h
    split
    · next closed => exact scanRest_comments own _ _ rfl (closeBlocks_comments opened closed)
    · exact opened

theorem scanLine_comments {P : Token → Prop} (own : ∀ t : Token, t.row = row → t.ReachesEnd line → P t)
    (h : st.Comments P) : (scanLine row line st).scanner.Comments P := by
  rw [scanLine]
  split
  · split
    · refine scanRest_comments own _ _ rfl ?_
      have closed : ({ st with pending := none, strict := false } : Scanner).Comments P := h
      exact closed.push_other (by decide)
    · split
      · have broken : ({ st with pending := none, strict := true } : Scanner).Comments P := h
        exact broken.push_other (by decide)
      · exact h
  · split
    · exact scanStatement_comments own h
    · have ended : ({ st with continued := false } : Scanner).Comments P := h
      exact scanRest_comments own _ _ rfl ended

theorem scanEnd_comments {P : Token → Prop} {last : List Char} (h : st.Comments P) :
    (scanEnd row last st).Comments P := by
  rw [scanEnd]
  refine Scanner.Comments.push_other ?_ (by decide)
  have closed (st : Scanner) (h : st.Comments P) :
      (st.indents.dropLast.foldl (fun st _ => st.push .dedent [] row 0 0) st).Comments P := by
    obtain ⟨ts, pushed, dedents⟩ := dedents_tokens row st.indents.dropLast st
    intro t ht comment
    rw [pushed] at ht
    rcases List.mem_append.mp ht with ht | ht
    · rw [dedents t ht] at comment
      cases comment
    · exact h t ht comment
  generalize (_ || _ : Bool) = ended
  cases ended with
  | true => exact closed st h
  | false => exact closed _ (h.push_other (by decide))

/-- Every comment of a scan reaches the end of the line in whose row it stands. -/
theorem scanFrom_comments {all : List (List Char)} {last : List Char} {lines : List (List Char)}
    (here : lines = all.drop (row - 1)) (first : 0 < row)
    (h : st.Comments fun t => ∃ line, all[t.row - 1]? = some line ∧ t.ReachesEnd line) :
    (scanFrom row last st lines).1.Comments fun t => ∃ line, all[t.row - 1]? = some line ∧ t.ReachesEnd line := by
  induction lines generalizing row last st with
  | nil =>
      rw [scanFrom]
      repeat' split
      all_goals first
        | exact h
        | exact scanEnd_comments h
  | cons line lines ih =>
      have there : all[row - 1]? = some line := by
        rw [← List.head?_drop, ← here]
        rfl
      have behind : lines = all.drop (row + 1 - 1) := by
        have rest := congrArg List.tail here
        rwa [List.tail_cons, List.tail_drop, Nat.sub_add_cancel first] at rest
      have stepped : (scanLine row line st).scanner.Comments fun t => ∃ line, all[t.row - 1]? = some line ∧ t.ReachesEnd line :=
        scanLine_comments (fun t is reaches => ⟨line, is ▸ there, reaches⟩) h
      rw [scanFrom]
      cases step : scanLine row line st with
      | next st' =>
          rw [step] at stepped
          exact ih behind (Nat.succ_pos row) stepped
      | last st' =>
          rw [step] at stepped
          exact scanEnd_comments stepped
      | uneven st' =>
          rw [step] at stepped
          exact stepped

theorem scan_whole {lines : List (List Char)} (h : (scan lines).2 = .complete) :
    scan lines = ((scan lines).1, .complete) := by
  rw [← h]

theorem scan_comments {lines : List (List Char)} (ht : t ∈ (scan lines).1) (comment : t.kind = .comment) :
    ∃ line, lines[t.row - 1]? = some line ∧ t.ReachesEnd line := by
  have all : (scanFrom 1 [] .start lines).1.Comments fun t => ∃ line, lines[t.row - 1]? = some line ∧ t.ReachesEnd line :=
    scanFrom_comments rfl Nat.one_pos fun _ ht => nomatch ht
  exact all t (List.mem_reverse.mp ht) comment

/-- A token stands over a place: it begins there or before, and ends behind it. -/
def Token.covers (t : Token) (row column : Nat) : Prop :=
  (t.row < row ∨ t.row = row ∧ t.column ≤ column) ∧
    (row < t.row + t.text.count '\n' ∨ row = t.row + t.text.count '\n' ∧ column < t.endColumn)

theorem getLast?_behind {b : List Char} (a : List Char) (filled : b ≠ []) : (a ++ b).getLast? = b.getLast? := by
  rw [List.getLast?_append, List.getLast?_eq_some_getLast filled, Option.some_or]

instance (t : Token) (row column : Nat) : Decidable (t.covers row column) :=
  inferInstanceAs (Decidable (_ ∧ _))

/-- A comment is on one row. -/
theorem Token.ReachesEnd.single {a : List Char} (h : t.ReachesEnd line) (whole : '\n' ∉ a)
    (fed : line = a ++ ['\n'] ∨ line = a) : '\n' ∉ t.text := by
  obtain ⟨before, after, text, -, -, filled, last, -⟩ := h
  intro within
  rcases fed with rfl | rfl
  · rcases List.eq_nil_or_concat after with rfl | ⟨after, c, rfl⟩
    · refine last ?_
      rw [← getLast?_behind before filled, ← List.append_nil (before ++ t.text), ← text]
      simp
    · rw [List.concat_eq_append, ← List.append_assoc] at text
      have front := List.append_inj_left' text rfl
      exact whole (front ▸ List.mem_append_left _ (List.mem_append_right _ within))
  · exact whole (text ▸ List.mem_append_left _ (List.mem_append_right _ within))

/-- A comment in a row without a carriage return takes in the joint at its end. -/
theorem Token.ReachesEnd.joint {a : List Char} (h : t.ReachesEnd (a ++ ['\\', '\n'])) (whole : '\n' ∉ a)
    (unbroken : '\r' ∉ a) : t.column ≤ a.length ∧ a.length < t.endColumn := by
  have single : '\n' ∉ t.text := h.single (a := a ++ ['\\']) (by simpa using whole) (.inl (by simp))
  obtain ⟨before, after, text, column, endColumn, filled, last, ended⟩ := h
  have lengths := congrArg List.length text
  simp only [List.length_append, List.length_cons, List.length_nil] at lengths
  have some_ : 0 < t.text.length := List.length_pos_iff.mpr filled
  have one : after.length = 1 := by
    cases after with
    | nil =>
        refine absurd ?_ last
        rw [← getLast?_behind before filled, ← List.append_nil (before ++ t.text), ← text]
        simp
    | cons c after =>
        rcases List.eq_nil_or_concat after with rfl | ⟨after, d, rfl⟩
        · rfl
        · have split : (a ++ ['\\']) ++ ['\n'] = (before ++ t.text ++ c :: after) ++ [d] := by simpa using text
          have within : c ∈ a ++ ['\\'] := by
            rw [List.append_inj_left' split rfl]
            simp
          rcases ended c rfl with rfl | rfl
          · exact absurd (by simpa using within) unbroken
          · exact absurd (by simpa using within) whole
  omega

end Script

/-! ## Joining -/

section

open Source

variable {κ : Type} {R : World κ → World κ → Prop} [Still R] {s line : List Char} {tokens : List Token} {row : Nat}

/-- A row that ends in a joint. -/
structure JointRow (s : List Char) (row : Nat) (line : List Char) : Prop where
  first : 0 < row
  there : (feedLines s)[row - 1]? = some line
  joint : endsWith ['\\', '\n'] line = true

/-- The joint of a row ends a comment. -/
def EndsComment (tokens : List Token) (row : Nat) (line : List Char) : Prop :=
  ∃ t ∈ tokens, t.kind = .comment ∧ t.covers row (line.length - 2)

/-- The joint of a row stands in no token, and so continues the row. -/
def Continues (tokens : List Token) (row : Nat) (line : List Char) : Prop :=
  ∀ t ∈ tokens, ¬ t.covers row (line.length - 2)

instance (tokens : List Token) (row : Nat) (line : List Char) : Decidable (EndsComment tokens row line) :=
  inferInstanceAs (Decidable (∃ t ∈ tokens, _))

instance (tokens : List Token) (row : Nat) (line : List Char) : Decidable (Continues tokens row line) :=
  inferInstanceAs (Decidable (∀ t ∈ tokens, _))

theorem commentRows?_complete (scanned : scan (feedLines s) = (tokens, .complete)) :
    ∃ comments, commentRows? s = some comments ∧
      ∀ row, comments.contains row = true ↔ ∃ t ∈ tokens, t.kind = .comment ∧ t.row = row := by
  refine ⟨_, by rw [commentRows?, scanned], fun row => ?_⟩
  simp [List.mem_eraseDups, and_assoc]

theorem JointRow.split (h : JointRow s row line) : ∃ a, line = a ++ ['\\', '\n'] ∧ '\n' ∉ a := by
  obtain ⟨a, rfl⟩ := (endsWith_iff _ _).mp h.joint
  obtain ⟨b, whole, fed | fed⟩ := feedLines_mem (List.mem_of_getElem? h.there)
  · refine ⟨a, rfl, fun within => whole ?_⟩
    have front : a ++ ['\\'] = b := List.append_inj_left' (by simpa using fed) rfl
    exact front ▸ List.mem_append_left _ within
  · exact absurd (fed ▸ by simp) whole

/-- A comment that takes in the end of a row is a comment of this row. -/
theorem EndsComment.comment (scanned : scan (feedLines s) = (tokens, .complete)) (h : EndsComment tokens row line) :
    ∃ t ∈ tokens, t.kind = .comment ∧ t.row = row := by
  obtain ⟨t, ht, comment, before, behind⟩ := h
  refine ⟨t, ht, comment, ?_⟩
  have within : t ∈ (scan (feedLines s)).1 := by
    rw [scanned]
    exact ht
  obtain ⟨own, there, reaches⟩ := scan_comments within comment
  obtain ⟨a, whole, fed⟩ := feedLines_mem (List.mem_of_getElem? there)
  rw [List.count_eq_zero.mpr (reaches.single whole fed)] at behind
  omega

/-- No comment stands in a row that goes on, if the row is a line of its own. -/
theorem Continues.no_comment (scanned : scan (feedLines s) = (tokens, .complete)) (jointed : JointRow s row line)
    (alone : wideLines line = [line]) (h : Continues tokens row line) :
    ¬ ∃ t ∈ tokens, t.kind = .comment ∧ t.row = row := by
  rintro ⟨t, ht, comment, rfl⟩
  have within : t ∈ (scan (feedLines s)).1 := by
    rw [scanned]
    exact ht
  obtain ⟨own, there, reaches⟩ := scan_comments within comment
  obtain rfl := Option.some.inj (there.symm.trans jointed.there)
  obtain ⟨a, rfl, whole⟩ := jointed.split
  have unbroken : '\r' ∉ a := fun within => by
    have own : a ++ ['\\', '\n'] ∈ wideLines (a ++ ['\\', '\n']) := by
      rw [alone]
      exact List.mem_singleton.mpr rfl
    cases wideLinesFrom_joint [] _ nofun own _ within
  obtain ⟨column, endColumn⟩ := reaches.joint whole unbroken
  have single : '\n' ∉ t.text := reaches.single (a := a ++ ['\\']) (by simpa using whole) (.inl (by simp))
  refine h t ht ⟨.inr ⟨rfl, ?_⟩, .inr ⟨by rw [List.count_eq_zero.mpr single]; rfl, ?_⟩⟩
  · simpa using column
  · simpa using endColumn

theorem joinContinuations_joined {source : String} {joined : List Char} (h : joined? source.toList = some joined)
    (w : World κ) : (joinContinuations source : Within R String).run w = .ok (String.ofList joined) w := by
  rw [joinContinuations, h]
  rfl

/-- Whatever ends lines in a text, joining takes out joints at the ends of rows and nothing else, and a text that cannot
be scanned stays. A joint stays exactly if the number that all line ends give its row is that of a row with a comment. So
it stays if it ends a comment, and goes if it continues its row, where that number is the row's own. It is everywhere in
a text in which only line feeds end lines. -/
theorem joinContinuations_rows {source : String} {outcome : Outcome}
    (scanned : scan (feedLines source.toList) = (tokens, outcome)) (w : World κ) :
    (outcome ≠ .complete → (joinContinuations source : Within R String).run w =
      .ok source { w with trace := .log .debug "Source does not tokenize, leaving continuations alone" none :: w.trace }) ∧
    (outcome = .complete → ∃ stays : Nat → Bool,
      (joinContinuations source : Within R String).run w =
        .ok (String.ofList (withoutJoints (fun row => !stays row) 1 (feedLines source.toList))) w ∧
      (∀ row, stays row = true ↔ ∃ t ∈ tokens, t.kind = .comment ∧ t.row = wideRow source.toList row) ∧
      (∀ row line, JointRow source.toList row line → wideRow source.toList row = row →
        (EndsComment tokens row line → stays row = true) ∧ (Continues tokens row line → stays row = false)) ∧
      ((∀ c ∈ source.toList, isLineBreak c = true → c = '\n') →
        ∀ row ≤ (feedLines source.toList).length, wideRow source.toList row = row)) := by
  constructor
  · intro broken
    have none : joined? source.toList = none := by
      rw [joined?, commentRows?, scanned]
      cases outcome with
      | complete => exact absurd rfl broken
      | _ => rfl
    rw [joinContinuations, none]
    rfl
  · rintro rfl
    obtain ⟨comments, known, rows⟩ := commentRows?_complete scanned
    refine ⟨fun row => comments.contains (wideRow source.toList row), joinContinuations_joined (joined?_rows known) w,
      fun row => rows _, ?_, fun plain row => wideRow_plain plain⟩
    intro row line jointed own
    dsimp only
    rw [own]
    refine ⟨fun ends => (rows row).mpr (ends.comment scanned), fun goes => ?_⟩
    have there : row ≤ (feedLines source.toList).length := by
      have := (List.getElem?_eq_some_iff.mp jointed.there).1
      omega
    have alone : wideLines line = [line] := by
      refine (wideRow_le there).2 own line (List.mem_of_getElem? (i := row - 1) ?_)
      rw [List.getElem?_take_of_lt (by have := jointed.first; omega)]
      exact jointed.there
    rw [← Bool.not_eq_true, rows]
    exact goes.no_comment scanned jointed alone

/-- One joint continues the first row, another one ends a comment. -/
def halvedText : String :=
  "x = 1 + \\\n    2 # two \\\ny = 3\n"

theorem joinContinuations_rows_halved : ∃ stays : Nat → Bool,
    (joinContinuations halvedText : Quietly Unit String).run (World.start [] ()) =
      .ok (String.ofList (withoutJoints (fun row => !stays row) 1 (feedLines halvedText.toList))) (World.start [] ()) ∧
    stays 1 = false ∧ stays 2 = true := by
  have whole : (scan (feedLines halvedText.toList)).2 = .complete := by decide +kernel
  obtain ⟨stays, joined, -, rows, -⟩ :=
    (joinContinuations_rows (R := Quiet) (scan_whole whole) (World.start [] ())).2 rfl
  have first : JointRow halvedText.toList 1 "x = 1 + \\\n".toList :=
    ⟨Nat.one_pos, by decide +kernel, by decide +kernel⟩
  have second : JointRow halvedText.toList 2 "    2 # two \\\n".toList :=
    ⟨Nat.two_pos, by decide +kernel, by decide +kernel⟩
  exact ⟨stays, joined, (rows 1 _ first (by decide +kernel)).2 (by decide +kernel),
    (rows 2 _ second (by decide +kernel)).1 (by decide +kernel)⟩

/-- Has a comment that ends in a joint, behind a form feed, which ends a line for some. -/
def fedText : String :=
  "x = 1\x0c\n# c \\\ny = 2\n"

/-- The joint goes, and the statement behind it becomes part of the comment. -/
theorem fedText_swallowed : ∃ line, JointRow fedText.toList 2 line ∧
    EndsComment (scan (feedLines fedText.toList)).1 2 line ∧
    (joinContinuations fedText : Quietly Unit String).run (World.start [] ()) =
      .ok "x = 1\x0c\n# c y = 2\n" (World.start [] ()) := by
  have joined : joined? fedText.toList = some "x = 1\x0c\n# c y = 2\n".toList := by decide +kernel
  refine ⟨"# c \\\n".toList, ⟨Nat.two_pos, by decide +kernel, by decide +kernel⟩, by decide +kernel, ?_⟩
  rw [← String.ofList_toList (s := "x = 1\x0c\n# c y = 2\n")]
  exact joinContinuations_joined joined _

end

end Patchwork
