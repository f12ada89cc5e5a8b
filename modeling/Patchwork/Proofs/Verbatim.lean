import Mathlib.Algebra.Group.Int.Defs
import Mathlib.Order.Bounds.Basic
import Patchwork.Proofs.Draining
import Patchwork.Proofs.Joints
import Patchwork.Proofs.LiteralPatterns
import Patchwork.Proofs.PureRules
import Patchwork.Script.TextMethod

/-!
Rules that look for one text and put another one in its place. They find the text wherever it stands, from left to right
and without overlaps, and what they put in its place is not read as a template: they do what replacing text does.
-/

namespace Patchwork

open Run Script Text

namespace Pattern

/-! ## Where literal text matches -/

section Run

variable (call : Nat → Bool → Option Limits → Rest → Rest) (scene : Scene)

theorem forgiving_strict (backward moves : Bool) (item : Nat → Option Nat) (next : Rest) (fuel : Nat) (t : Cursor) :
    scene.forgiving backward none moves item next (fuel + 1) t = ((item t.pos).map fun pos => next { t with pos }).getD .missed := by
  cases found : item t.pos <;> simp only [Scene.forgiving, found] <;> rfl

theorem run_char (c : Char) (next : Rest) (t : Cursor) :
    scene.run call false none (.char c .exact) next t =
      if scene.text[t.pos]? = some c then next { t with pos := t.pos + 1 } else .missed := by
  rw [Scene.run, Scene.run.letter, forgiving_strict]
  simp only [Scene.step?, Bool.false_eq_true, ↓reduceIte, sameLetter]
  cases scene.text[t.pos]? with
  | none => rfl
  | some d => by_cases same : c = d <;> simp [same, eq_comm (a := d)]

theorem cons_prefix_drop (c : Char) (w s : List Char) (i : Nat) :
    c :: w <+: s.drop i ↔ s[i]? = some c ∧ w <+: s.drop (i + 1) := by
  rw [← List.tail_drop, ← List.head?_drop]
  cases s.drop i with
  | nil => simp
  | cons d r => simp [List.cons_prefix_cons, eq_comm]

theorem run_literal (w : List Char) (next : Rest) (t : Cursor) :
    scene.run call false none (.literal w) next t =
      if w <+: scene.text.toList.drop t.pos then next { t with pos := t.pos + w.length } else .missed := by
  induction w generalizing t with
  | nil => simp [Node.literal, Node.ofList, Scene.run]
  | cons c w ih =>
      have first : scene.run call false none (.literal (c :: w)) next t =
          scene.run call false none (.char c .exact) (scene.run call false none (.literal w) next) t := by
        cases w with
        | nil => rw [show scene.run call false none (.literal []) next = next from rfl]; rfl
        | cons d w => rfl
      rw [first, run_char]
      simp only [ih, cons_prefix_drop, Array.getElem?_toList, List.length_cons]
      by_cases here : scene.text[t.pos]? = some c
      · simp [here, Nat.add_assoc, Nat.add_comm 1]
      · simp [here]

end Run

/-- A word stands in a text at a place. -/
def StandsAt (w s : List Char) (i : Nat) : Prop :=
  i ≤ s.length ∧ w <+: s.drop i

/-- The match of a word at a place. -/
def matchAt (w : List Char) (i : Nat) : Match :=
  ⟨i, i + w.length, [], 0⟩

/-- A word stands at a place that a search may stop at: one that has to move on does not end where it began. -/
def Fits (w : String) (scene : Scene) (moving : Bool) (i : Nat) : Prop :=
  StandsAt w.toList scene.text.toList i ∧ ¬ (moving = true ∧ i + w.toList.length = scene.anchor)

variable {w : String} {scene : Scene} {moving : Bool} {left pos : Nat}

theorem Fits.inside (h : Fits w scene moving pos) : pos ≤ scene.text.size :=
  h.1.1

theorem outcomeAt_literal (inside : pos ≤ scene.text.size) :
    Fits w scene moving pos ∧ (literalProgram w).outcomeAt scene moving pos = .found ⟨pos + w.toList.length, pos, [], {}, 0⟩ ∨
      ¬ Fits w scene moving pos ∧ (literalProgram w).outcomeAt scene moving pos = .missed := by
  rw [Program.outcomeAt, Program.runAt]
  simp only [literalProgram, run_literal, Fits, StandsAt, Array.length_toList, inside, true_and]
  by_cases here : w.toList <+: scene.text.toList.drop pos
  · by_cases stays : moving = true ∧ pos + w.toList.length = scene.anchor
    · simp [here, stays]
    · refine .inl ⟨⟨here, stays⟩, ?_⟩
      rw [if_pos here, if_pos (by simpa [imp_iff_not_or] using stays)]
      rfl
  · simp [here]

theorem firstFrom_beyond (beyond : scene.text.size < pos) : (literalProgram w).firstFrom? scene moving left pos = none := by
  rw [Program.firstFrom?.eq_def]
  exact if_pos beyond

theorem firstFrom_fits (fits : Fits w scene moving pos) :
    (literalProgram w).firstFrom? scene moving left pos = some (matchAt w.toList pos) := by
  rcases outcomeAt_literal fits.inside with ⟨-, found⟩ | ⟨none, -⟩
  · rw [Program.firstFrom?.eq_def]
    dsimp only
    rw [if_neg (Nat.not_lt_of_le fits.inside), found]
    simp [Match.ofCursor, matchAt, Slips.total]
  · exact absurd fits none

theorem firstFrom_last (inside : pos ≤ scene.text.size) (unfit : ¬ Fits w scene moving pos) :
    (literalProgram w).firstFrom? scene moving 0 pos = none := by
  rcases outcomeAt_literal inside with ⟨fits, -⟩ | ⟨-, missed⟩
  · exact absurd fits unfit
  · rw [Program.firstFrom?.eq_def]
    dsimp only
    rw [if_neg (Nat.not_lt_of_le inside), missed]

theorem firstFrom_unfit (inside : pos ≤ scene.text.size) (unfit : ¬ Fits w scene moving pos) :
    (literalProgram w).firstFrom? scene moving (left + 1) pos = (literalProgram w).firstFrom? scene moving left (pos + 1) := by
  rcases outcomeAt_literal inside with ⟨fits, -⟩ | ⟨-, missed⟩
  · exact absurd fits unfit
  · rw [Program.firstFrom?.eq_def]
    dsimp only
    rw [if_neg (Nat.not_lt_of_le inside), missed]
    rfl

/-- A search finds the first place that fits, if there is one among those that it visits. -/
theorem firstFrom_literal (w : String) (scene : Scene) (moving : Bool) (left pos : Nat) :
    (∃ i, (literalProgram w).firstFrom? scene moving left pos = some (matchAt w.toList i) ∧
      IsLeast {i | pos ≤ i ∧ Fits w scene moving i} i) ∨
    (literalProgram w).firstFrom? scene moving left pos = none ∧
      ∀ i, pos ≤ i → i ≤ pos + left → ¬ Fits w scene moving i := by
  induction left generalizing pos with
  | zero =>
      by_cases inside : pos ≤ scene.text.size
      · by_cases fits : Fits w scene moving pos
        · exact .inl ⟨pos, firstFrom_fits fits, ⟨Nat.le_refl _, fits⟩, fun i hi => hi.1⟩
        · exact .inr ⟨firstFrom_last inside fits, fun i h few => Nat.le_antisymm few h ▸ fits⟩
      · exact .inr ⟨firstFrom_beyond (Nat.lt_of_not_le inside), fun i h _ fits => inside (Nat.le_trans h fits.inside)⟩
  | succ left ih =>
      by_cases inside : pos ≤ scene.text.size
      · by_cases fits : Fits w scene moving pos
        · exact .inl ⟨pos, firstFrom_fits fits, ⟨Nat.le_refl _, fits⟩, fun i hi => hi.1⟩
        · have later {i : Nat} (h : pos ≤ i) (here : Fits w scene moving i) : pos + 1 ≤ i :=
            Nat.lt_of_le_of_ne h fun same => fits (same ▸ here)
          rw [firstFrom_unfit inside fits]
          rcases ih (pos + 1) with ⟨i, found, first⟩ | ⟨missed, none⟩
          · exact .inl ⟨i, found, ⟨Nat.le_of_succ_le first.1.1, first.1.2⟩, fun j hj => first.2 ⟨later hj.1 hj.2, hj.2⟩⟩
          · exact .inr ⟨missed, fun i h few here => none i (later h here) (by omega) here⟩
      · exact .inr ⟨firstFrom_beyond (Nat.lt_of_not_le inside), fun i h _ fits => inside (Nat.le_trans h fits.inside)⟩

/-- A search from a place on, or from the next one on if it has to move, finds the first place where the word stands. -/
theorem searchFrom_literal (w : String) (text : Array Char) (moving : Bool) (pos : Nat)
    (empty : moving = true → w.toList.length = 0) :
    (∃ i, (literalProgram w).searchFrom? text moving pos = some (matchAt w.toList i) ∧
      IsLeast {i | (if moving then pos + 1 else pos) ≤ i ∧ StandsAt w.toList text.toList i} i) ∨
    (literalProgram w).searchFrom? text moving pos = none ∧
      ∀ i, (if moving then pos + 1 else pos) ≤ i → ¬ StandsAt w.toList text.toList i := by
  let scene : Scene := ⟨text, pos, .whileMoving, (Node.literal w.toList).referred, none⟩
  have search : (literalProgram w).searchFrom? text moving pos =
      (literalProgram w).firstFrom? scene moving (text.size - pos) pos := by
    simp [Program.searchFrom?, Program.searchWithin?, literalProgram, scene]
  have fits (i : Nat) : pos ≤ i ∧ Fits w scene moving i ↔
      (if moving then pos + 1 else pos) ≤ i ∧ StandsAt w.toList text.toList i := by
    cases moving with
    | false => simp [Fits, scene]
    | true =>
        simp only [Fits, scene, empty rfl, Nat.add_zero, true_and, if_true, Nat.succ_le_iff]
        rw [← and_assoc, and_right_comm, Nat.lt_iff_le_and_ne, ne_comm]
  rw [search]
  rcases firstFrom_literal w scene moving (text.size - pos) pos with ⟨i, found, first⟩ | ⟨missed, none⟩
  · exact .inl ⟨i, found, by simpa only [fits] using first⟩
  · refine .inr ⟨missed, fun i h here => ?_⟩
    obtain ⟨behind, fit⟩ := (fits i).mpr ⟨h, here⟩
    have inside : i ≤ text.size := here.1
    exact none i behind (by omega) fit

/-! ## The places that are replaced -/

/-- Places of a word in a text, each the first one from a bound on or behind the one before, until there is none or there
are as many as a limit allows. -/
inductive Occurrences (w s : List Char) : Option Nat → Nat → List Nat → Prop
  | enough {bound : Nat} : Occurrences w s (some 0) bound []
  | gone {limit : Option Nat} {bound : Nat} : (∀ i, bound ≤ i → ¬ StandsAt w s i) → Occurrences w s limit bound []
  | next {limit : Option Nat} {bound i : Nat} {rest : List Nat} : limit ≠ some 0 →
      IsLeast {i | bound ≤ i ∧ StandsAt w s i} i → Occurrences w s (limit.map (· - 1)) (i + max 1 w.length) rest →
      Occurrences w s limit bound (i :: rest)

namespace Occurrences

variable {w s : List Char} {limit : Option Nat} {bound n : Nat} {starts : List Nat}

theorem length_le (h : Occurrences w s limit bound starts) (some : starts ≠ []) : starts.length + bound ≤ s.length + 1 := by
  induction h with
  | enough => exact absurd rfl some
  | gone => exact absurd rfl some
  | @next _ _ i rest _ least _ ih =>
      have inside : i ≤ s.length := least.1.2.1
      have behind := least.1.1
      cases rest with
      | nil => simp; omega
      | cons j rest =>
          have more := ih (List.cons_ne_nil _ _)
          simp only [List.length_cons] at more ⊢
          omega

/-- A limit that was not reached may be given up. -/
theorem unlimited (h : Occurrences w s (some n) bound starts) (few : starts.length < n) : Occurrences w s none bound starts := by
  induction starts generalizing n bound with
  | nil =>
      cases h with
      | enough => exact absurd few (Nat.not_lt_zero _)
      | gone none => exact .gone none
  | cons i rest ih =>
      cases h with
      | next _ least tail => exact .next (by simp) least (ih tail (Nat.lt_sub_of_add_lt few))

/-- A limit that is large enough changes nothing. -/
theorem limited (h : Occurrences w s none bound starts) (few : starts.length ≤ n) : Occurrences w s (some n) bound starts := by
  induction starts generalizing n bound with
  | nil =>
      cases h with
      | gone none => exact .gone none
  | cons i rest ih =>
      cases h with
      | next _ least tail =>
          have positive : 0 < n := Nat.lt_of_lt_of_le (Nat.succ_pos _) few
          exact .next (by simpa using Nat.ne_of_gt positive) least (ih tail (Nat.le_sub_one_of_lt few))

end Occurrences

theorem matchesFrom_literal (w : String) (text : Array Char) (n : Nat) (moving : Bool) (pos : Nat)
    (empty : moving = true → w.toList.length = 0) :
    ∃ starts, (literalProgram w).matchesFrom text n moving pos = starts.map (matchAt w.toList) ∧
      Occurrences w.toList text.toList (some n) (if moving then pos + 1 else pos) starts := by
  induction n generalizing moving pos with
  | zero => exact ⟨[], rfl, .enough⟩
  | succ n ih =>
      rw [Program.matchesFrom]
      rcases searchFrom_literal w text moving pos empty with ⟨i, found, least⟩ | ⟨missed, gone⟩
      · have still : (i == i + w.toList.length) = true ↔ w.toList.length = 0 := by simp
        obtain ⟨rest, eq, tail⟩ := ih (i == i + w.toList.length) (i + w.toList.length) still.mp
        have bound : (if (i == i + w.toList.length) = true then i + w.toList.length + 1 else i + w.toList.length) =
            i + max 1 w.toList.length := by
          simp only [still]
          split <;> omega
        rw [bound] at tail
        refine ⟨i :: rest, ?_, .next (by simp) least tail⟩
        simp only [found]
        exact congrArg (matchAt w.toList i :: ·) eq
      · exact ⟨[], by rw [missed]; rfl, .gone gone⟩

/-- The matches of literal text are the places where it stands. -/
theorem occurrences_literal (w : String) (text : List Char) (limit : Option Nat) :
    ∃ starts, (literalProgram w).occurrences text limit = starts.map (matchAt w.toList) ∧
      Occurrences w.toList text limit 0 starts := by
  let most := 2 * text.length + 2
  obtain ⟨starts, eq, places⟩ := matchesFrom_literal w text.toArray ((limit.map (min · most)).getD most) false 0 (by simp)
  refine ⟨starts, by simpa [Program.occurrences, literalProgram, most] using eq, ?_⟩
  have few : starts.length < most := by
    cases starts with
    | nil => exact Nat.succ_pos _
    | cons i rest =>
        have := places.length_le (List.cons_ne_nil _ _)
        simp only [most] at this ⊢
        omega
  cases limit with
  | none => exact places.unlimited few
  | some n =>
      rcases Nat.le_total n most with small | large
      · simpa [Nat.min_eq_left small] using places
      · have all : Occurrences w.toList text (some most) 0 starts := by simpa [Nat.min_eq_right large] using places
        exact (all.unlimited few).limited (Nat.le_of_lt (Nat.lt_of_lt_of_le few large))

/-! ## The text that comes of it -/

/-- The text from a place on with another text for the word at each of the places. -/
def replacedAt (w new s : List Char) (pos : Nat) (starts : List Nat) : List Char :=
  splice s pos (starts.map fun i => (matchAt w i, new))

variable {w new s r : List Char} {c : Char} {n pos i : Nat} {starts : List Nat}

theorem replacedAt_nil : replacedAt w new s pos [] = s.drop pos := rfl

theorem replacedAt_cons :
    replacedAt w new s pos (i :: starts) = (s.drop pos).take (i - pos) ++ new ++ replacedAt w new s (i + w.length) starts := rfl

theorem replacedAt_step (text : s.drop pos = c :: r) (behind : ∀ i, starts.head? = some i → pos + 1 ≤ i) :
    replacedAt w new s pos starts = c :: replacedAt w new s (pos + 1) starts := by
  have tail : s.drop (pos + 1) = r := by rw [← List.tail_drop, text]; rfl
  cases starts with
  | nil => rw [replacedAt_nil, replacedAt_nil, text, tail]
  | cons i starts =>
      have more : i - pos = (i - (pos + 1)) + 1 := by have := behind i rfl; omega
      rw [replacedAt_cons, replacedAt_cons, text, tail, more, List.take_succ_cons]
      rfl

theorem Occurrences.later {limit : Option Nat} {bound : Nat} (h : Occurrences w s limit bound starts)
    (passed : limit = some 0 ∨ ¬ StandsAt w s bound) :
    Occurrences w s limit (bound + 1) starts ∧ ∀ i, starts.head? = some i → bound + 1 ≤ i := by
  cases h with
  | enough => exact ⟨.enough, by simp⟩
  | gone none => exact ⟨.gone fun i h => none i (Nat.le_of_succ_le h), by simp⟩
  | @next _ _ i rest more least tail =>
      have behind : bound + 1 ≤ i := by
        refine Nat.lt_of_le_of_ne least.1.1 fun same => ?_
        rcases passed with done | other
        · exact more done
        · exact other (same ▸ least.1.2)
      exact ⟨.next more ⟨⟨behind, least.1.2⟩, fun j h => least.2 ⟨Nat.le_of_succ_le h.1, h.2⟩⟩ tail, by simpa using behind⟩

theorem piecesFrom_skip (w s piece : List Char) (n k : Nat) :
    piecesFrom w n k piece s = piecesFrom w n 0 piece (s.drop k) := by
  induction s generalizing k with
  | nil => rw [List.drop_nil]; rfl
  | cons c r ih =>
      cases k with
      | zero => rfl
      | succ k => exact ih k

theorem piecesFrom_ne_nil (w s piece : List Char) (n k : Nat) : piecesFrom w n k piece s ≠ [] := by
  fun_induction piecesFrom w n k piece s with
  | case1 => exact List.cons_ne_nil _ _
  | case2 _ _ _ _ _ ih => exact ih
  | case3 => exact List.cons_ne_nil _ _
  | case4 _ _ _ _ _ ih => exact ih

theorem intercalate_cons (x : List Char) {ys : List (List Char)} (filled : ys ≠ []) :
    List.intercalate new (x :: ys) = x ++ new ++ List.intercalate new ys := by
  cases ys with
  | nil => exact absurd rfl filled
  | cons y ys => simp [List.intercalate]

theorem StandsAt.length_le (h : StandsAt w s i) : i + w.length ≤ s.length := by
  have prefixLength := h.2.length_le
  have inside := h.1
  rw [List.length_drop] at prefixLength
  omega

/-- Cutting a text at a word and joining the pieces replaces the word where it stands. -/
theorem intercalate_piecesFrom (filled : w ≠ []) (piece : List Char) (inside : pos ≤ s.length)
    (h : Occurrences w s (some n) pos starts) :
    List.intercalate new (piecesFrom w n 0 piece (s.drop pos)) = piece.reverse ++ replacedAt w new s pos starts := by
  have long : 0 < w.length := List.length_pos_iff.mpr filled
  induction left : s.length - pos using Nat.strong_induction_on generalizing n pos starts piece with
  | _ left ih =>
    have size : (s.drop pos).length = s.length - pos := List.length_drop
    cases text : s.drop pos with
    | nil =>
        have none : starts = [] := by
          cases h with
          | enough => rfl
          | gone => rfl
          | next _ least _ =>
              have room := least.1.2.length_le
              have behind := least.1.1
              rw [text, List.length_nil] at size
              omega
        simp [none, replacedAt_nil, text, piecesFrom, List.intercalate]
    | cons c r =>
        have tail : s.drop (pos + 1) = r := by rw [← List.tail_drop, text]; rfl
        rw [text, List.length_cons] at size
        by_cases cut : n ≠ 0 ∧ w <+: c :: r
        · have here : StandsAt w s pos := ⟨inside, text ▸ cut.2⟩
          have room := here.length_le
          cases h with
          | enough => exact absurd rfl cut.1
          | gone none => exact absurd here (none pos (Nat.le_refl _))
          | @next _ _ i rest _ least more =>
              obtain rfl : i = pos := Nat.le_antisymm (least.2 ⟨Nat.le_refl _, here⟩) least.1.1
              rw [Nat.max_eq_right long] at more
              have skipped : r.drop (w.length - 1) = s.drop (i + w.length) := by
                rw [← tail, List.drop_drop]
                congr 1
                omega
              have joined := ih _ (by omega) (n := n - 1) [] room more rfl
              rw [piecesFrom, if_pos (by simpa [startsWith_iff] using cut), intercalate_cons _ (piecesFrom_ne_nil _ _ _ _ _),
                piecesFrom_skip, skipped, joined, replacedAt_cons]
              simp
        · have passed : some n = some 0 ∨ ¬ StandsAt w s pos := by
            by_cases zero : n = 0
            · exact .inl (congrArg some zero)
            · exact .inr fun here => cut ⟨zero, text ▸ here.2⟩
          obtain ⟨more, behind⟩ := h.later passed
          have joined := ih _ (by omega) (c :: piece) (by omega) more rfl
          rw [tail] at joined
          rw [piecesFrom, if_neg (by simpa [startsWith_iff] using cut), joined, replacedAt_step text behind]
          simp

/-- An empty word stands in front of each character and at the end. -/
theorem replacedAt_empty (new : List Char) (inside : pos ≤ s.length) (h : Occurrences [] s (some n) (pos + 1) starts) :
    replacedAt [] new s pos starts = ((s.drop pos).take n).flatMap (fun c => c :: new) ++ (s.drop pos).drop n := by
  induction n generalizing pos starts with
  | zero =>
      cases h with
      | enough => rfl
      | gone => rfl
      | next more => exact absurd rfl more
  | succ n ih =>
      have stands {i : Nat} : StandsAt [] s i ↔ i ≤ s.length := ⟨And.left, fun h => ⟨h, List.nil_prefix⟩⟩
      cases text : s.drop pos with
      | nil =>
          have size : (s.drop pos).length = s.length - pos := List.length_drop
          rw [text, List.length_nil] at size
          cases h with
          | gone => rw [replacedAt_nil, text]; rfl
          | next _ least _ =>
              have room := stands.mp least.1.2
              have behind := least.1.1
              omega
      | cons c r =>
          have size : (s.drop pos).length = s.length - pos := List.length_drop
          have tail : s.drop (pos + 1) = r := by rw [← List.tail_drop, text]; rfl
          rw [text, List.length_cons] at size
          have room : pos + 1 ≤ s.length := by omega
          cases h with
          | gone none => exact absurd (stands.mpr room) (none _ (Nat.le_refl _))
          | @next _ _ i rest _ least more =>
              obtain rfl : i = pos + 1 := Nat.le_antisymm (least.2 ⟨Nat.le_refl _, stands.mpr room⟩) least.1.1
              rw [replacedAt_cons, Nat.add_sub_cancel_left, text, List.length_nil, Nat.add_zero, ih room more, tail]
              simp

theorem replacedAt_limited (h : Occurrences w s (some n) 0 starts) :
    replacedAt w new s 0 starts = replacedUpTo (some n) w new s := by
  cases w with
  | cons c w => exact (intercalate_piecesFrom (List.cons_ne_nil c w) [] (Nat.zero_le _) h).symm
  | nil =>
      have first : StandsAt [] s 0 := ⟨Nat.zero_le _, List.nil_prefix⟩
      cases n with
      | zero =>
          cases h with
          | enough => rfl
          | gone => rfl
          | next more => exact absurd rfl more
      | succ n =>
          cases h with
          | gone none => exact absurd first (none 0 (Nat.le_refl _))
          | @next _ _ i rest _ least more =>
              obtain rfl : i = 0 := Nat.le_zero.mp (least.2 ⟨Nat.le_refl _, first⟩)
              have behind := replacedAt_empty new (Nat.zero_le _) more
              rw [List.drop_zero] at behind
              rw [replacedAt_cons, List.length_nil, Nat.add_zero, behind]
              cases s <;> simp [replacedUpTo]

/-- Replacing the places of a word is what the text method does. -/
theorem replacedAt_eq {limit : Option Nat} (h : Occurrences w s limit 0 starts) :
    replacedAt w new s 0 starts = replacedUpTo limit w new s := by
  cases limit with
  | some n => exact replacedAt_limited h
  | none =>
      have few : starts.length ≤ s.length + 1 := by
        cases starts with
        | nil => exact Nat.zero_le _
        | cons i rest => exact h.length_le (List.cons_ne_nil i rest)
      exact replacedAt_limited (h.limited few)

/-! ## Whether there is a match -/

theorem contains_iff (w s : List Char) : Text.contains w s = true ↔ ∃ i, StandsAt w s i := by
  rw [Text.contains, index?]
  generalize 0 = start
  induction s generalizing start with
  | nil =>
      rw [indexFrom?]
      constructor
      · intro found
        have empty : w = [] := by
          by_contra some
          simp [some] at found
        exact ⟨0, Nat.le_refl _, by simp [empty]⟩
      · rintro ⟨i, -, here⟩
        rw [List.drop_nil, List.prefix_nil] at here
        simp [here]
  | cons c r ih =>
      rw [indexFrom?]
      by_cases here : w <+: c :: r
      · rw [if_pos ((startsWith_iff _ _).mpr here)]
        exact iff_of_true rfl ⟨0, Nat.zero_le _, here⟩
      · rw [if_neg (by simpa [startsWith_iff] using here), ih]
        constructor
        · rintro ⟨i, inside, at_⟩
          exact ⟨i + 1, Nat.succ_le_succ inside, at_⟩
        · rintro ⟨i, inside, at_⟩
          cases i with
          | zero => exact absurd at_ here
          | succ i => exact ⟨i, Nat.le_of_succ_le_succ inside, at_⟩

theorem search_ofLiteral (w : String) (text : List Char) :
    ((ofLiteral w).search? text).isSome = Text.contains w.toList text := by
  rw [search?, (compile_ofLiteral w).2, Bool.eq_iff_iff, contains_iff]
  rcases searchFrom_literal w text.toArray false 0 (by simp) with ⟨i, found, least⟩ | ⟨missed, gone⟩
  · exact iff_of_true (congrArg Option.isSome found) ⟨i, least.1.2⟩
  · have none : ((literalProgram w).search? text).isSome = false := congrArg Option.isSome missed
    refine iff_of_false (by rw [none]; exact Bool.false_ne_true) ?_
    rintro ⟨i, here⟩
    exact gone i (Nat.zero_le _) here

theorem width_literal (w : List Char) : (Node.literal w).width = w.length := by
  induction w with
  | nil => rfl
  | cons c w ih =>
      cases w with
      | nil => rfl
      | cons d w => exact (congrArg (1 + ·) ih).trans (Nat.add_comm _ _)

end Pattern

/-! ## Rules -/

variable {κ : Type} {R : World κ → World κ → Prop} [Still R] {w : World κ} {call : Caller κ}

/-- How many occurrences a number stands for. -/
def limitFor (n : Int) : Option Nat :=
  if n = 0 then none else some n.toNat

/-- Numbers that a count can be. -/
def IsCount (n : Int) : Prop :=
  -2 ^ 63 ≤ n ∧ n < 2 ^ 63

instance : DecidablePred IsCount :=
  fun n => inferInstanceAs (Decidable (-2 ^ 63 ≤ n ∧ n < 2 ^ 63))

/-- The text with as many occurrences of one text replaced by another one as a number says: all of them for zero, none for
less. -/
def replacedBy (n : Int) (find replace code : String) : String :=
  if n < 0 then code else String.ofList (replacedUpTo (limitFor n) find.toList replace.toList code.toList)

/-- A rule that puts a text in the place of another one, as often as a number says. -/
def Rule.ofTexts (find replace : String) (n : Int) : Rule :=
  ⟨.str find, .str replace, .none, .int n⟩

theorem replacedBy_eq {n : Int} {find code : String} {starts : List Nat} (replace : String)
    (h : Pattern.Occurrences find.toList code.toList (limitFor n) 0 starts) :
    replacedBy n find replace code =
      String.ofList (Pattern.replacedAt find.toList replace.toList code.toList 0 starts) := by
  rw [Pattern.replacedAt_eq h, replacedBy]
  split
  · next negative =>
      have limit : limitFor n = some 0 := by
        rw [limitFor, if_neg (by omega), Int.toNat_of_nonpos (Int.le_of_lt negative)]
      have same : Pattern.replacedAt find.toList replace.toList code.toList 0 [] =
          replacedUpTo (some 0) find.toList replace.toList code.toList := Pattern.replacedAt_eq .enough
      rw [limit, ← same, Pattern.replacedAt_nil, List.drop_zero, String.ofList_toList]
  · rfl

theorem limitOf_run {count : Value} {n : Int} (number : count.integer? = some n) (u : World κ) :
    (limitOf count : Within R _).run u =
      if IsCount n then .ok (limitFor n) u else .error (.failed .integerTooLarge) u := by
  have beyond : n < -(Int.pow 2 63) ∨ Int.pow 2 63 ≤ n ↔ ¬ IsCount n := by
    have bound : Int.pow 2 63 = 2 ^ 63 := rfl
    rw [bound, IsCount]
    omega
  rw [limitOf]
  simp only [number, beyond, limitFor, ite_not]
  split
  · split <;> rfl
  · rfl

/-- A rule about texts is read, and its count is that number unless an equal rule was seen before. -/
theorem Rule.ofTexts_ready (find replace : String) (n : Int) (w : World κ) :
    ∃ count v, ((Rule.ofTexts find replace n).ready : Within R _).run w = .ok ⟨.literal find, .literal replace, count⟩ v ∧
      (count = .int n ∨ ∃ r ∈ w.rules, (Rule.ofTexts find replace n).same r = true ∧ r.count = count) := by
  let r := Rule.ofTexts find replace n
  have seen : (world : Within R _).run w = .ok w w := rfl
  have passed : ([r.find, r.replace, r.predicate, r.count].forM checkKey : Within R Unit).run w = .ok () w := by
    rcases Realm.checkKeys_run (R := R) w r.parts with ⟨-, passed⟩ | ⟨⟨v, part, bad⟩, -⟩
    · exact passed
    · simp only [r, Rule.parts, Rule.ofTexts, List.mem_cons, List.not_mem_nil, or_false] at part
      rcases part with rfl | rfl | rfl | rfl <;> exact absurd rfl bad
  have read (s : String) : (Matcher.of (.str s) : Within R Matcher).run w = .ok (.literal s) w := rfl
  cases known : w.rules.find? r.same with
  | none =>
      refine ⟨.int n, { w with rules := r :: w.rules }, ?_, .inl rfl⟩
      rw [Rule.ready, Within.run_bind, bind_of_ok passed, Within.run_bind, bind_of_ok seen]
      dsimp only
      rw [known, Option.getD_none]
      exact bind_of_ok (read find)
  | some r' =>
      have same := List.find?_some known
      have same' := same
      simp only [r, Rule.same, Rule.ofTexts, Bool.and_eq_true] at same
      have finds := Value.eq_of_sameKey_str same.1.1.1
      have replaces := Value.eq_of_sameKey_str same.1.1.2
      refine ⟨r'.count, w, ?_, .inr ⟨r', List.mem_of_find?_eq_some known, same', rfl⟩⟩
      rw [Rule.ready, Within.run_bind, bind_of_ok passed, Within.run_bind, bind_of_ok seen]
      dsimp only
      rw [known, Option.getD_some, finds, Within.run_bind, bind_of_ok (read find), replaces]
      rfl

theorem Value.integer_of_sameKey {n : Int} {v : Value} (same : Value.sameKey (.int n) v = true) (number : v.integer?.isSome) :
    v.integer? = some n := by
  cases v with
  | int m => simp_all [Value.sameKey, Value.integer?]
  | bool b => cases b <;> simp_all [Value.sameKey, Value.integer?]
  | _ => cases number

/-- A rule about texts that has been read does what replacing text does, and nothing else. -/
theorem ReadyRule.apply_texts [Calls call R] {find replace : String} {count : Value} {n : Int} (number : count.integer? = some n)
    (code : String) (u : World κ) :
    ((ReadyRule.mk (.literal find) (.literal replace) count).apply call code : Within R _).run u =
      if IsCount n then .ok (replacedBy n find replace code) u else .error (.failed .integerTooLarge) u := by
  have limited := limitOf_run (R := R) number u
  rw [ReadyRule.apply, Within.run_bind]
  split
  · next within =>
      rw [if_pos within] at limited
      rw [bind_of_ok limited]
      obtain ⟨starts, found, places⟩ := Pattern.occurrences_literal find code.toList (limitFor n)
      dsimp only [Matcher.program]
      split
      · next short =>
          have none : Pattern.Occurrences find.toList code.toList (limitFor n) 0 [] := by
            refine .gone fun i _ here => ?_
            have room := here.length_le
            rw [Pattern.literalProgram, Pattern.width_literal] at short
            omega
          rw [replacedBy_eq replace none, Pattern.replacedAt_nil, List.drop_zero, String.ofList_toList]
          rfl
      · rw [replacedBy_eq replace places, Pattern.replacedAt]
        simp only [ReadyRule.changes, found, List.map_map]
        rfl
  · next beyond =>
      rw [if_neg beyond] at limited
      exact bind_of_error limited

/-- A rule that puts one text in the place of another one is read as that: its pattern can be read and matches where the text
stands. With any number that can be a count it replaces that many occurrences, the leftmost ones that do not overlap, by its
text as it is. Equal rules that were seen before must have numbers as counts. -/
theorem Rule.replaces_verbatim [Calls call R] (find replace : String) (n : Int)
    (numbers : ∀ r ∈ w.rules, (Rule.ofTexts find replace n).same r = true → r.count.integer?.isSome) :
    ∃ ready v, ((Rule.ofTexts find replace n).ready : Within R ReadyRule).run w = .ok ready v ∧
      Pattern.compile .extended ready.matcher.toPattern.source [] = .ok ready.matcher.toPattern ∧
      ready.matcher.toPattern.program = ready.matcher.program ∧
      ∀ code : String,
        ((ready.matcher.toPattern.search? code.toList).isSome = (Matcher.literal find).isIn code.toList) ∧
        (∃ starts, Pattern.Occurrences find.toList code.toList (limitFor n) 0 starts ∧
          replacedBy n find replace code =
            String.ofList (Pattern.replacedAt find.toList replace.toList code.toList 0 starts)) ∧
        ∀ u, (ready.apply call code : Within R String).run u =
          if IsCount n then .ok (replacedBy n find replace code) u else .error (.failed .integerTooLarge) u := by
  obtain ⟨count, v, ran, counts⟩ := Rule.ofTexts_ready (R := R) find replace n w
  have number : count.integer? = some n := by
    rcases counts with rfl | ⟨r, seen, same, rfl⟩
    · rfl
    · refine Value.integer_of_sameKey ?_ (numbers r seen same)
      simp only [Rule.same, Bool.and_eq_true] at same
      exact same.2
  obtain ⟨readable, program⟩ := Pattern.compile_ofLiteral find
  refine ⟨_, v, ran, readable, program, fun code => ⟨Pattern.search_ofLiteral find code.toList, ?_, fun u => ?_⟩⟩
  · obtain ⟨starts, -, places⟩ := Pattern.occurrences_literal find code.toList (limitFor n)
    exact ⟨starts, places, replacedBy_eq replace places⟩
  · exact ReadyRule.apply_texts number code u

/-- Dots and references to groups are nothing special. -/
theorem Rule.replaces_verbatim_dots :
    ∃ ready v, ((Rule.ofTexts ".." "\\1" 1).ready : Calling silent ReadyRule).run (World.start [] ()) = .ok ready v ∧
      ready.matcher.toPattern.search? "a.b".toList = none ∧
      ∀ u, (ready.apply silent "a..b.." : Calling silent String).run u = .ok "a\\1b.." u := by
  obtain ⟨ready, v, ran, -, -, does⟩ := @Rule.replaces_verbatim Unit (Reaches silent) _ (World.start [] ()) silent _ ".." "\\1" 1
    (fun r seen => absurd seen List.not_mem_nil)
  refine ⟨ready, v, ran, ?_, fun u => ?_⟩
  · have found := (does "a.b").1
    have none : (Matcher.literal "..").isIn "a.b".toList = false := by decide
    rw [none] at found
    simpa using found
  · rw [(does "a..b..").2.2 u, if_pos (by decide)]
    exact congrArg (EStateM.Result.ok · u) rfl

/-- A number that does not fit is no count. -/
theorem Rule.replaces_unless_huge :
    ∃ ready v, ((Rule.ofTexts "a" "b" (2 ^ 63)).ready : Calling silent ReadyRule).run (World.start [] ()) = .ok ready v ∧
      replacedBy (2 ^ 63) "a" "b" "aa" = "bb" ∧
      (ready.apply silent "aa" : Calling silent String).run v = .error (.failed .integerTooLarge) v :=
  ⟨⟨.literal "a", .literal "b", .int (2 ^ 63)⟩, _, rfl, by decide +kernel, rfl⟩

end Patchwork
