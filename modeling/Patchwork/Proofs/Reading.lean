import Mathlib.Order.Bounds.Basic
import Patchwork.Proofs.Verbatim

/-!
Patterns that read. Where all ways through a part of a pattern lead to one place, running it is a function from the text ahead
to the text behind. A repetition is such a part if what follows it cannot begin where another round can.
-/

namespace Patchwork.Pattern

open Text

/-! ## Readers -/

/-- A character that passes a test, then what another function reads. -/
def readChar (test : Char → Bool) (g : List Char → Option (List Char)) : List Char → Option (List Char)
  | [] => none
  | c :: r => if test c then g r else none

/-- What a function reads at the first place where it does not fail, as long as only characters of a class are passed over. -/
def readEarliest (test : Char → Bool) (g : List Char → Option (List Char)) : List Char → Option (List Char)
  | [] => g []
  | c :: r => (g (c :: r)).or (if test c then readEarliest test g r else none)

/-- Characters of a class are passed over, and what follows them is read. -/
def Passes (test : Char → Bool) (g : List Char → Option (List Char)) (s passed r : List Char) : Prop :=
  (∀ c ∈ passed, test c) ∧ ∃ q, s = passed ++ q ∧ g q = some r

section Readers

variable {f g : List Char → Option (List Char)} {test : Char → Bool} {s r passed : List Char} {c : Char}

theorem readChar_eq_some : readChar test g s = some r ↔ ∃ c q, s = c :: q ∧ test c ∧ g q = some r := by
  cases s with
  | nil => simp [readChar]
  | cons c q => simp [readChar]

theorem readChar_bind (k : List Char → Option (List Char)) :
    (readChar test g s).bind k = readChar test (fun q => (g q).bind k) s := by
  cases s with
  | nil => rfl
  | cons c q =>
      rw [readChar, readChar]
      split <;> rfl

theorem passes_cons :
    Passes test g (c :: s) passed r ↔
      passed = [] ∧ g (c :: s) = some r ∨ ∃ more, passed = c :: more ∧ test c ∧ Passes test g s more r := by
  constructor
  · rintro ⟨all, q, eq, reads⟩
    cases passed with
    | nil => exact .inl ⟨rfl, eq ▸ reads⟩
    | cons d more =>
        cases eq
        rw [List.forall_mem_cons] at all
        exact .inr ⟨more, rfl, all.1, all.2, q, rfl, reads⟩
  · rintro (⟨rfl, reads⟩ | ⟨more, rfl, here, all, q, rfl, reads⟩)
    · exact ⟨by simp, c :: s, rfl, reads⟩
    · exact ⟨List.forall_mem_cons.mpr ⟨here, all⟩, q, rfl, reads⟩

theorem readEarliest_some (found : readEarliest test g s = some r) :
    ∃ passed, Passes test g s passed r ∧ ∀ passed' r', Passes test g s passed' r' → passed.length ≤ passed'.length := by
  induction s with
  | nil => exact ⟨[], ⟨by simp, [], rfl, found⟩, fun _ _ _ => Nat.zero_le _⟩
  | cons c s ih =>
      rw [readEarliest, Option.or_eq_some_iff, Option.ite_none_right_eq_some] at found
      obtain here | ⟨none, pass, there⟩ := found
      · exact ⟨[], passes_cons.mpr (.inl ⟨rfl, here⟩), fun _ _ _ => Nat.zero_le _⟩
      · obtain ⟨more, passes, least⟩ := ih there
        refine ⟨c :: more, passes_cons.mpr (.inr ⟨more, rfl, pass, passes⟩), fun passed' r' passes' => ?_⟩
        obtain ⟨-, here⟩ | ⟨more', rfl, -, passes'⟩ := passes_cons.mp passes'
        · rw [none] at here
          cases here
        · exact Nat.succ_le_succ (least more' r' passes')

theorem readEarliest_none (missed : readEarliest test g s = none) (passed r : List Char) : ¬ Passes test g s passed r := by
  induction s generalizing passed with
  | nil =>
      rintro ⟨-, q, eq, reads⟩
      obtain ⟨-, rfl⟩ := List.append_eq_nil_iff.mp eq.symm
      rw [readEarliest, reads] at missed
      cases missed
  | cons c s ih =>
      rw [readEarliest, Option.or_eq_none_iff] at missed
      intro passes
      obtain ⟨-, here⟩ | ⟨more, -, pass, passes⟩ := passes_cons.mp passes
      · rw [missed.1] at here
        cases here
      · rw [if_pos pass] at missed
        exact ih missed.2 more passes

end Readers

/-! ## Rests -/

/-- A cursor moved to where the rest of the text is a given one. -/
def Cursor.before (t : Cursor) (scene : Scene) (s : List Char) : Cursor :=
  { t with pos := scene.text.size - s.length }

/-- What comes of a reading that leaves a rest of the text, or fails. -/
def Scene.reached (scene : Scene) (t : Cursor) : Option (List Char) → Outcome
  | some r => .found (t.before scene r)
  | none => .missed

/-- A rest of a pattern that finds what a function reads. -/
def Reads (scene : Scene) (t : Cursor) (next : Rest) (f : List Char → Option (List Char)) : Prop :=
  ∀ s, s <:+ scene.text.toList → next (t.before scene s) = scene.reached t (f s)

section Run

variable (call : Nat → Bool → Option Limits → Rest → Rest) {scene : Scene} {t : Cursor} {next : Rest}
  {f g : List Char → Option (List Char)} {test : Char → Bool} {s r : List Char} {c : Char}

theorem Cursor.before_drop {pos : Nat} (inside : pos ≤ scene.text.size) :
    t.before scene (scene.text.toList.drop pos) = { t with pos } := by
  rw [before, List.length_drop, Array.length_toList, Nat.sub_sub_self inside]

theorem size_of_suffix (here : s <:+ scene.text.toList) : s.length ≤ scene.text.size := by
  simpa using here.length_le

theorem drop_of_suffix (here : s <:+ scene.text.toList) : scene.text.toList.drop (scene.text.size - s.length) = s := by
  obtain ⟨front, eq⟩ := here
  have size : scene.text.size = front.length + s.length := by simpa using (congrArg List.length eq).symm
  rw [size, Nat.add_sub_cancel, ← eq, List.drop_left]

theorem suffix_of_cons (here : c :: r <:+ scene.text.toList) : r <:+ scene.text.toList :=
  (List.suffix_cons c r).trans here

theorem suffix_of_append {w : List Char} (here : w ++ r <:+ scene.text.toList) : r <:+ scene.text.toList :=
  (List.suffix_append w r).trans here

/-! ## Parts of a pattern -/

theorem letter_nil : Scene.run.letter scene false none test next (t.before scene []) = .missed := by
  rw [Scene.run.letter, forgiving_strict]
  simp [Scene.step?, Cursor.before]

theorem letter_cons (here : c :: r <:+ scene.text.toList) :
    Scene.run.letter scene false none test next (t.before scene (c :: r)) =
      if test c then next (t.before scene r) else .missed := by
  have at? : scene.text[scene.text.size - (c :: r).length]? = some c := by
    rw [← Array.getElem?_toList, ← List.head?_drop, drop_of_suffix here, List.head?_cons]
  have size := size_of_suffix here
  have after : scene.text.size - (c :: r).length + 1 = scene.text.size - r.length := by
    rw [List.length_cons] at size ⊢
    omega
  rw [Scene.run.letter, forgiving_strict]
  simp only [Scene.step?, Bool.false_eq_true, ↓reduceIte, Cursor.before, at?, Option.map_some, after]
  split <;> rfl

theorem Reads.letter (reads : Reads scene t next g) :
    Reads scene t (Scene.run.letter scene false none test next) (readChar test g) := by
  intro s here
  cases s with
  | nil => exact letter_nil
  | cons c r =>
      rw [letter_cons here, readChar]
      split
      · exact reads r (suffix_of_cons here)
      · rfl

theorem Reads.set {set : CharSet} (holds : set.holds = test) (reads : Reads scene t next g) :
    Reads scene t (scene.run call false none (.set set .exact) next) (readChar test g) := by
  subst holds
  exact reads.letter

theorem Reads.literal (w : List Char) (reads : Reads scene t next g) :
    Reads scene t (scene.run call false none (.literal w) next) fun s => (after? w s).bind g := by
  intro s here
  change _ = scene.reached t ((after? w s).bind g)
  rw [run_literal, Cursor.before, drop_of_suffix here]
  cases found : after? w s with
  | some r =>
      obtain rfl := after?_eq_some.mp found
      have size := size_of_suffix here
      have after : scene.text.size - (w ++ r).length + w.length = scene.text.size - r.length := by
        rw [List.length_append] at size ⊢
        omega
      rw [if_pos (List.prefix_append w r), Option.bind_some, ← reads r (suffix_of_append here), Cursor.before, ← after]
  | none =>
      rw [if_neg]
      · rfl
      · rintro ⟨r, rfl⟩
        exact Option.some_ne_none r ((after?_eq_some.mpr rfl).symm.trans found)

theorem Reads.alt {a b : Node} (first : Reads scene t (scene.run call false none a next) f)
    (second : Reads scene t (scene.run call false none b next) g) :
    Reads scene t (scene.run call false none (.alt a b) next) fun s => (f s).or (g s) := by
  intro s here
  change _ = scene.reached t ((f s).or (g s))
  rw [Scene.run, first s here]
  cases f s with
  | some r => rfl
  | none => exact second s here

theorem run_ofList_append (a : List Node) (b : List Node) :
    scene.run call false none (.ofList (a ++ b)) next =
      scene.run call false none (.ofList a) (scene.run call false none (.ofList b) next) := by
  induction a with
  | nil => rfl
  | cons n a ih =>
      cases a with
      | nil =>
          cases b with
          | nil => rfl
          | cons => rfl
      | cons m a =>
          funext s
          simp only [List.cons_append, Node.ofList, Scene.run, Bool.false_eq_true, ↓reduceIte] at ih ⊢
          rw [ih]

/-! ## Repetitions -/

theorem changed_cons (here : c :: r <:+ scene.text.toList) :
    scene.changed (t.before scene (c :: r)) (t.before scene r) = true := by
  have size := size_of_suffix here
  rw [List.length_cons] at size
  have moved : scene.text.size - (r.length + 1) ≠ scene.text.size - r.length := by omega
  simp [Scene.changed, Cursor.before, moved]

theorem rounds_greedy (reads : Reads scene t next g) (barred : ∀ c r, test c → g (c :: r) = none) (here : s <:+ scene.text.toList)
    {fuel : Nat} (room : s.length < fuel) (count : Nat) :
    scene.roundsWhileMoving (Scene.run.letter scene false none test) 0 none false next fuel count (t.before scene s) =
      scene.reached t (g (s.dropWhile test)) := by
  induction s generalizing fuel count with
  | nil =>
      cases fuel with
      | zero => cases room
      | succ fuel =>
          simp only [Scene.roundsWhileMoving, Option.all_none, ↓reduceIte, letter_nil]
          exact reads [] here
  | cons c r ih =>
      cases fuel with
      | zero => cases room
      | succ fuel =>
          simp only [Scene.roundsWhileMoving, Option.all_none, ↓reduceIte, letter_cons here, changed_cons here, Nat.zero_le,
            Bool.false_eq_true]
          rw [ih (suffix_of_cons here) (Nat.lt_of_succ_lt_succ room), reads _ here]
          cases held : test c with
          | true =>
              -- If the longer run fails, giving this character back fails as well.
              rw [if_pos rfl, List.dropWhile_cons_of_pos held, barred c r held]
              cases g (r.dropWhile test) <;> rfl
          | false =>
              rw [if_neg Bool.false_ne_true, List.dropWhile_cons_of_neg (by simp [held])]
              rfl

theorem rounds_lazy (reads : Reads scene t next g) (here : s <:+ scene.text.toList) {fuel count : Nat} (room : s.length < fuel)
    (enough : 1 ≤ count) :
    scene.roundsWhileMoving (Scene.run.letter scene false none test) 1 none true next fuel count (t.before scene s) =
      scene.reached t (readEarliest test g s) := by
  induction s generalizing fuel count with
  | nil =>
      cases fuel with
      | zero => cases room
      | succ fuel =>
          simp only [Scene.roundsWhileMoving, enough, Option.all_none, ↓reduceIte, letter_nil, reads _ here, readEarliest]
          cases g [] <;> rfl
  | cons c r ih =>
      cases fuel with
      | zero => cases room
      | succ fuel =>
          simp only [Scene.roundsWhileMoving, enough, Option.all_none, ↓reduceIte, letter_cons here, changed_cons here,
            reads _ here, readEarliest]
          rw [ih (suffix_of_cons here) (Nat.lt_of_succ_lt_succ room) (Nat.le_succ_of_le enough)]
          cases g (c :: r) with
          | some => rfl
          | none => cases test c <;> rfl

theorem rounds_lazy_first (reads : Reads scene t next g) (here : s <:+ scene.text.toList) {fuel : Nat} (room : s.length < fuel) :
    scene.roundsWhileMoving (Scene.run.letter scene false none test) 1 none true next fuel 0 (t.before scene s) =
      scene.reached t (readChar test (readEarliest test g) s) := by
  have needed : ¬ 1 ≤ 0 := Nat.not_succ_le_zero 0
  cases fuel with
  | zero => cases room
  | succ fuel =>
      cases s with
      | nil =>
          simp only [Scene.roundsWhileMoving, needed, Option.all_none, ↓reduceIte, letter_nil]
          rfl
      | cons c r =>
          simp only [Scene.roundsWhileMoving, needed, Option.all_none, ↓reduceIte, letter_cons here, changed_cons here, readChar]
          rw [rounds_lazy reads (suffix_of_cons here) (Nat.lt_of_succ_lt_succ room) (Nat.le_refl 1)]
          cases test c <;> rfl

theorem Reads.greedy {set : CharSet} (moving : scene.rule = .whileMoving) (holds : set.holds = test)
    (reads : Reads scene t next g) (barred : ∀ c r, test c → g (c :: r) = none) :
    Reads scene t (scene.run call false none (.times 0 none .greedy (.set set .exact)) next) fun s => g (s.dropWhile test) := by
  subst holds
  intro s here
  have size := size_of_suffix here
  simp only [Scene.run, moving]
  exact rounds_greedy reads barred here (by omega) 0

theorem Reads.lazyLine (moving : scene.rule = .whileMoving) (reads : Reads scene t next g) :
    Reads scene t (scene.run call false none (.times 1 none .lazy (.notBreak .feed)) next)
      (readChar (· != '\n') (readEarliest (· != '\n') g)) := by
  intro s here
  have size := size_of_suffix here
  simp only [Scene.run, moving]
  exact rounds_lazy_first reads here (by omega)

end Run

/-! ## Searches -/

/-- A program that finds what a function reads, wherever the function does not fail. -/
structure Program.Performs (p : Program) (f : List Char → Option (List Char)) : Prop where
  onward : p.backward = false
  short : p.longest = false
  first : p.best = false ∧ p.enhanced = false
  reads : ∀ call scene t, scene.rule = p.rule → Reads scene t (scene.run call false none p.root .found) f
  behind : ∀ s r, f s = some r → r.length ≤ s.length

/-- The match from a place to where a rest of the text begins. -/
def readMatch (text : List Char) (i : Nat) (r : List Char) : Match :=
  ⟨i, text.length - r.length, [], 0⟩

variable {p : Program} {f : List Char → Option (List Char)} {scene : Scene} {r : List Char} {pos left : Nat}

theorem Program.Performs.outcomeAt (performs : p.Performs f) (rule : scene.rule = p.rule) (inside : pos ≤ scene.text.size) :
    p.outcomeAt scene false pos = scene.reached ⟨pos, pos, [], {}, 0⟩ (f (scene.text.toList.drop pos)) := by
  have found := performs.reads (scene.called p.body? (2 * scene.text.size + 64)) scene ⟨pos, pos, [], {}, 0⟩ rule _
    (List.drop_suffix pos _)
  rw [Cursor.before_drop inside] at found
  have run : p.runAt scene (fun t => !(false && t.pos = scene.anchor)) pos =
      scene.reached ⟨pos, pos, [], {}, 0⟩ (f (scene.text.toList.drop pos)) := by
    rw [← found, Program.runAt, performs.onward]
    rfl
  rw [Program.outcomeAt, run, performs.short]
  cases f (scene.text.toList.drop pos) <;> rfl

theorem Program.Performs.firstFrom_some (performs : p.Performs f) (rule : scene.rule = p.rule) (inside : pos ≤ scene.text.size)
    (found : f (scene.text.toList.drop pos) = some r) :
    p.firstFrom? scene false left pos = some (readMatch scene.text.toList pos r) := by
  have size : scene.text.toList.length = scene.text.size := Array.length_toList
  have shorter := performs.behind _ r found
  rw [List.length_drop] at shorter
  have onward : pos ≤ scene.text.size - r.length := by omega
  rw [Program.firstFrom?.eq_def]
  dsimp only
  rw [if_neg (Nat.not_lt_of_le inside), performs.outcomeAt rule inside, found]
  simp [Scene.reached, Match.ofCursor, Cursor.before, readMatch, onward, Slips.total]

theorem Program.Performs.firstFrom_none (performs : p.Performs f) (rule : scene.rule = p.rule) (inside : pos ≤ scene.text.size)
    (missed : f (scene.text.toList.drop pos) = none) :
    p.firstFrom? scene false left pos = match left with
      | 0 => none
      | left + 1 => p.firstFrom? scene false left (pos + 1) := by
  rw [Program.firstFrom?.eq_def]
  dsimp only
  rw [if_neg (Nat.not_lt_of_le inside), performs.outcomeAt rule inside, missed, performs.onward]
  cases left <;> rfl

/-- A search finds the first place at which the function does not fail. -/
theorem Program.Performs.firstFrom (performs : p.Performs f) (rule : scene.rule = p.rule)
    (inside : pos + left = scene.text.size) :
    (∃ i r, p.firstFrom? scene false left pos = some (readMatch scene.text.toList i r) ∧ f (scene.text.toList.drop i) = some r ∧
      ∀ j, pos ≤ j → j < i → f (scene.text.toList.drop j) = none) ∨
    p.firstFrom? scene false left pos = none ∧ ∀ j, pos ≤ j → j ≤ pos + left → f (scene.text.toList.drop j) = none := by
  induction left generalizing pos with
  | zero =>
      have here : pos ≤ scene.text.size := Nat.le_of_eq inside
      cases found : f (scene.text.toList.drop pos) with
      | some r => exact .inl ⟨pos, r, performs.firstFrom_some rule here found, found, fun j low high => by omega⟩
      | none =>
          refine .inr ⟨performs.firstFrom_none rule here found, fun j low high => ?_⟩
          rwa [Nat.le_antisymm high low]
  | succ left ih =>
      have here : pos ≤ scene.text.size := inside ▸ Nat.le_add_right pos (left + 1)
      have more : pos + 1 + left = scene.text.size := by omega
      cases found : f (scene.text.toList.drop pos) with
      | some r => exact .inl ⟨pos, r, performs.firstFrom_some rule here found, found, fun j low high => by omega⟩
      | none =>
          have later (j : Nat) (low : pos ≤ j) : j = pos ∨ pos + 1 ≤ j := by omega
          rw [performs.firstFrom_none rule here found]
          obtain ⟨i, r, first, reads, gone⟩ | ⟨missed, gone⟩ := ih more
          · refine .inl ⟨i, r, first, reads, fun j low high => ?_⟩
            obtain rfl | behind := later j low
            · exact found
            · exact gone j behind high
          · refine .inr ⟨missed, fun j low high => ?_⟩
            obtain rfl | behind := later j low
            · exact found
            · exact gone j behind (by omega)

theorem Program.Performs.search (performs : p.Performs f) (text : List Char) :
    (∃ i r, p.search? text = some (readMatch text i r) ∧ f (text.drop i) = some r ∧ ∀ j < i, f (text.drop j) = none) ∨
      p.search? text = none ∧ ∀ j ≤ text.length, f (text.drop j) = none := by
  let scene : Scene := ⟨text.toArray, 0, p.rule, p.root.referred, none⟩
  have search : p.search? text = p.firstFrom? scene false text.length 0 := by
    simp [Program.search?, Program.searchFrom?, Program.searchWithin?, performs.onward, performs.first, scene]
  have whole : 0 + text.length = scene.text.size := by simp [scene]
  rw [search]
  obtain ⟨i, r, first, reads, gone⟩ | ⟨missed, gone⟩ := performs.firstFrom rfl whole
  · exact .inl ⟨i, r, first, reads, fun j => gone j (Nat.zero_le j)⟩
  · exact .inr ⟨missed, fun j low => gone j (Nat.zero_le j) (by omega)⟩

end Patchwork.Pattern
