import Mathlib.Data.List.Basic
import Patchwork.Diff.Words

/-!
The longest common run. The rows that are computed hold, for all pairs of places, how far the lists agree
backwards from there; so the block that is found is as long as any, and the first of those.
-/

namespace Patchwork.Diff

variable {α : Type}

/-- A block marks a run that both lists have. -/
structure Block.Occurs (a b : List α) (m : Block) : Prop where
  left_le : m.left + m.size ≤ a.length
  right_le : m.right + m.size ≤ b.length
  same : (a.drop m.left).take m.size = (b.drop m.right).take m.size

/-- The block of a longest common run: of those that are as long, the one that starts first on the left, and
then on the right. -/
structure IsLongest (a b : List α) (m : Block) : Prop where
  occurs : m.Occurs a b
  most : ∀ {n : Block}, n.Occurs a b → n.size ≤ m.size
  first : ∀ {n : Block}, n.Occurs a b → n.size = m.size →
    m.left < n.left ∨ m.left = n.left ∧ m.right ≤ n.right

/-- Blocks within a list are blocks within every longer one. -/
theorem Block.Occurs.append {a b : List α} {m : Block} (h : m.Occurs a b) (c : List α) : m.Occurs (a ++ c) b where
  left_le := by have := h.left_le; simp; omega
  right_le := h.right_le
  same := by
    have := h.left_le
    rw [List.drop_append_of_le_length (by omega), List.take_append_of_le_length (by simp; omega), h.same]

theorem Block.Occurs.of_append {a b c : List α} {m : Block} (h : m.Occurs (a ++ c) b)
    (within : m.left + m.size ≤ a.length) : m.Occurs a b where
  left_le := within
  right_le := h.right_le
  same := by
    rw [← h.same, List.drop_append_of_le_length (by omega), List.take_append_of_le_length (by simp; omega)]

/-- There is only one such block. -/
theorem IsLongest.unique {a b : List α} {m n : Block} (hm : IsLongest a b m) (hn : IsLongest a b n) : m = n := by
  have size : m.size = n.size := Nat.le_antisymm (hn.most hm.occurs) (hm.most hn.occurs)
  have before := hm.first hn.occurs size.symm
  have after := hn.first hm.occurs size
  cases m
  cases n
  simp only [Block.mk.injEq] at *
  omega

/-- If the longest common run is empty, the lists have nothing in common. -/
theorem IsLongest.disjoint {a b : List α} {m : Block} (h : IsLongest a b m) (empty : m.size = 0) :
    a.Disjoint b := by
  intro x left right
  obtain ⟨i, hi, rfl⟩ := List.getElem_of_mem left
  obtain ⟨j, hj, same⟩ := List.getElem_of_mem right
  have single : Block.Occurs a b ⟨i, j, 1⟩ :=
    { left_le := hi
      right_le := hj
      same := by simp [List.take_one, List.head?_drop, hi, hj, same] }
  have := h.most single
  simp only at this
  omega

/-- A list as a whole is the longest run it has in common with itself. -/
theorem isLongest_self (a : List α) : IsLongest a a ⟨0, 0, a.length⟩ where
  occurs := ⟨by simp, by simp, rfl⟩
  most h := by have := h.left_le; simp only; omega
  first h size := by have := h.left_le; have := h.right_le; simp only at *; omega

/-- The places of a list read from its end: the run that ends at `k` is the head of what lies before, turned
round. -/
theorem take_reverse_take {a : List α} {k n : Nat} (hn : n ≤ k) (hk : k ≤ a.length) :
    (a.take k).reverse.take n = ((a.drop (k - n)).take n).reverse := by
  rw [List.take_reverse, List.length_take, Nat.min_eq_left hk, List.drop_take, Nat.sub_sub_self hn]

section Rows

variable [DecidableEq α]

/-- How far two lists agree from their heads on. -/
def commonHead : List α → List α → Nat
  | x :: p, y :: q => if y = x then commonHead p q + 1 else 0
  | _, _ => 0

theorem le_commonHead : {n : Nat} → {p q : List α} →
    (n ≤ commonHead p q ↔ n ≤ p.length ∧ n ≤ q.length ∧ p.take n = q.take n)
  | 0, p, q => by simp
  | n + 1, [], q => by simp [commonHead]
  | n + 1, x :: p, [] => by simp [commonHead]
  | n + 1, x :: p, y :: q => by
      by_cases same : y = x
      · subst same
        simp [commonHead, le_commonHead]
      · have : ¬ x = y := Ne.symm same
        simp [commonHead, same, this]

/-- The blocks that end at two given places are those that are no longer than the lists agree there. -/
theorem occurs_iff {a b : List α} {i j n : Nat} (hi : i ≤ a.length) (hj : j ≤ b.length) (hni : n ≤ i)
    (hnj : n ≤ j) : Block.Occurs a b ⟨i - n, j - n, n⟩ ↔
      n ≤ commonHead (a.take i).reverse (b.take j).reverse := by
  rw [le_commonHead, take_reverse_take hni hi, take_reverse_take hnj hj, List.reverse_inj]
  constructor
  · intro h
    exact ⟨by simp; omega, by simp; omega, h.same⟩
  · rintro ⟨-, -, same⟩
    exact ⟨by simp only; omega, by simp only; omega, same⟩

/-- The row of the right list against a left one that is read from its end: what lies before in the right list
is `q`, read the same way. -/
def endings (p : List α) : List α → List α → List Nat
  | _, [] => []
  | q, y :: b => commonHead p (y :: q) :: endings p (y :: q) b

theorem runsEnding_endings (x : α) (p : List α) : (q b : List α) →
    runsEnding x (commonHead p q) (endings p q b) b = endings (x :: p) q b
  | q, [] => by simp [endings, runsEnding]
  | q, y :: b => by simp [endings, runsEnding, commonHead, runsEnding_endings x p (y :: q) b]

/-- The first row is computed without one above it. -/
theorem runsEnding_nil (x : α) : (q b : List α) → runsEnding x 0 [] b = endings [x] q b
  | q, [] => by simp [endings, runsEnding]
  | q, y :: b => by
      have rest := runsEnding_nil x (y :: q) b
      simp only [runsEnding] at rest
      simp [endings, runsEnding, commonHead, rest]

theorem length_endings (p : List α) : (q b : List α) → (endings p q b).length = b.length
  | _, [] => rfl
  | q, y :: b => by simp [endings, length_endings p (y :: q) b]

theorem getElem?_endings {p : List α} : {q b : List α} → {j : Nat} → j < b.length →
    (endings p q b)[j]? = some (commonHead p ((b.take (j + 1)).reverse ++ q))
  | q, y :: b, 0, _ => by simp [endings]
  | q, y :: b, j + 1, h => by
      have : j < b.length := by simpa using h
      simp [endings, getElem?_endings this]

end Rows

/-- What a row makes of the best block: it stays if no entry beats it, and else it is the first of the largest
entries. -/
theorem betterIn_spec (i : Nat) (row : List Nat) : (best : Block) → (j : Nat) →
    (betterIn i best j row = best ∧ ∀ n ∈ row, n ≤ best.size) ∨
    ∃ k n, row[k]? = some n ∧ betterIn i best j row = ⟨i + 1 - n, j + k + 1 - n, n⟩ ∧ best.size < n ∧
      ∀ k' n', row[k']? = some n' → n' ≤ n ∧ (n' = n → k ≤ k') := by
  induction row with
  | nil => exact fun best j => .inl ⟨rfl, by simp⟩
  | cons m row ih =>
      intro best j
      by_cases beats : best.size < m
      · rw [betterIn, if_pos beats]
        obtain ⟨stays, all⟩ | ⟨k, n, here, becomes, larger, largest⟩ := ih ⟨i + 1 - m, j + 1 - m, m⟩ (j + 1)
        · refine .inr ⟨0, m, rfl, by simpa using stays, beats, ?_⟩
          rintro (_ | k') n' at'
          · cases at'; exact ⟨Nat.le_refl _, fun _ => Nat.le_refl _⟩
          · exact ⟨all n' (List.mem_of_getElem? at'), fun _ => Nat.zero_le _⟩
        · refine .inr ⟨k + 1, n, here, by rw [becomes]; congr 1; omega, by simp only at larger; omega, ?_⟩
          rintro (_ | k') n' at'
          · cases at'; simp only at larger; omega
          · have := largest k' n' at'; omega
      · rw [betterIn, if_neg beats]
        obtain ⟨stays, all⟩ | ⟨k, n, here, becomes, larger, largest⟩ := ih best (j + 1)
        · exact .inl ⟨stays, by simpa [Nat.not_lt.mp beats] using all⟩
        · refine .inr ⟨k + 1, n, here, by rw [becomes]; congr 1; omega, larger, ?_⟩
          rintro (_ | k') n' at'
          · cases at'; omega
          · have := largest k' n' at'; omega

section Longest

variable [DecidableEq α] {b : List α}

/-- The entries of the row for a further item are the lengths of the runs that end with it. -/
theorem occurs_row {p : List α} {x : α} {j n : Nat} (hj : j < b.length) (hn : n ≤ p.length + 1) (hnj : n ≤ j + 1) :
    Block.Occurs (p.reverse ++ [x]) b ⟨p.length + 1 - n, j + 1 - n, n⟩ ↔
      ∃ k, (endings (x :: p) [] b)[j]? = some k ∧ n ≤ k := by
  rw [occurs_iff (by simp) hj hn hnj, getElem?_endings hj, List.take_of_length_le (by simp)]
  simp

/-- One row keeps the best block the longest. -/
theorem IsLongest.step {p : List α} {best : Block} (x : α) (h : IsLongest p.reverse b best) :
    IsLongest (p.reverse ++ [x]) b (betterIn p.length best 0 (endings (x :: p) [] b)) := by
  have ends {m : Block} (hm : m.Occurs (p.reverse ++ [x]) b) :
      m.Occurs p.reverse b ∨ m.left + m.size = p.length + 1 := by
    have := hm.left_le
    simp only [List.length_append, List.length_reverse, List.length_singleton] at this
    by_cases within : m.left + m.size ≤ p.length
    · exact .inl (hm.of_append (by simpa using within))
    · exact .inr (by omega)
  -- a nonempty run that ends with the new item is no longer than its entry in the row
  have entry {m : Block} (hm : m.Occurs (p.reverse ++ [x]) b) (last : m.left + m.size = p.length + 1)
      (pos : 0 < m.size) :
      ∃ j n, (endings (x :: p) [] b)[j]? = some n ∧ m.size ≤ n ∧ m.right + m.size = j + 1 := by
    have hr := hm.right_le
    obtain ⟨j, hj⟩ : ∃ j, m.right + m.size = j + 1 := ⟨m.right + m.size - 1, by omega⟩
    have shape : m = ⟨p.length + 1 - m.size, j + 1 - m.size, m.size⟩ := by
      cases m
      simp only [Block.mk.injEq, and_true] at *
      omega
    rw [shape] at hm
    obtain ⟨n, at', le⟩ := (occurs_row (by omega) (by omega) (by omega)).mp hm
    exact ⟨j, n, at', le, hj⟩
  have hbest := h.occurs.left_le
  rw [List.length_reverse] at hbest
  obtain ⟨stays, all⟩ | ⟨k, n, here, becomes, larger, largest⟩ :=
    betterIn_spec p.length (endings (x :: p) [] b) best 0
  · rw [stays]
    refine ⟨h.occurs.append _, fun hm => ?_, fun hm size => ?_⟩
    · obtain before | last := ends hm
      · exact h.most before
      · rename_i m
        by_cases pos : 0 < m.size
        · obtain ⟨j, n, at', le, -⟩ := entry hm last pos
          exact Nat.le_trans le (all n (List.mem_of_getElem? at'))
        · omega
    · obtain before | last := ends hm
      · exact h.first before size
      · exact .inl (by omega)
  · rw [becomes]
    have hk : k < b.length := by
      rw [← length_endings (x :: p) [] b]
      exact (List.getElem?_eq_some_iff.mp here).1
    have bound : n ≤ p.length + 1 ∧ n ≤ k + 1 := by
      rw [getElem?_endings hk, Option.some.injEq] at here
      obtain ⟨left, right, -⟩ := le_commonHead.mp (Nat.le_of_eq here.symm)
      simp only [List.length_cons, List.append_nil, List.length_reverse, List.length_take] at left right
      omega
    refine ⟨?_, fun {m} hm => ?_, fun {m} hm size => ?_⟩
    · have := (occurs_row (x := x) hk bound.1 bound.2).mpr ⟨n, here, Nat.le_refl n⟩
      simpa using this
    · obtain before | last := ends hm
      · exact Nat.le_trans (h.most before) (Nat.le_of_lt larger)
      · by_cases pos : 0 < m.size
        · obtain ⟨j, n', at', le, -⟩ := entry hm last pos
          exact Nat.le_trans le (largest j n' at').1
        · simp only; omega
    · simp only at size
      obtain before | last := ends hm
      · have := h.most before
        omega
      · obtain ⟨j, n', at', le, right⟩ := entry hm last (by omega)
        have := largest j n' at'
        simp only
        omega

/-- All further rows do, whether the row above them is that of the items before or there are none. -/
theorem longestFrom_isLongest (rest : List α) : (p : List α) → (above : List Nat) → (best : Block) →
    (p = [] ∧ above = [] ∨ above = endings p [] b) → IsLongest p.reverse b best →
    IsLongest (p.reverse ++ rest) b (longestFrom b p.length above best rest) := by
  induction rest with
  | nil => intro p above best _ h; simpa [longestFrom] using h
  | cons x rest ih =>
      intro p above best row h
      have next : runsEnding x 0 above b = endings (x :: p) [] b := by
        obtain ⟨rfl, rfl⟩ | rfl := row
        · exact runsEnding_nil x [] b
        · have corner : commonHead p [] = 0 := by cases p <;> rfl
          rw [← runsEnding_endings, corner]
      have := ih (x :: p) (endings (x :: p) [] b) _ (.inr rfl) (by simpa using h.step x)
      simpa [longestFrom, next] using this

/-- The block that is found is that of the longest common run. -/
theorem longest_isLongest (a b : List α) : IsLongest a b (longest a b) := by
  have none : IsLongest [] b ⟨0, 0, 0⟩ :=
    { occurs := ⟨by simp, by simp, rfl⟩
      most := fun h => by have := h.left_le; simp only [List.length_nil] at this ⊢; omega
      first := fun h _ => by simp only; omega }
  simpa [longest] using longestFrom_isLongest a [] [] ⟨0, 0, 0⟩ (.inl ⟨rfl, rfl⟩) none

theorem longest_self (a : List α) : longest a a = ⟨0, 0, a.length⟩ :=
  (longest_isLongest a a).unique (isLongest_self a)

end Longest

end Patchwork.Diff
