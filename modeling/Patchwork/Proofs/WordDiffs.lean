import Mathlib.Data.List.Chain
import Patchwork.Proofs.CommonRuns
import Patchwork.Diff.Words

/-!
Word diffs lose nothing. The common blocks cut both lists at the same runs, and what is left between two of them
has nothing in common; so the segments spell both texts.
-/

namespace Patchwork.Diff

/-! ## Blocks in order -/

section Blocks

variable {α : Type} {i j : Nat} {a b : List α} {ms : List Block}

/-- Blocks cut two lists, from the places `i` and `j` on, into runs that both have and gaps without a common
item. -/
inductive Aligned : Nat → Nat → List α → List α → List Block → Prop
  | last {i j : Nat} {a b : List α} : a.Disjoint b → Aligned i j a b []
  | next {i j : Nat} {gap gap' run a b : List α} {ms : List Block} : gap.Disjoint gap' → run ≠ [] →
      Aligned (i + gap.length + run.length) (j + gap'.length + run.length) a b ms →
      Aligned i j (gap ++ (run ++ a)) (gap' ++ (run ++ b)) (⟨i + gap.length, j + gap'.length, run.length⟩ :: ms)

/-- Blocks of what stands before a common run and of what stands after it, with the run between them. -/
theorem Aligned.append {a' b' run : List α} {ns : List Block} (h : Aligned i j a b ms) (filled : run ≠ [])
    (after : Aligned (i + a.length + run.length) (j + b.length + run.length) a' b' ns) :
    Aligned i j (a ++ (run ++ a')) (b ++ (run ++ b')) (ms ++ ⟨i + a.length, j + b.length, run.length⟩ :: ns) := by
  induction h with
  | last disjoint => exact .next disjoint filled after
  | next disjoint some _ ih =>
      simp only [List.length_append, ← Nat.add_assoc] at ih after ⊢
      simpa [List.append_assoc] using Aligned.next disjoint some (ih after)

/-- A common run cuts both lists at its places. -/
theorem Block.Occurs.cut {m : Block} (h : m.Occurs a b) : ∃ run a' b', run.length = m.size ∧
    a = a.take m.left ++ (run ++ a') ∧ b = b.take m.right ++ (run ++ b') ∧
    a' = a.drop (m.left + m.size) ∧ b' = b.drop (m.right + m.size) := by
  refine ⟨(a.drop m.left).take m.size, _, _, ?_, ?_, ?_, rfl, rfl⟩
  · have := h.left_le
    simp only [List.length_take, List.length_drop]
    omega
  · rw [← List.drop_drop, List.take_append_drop, List.take_append_drop]
  · rw [h.same, ← List.drop_drop, List.take_append_drop, List.take_append_drop]

section

variable [DecidableEq α]

/-- The blocks found on both sides of the longest common run, as long as the fuel lasts. -/
theorem blocksFrom_aligned : (fuel i j : Nat) → (a b : List α) → a.length < fuel →
    Aligned i j a b (blocksFrom fuel i j a b)
  | fuel + 1, i, j, a, b, enough => by
      have h := longest_isLongest a b
      rw [blocksFrom]
      generalize longest a b = m at h
      split
      · exact .last (h.disjoint ‹_›)
      · have left := h.occurs.left_le
        have right := h.occurs.right_le
        obtain ⟨run, a', b', size, ha, hb, rfl, rfl⟩ := h.occurs.cut
        have filled : run ≠ [] := by rintro rfl; simp at size; omega
        have before := blocksFrom_aligned fuel i j (a.take m.left) (b.take m.right) (by simp; omega)
        have after := blocksFrom_aligned fuel (i + m.left + m.size) (j + m.right + m.size)
          (a.drop (m.left + m.size)) (b.drop (m.right + m.size)) (by simp; omega)
        have hl : (a.take m.left).length = m.left := by simp; omega
        have hr : (b.take m.right).length = m.right := by simp; omega
        have all := before.append filled (by rw [hl, hr, size]; exact after)
        rwa [← ha, ← hb, hl, hr, size] at all

end

/-- Two blocks do not touch on both sides. -/
def Block.Apart (m n : Block) : Prop := ¬ (m.left + m.size = n.left ∧ m.right + m.size = n.right)

/-- Joining keeps the cuts, without those where nothing stands between two runs. -/
theorem Aligned.merged (h : Aligned i j a b ms) : Aligned i j a b (merged ms) := by
  induction h with
  | last disjoint => exact .last disjoint
  | @next i j gap gap' run a b ms disjoint filled _ ih =>
      rw [Diff.merged]
      generalize Diff.merged ms = joined at ih
      cases ih with
      | last rest => exact .next disjoint filled (.last rest)
      | @next _ _ gap₂ gap₂' run₂ a b more disjoint₂ filled₂ rest =>
          dsimp only
          split
          · next touch =>
              have empty : gap₂ = [] ∧ gap₂' = [] := by
                constructor <;> apply List.eq_nil_of_length_eq_zero <;> omega
              obtain ⟨rfl, rfl⟩ := empty
              have := Aligned.next disjoint (show run ++ run₂ ≠ [] by simp [filled])
                (by simpa [Nat.add_assoc] using rest)
              simpa using this
          · exact .next disjoint filled (.next disjoint₂ filled₂ rest)

theorem merged_apart : (ms : List Block) → (merged ms).IsChain Block.Apart
  | [] => .nil
  | m :: rest => by
      have ih := merged_apart rest
      rw [merged]
      generalize merged rest = joined at ih
      cases joined with
      | nil => exact .singleton m
      | cons n more =>
          dsimp only
          split
          · next touch =>
              rw [List.isChain_cons] at ih ⊢
              refine ⟨fun k hk joins => ih.1 k hk ?_, ih.2⟩
              simp only at joins
              omega
          · next apart => exact .cons_cons apart ih

end Blocks

/-! ## Words -/

/-- A text cut into words and runs of white space: all pieces are filled, the characters of a piece are of one
class, and those of neighbours of different ones. -/
structure IsCut (s : List Char) (ws : List (List Char)) : Prop where
  whole : ws.flatten = s
  filled : ∀ w ∈ ws, w ≠ []
  even : ∀ w ∈ ws, ∀ c ∈ w, ∀ d ∈ w, Text.isWhite c = Text.isWhite d
  apart : ws.IsChain fun u v => ∀ c ∈ u, ∀ d ∈ v, Text.isWhite c ≠ Text.isWhite d

/-- A further character in front. -/
theorem IsCut.push {s : List Char} {ws : List (List Char)} (c : Char) (h : IsCut s ws) :
    IsCut (c :: s) (pushPiece c ws) := by
  obtain ⟨whole, filled, even, apart⟩ := h
  match ws with
  | [] => exact ⟨by simpa [pushPiece] using whole, by simp [pushPiece], by simp [pushPiece], .singleton _⟩
  | [] :: _ => simp at filled
  | (d :: w) :: rest =>
      rw [pushPiece]
      split
      · next same =>
          refine ⟨by simpa using whole, by simpa using filled, ?_, ?_⟩
          · rw [List.forall_mem_cons] at even ⊢
            have all : ∀ x ∈ c :: d :: w, Text.isWhite x = Text.isWhite d :=
              List.forall_mem_cons.mpr ⟨same, fun x hx => even.1 x hx d (by simp)⟩
            exact ⟨fun x hx y hy => (all x hx).trans (all y hy).symm, even.2⟩
          · rw [List.isChain_cons] at apart ⊢
            refine ⟨fun v hv => ?_, apart.2⟩
            have := apart.1 v hv
            simp only [List.forall_mem_cons] at this ⊢
            exact ⟨same ▸ this.1, this⟩
      · next other =>
          refine ⟨by simpa using whole, by simpa using filled, ?_, ?_⟩
          · simpa using even
          · refine .cons_cons (fun c' hc d' hd => ?_) apart
            rw [List.mem_singleton.mp hc, even _ (by simp) d' hd d (by simp)]
            exact other

theorem pieces_isCut : (s : List Char) → IsCut s (pieces s)
  | [] => ⟨rfl, by simp [pieces], by simp [pieces], .nil⟩
  | c :: s => (pieces_isCut s).push c

/-! ## Segments -/

namespace Segment

/-- The words of the old text in a segment. -/
def old : Segment → List (List Char)
  | kept words => words
  | deleted words => words
  | inserted _ => []

/-- The words of the new text in a segment. -/
def new : Segment → List (List Char)
  | kept words => words
  | deleted _ => []
  | inserted words => words

def words : Segment → List (List Char)
  | kept words => words
  | deleted words => words
  | inserted words => words

/-- What may follow what. Kept segments have changes between them; of these there is one deletion, or one
insertion, or a replacement: a deletion followed by an insertion that has no word of it. -/
def Precedes : Segment → Segment → Prop
  | kept _, kept _ => False
  | kept _, _ => True
  | deleted _, kept _ => True
  | deleted gone, inserted come => gone.Disjoint come
  | deleted _, deleted _ => False
  | inserted _, kept _ => True
  | inserted _, _ => False

end Segment

section Segments

variable {old new : List (List Char)} {gs : List Segment}

/-- A list of segments turns one list of words into another. -/
structure Turns (old new : List (List Char)) (gs : List Segment) : Prop where
  old : gs.flatMap Segment.old = old
  new : gs.flatMap Segment.new = new
  filled : ∀ g ∈ gs, g.words ≠ []

theorem change_turns (old new : List (List Char)) : Turns old new (change old new) := by
  cases old <;> cases new <;> constructor <;> simp [change, Segment.old, Segment.new, Segment.words]

theorem Turns.append {old' new' : List (List Char)} {gs' : List Segment} (h : Turns old new gs)
    (h' : Turns old' new' gs') : Turns (old ++ old') (new ++ new') (gs ++ gs') where
  old := by rw [List.flatMap_append, h.old, h'.old]
  new := by rw [List.flatMap_append, h.new, h'.new]
  filled g hg := (List.mem_append.mp hg).elim (h.filled g) (h'.filled g)

theorem Turns.keep {run : List (List Char)} (h : Turns old new gs) (filled : run ≠ []) :
    Turns (run ++ old) (run ++ new) (.kept run :: gs) where
  old := by rw [List.flatMap_cons, h.old, Segment.old]
  new := by rw [List.flatMap_cons, h.new, Segment.new]
  filled := by simpa [Segment.words, filled] using h.filled

variable {i j : Nat} {ms : List Block}

/-- The next segments, for blocks that cut the lists. -/
theorem segmentsFrom_next {gap gap' run : List (List Char)} :
    segmentsFrom i j (gap ++ (run ++ old)) (gap' ++ (run ++ new))
        (⟨i + gap.length, j + gap'.length, run.length⟩ :: ms) =
      change gap gap' ++ .kept run ::
        segmentsFrom (i + gap.length + run.length) (j + gap'.length + run.length) old new ms := by
  simp [segmentsFrom, ← List.drop_drop]

theorem segmentsFrom_turns (h : Aligned i j old new ms) : Turns old new (segmentsFrom i j old new ms) := by
  induction h with
  | last _ => exact change_turns _ _
  | next _ filled _ ih =>
      rw [segmentsFrom_next]
      exact (change_turns _ _).append (ih.keep filled)

/-- A change goes before what is kept. -/
theorem change_precedes {run : List (List Char)} (disjoint : old.Disjoint new)
    (rest : (Segment.kept run :: gs).IsChain Segment.Precedes) :
    (change old new ++ .kept run :: gs).IsChain Segment.Precedes := by
  cases old <;> cases new <;> simp_all [change, Segment.Precedes]

theorem change_alone (disjoint : old.Disjoint new) : (change old new).IsChain Segment.Precedes := by
  cases old <;> cases new <;> simp_all [change, Segment.Precedes]

/-- After what is kept, too, if it is not empty. -/
theorem kept_precedes {run : List (List Char)} (h : (change old new ++ gs).IsChain Segment.Precedes)
    (filled : ¬ (old = [] ∧ new = [])) : (.kept run :: (change old new ++ gs)).IsChain Segment.Precedes := by
  cases old <;> cases new <;> simp_all [change, Segment.Precedes]

theorem segmentsFrom_precede {m : Block} {run : List (List Char)} (h : Aligned i j old new ms)
    (apart : (m :: ms).IsChain Block.Apart) (hi : m.left + m.size = i) (hj : m.right + m.size = j) :
    (Segment.kept run :: segmentsFrom i j old new ms).IsChain Segment.Precedes := by
  induction h generalizing m run with
  | @last i j old new disjoint =>
      by_cases empty : old = [] ∧ new = []
      · simp [empty, segmentsFrom, change]
      · have alone : (change old new ++ []).IsChain Segment.Precedes := by simpa using change_alone disjoint
        simpa [segmentsFrom] using kept_precedes alone empty
  | next disjoint _ _ ih =>
      rw [segmentsFrom_next]
      obtain ⟨apart, rest⟩ := List.isChain_cons_cons.mp apart
      refine kept_precedes (change_precedes disjoint (ih rest rfl rfl)) ?_
      rintro ⟨rfl, rfl⟩
      exact apart ⟨by simpa using hi, by simpa using hj⟩

theorem segmentsFrom_chain (h : Aligned i j old new ms) (apart : ms.IsChain Block.Apart) :
    (segmentsFrom i j old new ms).IsChain Segment.Precedes := by
  cases h with
  | last disjoint => exact change_alone disjoint
  | next disjoint _ rest =>
      rw [segmentsFrom_next]
      exact change_precedes disjoint (segmentsFrom_precede rest apart rfl rfl)

end Segments

/-! ## Diffs -/

/-- The common blocks of two lists, joined, cut both. -/
theorem blocks_aligned {α : Type} [DecidableEq α] (a b : List α) : Aligned 0 0 a b (blocks a b) :=
  (blocksFrom_aligned _ 0 0 a b (Nat.lt_succ_self _)).merged

theorem segments_turns (before after : List Char) :
    Turns (pieces before) (pieces after) (segments before after) :=
  segmentsFrom_turns (blocks_aligned _ _)

theorem segments_chain (before after : List Char) : (segments before after).IsChain Segment.Precedes :=
  segmentsFrom_chain (blocks_aligned _ _) (merged_apart _)

theorem blocks_self {α : Type} [DecidableEq α] {a : List α} (filled : a ≠ []) : blocks a a = [⟨0, 0, a.length⟩] := by
  have length : a.length ≠ 0 := by simpa using filled
  have nothing (fuel i j : Nat) : blocksFrom fuel i j ([] : List α) [] = [] := by
    cases fuel <;> simp [blocksFrom, longest_self]
  simp [blocks, blocksFrom, longest_self, length, nothing, merged]

theorem wordDiff_self (s : List Char) : wordDiff s s = s := by
  have whole := (pieces_isCut s).whole
  by_cases empty : pieces s = []
  · simp_all [wordDiff, segments, blocks, blocksFrom, longest_self, merged, segmentsFrom, change]
  · simp [wordDiff, segments, blocks_self empty, segmentsFrom, change, Segment.text, whole]

/-- A word diff is a list of segments, each of whole words and runs of white space, of which the kept and the
deleted ones spell the old text and the kept and the inserted ones the new text. A deletion right before an
insertion replaces it, and of a text and itself everything is kept. -/
theorem wordDiff_lossless (before after : List Char) :
    (∃ old new, ∃ gs : List Segment, IsCut before old ∧ IsCut after new ∧
      wordDiff before after = gs.flatMap Segment.text ∧
      gs.flatMap Segment.old = old ∧ gs.flatMap Segment.new = new ∧
      (∀ g ∈ gs, g.words ≠ []) ∧ gs.IsChain Segment.Precedes) ∧
    wordDiff before before = before := by
  have turns := segments_turns before after
  refine ⟨⟨pieces before, pieces after, segments before after, pieces_isCut before, pieces_isCut after, rfl, ?_⟩,
    wordDiff_self before⟩
  exact ⟨turns.old, turns.new, turns.filled, segments_chain before after⟩

end Patchwork.Diff
