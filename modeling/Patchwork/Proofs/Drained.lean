import Mathlib.Data.List.Pairwise
import Mathlib.Data.List.Perm.Subperm
import Patchwork.Proofs.Separation

/-!
What always holds of the patches of a registry, however the runs over them nest: what each removal, each move and the
end of each run leave behind.
-/

namespace Patchwork

open Run

variable {κ : Type} {n run : Nat}

/-! ## What a history tells -/

/-- The occurrences that contributed for the only time, each with what was removed for it. -/
def Deed.use? (n : Nat) : Deed → Option (Nat × Option Nat)
  | .used m _ occurrence taken => if m = n then some (occurrence, taken) else none
  | _ => none

def Deed.tried? (n run : Nat) : Deed → Option Nat
  | .tried m r occurrence => if m = n ∧ r = run then some occurrence else none
  | _ => none

def Deed.skips (n run : Nat) : Deed → List Nat
  | .moved m r skipped => if m = n ∧ r = run then skipped else []
  | _ => []

/-- The run of a registry that did something. -/
def Deed.run? (n : Nat) : Deed → Option Nat
  | .tried m r _ | .used m r _ _ | .moved m r _ | .ended m r _ => if m = n then some r else none
  | _ => none

def uses (n : Nat) (deeds : List Deed) : List (Nat × Option Nat) :=
  deeds.filterMap (Deed.use? n)

/-- The occurrences that a run tried. -/
def triedBy (n run : Nat) (deeds : List Deed) : List Nat :=
  deeds.filterMap (Deed.tried? n run)

/-- The occurrences that a run went past before their turn. -/
def skippedBy (n run : Nat) (deeds : List Deed) : List Nat :=
  deeds.flatMap (Deed.skips n run)

theorem Deed.use?_of_run {d : Deed} (h : d.run? n = none) : d.use? n = none := by
  cases d with
  | used m r o taken => simpa [Deed.run?, Deed.use?] using h
  | _ => rfl

theorem Deed.tried?_of_run {d : Deed} (h : d.run? n ≠ some run) : d.tried? n run = none := by
  cases d with
  | tried m r o =>
      rw [Deed.tried?, if_neg]
      rintro ⟨rfl, rfl⟩
      exact h (if_pos rfl)
  | _ => rfl

theorem Deed.skips_of_run {d : Deed} (h : d.run? n ≠ some run) : d.skips n run = [] := by
  cases d with
  | moved m r skipped =>
      rw [Deed.skips, if_neg]
      rintro ⟨rfl, rfl⟩
      exact h (if_pos rfl)
  | _ => rfl

namespace DoneBetween

variable {w w' : World κ}

theorem uses_eq (h : DoneBetween (fun d => d.run? n = none) w w') : uses n w'.history = uses n w.history := by
  obtain ⟨new, extended, others⟩ := h
  have none : new.filterMap (Deed.use? n) = [] :=
    List.filterMap_eq_nil_iff.mpr fun d hd => Deed.use?_of_run (others d hd)
  rw [uses, extended, List.filterMap_append, none, List.nil_append, uses]

theorem triedBy_eq (h : DoneBetween (fun d => d.run? n ≠ some run) w w') :
    triedBy n run w'.history = triedBy n run w.history := by
  obtain ⟨new, extended, others⟩ := h
  have none : new.filterMap (Deed.tried? n run) = [] :=
    List.filterMap_eq_nil_iff.mpr fun d hd => Deed.tried?_of_run (others d hd)
  rw [triedBy, extended, List.filterMap_append, none, List.nil_append, triedBy]

theorem skippedBy_eq (h : DoneBetween (fun d => d.run? n ≠ some run) w w') :
    skippedBy n run w'.history = skippedBy n run w.history := by
  obtain ⟨new, extended, others⟩ := h
  have none : new.flatMap (Deed.skips n run) = [] :=
    List.flatMap_eq_nil_iff.mpr fun d hd => Deed.skips_of_run (others d hd)
  rw [skippedBy, extended, List.flatMap_append, none, List.nil_append, skippedBy]

end DoneBetween

/-! ## Places in increasing lists -/

section

variable {l l' : List Nat} {i j x y : Nat}

theorem lt_of_place_lt (sorted : l.Pairwise (· < ·)) (hx : l[i]? = some x) (hy : l[j]? = some y) (h : i < j) :
    x < y := by
  obtain ⟨hi, rfl⟩ := List.getElem?_eq_some_iff.mp hx
  obtain ⟨hj, rfl⟩ := List.getElem?_eq_some_iff.mp hy
  exact List.pairwise_iff_getElem.mp sorted i j hi hj h

theorem place_lt (sorted : l.Pairwise (· < ·)) (hx : l[i]? = some x) (hy : l[j]? = some y) (h : x < y) : i < j := by
  by_contra after
  rcases Nat.lt_or_eq_of_le (Nat.le_of_not_lt after) with behind | rfl
  · exact Nat.lt_asymm h (lt_of_place_lt sorted hy hx behind)
  · rw [hx] at hy
    cases hy
    exact Nat.lt_irrefl _ h

/-- The place of a number in an increasing list is how many smaller ones there are. -/
theorem place_eq_count : {l : List Nat} → {i : Nat} → l.Pairwise (· < ·) → l[i]? = some x →
    (l.filter (· < x)).length = i
  | a :: l, 0, sorted, h => by
      obtain rfl : a = x := Option.some.inj h
      have none : l.filter (· < a) = [] := List.filter_eq_nil_iff.mpr fun b hb => by
        have := (List.pairwise_cons.mp sorted).1 b hb
        simpa using Nat.le_of_lt this
      simp [none]
  | a :: l, i + 1, sorted, h => by
      obtain ⟨first, rest⟩ := List.pairwise_cons.mp sorted
      have member : l[i]? = some x := h
      have smaller : a < x := first x (List.mem_of_getElem? member)
      simp [smaller, place_eq_count rest member]

/-- In a list that lost some numbers, the others stand no further behind than before. -/
theorem place_le_of_subset (sorted : l.Pairwise (· < ·)) (sorted' : l'.Pairwise (· < ·))
    (sub : ∀ y ∈ l', y < x → y ∈ l) (hx : l[i]? = some x) (hx' : l'[j]? = some x) : j ≤ i := by
  rw [← place_eq_count sorted hx, ← place_eq_count sorted' hx']
  refine (List.subperm_of_subset ((sorted'.imp Nat.ne_of_lt).filter _) fun y hy => ?_).length_le
  obtain ⟨there, smaller⟩ := List.mem_filter.mp hy
  exact List.mem_filter.mpr ⟨sub y there (of_decide_eq_true smaller), smaller⟩

theorem mem_drop_place (h : x ∈ l.drop i) : ∃ j, i ≤ j ∧ l[j]? = some x := by
  obtain ⟨k, hk⟩ := List.mem_iff_getElem?.mp h
  rw [List.getElem?_drop] at hk
  exact ⟨i + k, Nat.le_add_right _ _, hk⟩

theorem place_mem_drop (h : l[j]? = some x) (behind : i ≤ j) : x ∈ l.drop i := by
  refine List.mem_iff_getElem?.mpr ⟨j - i, ?_⟩
  rw [List.getElem?_drop, Nat.add_sub_cancel' behind]
  exact h

theorem place_mem_take (h : l[j]? = some x) (before : j < i) : x ∈ l.take i := by
  refine List.mem_iff_getElem?.mpr ⟨j, ?_⟩
  rw [List.getElem?_take_of_lt before]
  exact h

theorem mem_drop_eraseIdx (h : x ∈ (l.eraseIdx i).drop i) : x ∈ l.drop (i + 1) := by
  obtain ⟨j, behind, hj⟩ := mem_drop_place h
  rw [List.getElem?_eraseIdx_of_ge behind] at hj
  exact place_mem_drop hj (Nat.succ_le_succ behind)

theorem mem_take_place (h : x ∈ l.take i) : ∃ j, j < i ∧ l[j]? = some x := by
  obtain ⟨k, hk⟩ := List.mem_iff_getElem?.mp h
  rw [List.getElem?_take] at hk
  split at hk
  · next bound => exact ⟨k, bound, hk⟩
  · cases hk

theorem take_lt_drop (sorted : l.Pairwise (· < ·)) (hx : x ∈ l.take i) (hy : y ∈ l.drop i) : x < y := by
  obtain ⟨j, hj, hx⟩ := mem_take_place hx
  obtain ⟨k, hk, hy⟩ := mem_drop_place hy
  exact lt_of_place_lt sorted hx hy (Nat.lt_of_lt_of_le hj hk)

end

/-! ## What always holds -/

/-- What was removed is gone for good, and what a run that ended has not tried it went past. -/
structure Drained (n : Nat) (w : World κ) : Prop where
  sorted : (w.numbers n).Pairwise (· < ·)
  made : ∀ x ∈ w.numbers n, x < w.history.length
  behind : ∀ u ∈ uses n w.history, ∀ x, u.2 = some x → u.1 ≤ x
  gone : ∀ u ∈ uses n w.history, ∀ x, u.2 = some x → x ∉ w.numbers n ∧ x < w.history.length
  single : ((uses n w.history).filterMap (·.2)).Nodup
  begun : ∀ d ∈ w.history, ∀ r, d.run? n = some r → r < w.history.length
  ended : ∀ run present, .ended n run present ∈ w.history →
    (∀ x ∈ present, x ∈ triedBy n run w.history ∨ x ∈ skippedBy n run w.history) ∧
      ∀ x ∈ skippedBy n run w.history, x ∉ triedBy n run w.history

/-- What was removed for one occurrence was not removed for another one. -/
theorem Drained.taken_once {w : World κ} (h : Drained n w) {u v : Nat × Option Nat} (hu : u ∈ uses n w.history)
    (hv : v ∈ uses n w.history) {x : Nat} (taken : u.2 = some x) (again : v.2 = some x) : u = v := by
  by_contra different
  have symm : Std.Symm fun u v : Nat × Option Nat => ∀ x, u.2 = some x → ∀ y, v.2 = some y → x ≠ y :=
    ⟨fun _ _ apart y hy x hx same => apart x hx y hy same.symm⟩
  exact (List.pairwise_filterMap.mp h.single).forall hu hv different x taken x again rfl

/-- What changes from one world to another: the runs in between are new, and so are the patches that came in. -/
structure Loses (n : Nat) (w w' : World κ) : Prop where
  history : DoneBetween (fun d => ∀ r, d.run? n = some r → w.history.length ≤ r) w w'
  kept : ∀ x ∈ w'.numbers n, x < w.history.length → x ∈ w.numbers n

namespace Loses

theorem refl (w : World κ) : Loses n w w :=
  ⟨.of_same rfl, fun _ h _ => h⟩

theorem trans {u v w : World κ} (first : Loses n u v) (second : Loses n v w) : Loses n u w where
  history := first.history.trans (second.history.mono fun _ late r hr => Nat.le_trans first.history.longer (late r hr))
  kept x hx old := first.kept x (second.kept x hx (Nat.lt_of_lt_of_le old first.history.longer)) old

end Loses

/-- Worlds in which the invariant holds go over into such worlds. -/
def Drains (n : Nat) (w w' : World κ) : Prop :=
  Drained n w → Drained n w' ∧ Loses n w w'

instance : Lasting (Drains (κ := κ) n) where
  refl w := fun h => ⟨h, .refl w⟩
  trans first second := fun h =>
    ⟨(second (first h).1).1, (first h).2.trans (second (first h).1).2⟩

/-! ## Changes elsewhere -/

/-- The patches of a registry are the same in both worlds, and none of its runs did anything. -/
structure Apart (n : Nat) (w w' : World κ) : Prop where
  patches : (w'.registry n).patches = (w.registry n).patches
  history : DoneBetween (fun d => d.run? n = none) w w'

theorem Deed.run?_of_request {d : Deed} (h : d.isRequest = true) : d.run? n = none := by
  cases d with
  | asked m => rfl
  | subscribed m request displaced => rfl
  | answered m request ended => rfl
  | _ => cases h

theorem Deed.run?_of_start {d : Deed} (h : d.isStart = true) : d.run? n = none := by
  cases d with
  | started => rfl
  | told => rfl
  | announced => rfl
  | _ => cases h

theorem Deed.run?_of_registry {d : Deed} (h : d.registry ≠ n) : d.run? n = none := by
  cases d with
  | tried m r o => exact if_neg h
  | used m r o taken => exact if_neg h
  | moved m r skipped => exact if_neg h
  | ended m r present => exact if_neg h
  | _ => rfl

theorem BesidePatches.apart {w w' : World κ} (h : BesidePatches w w') : Apart n w w' :=
  ⟨h.patches n, h.history.mono fun _ => Deed.run?_of_request⟩

theorem Apart.noted (w : World κ) {d : Deed} (hd : d.run? n = none) : Apart n w (w.noted d) :=
  ⟨rfl, .single w hd⟩

theorem Apart.modified (w : World κ) {m : Nat} (f : Registry → Registry) (other : m ≠ n) :
    Apart n w (w.modifyRegistry m f) :=
  ⟨by rw [w.modifyRegistry_other f other], .of_same rfl⟩

theorem Apart.drains {w w' : World κ} (h : Apart n w w') : Drains n w w' := by
  intro hw
  have longer := h.history.longer
  have before : ∀ d ∈ w'.history, d.run? n = none ∨ d ∈ w.history := fun d => h.history.mem
  have late : DoneBetween (fun d => ∀ r, d.run? n = some r → w.history.length ≤ r) w w' :=
    h.history.mono fun d other r hr => absurd (other.symm.trans hr) (Option.some_ne_none r).symm
  have others : ∀ run, DoneBetween (fun d => d.run? n ≠ some run) w w' := fun run =>
    h.history.mono fun d other same => absurd (other.symm.trans same) (Option.some_ne_none run).symm
  have same : w'.numbers n = w.numbers n := by rw [World.numbers, World.numbers, h.patches]
  have used := h.history.uses_eq
  refine ⟨⟨?_, ?_, ?_, ?_, ?_, ?_, ?_⟩, late, ?_⟩
  · exact same ▸ hw.sorted
  · exact fun x hx => Nat.lt_of_lt_of_le (hw.made x (same ▸ hx)) longer
  · exact used ▸ hw.behind
  · rw [used, same]
    exact fun u hu x hx => ⟨(hw.gone u hu x hx).1, Nat.lt_of_lt_of_le (hw.gone u hu x hx).2 longer⟩
  · exact used ▸ hw.single
  · intro d hd r hr
    rcases before d hd with other | hd
    · rw [other] at hr
      cases hr
    · exact Nat.lt_of_lt_of_le (hw.begun d hd r hr) longer
  · intro run present there
    rw [(others run).triedBy_eq, (others run).skippedBy_eq]
    rcases before _ there with other | there
    · simp [Deed.run?] at other
    · exact hw.ended run present there
  · exact fun x hx _ => same ▸ hx

theorem Beside.drains {w w' : World κ} (h : Beside w w') : Drains n w w' :=
  h.patches_kept.apart.drains

instance : Moves (Drains (κ := κ) n) where
  beside := Beside.drains

/-! ## Single changes -/

/-- A run that has not ended does something; what it says about its own end has to be true. -/
theorem Drained.noted {w : World κ} {d : Deed} (hw : Drained n w) (hrun : d.run? n = some run)
    (begun : run < w.history.length) (running : ∀ present, .ended n run present ∉ w.history)
    (unused : d.use? n = none) (last : ∀ present, d = .ended n run present →
      (∀ x ∈ present, x ∈ triedBy n run w.history ∨ x ∈ skippedBy n run w.history) ∧
        ∀ x ∈ skippedBy n run w.history, x ∉ triedBy n run w.history) :
    Drained n (w.noted d) := by
  have used : uses n (w.noted d).history = uses n w.history := List.filterMap_cons_none unused
  refine ⟨hw.sorted, fun x hx => Nat.lt_succ_of_lt (hw.made x hx), used ▸ hw.behind, ?_, used ▸ hw.single, ?_, ?_⟩
  · rw [used]
    exact fun u hu x hx => ⟨(hw.gone u hu x hx).1, Nat.lt_succ_of_lt (hw.gone u hu x hx).2⟩
  · intro e he r hr
    rcases List.mem_cons.mp he with rfl | he
    · rw [hrun] at hr
      cases hr
      exact Nat.lt_succ_of_lt begun
    · exact Nat.lt_succ_of_lt (hw.begun e he r hr)
  · intro r present there
    rcases List.mem_cons.mp there with is | there
    · subst is
      obtain rfl : r = run := by simpa [Deed.run?] using hrun
      have same := last present rfl
      exact same
    · have other : DoneBetween (fun e => e.run? n ≠ some r) w (w.noted d) := by
        refine .single w fun same => running present ?_
        rw [hrun] at same
        cases same
        exact there
      rw [other.triedBy_eq, other.skippedBy_eq]
      exact hw.ended r present there

theorem Loses.noted {start w : World κ} {d : Deed} (since : Loses n start w) (hrun : d.run? n = some run)
    (late : start.history.length ≤ run) : Loses n start (w.noted d) := by
  refine ⟨since.history.noted fun r hr => ?_, since.kept⟩
  rw [hrun] at hr
  cases hr
  exact late

theorem withoutPatch_numbers (w : World κ) (n i : Nat) :
    (w.withoutPatch n i).numbers n = (w.numbers n).eraseIdx i := by
  rw [World.numbers, World.withoutPatch, World.modifyRegistry_self w n rfl, World.numbers]
  simp only [List.eraseIdx_eq_take_drop_succ, List.map_append, List.map_take, List.map_drop]

/-- A run removes the patch at its place, which is none before that of the occurrence it used. -/
theorem Drained.used {w : World κ} {i o : Nat} (hw : Drained n w) (begun : run < w.history.length)
    (running : ∀ present, .ended n run present ∉ w.history) (here : ∀ x, (w.numbers n)[i]? = some x → o ≤ x) :
    Drained n ((w.withoutPatch n i).noted (.used n run o (w.numbers n)[i]?)) := by
  have numbers := withoutPatch_numbers w n i
  have used : uses n ((w.withoutPatch n i).noted (.used n run o (w.numbers n)[i]?)).history =
      (o, (w.numbers n)[i]?) :: uses n w.history :=
    List.filterMap_cons_some (by rw [Deed.use?, if_pos rfl])
  have other : ∀ {r present}, .ended n r present ∈ w.history → DoneBetween (fun e => e.run? n ≠ some r) w
      ((w.withoutPatch n i).noted (.used n run o (w.numbers n)[i]?)) := by
    intro r present there
    refine (DoneBetween.of_same rfl).noted fun same => running present ?_
    obtain rfl : run = r := by simpa [Deed.run?] using same
    exact there
  refine ⟨?_, fun x hx => ?_, ?_, ?_, ?_, ?_, ?_⟩
  · exact numbers ▸ hw.sorted.sublist (List.eraseIdx_sublist _ _)
  · exact Nat.lt_succ_of_lt (hw.made x (List.mem_of_mem_eraseIdx (numbers ▸ hx)))
  · rw [used]
    intro u hu x hx
    rcases List.mem_cons.mp hu with rfl | hu
    · exact here x hx
    · exact hw.behind u hu x hx
  · rw [used]
    intro u hu x hx
    rcases List.mem_cons.mp hu with rfl | hu
    · refine ⟨fun there => ?_, Nat.lt_succ_of_lt (hw.made x (List.mem_of_getElem? hx))⟩
      obtain ⟨j, elsewhere, hj⟩ := List.mem_eraseIdx_iff_getElem?.mp (numbers ▸ there)
      rcases Nat.lt_or_gt_of_ne elsewhere with h | h
      · exact Nat.lt_irrefl _ (lt_of_place_lt hw.sorted hj hx h)
      · exact Nat.lt_irrefl _ (lt_of_place_lt hw.sorted hx hj h)
    · refine ⟨fun there => ?_, Nat.lt_succ_of_lt (hw.gone u hu x hx).2⟩
      exact (hw.gone u hu x hx).1 (List.mem_of_mem_eraseIdx (numbers ▸ there))
  · rw [used]
    cases found : (w.numbers n)[i]? with
    | none => exact hw.single
    | some x =>
        refine List.nodup_cons.mpr ⟨fun taken => ?_, hw.single⟩
        obtain ⟨u, hu, hx⟩ := List.mem_filterMap.mp taken
        exact (hw.gone u hu x hx).1 (List.mem_of_getElem? found)
  · intro e he r hr
    rcases List.mem_cons.mp he with rfl | he
    · obtain rfl : run = r := by simpa [Deed.run?] using hr
      exact Nat.lt_succ_of_lt begun
    · exact Nat.lt_succ_of_lt (hw.begun e he r hr)
  · intro r present there
    rcases List.mem_cons.mp there with is | there
    · cases is
    · rw [(other there).triedBy_eq, (other there).skippedBy_eq]
      exact hw.ended r present there

end Patchwork
