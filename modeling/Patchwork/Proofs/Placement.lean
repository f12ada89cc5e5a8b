import Patchwork.Proofs.Assigning
import Patchwork.Proofs.Containment

/-!
How hooks go on a class and off it: what class there is afterwards, attribute by attribute.
-/

namespace Patchwork

open Run

variable {κ : Type} {w : World κ} {a cls : Address} {i : Interceptor} {k : ClassObject}

/-! ## Attributes -/

namespace Attributes

variable {attrs : Attributes} {name other : String} {value : Value}

theorem get?_cons (e : String × Value) (attrs : Attributes) (name : String) :
    get? (e :: attrs) name = if e.1 = name then some e.2 else attrs.get? name := by
  by_cases same : e.1 = name
  · simp [get?, same]
  · simp [get?, List.find?_cons_of_neg (p := fun e : String × Value => e.1 == name), same]

theorem get?_map_other (different : other ≠ name) :
    get? (attrs.map fun e => if e.1 == name then (name, value) else e) other = attrs.get? other := by
  induction attrs with
  | nil => rfl
  | cons e rest ih =>
      rw [List.map_cons, get?_cons, get?_cons, ih]
      by_cases same : e.1 = name
      · simp [same, Ne.symm different]
      · simp [same]

theorem get?_set_other (different : other ≠ name) : (attrs.set name value).get? other = attrs.get? other := by
  rw [set]
  split
  · exact get?_map_other different
  · have : (name == other) = false := by simpa using Ne.symm different
    simp [get?, List.find?_append, this]

theorem get?_erase (attrs : Attributes) (name : String) : (attrs.erase name).get? name = none := by
  rw [get?, erase, Option.map_eq_none_iff, List.find?_eq_none]
  intro e he
  simpa using (List.mem_filter.mp he).2

theorem get?_erase_other (different : other ≠ name) : (attrs.erase name).get? other = attrs.get? other := by
  induction attrs with
  | nil => rfl
  | cons e rest ih =>
      rw [erase] at ih ⊢
      by_cases same : e.1 = name
      · have : ¬ e.1 = other := fun h => different (h.symm.trans same)
        rw [List.filter_cons_of_neg (by simpa using same), ih, get?_cons, if_neg this]
      · rw [List.filter_cons_of_pos (by simpa using same), get?_cons, get?_cons, ih]

end Attributes

/-! ## What a class has itself -/

/-- What a class has under a name itself. -/
def World.own (w : World κ) (cls : Address) (name : String) : Option Value :=
  match w.heap[cls]? with
  | some (.class c) => c.attrs.get? name
  | _ => none

section

variable {name : String} {value : Value}

theorem World.own_class (there : w.heap[cls]? = some (.class k)) (name : String) :
    w.own cls name = k.attrs.get? name := by
  rw [own, there]

theorem World.class_of_own (has : w.own cls name = some value) :
    ∃ k, w.heap[cls]? = some (.class k) ∧ k.attrs.get? name = some value := by
  rw [own] at has
  split at has
  · next k there => exact ⟨k, there, has⟩
  · cases has

end

/-! ## Taking a hook off -/

/-- What the attributes of a class are once a hook is off it. -/
def Interceptor.restored (i : Interceptor) (attrs : Attributes) : Attributes :=
  match i.previous with
  | some v => attrs.set i.name v
  | none => attrs.erase i.name

theorem Interceptor.restored_here (i : Interceptor) (attrs : Attributes) :
    (i.restored attrs).get? i.name = i.previous := by
  rw [restored]
  split
  · next v has => rw [Attributes.get?_set, has]
  · next none => rw [Attributes.get?_erase, none]

theorem Interceptor.restored_other {other : String} (i : Interceptor) (attrs : Attributes) (different : other ≠ i.name) :
    (i.restored attrs).get? other = attrs.get? other := by
  rw [restored]
  split
  · exact Attributes.get?_set_other different
  · exact Attributes.get?_erase_other different

section

variable {R : World κ → World κ → Prop} [Moves R]

theorem classAttrs_class (there : w.heap[cls]? = some (.class k)) :
    (classAttrs cls : Within R _).run w = .ok k.attrs w := by
  rw [classAttrs, Within.run_bind, bind_of_ok (objectAt?_run _ _), there]
  rfl

theorem classAttrs_own (cls : Address) (w : World κ) :
    ∃ attrs, (classAttrs cls : Within R _).run w = .ok attrs w ∧ ∀ name, attrs.get? name = w.own cls name := by
  rw [classAttrs, Within.run_bind, bind_of_ok (objectAt?_run _ _)]
  split
  · next k there => exact ⟨k.attrs, rfl, fun name => (World.own_class there name).symm⟩
  · next none =>
      refine ⟨[], rfl, fun name => ?_⟩
      rw [World.own]
      split
      · next k there => exact absurd there (none k)
      · rfl

theorem setClassAttrs_class (there : w.heap[cls]? = some (.class k)) (attrs : Attributes) :
    (setClassAttrs cls attrs : Within R Unit).run w = .ok () (w.replaced cls (.class { k with attrs })) := by
  rw [setClassAttrs, Within.run_bind, bind_of_ok (objectAt?_run _ _), there]
  exact write_run there _

/-- A hook that stands on its class goes off it. -/
theorem removeHook_on (hook : w.heap[a]? = some (.interceptor i)) (there : w.heap[i.owner]? = some (.class k))
    (has : k.attrs.get? i.name = some (.ref a)) : (removeHook a : Within R Unit).run w =
      .ok () (w.replaced i.owner (.class { k with attrs := i.restored k.attrs })) := by
  rw [removeHook, Within.run_bind, bind_of_ok (Interceptor.at?_of_found hook)]
  dsimp only
  rw [Within.run_bind, bind_of_ok (classAttrs_class there), has]
  dsimp only
  rw [if_pos rfl]
  exact setClassAttrs_class there _

/-- What stands on a class in the place of a hook stays there. -/
theorem removeHook_off (hook : w.heap[a]? = some (.interceptor i)) (other : w.own i.owner i.name ≠ some (.ref a)) :
    (removeHook a : Within R Unit).run w = .ok () w := by
  obtain ⟨attrs, gives, own⟩ := classAttrs_own (R := R) i.owner w
  rw [removeHook, Within.run_bind, bind_of_ok (Interceptor.at?_of_found hook)]
  dsimp only
  rw [Within.run_bind, bind_of_ok gives, own]
  split
  · next b has =>
      have : a ≠ b := by
        rintro rfl
        exact other has
      rw [if_neg this]
      rfl
  · rfl

/-- What an instance is given past all hooks. -/
theorem storeOn_instance {r : Address} {attrs : Attributes} {core : Option Value}
    (object : w.heap[r]? = some (.instance cls attrs core)) (name : String) (value : Value) :
    (storeOn (.ref r) name value : Within R Unit).run w =
      .ok () (w.replaced r (.instance cls (attrs.set name value) core)) := by
  rw [storeOn, Within.run_bind, bind_of_ok (objectAt?_run _ _), object]
  exact write_run object _

/-! ## Putting a hook on -/

/-- The world in which a new hook stands on a class. -/
def World.hooked (w : World κ) (cls : Address) (k : ClassObject) (i : Interceptor) : World κ :=
  { w with heap := w.heap.push (.interceptor i) }.replaced cls
    (.class { k with attrs := k.attrs.set i.name (.ref w.heap.size) })

theorem installHook_run {name : String} {matcher : RuntimeMatcher} {commitment : Commitment} {n : Nat}
    (there : w.heap[cls]? = some (.class k)) :
    (installHook cls name matcher commitment n : Within R _).run w =
      .ok w.heap.size (w.hooked cls k ⟨cls, name, matcher, commitment, n, false, w.own cls name⟩) := by
  have bound := (Array.getElem?_eq_some_iff.mp there).1
  rw [installHook, Within.run_bind, bind_of_ok (classAttrs_class there), World.own_class there]
  have kept : ({ w with heap := w.heap.push (.interceptor
      ⟨cls, name, matcher, commitment, n, false, k.attrs.get? name⟩) } : World κ).heap[cls]? = some (.class k) := by
    simp only
    rw [Array.getElem?_push_lt bound, ← there, Array.getElem?_eq_getElem bound]
  have allocated : (alloc (.interceptor ⟨cls, name, matcher, commitment, n, false, k.attrs.get? name⟩) :
      Within R _).run w = .ok w.heap.size { w with heap := w.heap.push (.interceptor
        ⟨cls, name, matcher, commitment, n, false, k.attrs.get? name⟩) } := rfl
  rw [Within.run_bind, bind_of_ok allocated, Within.run_bind, bind_of_ok (setClassAttrs_class kept _)]
  rfl

end

section

variable (there : w.heap[cls]? = some (.class k))
include there

theorem World.hooked_class : (w.hooked cls k i).heap[cls]? =
    some (.class { k with attrs := k.attrs.set i.name (.ref w.heap.size) }) := by
  have bound := (Array.getElem?_eq_some_iff.mp there).1
  have kept : ({ w with heap := w.heap.push (.interceptor i) } : World κ).heap[cls]? = some (.class k) := by
    simp only
    rw [Array.getElem?_push_lt bound, ← there, Array.getElem?_eq_getElem bound]
  exact World.replaced_at kept

theorem World.hooked_hook : (w.hooked cls k i).heap[w.heap.size]? = some (.interceptor i) := by
  have other : cls ≠ w.heap.size := Nat.ne_of_lt (Array.getElem?_eq_some_iff.mp there).1
  exact (World.replaced_other other).trans Array.getElem?_push_size

theorem World.hooked_own (name : String) : (w.hooked cls k i).own cls name =
    if name = i.name then some (.ref w.heap.size) else w.own cls name := by
  rw [World.own_class (World.hooked_class there)]
  split
  · next same => rw [same, Attributes.get?_set]
  · next other => rw [Attributes.get?_set_other other, World.own_class there]

end

theorem World.hooked_other {b : Address} (other : b ≠ cls) (old : b ≠ w.heap.size) :
    (w.hooked cls k i).heap[b]? = w.heap[b]? := by
  refine (World.replaced_other (Ne.symm other)).trans ?_
  rw [Array.getElem?_push, if_neg old]

theorem World.hooked_size : (w.hooked cls k i).heap.size = w.heap.size + 1 := by
  rw [World.hooked, World.replaced, Array.size_setIfInBounds, Array.size_push]

end Patchwork
