import Patchwork.Proofs.Absence
import Patchwork.Proofs.KeyForms

/-!
Clearing a table. It takes the first listed entry out again and again, which means that it reads it. So the entries that have
not been patched are patched before they go, the hidden ones stay, and those before one that may not go are gone.
-/

namespace Patchwork

open Run

variable {κ : Type} {R : World κ → World κ → Prop} [Moves R] {a : Address} {w : World κ}

/-! ## Keys beside a table -/

/-- Heaps that differ in what is in their tables. -/
def BesideTables (h h' : Heap) : Prop :=
  ∀ b : Address, h'[b]? = h[b]? ∨ (∃ t, h[b]? = some (.table t)) ∧ ∃ t', h'[b]? = some (.table t')

namespace BesideTables

variable {h h' : Heap} (beside : BesideTables h h')
include beside

theorem ancestry (fuel : Nat) (b : Address) : h'.ancestry fuel b = h.ancestry fuel b := by
  induction fuel generalizing b with
  | zero => rfl
  | succ fuel ih =>
      rw [Heap.ancestry, Heap.ancestry]
      rcases beside b with same | ⟨⟨t, here⟩, t', here'⟩
      · rw [same]
        simp only [ih]
      · rw [here, here']

theorem classAt? (b : Address) : h'.classAt? b = h.classAt? b := by
  rw [Heap.classAt?, Heap.classAt?]
  rcases beside b with same | ⟨⟨t, here⟩, t', here'⟩
  · rw [same]
  · rw [here, here']

theorem lineage (cls : Address) : h'.lineage cls = h.lineage cls := by
  rw [Heap.lineage, Heap.lineage, beside.ancestry, funext beside.classAt?]

theorem isHashable (cls : Address) (core : Option Value) : h'.isHashable cls core = h.isHashable cls core := by
  unfold Heap.isHashable
  rw [beside.lineage]

end BesideTables

namespace BesideTables

variable {h h' : Heap}

mutual

theorem unhashable? (beside : BesideTables h h') : (v : Value) → h.unhashable? v = none → h'.unhashable? v = none
  | .tuple vs, hashable => anyUnhashable? beside vs hashable
  | .ref b, hashable => by
      rw [Heap.unhashable?] at hashable ⊢
      rcases beside b with same | ⟨⟨t, here⟩, -⟩
      · rw [same]
        cases there : h[b]? with
        | none => rfl
        | some o =>
            rw [there] at hashable
            cases o with
            | «instance» cls attrs core =>
                have kept := beside.isHashable cls core
                dsimp only at hashable ⊢
                rw [kept]
                split at hashable
                · next hashes => rw [if_pos hashes]
                · cases hashable
            | view kind items => cases kind <;> first | rfl | cases hashable
            | _ => first | rfl | cases hashable
      · rw [here] at hashable
        cases hashable
  | .none, _ | .bool _, _ | .int _, _ | .float _, _ | .complex _, _ | .str _, _ | .bytes _, _ | .pattern _, _ | .native _, _
  | .failure _ _, _ | .bound _ _, _ | .method _ _, _ => rfl

theorem anyUnhashable? (beside : BesideTables h h') : (vs : List Value) → h.anyUnhashable? vs = none → h'.anyUnhashable? vs = none
  | [], _ => rfl
  | v :: vs, hashable => by
      rw [Heap.anyUnhashable?] at hashable ⊢
      cases first : h.unhashable? v with
      | some type =>
          rw [first] at hashable
          cases hashable
      | none =>
          rw [first] at hashable
          rw [unhashable? beside v first]
          exact anyUnhashable? beside vs hashable

end

end BesideTables

theorem World.replaced_beside {t : Table} (there : w.heap[a]? = some (.table t)) (t' : Table) :
    BesideTables w.heap (w.replaced a (.table t')).heap := by
  intro b
  by_cases same : b = a
  · subst same
    exact .inr ⟨⟨t, there⟩, t', World.replaced_at there⟩
  · exact .inl (Array.getElem?_setIfInBounds_ne (Ne.symm same))

theorem World.replaced_replaced (w : World κ) (a : Address) (o o' : Object) :
    (w.replaced a o).replaced a o' = w.replaced a o' := by
  simp only [World.replaced, Array.setIfInBounds_setIfInBounds]

theorem World.replaced_same {o : Object} (there : w.heap[a]? = some o) : w.replaced a o = w := by
  obtain ⟨bound, there⟩ := Array.getElem?_eq_some_iff.mp there
  have same : w.heap.setIfInBounds a o = w.heap := by
    rw [Array.setIfInBounds_def, dif_pos bound, ← there, Array.set_getElem_self]
  rw [World.replaced, same]

theorem World.replaced_inj {o o' o'' : Object} (there : w.heap[a]? = some o) (same : w.replaced a o' = w.replaced a o'') :
    o' = o'' := by
  have both : (w.replaced a o').heap[a]? = (w.replaced a o'').heap[a]? := by rw [same]
  rw [World.replaced_at there, World.replaced_at there] at both
  exact Option.some.inj both

namespace Table

/-! ## Tables without some entries -/

/-- Tables as they are made: no two keys are equal, and all of them can be keys. -/
structure Tidy (h : Heap) (t : Table) : Prop where
  apart : Value.Apart t.factories
  hashable : ∀ e ∈ t.factories, h.unhashable? e.1 = none

/-- The entries that are not hidden. -/
def listed (t : Table) : List (Value × Value) :=
  t.factories.filter fun e => !t.isHidden e.1

/-- Whether an entry goes without more ado: a read does not patch it, and it has not been described. -/
def isFree (t : Table) (e : Value × Value) : Bool :=
  !t.isFresh e.1 e.2 && !t.isPinned e.1

/-- A table without some of its entries. -/
def without (t : Table) (es : List (Value × Value)) : Table :=
  es.foldl (fun t e => t.erase e.1) t

variable {t : Table} {e : Value × Value} {es rest taken : List (Value × Value)}

theorem keys_eq (t : Table) : t.keys = t.listed.map (·.1) := by
  rw [keys, listed, List.filter_map]
  rfl

theorem mem_of_mem_listed (he : e ∈ t.listed) : e ∈ t.factories ∧ t.isHidden e.1 = false := by
  simpa [listed] using he

theorem mem_of_listed (h : t.listed = e :: rest) : e ∈ t.factories ∧ t.isHidden e.1 = false :=
  mem_of_mem_listed (h ▸ List.mem_cons_self)

/-- Taking out an entry that is not hidden changes nothing but the entries. -/
theorem erase_eq (shown : t.isHidden e.1 = false) : t.erase e.1 = { t with factories := Value.erase t.factories e.1 } := by
  have kept : (t.hidden.filter fun v => !Value.sameKey v e.1) = t.hidden := by
    rw [List.filter_eq_self]
    intro v hv
    rw [isHidden, holds, List.any_eq_false] at shown
    simpa using shown v hv
  rw [erase, kept]

theorem Tidy.erase {h : Heap} (tidy : t.Tidy h) (key : Value) : (t.erase key).Tidy h :=
  ⟨tidy.apart.erase key, fun e he => tidy.hashable e (List.mem_of_mem_filter he)⟩

theorem Tidy.beside {h h' : Heap} (tidy : t.Tidy h) (beside : BesideTables h h') : t.Tidy h' :=
  ⟨tidy.apart, fun e he => beside.unhashable? e.1 (tidy.hashable e he)⟩

theorem listed_erase {h : Heap} (tidy : t.Tidy h) (first : t.listed = e :: rest) : (t.erase e.1).listed = rest := by
  have shown := (mem_of_listed first).2
  have others : (e :: rest).Pairwise fun e f => Value.sameKey e.1 f.1 = false := first ▸ List.Pairwise.filter _ tidy.apart
  have rest' : (e :: rest).filter (fun f => !Value.sameKey f.1 e.1) = rest := by
    rw [List.filter_cons_of_neg (by simp [Value.sameKey_refl]), List.filter_eq_self]
    intro f hf
    have differs := (List.pairwise_cons.mp others).1 f hf
    by_contra same
    exact absurd (Value.sameKey_symm (by simpa using same)) (by rw [differs]; exact Bool.false_ne_true)
  rw [erase_eq shown, ← rest', ← first]
  simp only [listed, Value.erase, List.filter_filter, isHidden]
  congr 1
  funext f
  exact Bool.and_comm _ _

theorem without_spec {h : Heap} (tidy : t.Tidy h) (all : t.listed = taken ++ rest) :
    (t.without taken).listed = rest ∧ t.without taken =
      { t with factories := t.factories.filter fun f => taken.all fun e => !Value.sameKey f.1 e.1 } := by
  induction taken generalizing t with
  | nil =>
      have same : t.factories.filter (fun f => ([] : List (Value × Value)).all fun e => !Value.sameKey f.1 e.1) = t.factories :=
        List.filter_eq_self.mpr fun f _ => rfl
      exact ⟨all, by rw [same]; rfl⟩
  | cons e taken ih =>
      have shown := (mem_of_listed all).2
      obtain ⟨left, eq⟩ := ih (tidy.erase e.1) (listed_erase tidy all)
      refine ⟨left, eq.trans ?_⟩
      rw [erase_eq shown]
      simp only [Value.erase, List.filter_filter, List.all_cons]
      congr 2
      funext f
      exact Bool.and_comm _ _

theorem mem_without_iff {h : Heap} (tidy : t.Tidy h) (all : t.listed = taken ++ rest) :
    e ∈ (t.without taken).factories ↔ e ∈ t.factories ∧ e ∉ taken := by
  rw [(without_spec tidy all).2, List.mem_filter]
  refine and_congr_right fun he => ?_
  simp only [List.all_eq_true, Bool.not_eq_true']
  constructor
  · intro others taken
    exact absurd (Value.sameKey_refl e.1) (by simp [others e taken])
  · intro stays f hf
    by_contra same
    have stored : f ∈ t.factories := (mem_of_mem_listed (all ▸ List.mem_append_left rest hf)).1
    exact stays (tidy.apart.unique he stored (by simpa using same) ▸ hf)

theorem listed_all (shown : ∀ e ∈ t.factories, t.isHidden e.1 = false) : t.listed = t.factories :=
  List.filter_eq_self.mpr fun e he => by rw [shown e he]; rfl

theorem without_all {h : Heap} (tidy : t.Tidy h) (all : t.listed = t.factories) :
    t.without t.factories = { t with factories := [] } := by
  have parts := all.trans (List.append_nil _).symm
  have empty : (t.without t.factories).factories = [] := List.eq_nil_iff_forall_not_mem.mpr fun e he =>
    absurd ((mem_without_iff tidy parts).mp he).1 ((mem_without_iff tidy parts).mp he).2
  rw [(without_spec tidy parts).2] at empty ⊢
  exact congrArg (fun fs => { t with factories := fs }) empty

/-! ## Taking entries out -/

section

variable {patch : Caller κ} [Calls patch R]

theorem get?_listed {h : Heap} (tidy : t.Tidy h) (first : t.listed = e :: rest) : t.get? e.1 = some e.2 :=
  tidy.apart.lookup? (mem_of_listed first).1 (Value.sameKey_refl e.1)

/-- The first listed entry is read, with its key for another read if the table is as it was. -/
theorem takeFirst_listed (there : w.heap[a]? = some (.table t)) (first : t.listed = e :: rest) :
    (takeFirst patch a : Within R (Value × Value)).run w =
      (do
        let v ← read patch a e.1
        remove a e.1
        pure (e.1, v) : Within R (Value × Value)).run w := by
  rw [takeFirst, Within.run_bind, bind_of_ok (tableAt_run a w), Heap.table_at there, keys_eq, first]
  rfl

theorem read_listed (there : w.heap[a]? = some (.table t)) (tidy : t.Tidy w.heap) (first : t.listed = e :: rest) :
    (read patch a e.1 : Within R Value).run w =
      if t.isFresh e.1 e.2 then patch t.patcher (.of [.ref a, e.1, e.2]) (w.replaced a (.table (t.process e.1))) else .ok e.2 w := by
  rw [read_run, tidy.hashable e (mem_of_listed first).1, Heap.table_at there, get?_listed tidy first]

theorem takeFirst_free (there : w.heap[a]? = some (.table t)) (tidy : t.Tidy w.heap) (first : t.listed = e :: rest)
    (free : t.isFree e = true) :
    (takeFirst patch a : Within R (Value × Value)).run w = .ok e (w.replaced a (.table (t.erase e.1))) := by
  simp only [isFree, Bool.and_eq_true, Bool.not_eq_true'] at free
  have reads : (read patch a e.1 : Within R Value).run w = .ok e.2 w := by
    rw [read_listed there tidy first, free.1]
    rfl
  have removes : (remove a e.1 : Within R Unit).run w = .ok () (w.replaced a (.table (t.erase e.1))) := by
    rw [remove_run (tidy.hashable e (mem_of_listed first).1), Heap.table_at there, free.2,
      if_neg Bool.false_ne_true, if_pos (contains_iff.mpr (by simp [get?_listed tidy first]))]
  rw [takeFirst_listed there first, Within.run_bind, bind_of_ok reads, Within.run_bind, bind_of_ok removes]
  rfl

theorem takeFirst_pinned (there : w.heap[a]? = some (.table t)) (tidy : t.Tidy w.heap) (first : t.listed = e :: rest)
    (read : t.isFresh e.1 e.2 = false) (pinned : t.isPinned e.1 = true) :
    (takeFirst patch a : Within R (Value × Value)).run w = .error (.failed (.pinnedEntry e.1)) w := by
  have reads : (Table.read patch a e.1 : Within R Value).run w = .ok e.2 w := by
    rw [read_listed there tidy first, read]
    rfl
  have stays : (remove a e.1 : Within R Unit).run w = .error (.failed (.pinnedEntry e.1)) w := by
    rw [remove_run (tidy.hashable e (mem_of_listed first).1), Heap.table_at there, if_pos pinned]
  rw [takeFirst_listed there first, Within.run_bind, bind_of_ok reads, Within.run_bind, bind_of_error stays]

theorem takeFirst_fresh {v : World κ} {c : Cause} (there : w.heap[a]? = some (.table t)) (tidy : t.Tidy w.heap)
    (first : t.listed = e :: rest) (fresh : t.isFresh e.1 e.2 = true)
    (refuses : patch t.patcher (.of [.ref a, e.1, e.2]) (w.replaced a (.table (t.process e.1))) = .error (.failed c) v) :
    (takeFirst patch a : Within R (Value × Value)).run w = .error (.failed c) v := by
  have fails : (read patch a e.1 : Within R Value).run w = .error (.failed c) v := by
    rw [read_listed there tidy first, if_pos fresh, refuses]
  rw [takeFirst_listed there first, Within.run_bind, bind_of_error fails]

theorem takeFirst_none (there : w.heap[a]? = some (.table t)) (none : t.listed = []) :
    (takeFirst patch a : Within R (Value × Value)).run w = .error (.failed .nothingToPop) w := by
  rw [takeFirst, Within.run_bind, bind_of_ok (tableAt_run a w), Heap.table_at there, keys_eq, none]
  rfl

/-- Free entries at the front go, and nothing is called for it. -/
theorem clearFrom_free (there : w.heap[a]? = some (.table t)) (tidy : t.Tidy w.heap) (all : t.listed = taken ++ rest)
    (free : ∀ e ∈ taken, t.isFree e = true) (fuel : Nat) :
    (clearFrom patch a (fuel + taken.length) : Within R Unit).run w =
      (clearFrom patch a fuel : Within R Unit).run (w.replaced a (.table (t.without taken))) := by
  induction taken generalizing t w with
  | nil =>
      have same : w.replaced a (.table (t.without [])) = w := World.replaced_same there
      rw [same]
      rfl
  | cons e taken ih =>
      have step : (takeFirst patch a : Within R (Value × Value)).run w = .ok e (w.replaced a (.table (t.erase e.1))) :=
        takeFirst_free there tidy all (free e List.mem_cons_self)
      have there' := World.replaced_at (o := .table (t.erase e.1)) there
      have tidy' := (tidy.erase e.1).beside (World.replaced_beside there (t.erase e.1))
      have more := ih there' tidy' (listed_erase tidy all) fun f hf => free f (List.mem_cons_of_mem _ hf)
      rw [World.replaced_replaced] at more
      rw [List.length_cons, ← Nat.add_assoc, clearFrom_of_ok step, more]
      rfl

theorem length_le_of_listed (all : t.listed = taken ++ rest) : taken.length ≤ t.factories.length := by
  have shown : t.listed.length ≤ t.factories.length := List.length_filter_le _ _
  rw [all, List.length_append] at shown
  exact Nat.le_of_add_right_le shown

/-- Clearing takes the free entries at the front, and at least tries to take another one. -/
theorem clear_free (there : w.heap[a]? = some (.table t)) (tidy : t.Tidy w.heap) (all : t.listed = taken ++ rest)
    (free : ∀ e ∈ taken, t.isFree e = true) : ∃ fuel, (clear patch a : Within R Unit).run w =
      (clearFrom patch a (fuel + 1) : Within R Unit).run (w.replaced a (.table (t.without taken))) := by
  obtain ⟨n, positive, rounds⟩ := @clear_run _ R _ patch a _ w
  have few := length_le_of_listed all
  obtain ⟨fuel, enough⟩ : ∃ fuel, t.factories.length + n = fuel + 1 + taken.length :=
    ⟨t.factories.length + n - taken.length - 1, by omega⟩
  exact ⟨fuel, by rw [rounds, Heap.table_at there, enough, clearFrom_free there tidy all free]⟩

/-- What clearing comes to, after the free entries at the front are gone. -/
theorem clear_cases (there : w.heap[a]? = some (.table t)) (tidy : t.Tidy w.heap) (all : t.listed = taken ++ rest)
    (free : ∀ e ∈ taken, t.isFree e = true) :
    (rest = [] → (clear patch a : Within R Unit).run w = .ok () (w.replaced a (.table (t.without taken)))) ∧
    ∀ e, rest.head? = some e →
      (t.isFresh e.1 e.2 = false → t.isPinned e.1 = true →
        (clear patch a : Within R Unit).run w = .error (.failed (.pinnedEntry e.1)) (w.replaced a (.table (t.without taken)))) ∧
      ∀ c v, t.isFresh e.1 e.2 = true → ¬ SaysMissing c →
        patch t.patcher (.of [.ref a, e.1, e.2]) (w.replaced a (.table ((t.without taken).process e.1))) = .error (.failed c) v →
          (clear patch a : Within R Unit).run w = .error (.failed c) v := by
  obtain ⟨fuel, left⟩ : ∃ fuel, (clear patch a : Within R Unit).run w = _ := clear_free there tidy all free
  obtain ⟨listed, eq⟩ := without_spec tidy all
  have there' : (w.replaced a (.table (t.without taken))).heap[a]? = some (.table (t.without taken)) := World.replaced_at there
  have tidy' : (t.without taken).Tidy (w.replaced a (.table (t.without taken))).heap := by
    refine Tidy.beside ?_ (World.replaced_beside there _)
    rw [eq]
    exact ⟨List.Pairwise.filter _ tidy.apart, fun e he => tidy.hashable e (List.mem_of_mem_filter he)⟩
  have fresh (e : Value × Value) : (t.without taken).isFresh e.1 e.2 = t.isFresh e.1 e.2 := by rw [eq]; rfl
  have pinned (e : Value × Value) : (t.without taken).isPinned e.1 = t.isPinned e.1 := by rw [eq]; rfl
  have patcher : (t.without taken).patcher = t.patcher := by rw [eq]
  rw [left]
  refine ⟨fun none => ?_, fun e first => ?_⟩
  · exact clearFrom_of_missing (takeFirst_none there' (listed.trans none)) ⟨rfl, rfl⟩
  · obtain ⟨rest, rfl⟩ := List.head?_eq_some_iff.mp first
    refine ⟨fun read stays => ?_, fun c v new other refuses => ?_⟩
    · refine clearFrom_of_error (takeFirst_pinned there' tidy' listed ?_ ?_) ?_
      · rw [fresh, read]
      · rw [pinned, stays]
      · rintro c ⟨⟩
        exact type_saysMissing rfl
    · refine clearFrom_of_error (takeFirst_fresh there' tidy' listed ((fresh e).trans new) ?_) ?_
      · rw [patcher, World.replaced_replaced, refuses]
      · rintro c ⟨⟩
        exact other

end

/-- The free entries at the front of those that are listed. -/
theorem listed_split (t : Table) : ∃ taken rest, t.listed = taken ++ rest ∧ (∀ e ∈ taken, t.isFree e = true) ∧
    ∀ e, rest.head? = some e → t.isFree e = false := by
  refine ⟨_, _, (List.takeWhile_append_dropWhile (p := t.isFree) (l := t.listed)).symm,
    List.all_eq_true.mp List.all_takeWhile, fun e first => ?_⟩
  have none := List.head?_dropWhile_not t.isFree t.listed
  rw [first] at none
  simpa using none

variable {v : World κ}

/-- If nothing is to be patched at the front, clearing that refuses to patch goes as far as it gets. -/
theorem clear_refusing (there : w.heap[a]? = some (.table t)) (tidy : t.Tidy w.heap) :
    ∃ taken rest, t.listed = taken ++ rest ∧ (∀ e ∈ taken, t.isFree e = true) ∧
      (rest = [] ∧ (clear (refusing (.raised .type [])) a : Within R Unit).run w = .ok () (w.replaced a (.table (t.without taken))) ∨
        (∃ e, rest.head? = some e ∧ t.isPinned e.1 = true ∧ t.isFresh e.1 e.2 = false ∧
          (clear (refusing (.raised .type [])) a : Within R Unit).run w =
            .error (.failed (.pinnedEntry e.1)) (w.replaced a (.table (t.without taken)))) ∨
        ∃ e u, rest.head? = some e ∧ t.isFresh e.1 e.2 = true ∧
          (clear (refusing (.raised .type [])) a : Within R Unit).run w = .error (.failed (.raised .type [])) u) := by
  obtain ⟨taken, rest, all, free, stop⟩ := listed_split t
  obtain ⟨done, more⟩ := @clear_cases _ R _ _ _ _ _ _ (refusing (.raised .type [])) _ there tidy all free
  refine ⟨taken, rest, all, free, ?_⟩
  cases rest with
  | nil => exact .inl ⟨rfl, done rfl⟩
  | cons e rest =>
      obtain ⟨pins, patches⟩ := more e rfl
      have other := stop e rfl
      cases fresh : t.isFresh e.1 e.2 with
      | false =>
          have pinned : t.isPinned e.1 = true := by simpa [isFree, fresh] using other
          exact .inr (.inl ⟨e, rfl, pinned, fresh, pins fresh pinned⟩)
      | true => exact .inr (.inr ⟨e, _, rfl, fresh, patches _ _ fresh (type_saysMissing rfl) rfl⟩)

/-- Entries that are all listed and go without more ado are all that there was, and they go. -/
theorem clear_plain (there : w.heap[a]? = some (.table t)) (tidy : t.Tidy w.heap)
    (plain : ∀ e ∈ t.factories, t.isHidden e.1 = false ∧ t.isFree e = true) (patch : Caller κ) [Calls patch R] :
    (clear patch a : Within R Unit).run w = .ok () (w.replaced a (.table { t with factories := [] })) := by
  have all := listed_all fun e he => (plain e he).1
  have parts := all.trans (List.append_nil _).symm
  rw [(clear_cases there tidy parts fun e he => (plain e he).2).1 rfl, without_all tidy all]

theorem plain_of_clear (there : w.heap[a]? = some (.table t)) (tidy : t.Tidy w.heap)
    (unpinned : ∀ e ∈ t.factories, t.isPinned e.1 = false)
    (cleared : (clear (refusing (.raised .type [])) a : Within R Unit).run w =
      .ok () (w.replaced a (.table { t with factories := [] }))) :
    ∀ e ∈ t.factories, t.isHidden e.1 = false ∧ t.isFree e = true := by
  obtain ⟨taken, rest, all, free, ⟨rfl, done⟩ | ⟨e, first, pinned, -⟩ | ⟨e, u, -, -, failed⟩⟩ :=
    clear_refusing (R := R) there tidy
  · intro e he
    have same : t.without taken = { t with factories := [] } := by
      rw [done] at cleared
      injection cleared with _ worlds
      injection World.replaced_inj there worlds
    have gone : e ∈ taken := by
      by_contra stays
      have left := (mem_without_iff tidy all).mpr ⟨he, stays⟩
      rw [same] at left
      exact List.not_mem_nil left
    exact ⟨(mem_of_mem_listed (all ▸ List.mem_append_left [] gone)).2, free e gone⟩
  · have listed : e ∈ t.listed := all ▸ List.mem_append_right taken (List.mem_of_head? first)
    rw [unpinned e (mem_of_mem_listed listed).1] at pinned
    cases pinned
  · rw [failed] at cleared
    cases cleared

/-- A pinned entry stops clearing before anything has changed if it is the first one. -/
theorem clear_stopped (there : w.heap[a]? = some (.table t)) (tidy : t.Tidy w.heap) (first : t.listed.head? = some e)
    (pinned : t.isPinned e.1 = true) (read : t.isFresh e.1 e.2 = false) (patch : Caller κ) [Calls patch R] :
    (clear patch a : Within R Unit).run w = .error (.failed (.pinnedEntry e.1)) w := by
  have none : ∀ e ∈ ([] : List (Value × Value)), t.isFree e = true := fun e he => absurd he List.not_mem_nil
  have same : w.replaced a (.table (t.without [])) = w := World.replaced_same there
  rw [((clear_cases there tidy (List.nil_append t.listed).symm none).2 e first).1 read pinned, same]

theorem stopped_of_clear {key : Value} (there : w.heap[a]? = some (.table t)) (tidy : t.Tidy w.heap)
    (failed : (clear (refusing (.raised .type [])) a : Within R Unit).run w = .error (.failed (.pinnedEntry key)) w) :
    ∃ e, t.listed.head? = some e ∧ t.isPinned e.1 = true ∧ t.isFresh e.1 e.2 = false := by
  obtain ⟨taken, rest, all, free, ⟨-, done⟩ | ⟨e, first, pinned, read, stopped⟩ | ⟨e, u, -, -, refused⟩⟩ :=
    clear_refusing (R := R) there tidy
  · rw [done] at failed
    cases failed
  · have same : t.without taken = t := by
      rw [stopped] at failed
      injection failed with _ worlds
      injection World.replaced_inj there (worlds.trans (World.replaced_same there).symm)
    have none : taken = [] := List.eq_nil_iff_forall_not_mem.mpr fun e he => by
      have stored := (mem_of_mem_listed (all ▸ List.mem_append_left rest he)).1
      rw [← same] at stored
      exact ((mem_without_iff tidy all).mp stored).2 he
    exact ⟨e, by rw [all, none]; exact first, pinned, read⟩
  · rw [refused] at failed
    cases failed

/-- Without a pinned entry clearing leaves nothing and calls nothing exactly if no entry is hidden and none is to be patched.
With a pinned entry it fails and leaves all as it was exactly if the first listed one is pinned and not to be patched. -/
theorem clears_iff (there : w.heap[a]? = some (.table t)) (tidy : t.Tidy w.heap) :
    ((∀ e ∈ t.factories, t.isPinned e.1 = false) →
      ((∀ (patch : Caller κ) [Calls patch R],
          (clear patch a : Within R Unit).run w = .ok () (w.replaced a (.table { t with factories := [] }))) ↔
        ∀ e ∈ t.factories, t.isHidden e.1 = false ∧ t.isFresh e.1 e.2 = false)) ∧
    ((∃ e ∈ t.factories, t.isPinned e.1 = true) →
      ((∀ (patch : Caller κ) [Calls patch R], ∃ key,
          (clear patch a : Within R Unit).run w = .error (.failed (.pinnedEntry key)) w) ↔
        ∃ e, t.listed.head? = some e ∧ t.isPinned e.1 = true ∧ t.isFresh e.1 e.2 = false)) := by
  refine ⟨fun unpinned => ?_, fun _ => ⟨fun fails => ?_, fun first patch _ => ?_⟩⟩
  · have free : ∀ e ∈ t.factories, (t.isFree e = true ↔ t.isFresh e.1 e.2 = false) := fun e he => by
      simp [isFree, unpinned e he]
    constructor
    · exact fun clears e he => (plain_of_clear there tidy unpinned (clears _) e he).imp_right (free e he).mp
    · exact fun plain patch _ => clear_plain there tidy (fun e he => (plain e he).imp_right (free e he).mpr) patch
  · obtain ⟨key, failed⟩ := fails (refusing (.raised .type []))
    exact stopped_of_clear there tidy failed
  · obtain ⟨e, first, pinned, read⟩ := first
    exact ⟨e.1, clear_stopped there tidy first pinned read patch⟩

/-! ## A hidden entry -/

/-- A table with a hidden entry and one that is no module. -/
def halfHidden : Table :=
  { Table.of [(.str "1", .str "factory"), (.str "name", .str "host")] .none with hidden := [.str "1"] }

/-- A table of things that are no modules. -/
def plainNames : Table :=
  .of [(.str "name", .str "host"), (.str "kind", .str "app")] .none

/-- A world with both tables. -/
def twoTables : World Unit :=
  World.furnished [] () [.table halfHidden, .table plainNames]

theorem halfHidden_tidy : halfHidden.Tidy twoTables.heap where
  apart := List.pairwise_pair.mpr (by decide)
  hashable := List.forall_mem_cons.mpr ⟨rfl, List.forall_mem_singleton.mpr rfl⟩

theorem plainNames_tidy : plainNames.Tidy twoTables.heap where
  apart := List.pairwise_pair.mpr (by decide)
  hashable := List.forall_mem_cons.mpr ⟨rfl, List.forall_mem_singleton.mpr rfl⟩

theorem clears_plainNames :
    (clear (refusing (.raised .type [])) (unreadPlace + 1) : Within Beside Unit).run twoTables =
      .ok () (twoTables.replaced (unreadPlace + 1) (.table { plainNames with factories := [] })) := by
  have plain : ∀ e ∈ plainNames.factories, plainNames.isHidden e.1 = false ∧ plainNames.isFresh e.1 e.2 = false := by
    decide +kernel
  exact ((clears_iff (R := Beside) rfl plainNames_tidy).1 (by decide +kernel)).mpr plain _

/-- The hidden entry stays, with nothing said about it. -/
theorem clear_leaves_hidden :
    (∀ e ∈ halfHidden.factories, halfHidden.isPinned e.1 = false) ∧
      ∃ u, (clear (refusing (.raised .type [])) unreadPlace : Within Beside Unit).run twoTables = .ok () u ∧
        (u.heap.table unreadPlace).factories = [(.str "1", .str "factory")] := by
  have listed : halfHidden.listed = [(.str "name", .str "host")] ++ [] := by decide +kernel
  have free : ∀ e ∈ [((.str "name", .str "host") : Value × Value)], halfHidden.isFree e = true := by decide +kernel
  exact ⟨by decide +kernel, _, (clear_cases (R := Beside) rfl halfHidden_tidy listed free).1 rfl, rfl⟩

end Table

end Patchwork
