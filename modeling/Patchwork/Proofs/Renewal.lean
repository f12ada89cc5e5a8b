import Patchwork.Proofs.Described

/-!
Ids that come back. When an entry is taken out of its table, the table forgets that it was hidden, but not that it was read. So
a factory that is registered later under the same id is patched only if nobody has read the one before it.
-/

namespace Patchwork

open Run

variable {κ : Type}

/-! ## Registering a factory -/

section

variable {w v : World κ} {a : Address} {t : Table} {key factory : Value}

/-- The world in which a factory has been registered under an id. -/
def World.enrolled (w : World κ) (a : Address) (key factory : Value) : World κ :=
  w.replaced a (.table ((w.heap.table a).set key factory))

/-- An entry behaves as one that is new: it is listed, it does not count as processed, and reading it hands its factory to
the patcher. -/
structure World.Afresh (w : World κ) (a : Address) (key factory : Value) : Prop where
  listed : Table.holds (w.heap.table a).keys key = true
  unread : (w.heap.table a).isProcessed key = false
  patched : ∀ patch : Caller κ, (Table.read patch a key : Within Anyhow Value).run w =
    patch (w.heap.table a).patcher (.of [.ref a, key, factory]) (w.replaced a (.table ((w.heap.table a).process key)))

/-- Registering a factory, as an operation. -/
def Table.Op.assigning (key factory : Value) : Table.Op :=
  .method "__setitem__" (.of [key, factory])

theorem assigning_run {call patch : Caller κ} (module : isModuleId key = true) :
    ((Table.Op.assigning key factory).on call patch a : Within Anyhow Value).run w = .ok .none (w.enrolled a key factory) := by
  simp only [Table.Op.assigning, Table.Op.on, Table.callMethod]
  exact bind_of_ok (Table.store_run (isModuleId_hashable _ module) factory)

theorem World.enrolled_table (there : w.heap[a]? = some (.table t)) :
    (w.enrolled a key factory).heap.table a = t.set key factory := by
  rw [enrolled, Heap.table_at there]
  exact Heap.table_at (World.replaced_at there)

/-- A module that is bound to something is fresh exactly if it does not count as processed. -/
theorem Table.isFresh_eq (t : Table) (module : isModuleId key = true) (bound : factory ≠ .none) :
    t.isFresh key factory = !t.isProcessed key := by
  cases factory <;> first | exact absurd rfl bound | (simp only [Table.isFresh, module]; rfl)

/-- What reading an entry does that has just been registered. -/
theorem enrolled_read (there : w.heap[a]? = some (.table t)) (module : isModuleId key = true) (bound : factory ≠ .none)
    (patch : Caller κ) : (Table.read patch a key : Within Anyhow Value).run (w.enrolled a key factory) =
      if t.isProcessed key then .ok factory (w.enrolled a key factory)
      else patch (t.set key factory).patcher (.of [.ref a, key, factory])
        ((w.enrolled a key factory).replaced a (.table ((t.set key factory).process key))) := by
  have found : (t.set key factory).get? key = some factory := Value.lookup?_insert_self
  have fresh : (t.set key factory).isFresh key factory = !t.isProcessed key := (t.set key factory).isFresh_eq module bound
  rw [read_run, isModuleId_hashable _ module, World.enrolled_table there, found]
  simp only [fresh]
  cases t.isProcessed key <;> rfl

theorem Table.isHidden_congr {key' : Value} (same : Value.sameKey key key' = true) : t.isHidden key = t.isHidden key' :=
  Bool.eq_iff_iff.mpr ⟨holds_congr same, holds_congr (Value.sameKey_symm same)⟩

/-- Keys are listed exactly if they are stored and not hidden. -/
theorem Table.holds_keys_iff : holds t.keys key = true ↔ t.contains key = true ∧ t.isHidden key = false := by
  constructor
  · intro listed
    obtain ⟨k, there, same⟩ := List.any_eq_true.mp listed
    obtain ⟨stored, shown⟩ := List.mem_filter.mp there
    obtain ⟨e, he, rfl⟩ := List.mem_map.mp stored
    rw [Bool.not_eq_true', isHidden_congr same] at shown
    exact ⟨List.any_eq_true.mpr ⟨e, he, same⟩, shown⟩
  · rintro ⟨stored, shown⟩
    obtain ⟨e, he, same⟩ := List.any_eq_true.mp stored
    refine List.any_eq_true.mpr ⟨e.1, List.mem_filter.mpr ⟨List.mem_map_of_mem he, ?_⟩, same⟩
    rw [Bool.not_eq_true', isHidden_congr same]
    exact shown

/-- A registered factory starts afresh exactly if its id is neither processed nor hidden by then. -/
theorem enrolled_afresh_iff (there : w.heap[a]? = some (.table t)) (module : isModuleId key = true)
    (bound : factory ≠ .none) :
    (w.enrolled a key factory).Afresh a key factory ↔ t.isProcessed key = false ∧ t.isHidden key = false := by
  have table : (w.enrolled a key factory).heap.table a = t.set key factory := World.enrolled_table there
  constructor
  · rintro ⟨listed, unread, -⟩
    rw [table] at listed unread
    exact ⟨unread, (Table.holds_keys_iff.mp listed).2⟩
  · rintro ⟨unread, shown⟩
    refine ⟨?_, by rw [table]; exact unread, fun patch => ?_⟩
    · rw [table]
      exact Table.holds_keys_iff.mpr ⟨contains_of_stored Value.lookup?_insert_self, shown⟩
    · rw [enrolled_read there module bound, unread, table]
      rfl

end

/-! ## Taking an entry out -/

section

variable {R : World κ → World κ → Prop} [Moves R] {w u : World κ} {a : Address} {t : Table} {key r : Value}
  {call patch : Caller κ} [Calls call R] [Calls patch R]

/-- Operations that take an entry out: it is deleted, or taken by its key, or it is the first one that is listed. With
something to fall back on it is taken if it is there and the patcher does not say otherwise. -/
inductive Table.Op.TakesOut (patch : Caller κ) (w : World κ) (a : Address) (key : Value) : Table.Op → Prop where
  | deleting : TakesOut patch w a key (.deleting key)
  | popping : TakesOut patch w a key (.method "pop" (.of [key]))
  | poppingOr {default : Value} : (w.heap.table a).contains key = true → (∀ u, ¬ Table.Misleads patch a key w u) →
      TakesOut patch w a key (.method "pop" (.of [key, default]))
  | poppingFirst {args : Arguments} : (w.heap.table a).keys.head? = some key →
      TakesOut patch w a key (.method "popitem" args)

theorem remove_ok (module : isModuleId key = true) (ran : (Table.remove a key : Within R Unit).run w = .ok () u) :
    (w.heap.table a).contains key = true ∧ u = w.replaced a (.table ((w.heap.table a).erase key)) := by
  rw [Table.remove_run (isModuleId_hashable _ module)] at ran
  split at ran
  · cases ran
  · split at ran
    · next stored =>
        cases ran
        exact ⟨stored, rfl⟩
    · cases ran

theorem read_remove_ok {x : Value} (ran : (do
      let v ← Table.read patch a key
      Table.remove a key
      pure v : Within R Value).run w = .ok x u) :
    ∃ v, (Table.read patch a key : Within R Value).run w = .ok x v ∧
      (Table.remove a key : Within R Unit).run v = .ok () u := by
  obtain ⟨y, v, read, ran⟩ := bind_ok.mp ran
  obtain ⟨⟨⟩, z, removed, ran⟩ := bind_ok.mp ran
  cases ran
  exact ⟨v, read, removed⟩

/-- What an operation that takes an entry out does: unless it just deletes the entry, it reads it before. -/
theorem Table.Op.TakesOut.steps {o : Table.Op} (takes : o.TakesOut patch w a key) (module : isModuleId key = true)
    (ran : (o.on call patch a : Within R Value).run w = .ok r u) :
    ∃ v, (Table.remove a key : Within R Unit).run v = .ok () u ∧
      (v = w ∧ o = .deleting key ∨ ∃ x, (Table.read patch a key : Within R Value).run w = .ok x v) := by
  have popped (ran : (Table.Op.on call patch a (.method "pop" (.of [key])) : Within R Value).run w = .ok r u) :
      ∃ v, (Table.remove a key : Within R Unit).run v = .ok () u ∧
        ∃ x, (Table.read patch a key : Within R Value).run w = .ok x v := by
    obtain ⟨v, read, removed⟩ := read_remove_ok (show (do
      let v ← Table.read patch a key
      Table.remove a key
      pure v : Within R Value).run w = .ok r u from ran)
    exact ⟨v, removed, r, read⟩
  cases takes with
  | deleting =>
      simp only [Table.Op.deleting, Table.Op.on, Table.callMethod] at ran
      obtain ⟨k, v, given, ran⟩ := bind_ok.mp ran
      cases given
      obtain ⟨⟨⟩, v, removed, ran⟩ := bind_ok.mp ran
      cases ran
      exact ⟨w, removed, .inl ⟨rfl, rfl⟩⟩
  | popping =>
      obtain ⟨v, removed, read⟩ := popped ran
      exact ⟨v, removed, .inr read⟩
  | @poppingOr default stored honest =>
      have hashable := isModuleId_hashable w.heap module
      have present := Table.contains_iff.mp stored
      obtain ⟨-, same, -⟩ := @Table.read_through _ R _ call patch _ _ _ _ _ default hashable present honest
      obtain ⟨v, removed, read⟩ := popped (same.symm.trans ran)
      exact ⟨v, removed, .inr read⟩
  | @poppingFirst args first =>
      obtain ⟨rest, listed⟩ := List.head?_eq_some_iff.mp first
      simp only [Table.Op.on, Table.callMethod] at ran
      obtain ⟨e, u', taken, ran⟩ := bind_ok.mp ran
      cases ran
      rw [Table.takeFirst, Within.run_bind, bind_of_ok (tableAt_run a w), listed] at taken
      obtain ⟨x, v, read, taken⟩ := bind_ok.mp taken
      obtain ⟨⟨⟩, z, removed, taken⟩ := bind_ok.mp taken
      cases taken
      exact ⟨v, removed, .inr ⟨x, read⟩⟩

theorem Table.erase_gone (t : Table) (key : Value) :
    (t.erase key).contains key = false ∧ (t.erase key).isHidden key = false := by
  constructor
  · exact List.any_eq_false.mpr fun e he => by rw [(Value.mem_erase.mp he).2]; exact Bool.false_ne_true
  · exact List.any_eq_false.mpr fun k hk => by simpa using (List.mem_filter.mp hk).2

/-- An entry can only be taken out of a table. -/
theorem Table.Op.TakesOut.there {o : Table.Op} (takes : o.TakesOut patch w a key) (module : isModuleId key = true)
    (ran : (o.on call patch a : Within R Value).run w = .ok r u) : w.heap[a]? = some (.table (w.heap.table a)) := by
  have stored : (w.heap.table a).get? key ≠ none := by
    obtain ⟨v, removed, ⟨rfl, -⟩ | ⟨x, read⟩⟩ := takes.steps module ran
    · exact Table.contains_iff.mp (remove_ok module removed).1
    · intro absent
      rw [read_run, isModuleId_hashable _ module, absent] at read
      cases read
  exact table_there (.inr (Option.ne_none_iff_exists'.mp stored))

end

/-! ## What was read and what was not -/

section

variable {w w' : World (Watched κ)} {a : Address} {t : Table} {key factory r : Value} {call patch : Caller (Watched κ)}

/-- Tables stay tables, and whatever counts as processed in one that was there did so before or was noted. -/
structure Marks (w w' : World (Watched κ)) : Prop where
  table : ∀ (a : Address) (t : Table), w.heap[a]? = some (.table t) → ∃ t', w'.heap[a]? = some (.table t')
  noted : ∃ new, w'.host.notes = new ++ w.host.notes ∧
    ∀ (a : Address) (t : Table), w.heap[a]? = some (.table t) → ∀ key, (w'.heap.table a).isProcessed key = true →
      t.isProcessed key = true ∨ ∃ e ∈ new, e.place = a ∧ Value.sameKey e.key key = true

instance : Lasting (Marks (κ := κ)) where
  refl _ := ⟨fun _ t there => ⟨t, there⟩, [], rfl, fun _ _ there _ marked => .inl (Heap.table_at there ▸ marked)⟩
  trans := by
    intro u v w ⟨table, new, noted, marks⟩ ⟨table', new', noted', marks'⟩
    refine ⟨fun a t there => ?_, new' ++ new, by rw [noted', noted, List.append_assoc], fun a t there key marked => ?_⟩
    · obtain ⟨t', there'⟩ := table a t there
      exact table' a t' there'
    · obtain ⟨t', there'⟩ := table a t there
      rcases marks' a t' there' key marked with before | ⟨e, he, place, same⟩
      · rcases marks a t there key (Heap.table_at there' ▸ before) with first | ⟨e, he, place, same⟩
        · exact .inl first
        · exact .inr ⟨e, List.mem_append_right _ he, place, same⟩
      · exact .inr ⟨e, List.mem_append_left _ he, place, same⟩

theorem Clear.marks (h : Clear w w') : Marks w w' where
  table a t there := ⟨t, h.tables a t there⟩
  noted := ⟨[], h.notes, fun a t there _ marked => .inl (Heap.table_at (h.tables a t there) ▸ marked)⟩

theorem replaced_table {b : Address} {t' : Table} (there : w.heap[b]? = some (.table t)) :
    ∃ t'', (w.replaced a (.table t')).heap[b]? = some (.table t'') := by
  by_cases same : a = b
  · subst same
    exact ⟨t', World.replaced_at there⟩
  · exact ⟨t, by rw [World.replaced, Array.getElem?_setIfInBounds_ne same, there]⟩

theorem addKey_processed {values : List Value} {key' : Value} (h : Table.holds (Table.addKey values key) key' = true) :
    Table.holds values key' = true ∨ Value.sameKey key key' = true := by
  rw [Table.addKey] at h
  split at h
  · exact .inl h
  · rw [Table.holds, List.any_append, Bool.or_eq_true] at h
    exact h.imp_right fun last => by simpa using last

/-- A read that patches marks its own key, and that is noted. -/
theorem patching_marks (w : World (Watched κ)) (a : Address) (key factory : Value) :
    Marks w (w.patching a key factory) := by
  refine ⟨fun b t there => replaced_table there, [w.patchNote a key factory], rfl, fun b t there key' marked => ?_⟩
  rw [← Heap.table_at there]
  rw [World.patching, table_replaced] at marked
  split at marked
  · next here =>
      obtain ⟨rfl, -⟩ := here
      exact (addKey_processed marked).imp_right fun same => ⟨_, List.mem_singleton_self _, rfl, same⟩
  · exact .inl marked

theorem marks_allows (hc : call.Keeps Marks) (hp : patch.Keeps Marks) : Allows call (noting patch) Anyhow Marks where
  quiet h := h.clear.marks
  written {w a t} same := by
    refine ⟨fun b t there => replaced_table there, [], rfl, fun b t' there key marked => .inl ?_⟩
    rw [← Heap.table_at there]
    rw [table_replaced] at marked
    split at marked
    · next here =>
        rw [Table.isProcessed, same, here.1] at marked
        exact marked
    · exact marked
  called := hc
  read := read_keeps (fun {w _ a key factory} _ _ rest => Lasting.trans (patching_marks w a key factory) rest) hp

/-- However code nests, what it marks is noted. -/
theorem playWithin_marks (code : Value → Arguments → Client κ) : (depth : Nat) → (playWithin code depth).Keeps Marks
  | 0 => fun _ _ _ =>
      ⟨fun _ t there => ⟨t, there⟩, [], rfl, fun _ _ there _ marked => .inl (Heap.table_at there ▸ marked)⟩
  | depth + 1 => fun f args w =>
      (code f args).keeps (marks_allows (playWithin_marks code depth) (playWithin_marks code depth)) Clear.marks w

/-- The world in which code ends. -/
def Client.ends (code : Value → Arguments → Client κ) (depth : Nat) (c : Client κ) (w : World (Watched κ)) :
    World (Watched κ) :=
  (c.run (playWithin code depth) (noting (playWithin code depth))).after w

/-- A key counts as processed in the end exactly if it did so at the beginning or was noted in between. -/
theorem processed_iff (there : w.heap[a]? = some (.table t)) (key : Value) (fair : Fair w w') (marks : Marks w w') :
    ∃ new, w'.host.notes = new ++ w.host.notes ∧ ((w'.heap.table a).isProcessed key = true ↔
      t.isProcessed key = true ∨ ∃ e ∈ new, e.place = a ∧ Value.sameKey e.key key = true) := by
  obtain ⟨grows, new, noted, each, -⟩ := fair
  obtain ⟨-, new', noted', marked⟩ := marks
  obtain rfl := List.append_cancel_right (noted.symm.trans noted')
  refine ⟨new, noted, marked a t there key, ?_⟩
  rintro (before | ⟨e, he, rfl, same⟩)
  · exact grows a key (Heap.table_at there ▸ before)
  · exact isProcessed_congr same (each e he).2.2

/-- Reading an entry that is bound to something leaves its key processed. -/
theorem read_processed (hp : patch.Keeps Fair) (module : isModuleId key = true)
    (bound : (w.heap.table a).get? key ≠ some .none) {x : Value}
    (ran : (Table.read (noting patch) a key : Within Anyhow Value).run w = .ok x w') :
    (w'.heap.table a).isProcessed key = true := by
  rw [read_run, isModuleId_hashable _ module] at ran
  cases stored : (w.heap.table a).get? key with
  | none =>
      rw [stored] at ran
      cases ran
  | some factory =>
      rw [stored] at ran bound
      dsimp only at ran
      split at ran
      · next fresh =>
          have fair := hp (w.heap.table a).patcher (.of [.ref a, key, factory]) (w.patching a key factory)
          rw [after_ok (show patch _ _ (w.patching a key factory) = .ok x w' from ran)] at fair
          have inside := (Array.getElem?_eq_some_iff.mp (table_there (.inr ⟨_, stored⟩))).1
          refine fair.grows a key ?_
          rw [World.patching, table_replaced, if_pos ⟨rfl, inside⟩]
          exact process_isProcessed _ _
      · next fresh =>
          have other : factory ≠ .none := fun nothing => bound (congrArg some nothing)
          cases ran
          simpa [Table.isFresh_eq _ module other] using fresh

/-- Whether an id that comes back starts afresh. After its entry was taken out, in whatever state its table was, and
after whatever code went on then: (1) it is gone and is not hidden at first. (2) If it was not just deleted but taken, it counts
as processed, unless it was bound to nothing. (3) Assigning a factory to it registers the factory, which behaves as a new one
exactly if the entry did not count as processed before, no patcher of the table was called for an equal key since, and the id
was not hidden again. (4) If it does count as processed by then, reading it hands out the factory as it is. -/
theorem starts_afresh_iff (code : Value → Arguments → Client κ) (depth : Nat) (c : Client κ) {o : Table.Op}
    {u : World (Watched κ)} (module : isModuleId key = true) (takes : o.TakesOut (noting (playWithin code depth)) w a key)
    (ran : (o.on (playWithin code depth) (noting (playWithin code depth)) a : Within Anyhow Value).run w = .ok r u)
    (bound : factory ≠ .none) :
    ((u.heap.table a).contains key = false ∧ (u.heap.table a).isHidden key = false) ∧
    (o ≠ .deleting key → (w.heap.table a).get? key ≠ some .none → (u.heap.table a).isProcessed key = true) ∧
    (∃ new, (c.ends code depth u).host.notes = new ++ w.host.notes ∧
      (∀ call patch : Caller (Watched κ), ((Table.Op.assigning key factory).on call patch a : Within Anyhow Value).run
        (c.ends code depth u) = .ok .none ((c.ends code depth u).enrolled a key factory)) ∧
      (((c.ends code depth u).enrolled a key factory).Afresh a key factory ↔
        (w.heap.table a).isProcessed key = false ∧ (∀ e ∈ new, e.place = a → Value.sameKey e.key key = false) ∧
          ((c.ends code depth u).heap.table a).isHidden key = false)) ∧
    (((c.ends code depth u).heap.table a).isProcessed key = true → ∀ patch : Caller (Watched κ),
      (Table.read patch a key : Within Anyhow Value).run ((c.ends code depth u).enrolled a key factory) =
        .ok factory ((c.ends code depth u).enrolled a key factory)) := by
  have fairly := playWithin_fair code depth
  have marking := playWithin_marks code depth
  have fair : Fair w u := after_ok ran ▸ Table.Op.keeps (fair_allows fairly fairly) a o w
  have marks : Marks w u := after_ok ran ▸ Table.Op.keeps (marks_allows marking marking) a o w
  have run : Fair u (c.ends code depth u) ∧ Marks u (c.ends code depth u) :=
    ⟨c.keeps (fair_allows fairly fairly) Clear.fair u, c.keeps (marks_allows marking marking) Clear.marks u⟩
  have there := takes.there module ran
  obtain ⟨t, there'⟩ := (Lasting.trans marks run.2).table a _ there
  obtain ⟨new, noted, processed⟩ := processed_iff there key (Lasting.trans fair run.1) (Lasting.trans marks run.2)
  obtain ⟨v, removed, read⟩ := takes.steps module ran
  obtain ⟨stored, rfl⟩ := remove_ok module removed
  have inside := (Array.getElem?_eq_some_iff.mp
    (table_there (.inr (Option.ne_none_iff_exists'.mp (Table.contains_iff.mp stored))))).1
  have table := (table_replaced v a a ((v.heap.table a).erase key)).trans (if_pos ⟨rfl, inside⟩)
  refine ⟨?_, fun taken some => ?_, ⟨new, noted, fun _ _ => assigning_run module, ?_⟩, fun marked patch => ?_⟩
  · rw [table]
    exact Table.erase_gone _ _
  · obtain ⟨-, deleted⟩ | ⟨x, read⟩ := read
    · exact absurd deleted taken
    · rw [table]
      exact read_processed fairly module some read
  · rw [enrolled_afresh_iff there' module bound, ← Heap.table_at there', ← Bool.not_eq_true, processed, not_or,
      Bool.not_eq_true, and_assoc]
    simp only [not_exists, not_and, Bool.not_eq_true]
  · rw [enrolled_read there' module bound, ← Heap.table_at there', marked, if_pos rfl]

end

/-! ## An id that was read before it came back -/

/-- A patcher that gives the same for all factories. -/
def patchedAlike : Value → Arguments → Client Unit :=
  fun _ _ => .done (.ok (.str "patched"))

/-- An id that was deleted unread starts afresh. -/
theorem starts_afresh_unread : ∃ u,
    ((Table.Op.deleting (.str "1")).on (playWithin patchedAlike 1) (noting (playWithin patchedAlike 1)) plainFactoryPlace :
      Within Anyhow Value).run watched = .ok .none u ∧
    (u.enrolled plainFactoryPlace (.str "1") (.str "second")).Afresh plainFactoryPlace (.str "1") (.str "second") := by
  have module : isModuleId (.str "1") = true := by decide +kernel
  have ran : ((Table.Op.deleting (.str "1")).on (playWithin patchedAlike 1) (noting (playWithin patchedAlike 1))
      plainFactoryPlace : Within Anyhow Value).run watched =
      .ok .none (watched.replaced plainFactoryPlace (.table (plainTable.erase (.str "1")))) := rfl
  have bound : (.str "second" : Value) ≠ .none := Value.noConfusion
  obtain ⟨-, -, ⟨new, noted, -, afresh⟩, -⟩ :=
    starts_afresh_iff patchedAlike 1 (.done (.ok .none)) module .deleting ran bound
  obtain rfl : [] = new := List.append_cancel_right ((List.nil_append _).trans noted)
  exact ⟨_, ran, afresh.mpr ⟨rfl, fun e he => absurd he List.not_mem_nil, rfl⟩⟩

/-- Code that reads a module, deletes it, registers another one under its id and reads that. -/
def reregistering : Client Unit :=
  .use (.method "__getitem__" (.of [.str "1"])) plainFactoryPlace fun _ =>
    .use (.deleting (.str "1")) plainFactoryPlace fun _ =>
      .use (.assigning (.str "1") (.str "second")) plainFactoryPlace fun _ =>
        .use (.method "__getitem__" (.of [.str "1"])) plainFactoryPlace .done

/-- The other one is handed out as it is; the patcher was called for the first one only. -/
theorem reregistered_unpatched : ∃ v,
    reregistering.run (playWithin patchedAlike 1) (noting (playWithin patchedAlike 1)) watched = .ok (.str "second") v ∧
      v.host.notes = [watched.patchNote plainFactoryPlace (.str "1") (.ref plainFactoryPlace)] :=
  ⟨_, rfl, rfl⟩

end Patchwork
