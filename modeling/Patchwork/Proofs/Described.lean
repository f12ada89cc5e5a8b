import Patchwork.Proofs.Absence
import Patchwork.Proofs.FirstReads

/-!
Entries that have been described. Such an entry stays in its table, whatever is done with the table from then on, however
that ends, and whatever patchers do in the middle of it.
-/

namespace Patchwork

open Run

variable {κ : Type}

/-! ## Fixed entries -/

namespace Table

/-- An entry is there and has been described. -/
structure Fixed (t : Table) (key : Value) : Prop where
  stored : t.contains key = true
  pinned : t.isPinned key = true

variable {t t' : Table} {key key' value : Value}

theorem contains_set (h : t.contains key = true) : (t.set key' value).contains key = true := by
  rw [contains, set, Value.hasKey]
  obtain ⟨e, there, same⟩ := List.any_eq_true.mp h
  cases other : Value.sameKey e.1 key' with
  | false => exact List.any_eq_true.mpr ⟨e, Value.mem_insert_of_other there other, same⟩
  | true =>
      have inserted : Value.lookup? (Value.insert t.factories key' value) key' = some value := Value.lookup?_insert_self
      obtain ⟨k, there', same'⟩ := Value.lookup?_entry inserted
      have back := Value.sameKey_trans same' (Value.sameKey_symm other)
      exact List.any_eq_true.mpr ⟨_, there', Value.sameKey_trans back same⟩

theorem contains_erase (h : t.contains key = true) (other : Value.sameKey key key' = false) :
    (t.erase key').contains key = true := by
  obtain ⟨e, there, same⟩ := List.any_eq_true.mp h
  refine List.any_eq_true.mpr ⟨e, Value.mem_erase.mpr ⟨there, ?_⟩, same⟩
  by_contra gone
  rw [Bool.not_eq_false] at gone
  rw [Value.sameKey_trans (Value.sameKey_symm same) gone] at other
  cases other

namespace Fixed

theorem congr (same : Value.sameKey key key' = true) (h : t.Fixed key) : t.Fixed key' where
  stored := by
    obtain ⟨e, there, equal⟩ := List.any_eq_true.mp h.stored
    exact List.any_eq_true.mpr ⟨e, there, Value.sameKey_trans equal same⟩
  pinned := holds_congr same h.pinned

theorem get? (h : t.Fixed key) : ∃ value, t.get? key = some value :=
  Option.ne_none_iff_exists'.mp (contains_iff.mp h.stored)

theorem describe (stored : t.contains key = true) : (t.describe key).2.Fixed key := by
  obtain ⟨value, found⟩ := Option.ne_none_iff_exists'.mp (contains_iff.mp stored)
  rw [Table.describe, found]
  exact ⟨stored, holds_addKey_self t.pinned key⟩

/-- No single change takes a fixed entry away: it would have to be one that is not pinned. -/
theorem changed (h : t.Fixed key) (change : t.Change t') : t'.Fixed key := by
  cases change with
  | stored k value => exact ⟨contains_set h.stored, h.pinned⟩
  | hidden k => exact ⟨h.stored, h.pinned⟩
  | described k =>
      rw [Table.describe]
      split
      · exact ⟨h.stored, holds_addKey h.pinned⟩
      · split <;> exact h
  | @removed k unpinned _ =>
      refine ⟨contains_erase h.stored ?_, h.pinned⟩
      by_contra same
      rw [Bool.not_eq_false] at same
      rw [isPinned, holds_congr same h.pinned] at unpinned
      cases unpinned

theorem process (h : t.Fixed key) (key' : Value) : (t.process key').Fixed key :=
  ⟨h.stored, h.pinned⟩

end Fixed

end Table

/-! ## Worlds that keep them -/

section

variable {w w' : World (Watched κ)} {a b : Address} {t : Table} {key : Value}

/-- Entries that are fixed are so later, and whenever a patcher is called in between. -/
structure KeepsFixed (w w' : World (Watched κ)) : Prop where
  fixed : ∀ a key, (w.heap.table a).Fixed key → (w'.heap.table a).Fixed key
  meanwhile : ∃ new, w'.host.notes = new ++ w.host.notes ∧
    ∀ e ∈ new, ∀ a key, (w.heap.table a).Fixed key → (e.heap.table a).Fixed key

theorem KeepsFixed.of_notes (fixed : ∀ a key, (w.heap.table a).Fixed key → (w'.heap.table a).Fixed key)
    (notes : w'.host.notes = w.host.notes) : KeepsFixed w w' :=
  ⟨fixed, [], notes, fun _ he => absurd he List.not_mem_nil⟩

instance : Lasting (KeepsFixed (κ := κ)) where
  refl _ := .of_notes (fun _ _ h => h) rfl
  trans := by
    intro u v w ⟨fixed, new, noted, each⟩ ⟨fixed', new', noted', each'⟩
    refine ⟨fun a key h => fixed' a key (fixed a key h), new' ++ new, ?_, fun e he a key h => ?_⟩
    · rw [noted', noted, List.append_assoc]
    · rcases List.mem_append.mp he with later | before
      · exact each' e later a key (fixed a key h)
      · exact each e before a key h

theorem Table.Fixed.there {h : Heap} (fixed : (h.table a).Fixed key) : h[a]? = some (.table (h.table a)) :=
  table_there (.inr fixed.get?)

theorem Clear.keepsFixed (h : Clear w w') : KeepsFixed w w' := by
  refine .of_notes (fun a key fixed => ?_) h.notes
  rw [Heap.table_at (h.tables a _ fixed.there)]
  exact fixed

/-- A table takes the place of another one, and what is fixed there stays so. -/
theorem replaced_fixed (h : ∀ key, (w.heap.table a).Fixed key → t.Fixed key) (b : Address) (key : Value)
    (fixed : (w.heap.table b).Fixed key) : ((w.replaced a (.table t)).heap.table b).Fixed key := by
  rw [table_replaced]
  split
  · next here => exact h key (here.1 ▸ fixed)
  · exact fixed

theorem patching_keepsFixed (w : World (Watched κ)) (a : Address) (key factory : Value) :
    KeepsFixed w (w.patching a key factory) := by
  have marked : ∀ b k, (w.heap.table b).Fixed k → ((w.patching a key factory).heap.table b).Fixed k :=
    replaced_fixed fun _ h => h.process key
  refine ⟨marked, [w.patchNote a key factory], rfl, fun e he => ?_⟩
  obtain rfl := List.mem_singleton.mp he
  exact marked

end

/-! ## What describing is followed by -/

namespace Table.Op

/-- Describing an entry, and taking it out, as operations. -/
def describing (key : Value) : Table.Op :=
  .method "describe" (.of [key])

def deleting (key : Value) : Table.Op :=
  .method "__delitem__" (.of [key])

/-- The key that an operation describes. -/
def described? : Table.Op → Option Value
  | method "describe" args =>
    match args.positional, Attributes.get? args.named "key" with
    | [key], none => some key
    | [], some key => some key
    | _, _ => none
  | _ => none

end Table.Op

section

variable {R : World κ → World κ → Prop} [Moves R] {w v : World κ} {a : Address} {key d : Value} {call patch : Caller κ}

/-- What holds of an entry that stays: it is in the table and among the reported keys, it has a description, and taking it
out fails with a type error and changes nothing. -/
structure World.Permanent (w : World κ) (a : Address) (key : Value) : Prop where
  stored : (w.heap.table a).contains key = true
  reported : Table.holds (w.heap.table a).ownKeys key = true
  described : ∀ call patch : Caller κ, w.heap.unhashable? key = none →
    ∃ b d u, ((Table.Op.describing key).on call patch a : Within Anyhow Value).run w = .ok (.ref b) u ∧
      u.heap[b]? = some (.descriptor d) ∧ (w.heap.table a).get? key = some d.value
  remains : ∀ call patch : Caller κ, ∃ c, c.kind = .type ∧
    ((Table.Op.deleting key).on call patch a : Within Anyhow Value).run w = .error (.failed c) w

theorem inspect_ok {d : Option EntryDescriptor} (h : (Table.inspect a key : Within R _).run w = .ok d v) :
    d = ((w.heap.table a).describe key).1 ∧ v = w.replaced a (.table ((w.heap.table a).describe key).2) := by
  rw [Table.inspect, Within.run_bind, bind_of_ok (tableAt_run a w)] at h
  dsimp only at h
  split at h
  · obtain ⟨⟨⟩, u, checked, h⟩ := bind_ok.mp h
    cases hashable : w.heap.unhashable? key with
    | some type =>
        rw [checkKey_failed hashable] at checked
        cases checked
    | none =>
        rw [checkKey_ok hashable] at checked
        cases checked
        cases h
        exact ⟨rfl, rfl⟩
  · cases h
    exact ⟨rfl, rfl⟩

theorem inspect_run (hashable : w.heap.unhashable? key = none) : (Table.inspect a key : Within R _).run w =
    .ok ((w.heap.table a).describe key).1 (w.replaced a (.table ((w.heap.table a).describe key).2)) := by
  rw [Table.inspect, Within.run_bind, bind_of_ok (tableAt_run a w)]
  dsimp only
  split
  · rw [Within.run_bind, bind_of_ok (checkKey_ok hashable)]
    rfl
  · rfl

theorem describing_run (hashable : w.heap.unhashable? key = none) :
    ((Table.Op.describing key).on call patch a : Within Anyhow Value).run w =
      (Table.descriptorValue ((w.heap.table a).describe key).1 : Within Anyhow Value).run
        (w.replaced a (.table ((w.heap.table a).describe key).2)) := by
  have inspected : (Table.inspect a key : Within Anyhow _).run w = _ := inspect_run hashable
  simp only [Table.Op.describing, Table.Op.on, Table.callMethod]
  exact (bind_of_ok (a := key) (v := w) rfl).trans (bind_of_ok inspected)

theorem Table.describe_some {t : Table} (stored : t.contains key = true) :
    ∃ d, (t.describe key).1 = some d ∧ t.get? key = some d.value := by
  obtain ⟨value, found⟩ := Option.ne_none_iff_exists'.mp (Table.contains_iff.mp stored)
  rw [Table.describe, found]
  exact ⟨_, rfl, rfl⟩

theorem Table.Fixed.permanent (fixed : (w.heap.table a).Fixed key) : w.Permanent a key where
  stored := fixed.stored
  reported := by
    obtain ⟨e, there, same⟩ := List.any_eq_true.mp fixed.stored
    exact List.any_eq_true.mpr ⟨e.1, List.mem_append_left _ (List.mem_map_of_mem there), same⟩
  described call patch hashable := by
    obtain ⟨d, some, found⟩ := Table.describe_some fixed.stored
    have ran : ((Table.Op.describing key).on call patch a : Within Anyhow Value).run w =
        (new (.descriptor d) : Within Anyhow Value).run
          (w.replaced a (.table ((w.heap.table a).describe key).2)) := by
      rw [describing_run hashable, some]
      rfl
    exact ⟨_, d, _, ran, Array.getElem?_push_size, found⟩
  remains call patch := by
    have same : ((Table.Op.deleting key).on call patch a : Within Anyhow Value).run w =
        (do Table.remove a key; pure .none : Within Anyhow Value).run w := by
      simp only [Table.Op.deleting, Table.Op.on, Table.callMethod]
      rfl
    cases hashable : w.heap.unhashable? key with
    | none =>
        refine ⟨.pinnedEntry key, rfl, same.trans (bind_of_error ?_)⟩
        rw [Table.remove_run hashable, fixed.pinned, if_pos rfl]
    | some type =>
        refine ⟨.unhashable type, rfl, same.trans (bind_of_error ?_)⟩
        exact bind_of_error (checkKey_failed hashable)

theorem described?_given {args : Arguments} (describes : (Table.Op.method "describe" args).described? = some key)
    (function : String) : (Table.givenKey function args : Within R Value).run w = .ok key w := by
  simp only [Table.Op.described?] at describes
  rw [Table.givenKey]
  generalize args.positional = positional at *
  generalize Attributes.get? args.named "key" = named at *
  split at describes <;> cases describes <;> rfl

theorem described?_method {o : Table.Op} (describes : o.described? = some key) : ∃ args, o = .method "describe" args := by
  unfold Table.Op.described? at describes
  split at describes
  · exact ⟨_, rfl⟩
  · cases describes

/-- An entry that is there when it is described is fixed. -/
theorem described_fixed {o : Table.Op} (describes : o.described? = some key)
    (ran : (o.on call patch a : Within Anyhow Value).run w = .ok d v) (stored : (w.heap.table a).contains key = true) :
    d ≠ .none ∧ (v.heap.table a).Fixed key := by
  obtain ⟨args, rfl⟩ := described?_method describes
  simp only [Table.Op.on, Table.callMethod] at ran
  rw [Within.run_bind, bind_of_ok (described?_given describes _)] at ran
  obtain ⟨found, u, inspected, ran⟩ := bind_ok.mp ran
  obtain ⟨rfl, rfl⟩ := inspect_ok inspected
  obtain ⟨e, some, -⟩ := Table.describe_some stored
  rw [some] at ran
  have there : w.heap[a]? = Option.some (.table (w.heap.table a)) :=
    table_there (.inr (Option.ne_none_iff_exists'.mp (Table.contains_iff.mp stored)))
  have placed := World.replaced_at (o := .table ((w.heap.table a).describe key).2) there
  cases ran
  refine ⟨Value.noConfusion, ?_⟩
  have bound := (Array.getElem?_eq_some_iff.mp placed).1
  rw [Heap.table_at ((Array.getElem?_push_lt bound).trans (Array.getElem?_eq_getElem bound ▸ placed))]
  exact Table.Fixed.describe stored

end

/-! ## Entries that were described at any time -/

/-- What the surroundings keep, and the entries that have been described. -/
structure Tracked (κ : Type) where
  rest : κ
  described : List (Address × Value)

namespace World

variable {w w' : World (Watched (Tracked κ))} {a : Address}

/-- The entries that have been described so far. -/
def described (w : World (Watched (Tracked κ))) : List (Address × Value) :=
  w.host.rest.described

def withDescribed (w : World (Watched (Tracked κ))) (es : List (Address × Value)) : World (Watched (Tracked κ)) :=
  { w with host := { w.host with rest := { w.host.rest with described := es } } }

/-- The entry that an operation has described, if it was there. -/
def nowDescribed (w : World (Watched (Tracked κ))) (o : Table.Op) (a : Address) (result : Except Fault Value) :
    List (Address × Value) :=
  match result with
  | .ok _ => (o.described?.toList.filter (w.heap.table a).contains).map fun key => (a, key)
  | .error _ => []

end World

theorem Clear.withDescribed {w w' : World (Watched (Tracked κ))} (h : Clear w w') (es : List (Address × Value)) :
    Clear w (w'.withDescribed es) :=
  ⟨h.tables, h.notes, h.cut⟩

theorem Clear.refl (w : World (Watched κ)) : Clear w w :=
  ⟨fun _ _ h => h, rfl, rfl⟩

/-- Code of which it is noted what it describes; it does not see to that itself. -/
def Client.tracked : Client (Tracked κ) → Client (Tracked κ)
  | done result => .done result
  | act f clear next =>
    .act (fun w => (f w).withDescribed w.described) (fun w => (clear w).withDescribed _) fun w => (next w).tracked
  | use o a next =>
    .act id Clear.refl fun w =>
      .use o a fun result =>
        .act (fun v => v.withDescribed (w.nowDescribed o a result ++ v.described)) (fun v => (Clear.refl v).withDescribed _)
          fun _ => (next result).tracked

section

variable {w w' : World (Watched (Tracked κ))} {call patch : Caller (Watched (Tracked κ))}

/-- All entries that have been described are fixed. -/
def World.Stands (w : World (Watched (Tracked κ))) : Prop :=
  ∀ e ∈ w.described, (w.heap.table e.1).Fixed e.2

/-- Entries that have been described stay, those described in between included. -/
structure Stays (w w' : World (Watched (Tracked κ))) : Prop where
  keepsFixed : KeepsFixed w w'
  grows : w.described <:+ w'.described
  stands : w.Stands → w'.Stands

instance : Lasting (Stays (κ := κ)) where
  refl w := ⟨Lasting.refl w, List.suffix_rfl, id⟩
  trans first second :=
    ⟨Lasting.trans first.keepsFixed second.keepsFixed, first.grows.trans second.grows, second.stands ∘ first.stands⟩

theorem KeepsFixed.stays (h : KeepsFixed w w') (same : w'.described = w.described) : Stays w w' :=
  ⟨h, same ▸ List.suffix_rfl, fun stands e he => h.fixed _ _ (stands e (same ▸ he))⟩

theorem stays_admits (hc : call.Keeps Stays) (hp : patch.Keeps Stays) : Admits call (noting patch) Anyhow Stays where
  quiet h := h.clear.keepsFixed.stays (by rw [World.described, h.host]; rfl)
  changed change := (KeepsFixed.of_notes (replaced_fixed fun _ h => h.changed change) rfl).stays rfl
  called := hc
  read := read_keeps (fun {w _ a key factory} _ _ rest =>
    Lasting.trans ((patching_keepsFixed w a key factory).stays rfl) rest) hp

/-- An operation and the note of what it has described. -/
theorem use_stays (hc : call.Keeps Stays) (hp : patch.Keeps Stays) (w : World (Watched (Tracked κ))) (o : Table.Op)
    (a : Address) : ∃ result v, (Run.outcome (o.on call (noting patch) a : Within Anyhow Value).run) w = .ok result v ∧
      Stays w (v.withDescribed (w.nowDescribed o a result ++ v.described)) := by
  have kept := Table.Op.keeps_admitted (stays_admits hc hp) a o w
  have noted {v : World (Watched (Tracked κ))} {new : List (Address × Value)}
      (fixed : ∀ e ∈ new, (v.heap.table e.1).Fixed e.2) : Stays v (v.withDescribed (new ++ v.described)) :=
    ⟨.of_notes (fun _ _ h => h) rfl, List.suffix_append _ _, fun stands e he =>
      (List.mem_append.mp he).elim (fixed e) (stands e)⟩
  simp only [Run.outcome]
  cases ran : (o.on call (noting patch) a : Within Anyhow Value).run w with
  | error e v =>
      rw [after_error ran] at kept
      exact ⟨.error e, v, rfl, Lasting.trans kept (noted fun e he => absurd he List.not_mem_nil)⟩
  | ok d v =>
      rw [after_ok ran] at kept
      refine ⟨.ok d, v, rfl, Lasting.trans kept (noted fun e he => ?_)⟩
      obtain ⟨key, there, rfl⟩ := List.mem_map.mp he
      obtain ⟨describes, stored⟩ := List.mem_filter.mp there
      exact (described_fixed (Option.mem_toList.mp describes) ran stored).2

theorem Client.tracked_stays (hc : call.Keeps Stays) (hp : patch.Keeps Stays) (c : Client (Tracked κ)) :
    ∀ w, Stays w ((c.tracked.run call (noting patch)).after w) := by
  induction c with
  | done result => cases result <;> exact fun w => Lasting.refl w
  | act f clear next ih =>
      refine bind_within (fun w => ?_) fun _ => bind_within (fun w => Lasting.refl w) fun w => ih w
      exact ((clear w).withDescribed w.described).keepsFixed.stays rfl
  | use o a next ih =>
      intro w
      obtain ⟨result, v, ran, kept⟩ := use_stays hc hp w o a
      have rest := ih result (v.withDescribed (w.nowDescribed o a result ++ v.described))
      refine Lasting.trans kept ?_
      have whole : ((Client.use o a next).tracked.run call (noting patch)).after w =
          ((next result).tracked.run call (noting patch)).after
            (v.withDescribed (w.nowDescribed o a result ++ v.described)) := by
        have still : (modify id : Run (Watched (Tracked κ)) Unit) w = .ok () w := rfl
        have seen : (get : Run (Watched (Tracked κ)) _) w = .ok w w := rfl
        simp only [Client.tracked, Client.run]
        rw [after_bind_ok still, after_bind_ok seen, after_bind_ok ran]
        rfl
      rw [whole]
      exact rest

/-- However code nests, what it has described stays. -/
theorem playWithin_stays (code : Value → Arguments → Client (Tracked κ)) :
    (depth : Nat) → (playWithin (fun f args => (code f args).tracked) depth).Keeps Stays
  | 0 => fun _ _ w => by
      have cut : KeepsFixed w { w with host := { w.host with cut := true } } := .of_notes (fun _ _ h => h) rfl
      exact cut.stays rfl
  | depth + 1 => fun f args w =>
      (code f args).tracked_stays (playWithin_stays code depth) (playWithin_stays code depth) w

/-- The world in which code ends, with a note of what was described. -/
def Client.finish (code : Value → Arguments → Client (Tracked κ)) (depth : Nat) (c : Client (Tracked κ))
    (w : World (Watched (Tracked κ))) : World (Watched (Tracked κ)) :=
  (c.tracked.run (playWithin (fun f args => (code f args).tracked) depth)
    (noting (playWithin (fun f args => (code f args).tracked) depth))).after w

/-- An entry that is described while it is there stays for ever. Whatever code does with tables, however its operations nest in
patchers and in what else is called, and however they end: every entry that was described before, or by anything in
between, is there in the end and reported, it has a description, and taking it out fails with a type error and changes
nothing. The entries described before are so whenever a patcher is called, too. -/
theorem described_stays (code : Value → Arguments → Client (Tracked κ)) (depth : Nat) (c : Client (Tracked κ))
    (stands : w.Stands) :
    w.described <:+ (c.finish code depth w).described ∧
    (∀ e ∈ (c.finish code depth w).described, ∀ key, Value.sameKey e.2 key = true →
      (c.finish code depth w).Permanent e.1 key) ∧
    ∃ new, (c.finish code depth w).host.notes = new ++ w.host.notes ∧
      ∀ n ∈ new, ∀ v : World (Watched (Tracked κ)), v.heap = n.heap →
        ∀ e ∈ w.described, ∀ key, Value.sameKey e.2 key = true → v.Permanent e.1 key := by
  have play := playWithin_stays code depth
  have stays : Stays w (c.finish code depth w) := c.tracked_stays play play w
  refine ⟨stays.grows, fun e he key same => ((stays.stands stands e he).congr same).permanent, ?_⟩
  obtain ⟨new, noted, meanwhile⟩ := stays.keepsFixed.meanwhile
  refine ⟨new, noted, fun n hn v here e he key same => ?_⟩
  have fixed := (meanwhile n hn e.1 e.2 (stands e he)).congr same
  rw [← here] at fixed
  exact fixed.permanent

end

/-! ## A patcher that describes another entry -/

/-- A patcher that describes another module. -/
def describingOther : Value → Arguments → Client (Tracked Unit) := fun _ args =>
  match args.positional with
  | [.ref a, _, factory] => .use (.describing (.str "2")) a fun _ => .done (.ok factory)
  | _ => .done (.ok .none)

/-- Code that empties a table. -/
def emptying : Client (Tracked Unit) :=
  .use (.method "clear" (.of [])) plainFactoryPlace .done

/-- A world with a table of two modules that nobody has read or described. -/
def twoModules : World (Watched (Tracked Unit)) :=
  World.furnished [] ⟨⟨(), []⟩, [], false⟩ [.table (.of [(.str "1", .str "first"), (.str "2", .str "second")] .none)]

/-- The second module is described while the first one is taken out, so that it stays. -/
theorem described_stays_emptied :
    (plainFactoryPlace, .str "2") ∈ (emptying.finish describingOther 3 twoModules).described ∧
      (emptying.finish describingOther 3 twoModules).Permanent plainFactoryPlace (.str "2") := by
  have described : (plainFactoryPlace, .str "2") ∈ (emptying.finish describingOther 3 twoModules).described := by
    decide +kernel
  obtain ⟨-, stays, -⟩ := described_stays describingOther 3 emptying (w := twoModules) fun e he => absurd he List.not_mem_nil
  exact ⟨described, stays _ described _ (Value.sameKey_refl _)⟩

end Patchwork
