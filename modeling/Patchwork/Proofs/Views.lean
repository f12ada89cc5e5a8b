import Mathlib.Data.List.Induction
import Patchwork.Proofs.Clearing
import Patchwork.Proofs.Renewal

/-!
The views of a table. Whatever code does with a table comes to single changes of it, one after the other. In each state on the
way, what the table contains, what it reports as its own keys, what it lists and counts, and what it describes agree, and the
stored keys are in the order in which they came in.
-/

namespace Patchwork

open Run

variable {κ : Type}

namespace Table

variable {t t' : Table} {key key' : Value} {states past : List Table} {keys : List Value}

/-! ## Stored keys -/

/-- The stored keys, hidden or not. -/
def stored (t : Table) : List Value :=
  t.factories.map (·.1)

theorem holds_stored (t : Table) (key : Value) : holds t.stored key = t.contains key :=
  List.any_map

theorem contains_of_mem (h : key ∈ t.stored) : t.contains key = true := by
  rw [← holds_stored]
  exact List.any_eq_true.mpr ⟨key, h, Value.sameKey_refl key⟩

theorem contains_congr (same : Value.sameKey key key' = true) : t.contains key = t.contains key' := by
  rw [← holds_stored, ← holds_stored]
  exact Bool.eq_iff_iff.mpr ⟨holds_congr same, holds_congr (Value.sameKey_symm same)⟩

theorem set_stored_again (there : t.contains key = true) (value : Value) : (t.set key value).stored = t.stored :=
  Value.insert_again there

theorem set_stored_new (absent : t.contains key = false) (value : Value) : (t.set key value).stored = t.stored ++ [key] := by
  rw [contains, Value.hasKey, List.any_eq_false] at absent
  have last : (t.set key value).factories = t.factories ++ [(key, value)] :=
    Value.insert_new fun e he => Bool.eq_false_iff.mpr (absent e he)
  rw [stored, last, List.map_append]
  rfl

theorem erase_stored (t : Table) (key : Value) : (t.erase key).stored = t.stored.filter fun k => !Value.sameKey k key := by
  rw [stored, stored, List.filter_map]
  rfl

theorem describe_stored (t : Table) (key : Value) : (t.describe key).2.stored = t.stored := by
  obtain ⟨pinned, eq⟩ := describe_pins t key
  rw [eq, stored, stored]

/-- A single change only takes keys out, or brings in one behind all others. -/
theorem Change.stored_cases (change : t.Change t') :
    t'.stored.Sublist t.stored ∨ ∃ key, t.contains key = false ∧ t'.stored = t.stored ++ [key] := by
  cases change with
  | stored key value =>
      cases there : t.contains key with
      | true =>
          rw [set_stored_again there]
          exact .inl (List.Sublist.refl _)
      | false => exact .inr ⟨key, there, set_stored_new there value⟩
  | hidden key => exact .inl (List.Sublist.refl _)
  | described key =>
      rw [describe_stored]
      exact .inl (List.Sublist.refl _)
  | @removed key _ _ =>
      rw [erase_stored]
      exact .inl List.filter_sublist

/-! ## Histories -/

/-- The states that a table has gone through, the latest first. It is empty at first, and each state is one change away from
the one before. -/
inductive History : List Table → Prop where
  | made (patcher : Value) : History [.of [] patcher]
  | changed {t t' : Table} {past : List Table} : History (t :: past) → t.Change t' → History (t' :: t :: past)
  | processed {t : Table} {past : List Table} (key : Value) : History (t :: past) → History (t.process key :: t :: past)

/-- For how many of the latest states a key has been there without a break. -/
def tenure (states : List Table) (key : Value) : Nat :=
  (states.takeWhile fun t => t.contains key).length

/-- Keys are in the order in which they came in: one that came in earlier has been there for more states. -/
def BySeniority (states : List Table) (keys : List Value) : Prop :=
  keys.Pairwise fun k k' => tenure states k' < tenure states k

theorem tenure_there (there : t.contains key = true) : tenure (t :: states) key = tenure states key + 1 := by
  rw [tenure, List.takeWhile_cons, if_pos there, List.length_cons, tenure]

theorem tenure_absent (absent : t.contains key = false) : tenure (t :: states) key = 0 := by
  rw [tenure, List.takeWhile_cons, if_neg (by simp [absent]), List.length_nil]

theorem tenure_congr (same : Value.sameKey key key' = true) : tenure states key = tenure states key' := by
  simp only [tenure, contains_congr same]

theorem BySeniority.apart (ranked : BySeniority states keys) : keys.Pairwise fun k k' => Value.sameKey k k' = false := by
  refine ranked.imp ?_
  intro k k' before
  by_contra same
  rw [Bool.not_eq_false] at same
  rw [tenure_congr same] at before
  exact Nat.lt_irrefl _ before

/-- One state later all keys that are still there have been there for one state more. -/
theorem BySeniority.later (ranked : BySeniority states t.stored) : BySeniority (t :: states) t.stored := by
  refine List.Pairwise.imp_of_mem ?_ ranked
  intro k k' hk hk' before
  rw [tenure_there (contains_of_mem hk), tenure_there (contains_of_mem hk')]
  exact Nat.succ_lt_succ before

theorem BySeniority.changed (ranked : BySeniority (t :: past) t.stored) (change : t.Change t') :
    BySeniority (t :: past) t'.stored := by
  rcases change.stored_cases with fewer | ⟨key, absent, more⟩
  · exact ranked.sublist fewer
  · rw [more]
    refine List.pairwise_append.mpr ⟨ranked, List.pairwise_singleton _ _, ?_⟩
    intro k hk k' hk'
    rw [List.mem_singleton.mp hk', tenure_absent absent, tenure_there (contains_of_mem hk)]
    exact Nat.succ_pos _

namespace History

theorem exists_latest (history : History states) : ∃ t past, states = t :: past := by
  cases history with
  | made patcher => exact ⟨_, _, rfl⟩
  | changed _ _ => exact ⟨_, _, rfl⟩
  | processed key _ => exact ⟨_, _, rfl⟩

theorem ranked (history : History states) : ∀ t, states.head? = some t → BySeniority states t.stored := by
  induction history with
  | made patcher =>
      rintro t ⟨⟩
      exact List.Pairwise.nil
  | changed _ change ih =>
      rintro t ⟨⟩
      exact ((ih _ rfl).changed change).later
  | @processed t past key _ ih =>
      rintro _ ⟨⟩
      have kept : BySeniority (t :: past) (t.process key).stored := ih t rfl
      exact kept.later

/-- A table that is made with entries under different keys is as if they had come in one after the other. -/
theorem of_apart {factories : List (Value × Value)} (apart : Value.Apart factories) (patcher : Value) :
    ∃ past, History (.of factories patcher :: past) := by
  -- from the end on, since each key comes in behind those before it
  induction factories using List.reverseRecOn with
  | nil => exact ⟨[], .made patcher⟩
  | append_singleton es e ih =>
      obtain ⟨before, -, others⟩ := List.pairwise_append.mp apart
      obtain ⟨past, history⟩ := ih before
      have last : (of es patcher).set e.1 e.2 = of (es ++ [e]) patcher := by
        rw [set, of, Value.insert_new fun f hf => others f hf e List.mem_cons_self]
        rfl
      exact ⟨_, last ▸ history.changed (.stored e.1 e.2)⟩

end History

end Table

/-! ## Tables with a history -/

section

variable {h : Heap} {w w' : World κ} {a b : Address} {t : Table} {states : List Table}

/-- The table at a place has gone through these states. -/
structure Heap.Remembers (h : Heap) (a : Address) (states : List Table) : Prop where
  history : Table.History states
  now : h[a]? = states.head?.map .table

theorem Heap.Remembers.exists_latest (remembers : h.Remembers a states) :
    ∃ t past, states = t :: past ∧ h[a]? = some (.table t) := by
  obtain ⟨t, past, rfl⟩ := remembers.history.exists_latest
  exact ⟨t, past, rfl, remembers.now⟩

/-- A table takes the place of another one that comes right before it. -/
theorem Heap.Remembers.replaced (remembers : w.heap.Remembers b states)
    (next : ∀ past, Table.History (w.heap.table a :: past) → Table.History (t :: w.heap.table a :: past)) :
    ∃ new, (w.replaced a (.table t)).heap.Remembers b (new ++ states) := by
  obtain ⟨latest, past, rfl, there⟩ := remembers.exists_latest
  by_cases same : a = b
  · subst same
    rw [Heap.table_at there] at next
    exact ⟨[t], next past remembers.history, World.replaced_at there⟩
  · exact ⟨[], remembers.history, (World.replaced_other same).trans there⟩

end

/-! ## Moments between operations -/

/-- What the surroundings keep, and the objects at each moment at which code was about to do something, the latest first. -/
structure Observed (κ : Type) where
  rest : κ
  moments : List Heap

namespace World

def moments (w : World (Watched (Observed κ))) : List Heap :=
  w.host.rest.moments

def withMoments (w : World (Watched (Observed κ))) (moments : List Heap) : World (Watched (Observed κ)) :=
  { w with host := { w.host with rest := { w.host.rest with moments } } }

/-- A change with a note of the moment before. -/
def observing (f : World (Watched (Observed κ)) → World (Watched (Observed κ))) (w : World (Watched (Observed κ))) :
    World (Watched (Observed κ)) :=
  (f w).withMoments (w.heap :: w.moments)

end World

section

variable {w w' : World (Watched (Observed κ))} {call patch : Caller (Watched (Observed κ))} {a : Address}
  {states : List Table}

theorem Clear.observing {f : World (Watched (Observed κ)) → World (Watched (Observed κ))} (clear : ∀ w, Clear w (f w))
    (w : World (Watched (Observed κ))) : Clear w (w.observing f) :=
  ⟨(clear w).tables, (clear w).notes, (clear w).cut⟩

/-- Code of which it is noted when it is about to do something, or done; it does not see to that itself. -/
def Client.observed : Client (Observed κ) → Client (Observed κ)
  | done result => .act (World.observing id) (Clear.observing Clear.refl) fun _ => .done result
  | act f clear next => .act (World.observing f) (Clear.observing clear) fun w => (next w).observed
  | use o a next =>
    .act (World.observing id) (Clear.observing Clear.refl) fun _ => .use o a fun result => (next result).observed

theorem Clear.remembers (clear : Clear w w') (remembers : w.heap.Remembers a states) : w'.heap.Remembers a states := by
  obtain ⟨t, past, rfl, there⟩ := remembers.exists_latest
  exact ⟨remembers.history, clear.tables a t there⟩

/-- Histories of tables go on, and they lead through all moments that are noted meanwhile. -/
def GoesOn (w w' : World (Watched (Observed κ))) : Prop :=
  ∃ moments, w'.moments = moments ++ w.moments ∧ ∀ a states, w.heap.Remembers a states →
    ∃ new, w'.heap.Remembers a (new ++ states) ∧
      ∀ h ∈ moments, ∃ earlier, earlier <:+ new ∧ h.Remembers a (earlier ++ states)

theorem GoesOn.of_moments (same : w'.moments = w.moments)
    (tables : ∀ a states, w.heap.Remembers a states → ∃ new, w'.heap.Remembers a (new ++ states)) : GoesOn w w' := by
  refine ⟨[], same, ?_⟩
  intro a states remembers
  obtain ⟨new, now⟩ := tables a states remembers
  exact ⟨new, now, fun h hh => absurd hh List.not_mem_nil⟩

instance : Lasting (GoesOn (κ := κ)) where
  refl _ := .of_moments rfl fun _ _ remembers => ⟨[], remembers⟩
  trans := by
    rintro u v w ⟨moments, noted, first⟩ ⟨moments', noted', second⟩
    refine ⟨moments' ++ moments, by rw [noted', noted, List.append_assoc], ?_⟩
    intro a states remembers
    obtain ⟨new, between, before⟩ := first a states remembers
    obtain ⟨new', now, after⟩ := second a (new ++ states) between
    refine ⟨new' ++ new, by rwa [List.append_assoc], ?_⟩
    intro h hh
    rcases List.mem_append.mp hh with later | sooner
    · obtain ⟨earlier, ⟨front, rfl⟩, there⟩ := after h later
      refine ⟨earlier ++ new, ⟨front, (List.append_assoc _ _ _).symm⟩, ?_⟩
      rwa [List.append_assoc]
    · obtain ⟨earlier, behind, there⟩ := before h sooner
      exact ⟨earlier, behind.trans (List.suffix_append _ _), there⟩

theorem Clear.goesOn (clear : Clear w w') (same : w'.moments = w.moments) : GoesOn w w' :=
  .of_moments same fun _ _ remembers => ⟨[], clear.remembers remembers⟩

theorem goesOn_observing {f : World (Watched (Observed κ)) → World (Watched (Observed κ))} (clear : ∀ w, Clear w (f w))
    (w : World (Watched (Observed κ))) : GoesOn w (w.observing f) := by
  refine ⟨[w.heap], rfl, ?_⟩
  intro a states remembers
  refine ⟨[], (Clear.observing clear w).remembers remembers, ?_⟩
  intro h hh
  rw [List.mem_singleton.mp hh]
  exact ⟨[], List.suffix_rfl, remembers⟩

theorem goesOn_admits (hc : call.Keeps GoesOn) (hp : patch.Keeps GoesOn) : Admits call (noting patch) Anyhow GoesOn where
  quiet h := h.clear.goesOn (by rw [World.moments, h.host]; rfl)
  changed change := .of_moments rfl fun _ _ remembers => remembers.replaced fun _ history => history.changed change
  called := hc
  read := by
    refine read_keeps ?_ hp
    intro w z a key factory _ _ rest
    have marked : GoesOn w (w.patching a key factory) :=
      .of_moments rfl fun _ _ remembers => remembers.replaced fun _ history => history.processed key
    exact Lasting.trans marked rest

theorem Client.observed_goesOn (hc : call.Keeps GoesOn) (hp : patch.Keeps GoesOn) (c : Client (Observed κ)) :
    ∀ w, GoesOn w ((c.observed.run call (noting patch)).after w) := by
  induction c with
  | done result =>
      refine bind_within (goesOn_observing Clear.refl) fun _ => bind_within (fun w => Lasting.refl w) fun _ => ?_
      cases result <;> exact fun w => Lasting.refl w
  | act f clear next ih =>
      refine bind_within (goesOn_observing clear) fun _ => bind_within (fun w => Lasting.refl w) fun w => ?_
      exact ih w
  | use o a next ih =>
      refine bind_within (goesOn_observing Clear.refl) fun _ => bind_within (fun w => Lasting.refl w) fun _ => ?_
      refine bind_within (fun w => ?_) ih
      rw [outcome_after]
      exact Table.Op.keeps_admitted (goesOn_admits hc hp) a o w

/-- However code nests, the histories of tables go on. -/
theorem playWithin_goesOn (code : Value → Arguments → Client (Observed κ)) :
    (depth : Nat) → (playWithin (fun f args => (code f args).observed) depth).Keeps GoesOn
  | 0 => fun _ _ _ => .of_moments rfl fun _ _ remembers => ⟨[], remembers⟩
  | depth + 1 => fun f args w =>
      (code f args).observed_goesOn (playWithin_goesOn code depth) (playWithin_goesOn code depth) w

/-- The world in which code ends, with a note of the moments on the way. -/
def Client.ending (code : Value → Arguments → Client (Observed κ)) (depth : Nat) (c : Client (Observed κ))
    (w : World (Watched (Observed κ))) : World (Watched (Observed κ)) :=
  (c.observed.run (playWithin (fun f args => (code f args).observed) depth)
    (noting (playWithin (fun f args => (code f args).observed) depth))).after w

end

/-! ## What the views show -/

namespace Table

section

variable {R : World κ → World κ → Prop} [Moves R] {w : World κ} {a : Address} {t : Table} {key : Value}
  {call patch : Caller κ}

theorem holds_passed {e : Value × Value} {es : List (Value × Value)} (he : e ∈ es) :
    holds (es.map (·.1)).reverse e.1 = true :=
  List.any_eq_true.mpr ⟨e.1, List.mem_reverse.mpr (List.mem_map_of_mem he), Value.sameKey_refl e.1⟩

/-- A visit goes through the entries in order, and leaves out those that are hidden. -/
theorem visitFrom_run (there : w.heap[a]? = some (.table t)) (apart : Value.Apart t.factories)
    {before rest : List (Value × Value)} (parts : t.factories = before ++ rest) :
    (visitFrom a t.factories.length pure (before.map (·.1)).reverse rest.length : Within R (List Value)).run w =
      .ok ((rest.map (·.1)).filter fun key => !t.isHidden key) w := by
  have seen : (tableAt a : Within R Table).run w = .ok t w := tableAt_ok there
  -- there is fuel for exactly the entries that are left
  induction rest generalizing before with
  | nil =>
      have all : (t.factories.any fun e => !holds (before.map (·.1)).reverse e.1) = false := by
        rw [parts, List.append_nil, List.any_eq_false]
        intro e he
        simp [holds_passed he]
      rw [List.length_nil, visitFrom, Within.run_bind, bind_of_ok seen]
      simp only [ne_eq, not_true_eq_false, ↓reduceIte, all, Bool.false_eq_true]
      rfl
  | cons e rest ih =>
      obtain ⟨-, -, others⟩ := List.pairwise_append.mp (parts ▸ apart)
      have unseen : holds (before.map (·.1)).reverse e.1 = false := by
        rw [holds, List.any_reverse, List.any_map, List.any_eq_false]
        intro f hf
        simp [others f hf e List.mem_cons_self]
      have next : t.factories.find? (fun e => !holds (before.map (·.1)).reverse e.1) = some e := by
        have skipped : before.find? (fun e => !holds (before.map (·.1)).reverse e.1) = none :=
          List.find?_eq_none.mpr fun f hf => by simp [holds_passed hf]
        rw [parts, List.find?_append, skipped, Option.none_or, List.find?_cons_of_pos (by simp [unseen])]
      have more := @ih (before ++ [e]) (by rw [parts, List.append_assoc]; rfl)
      rw [List.map_append, List.reverse_append] at more
      rw [List.length_cons, visitFrom, Within.run_bind, bind_of_ok seen]
      simp only [ne_eq, not_true_eq_false, ↓reduceIte, next]
      rw [List.map_cons, List.filter_cons]
      cases hidden : t.isHidden e.1 with
      | true => exact more
      | false => exact bind_of_ok more

theorem iterate_run (there : w.heap[a]? = some (.table t)) (apart : Value.Apart t.factories) :
    (Op.iterate.on call patch a : Within Anyhow Value).run w = .ok (.tuple t.keys) w := by
  have seen : (tableAt a : Within Anyhow Table).run w = .ok t w := tableAt_ok there
  have visited : (visit a pure : Within Anyhow (List Value)).run w = .ok t.keys w := by
    rw [visit, Within.run_bind, bind_of_ok seen]
    exact visitFrom_run there apart (List.nil_append t.factories).symm
  exact bind_of_ok visited

theorem contains_run (there : w.heap[a]? = some (.table t)) (hashable : w.heap.unhashable? key = none) :
    ((Op.contains key).on call patch a : Within Anyhow Value).run w = .ok (.bool (t.contains key)) w := by
  have held : (withCalls call (Script.holds call (.ref a) key) : Within Anyhow Bool).run w = .ok (t.contains key) w := by
    refine (Op.holds_table there key).trans ?_
    rw [hashable]
  exact bind_of_ok held

theorem length_run (there : w.heap[a]? = some (.table t)) :
    (Op.length.on call patch a : Within Anyhow Value).run w = .ok (.int t.size) w := by
  have counted : (withCalls call (lengthOf call (.ref a)) : Within Anyhow Nat).run w = .ok t.size w :=
    Op.lengthOf_table there
  exact bind_of_ok counted

/-- Reporting the keys, as an operation. -/
def Op.reporting : Op :=
  .method "own_keys" (.of [])

theorem reporting_run (there : w.heap[a]? = some (.table t)) :
    (Op.reporting.on call patch a : Within Anyhow Value).run w = (new (.list t.ownKeys) : Within Anyhow Value).run w := by
  simp only [Op.reporting, Op.on, callMethod]
  exact bind_of_ok (tableAt_ok there)

/-- The reported keys are those that are stored, and the reserved names. -/
theorem holds_ownKeys_iff : holds t.ownKeys key = true ↔ t.contains key = true ∨ isReserved key = true := by
  have front : holds (t.factories.map (·.1)) key = t.contains key := holds_stored t key
  rw [ownKeys, holds, List.any_append, Bool.or_eq_true, ← holds, front]
  refine or_congr_right' fun absent => ?_
  have others : ∀ k, Value.sameKey k key = true → t.contains k = false := by
    intro k same
    rw [contains_congr same]
    exact Bool.eq_false_iff.mpr absent
  rw [isReserved, List.any_eq_true, List.any_eq_true]
  constructor
  · rintro ⟨k, hk, same⟩
    exact ⟨k, (List.mem_filter.mp hk).1, same⟩
  · rintro ⟨k, hk, same⟩
    exact ⟨k, List.mem_filter.mpr ⟨hk, by rw [others k same]; rfl⟩, same⟩

/-- No key is reported twice. -/
theorem ownKeys_apart (apart : t.stored.Pairwise fun k k' => Value.sameKey k k' = false) :
    t.ownKeys.Pairwise fun k k' => Value.sameKey k k' = false := by
  have names : (reservedNames.map Value.str).Pairwise fun k k' => Value.sameKey k k' = false := by decide
  refine List.pairwise_append.mpr ⟨apart, names.filter _, ?_⟩
  intro k hk k' hk'
  by_contra same
  rw [Bool.not_eq_false] at same
  have absent := (List.mem_filter.mp hk').2
  rw [← contains_congr same, contains_of_mem hk] at absent
  cases absent

theorem describe_eq_some_iff : (∃ d, (t.describe key).1 = some d) ↔ holds t.ownKeys key = true := by
  rw [holds_ownKeys_iff, contains_iff, describe]
  cases stored : t.get? key with
  | some value => simp
  | none => cases reserved : isReserved key <;> simp

theorem enumerable_iff {d : EntryDescriptor} (h : (t.describe key).1 = some d) :
    d.enumerable = true ↔ holds t.keys key = true := by
  rw [holds_keys_iff, contains_iff]
  cases stored : t.get? key with
  | some value =>
      simp only [describe, stored, Option.some.injEq] at h
      subst h
      simp
  | none =>
      simp only [describe, stored] at h
      split at h
      · cases h
        simp
      · cases h

theorem listed_reported (listed : holds t.keys key = true) : holds t.ownKeys key = true :=
  holds_ownKeys_iff.mpr (.inl (holds_keys_iff.mp listed).1)

theorem hashable_of_isReserved (h : Heap) (reserved : isReserved key = true) : h.unhashable? key = none := by
  obtain ⟨k, hk, same⟩ := List.any_eq_true.mp reserved
  obtain ⟨name, -, rfl⟩ := List.mem_map.mp hk
  cases key with
  | str => rfl
  | _ => cases same

theorem describing_refused {type : String} (unhashable : w.heap.unhashable? key = some type) :
    ((Op.describing key).on call patch a : Within Anyhow Value).run w = .error (.failed (.unhashable type)) w := by
  have plain : isReserved key = false := by
    by_contra reserved
    rw [Bool.not_eq_false] at reserved
    rw [hashable_of_isReserved w.heap reserved] at unhashable
    cases unhashable
  have inspected : (inspect a key : Within Anyhow _).run w = .error (.failed (.unhashable type)) w := by
    rw [inspect, Within.run_bind, bind_of_ok (tableAt_run a w), plain]
    exact bind_of_error (checkKey_failed unhashable)
  simp only [Op.describing, Op.on, callMethod]
  exact (bind_of_ok (a := key) (v := w) rfl).trans (bind_of_error inspected)

theorem describe_none (h : (t.describe key).1 = none) : (t.describe key).2 = t := by
  rw [describe] at h ⊢
  split at h
  · cases h
  · split <;> rfl

end

end Table

/-- What the views of a table show of the keys that it stores, in the order in which they came in, of those that it reports as
its own, and of those that it lists. It describes its own keys, and refuses what cannot be a key. -/
structure World.Shows (w : World κ) (a : Address) (states : List Table) (stored own listed : List Value) : Prop where
  contains : ∀ (call patch : Caller κ) key, w.heap.unhashable? key = none →
    ((Table.Op.contains key).on call patch a : Within Anyhow Value).run w = .ok (.bool (Table.holds stored key)) w
  ranked : Table.BySeniority states stored
  reports : ∀ call patch : Caller κ, ∃ b u,
    (Table.Op.reporting.on call patch a : Within Anyhow Value).run w = .ok (.ref b) u ∧ u.heap[b]? = some (.list own)
  own_eq : own = stored ++ (Table.reservedNames.map Value.str).filter fun key => !Table.holds stored key
  once : own.Pairwise fun k k' => Value.sameKey k k' = false
  lists : ∀ call patch : Caller κ,
    (Table.Op.iterate.on call patch a : Within Anyhow Value).run w = .ok (.tuple listed) w
  listed_eq : listed = stored.filter fun key => !(w.heap.table a).isHidden key
  counts : ∀ call patch : Caller κ,
    (Table.Op.length.on call patch a : Within Anyhow Value).run w = .ok (.int listed.length) w
  describes : ∀ (call patch : Caller κ) key, w.heap.unhashable? key = none → Table.holds own key = true →
    ∃ b d u, ((Table.Op.describing key).on call patch a : Within Anyhow Value).run w = .ok (.ref b) u ∧
      u.heap[b]? = some (.descriptor d) ∧ (d.enumerable = true ↔ Table.holds listed key = true)
  ignores : ∀ (call patch : Caller κ) key, w.heap.unhashable? key = none → Table.holds own key = false →
    ((Table.Op.describing key).on call patch a : Within Anyhow Value).run w = .ok .none w ∧ Table.holds listed key = false
  refuses : ∀ (call patch : Caller κ) value type, w.heap.unhashable? value = some type →
    ((Table.Op.describing value).on call patch a : Within Anyhow Value).run w = .error (.failed (.unhashable type)) w

section

variable {w : World κ} {a : Address} {states : List Table}

theorem Heap.Remembers.shows (remembers : w.heap.Remembers a states) :
    w.Shows a states (w.heap.table a).stored (w.heap.table a).ownKeys (w.heap.table a).keys := by
  obtain ⟨t, past, rfl, there⟩ := remembers.exists_latest
  rw [Heap.table_at there]
  have ranked : Table.BySeniority (t :: past) t.stored := remembers.history.ranked t rfl
  have apart : Value.Apart t.factories := List.pairwise_map.mp ranked.apart
  refine ⟨?_, ranked, ?_, ?_, Table.ownKeys_apart ranked.apart, ?_, ?_, ?_, ?_, ?_, ?_⟩
  · intro call patch key hashable
    rw [Table.contains_run there hashable, Table.holds_stored]
  · intro call patch
    exact ⟨_, _, Table.reporting_run there, Array.getElem?_push_size⟩
  · simp only [Table.holds_stored]
    rfl
  · exact fun call patch => Table.iterate_run there apart
  · rw [Heap.table_at there]
    rfl
  · exact fun call patch => Table.length_run there
  · intro call patch key hashable reported
    obtain ⟨d, some⟩ := Table.describe_eq_some_iff.mpr reported
    have described : ((Table.Op.describing key).on call patch a : Within Anyhow Value).run w =
        (new (.descriptor d) : Within Anyhow Value).run (w.replaced a (.table (t.describe key).2)) := by
      rw [describing_run hashable, Heap.table_at there, some]
      rfl
    exact ⟨_, d, _, described, Array.getElem?_push_size, Table.enumerable_iff some⟩
  · intro call patch key hashable absent
    have none : (t.describe key).1 = .none := by
      by_contra some
      rw [Table.describe_eq_some_iff.mp (Option.ne_none_iff_exists'.mp some)] at absent
      cases absent
    constructor
    · rw [describing_run hashable, Heap.table_at there, none, Table.describe_none none, World.replaced_same there]
      rfl
    · by_contra listed
      rw [Bool.not_eq_false] at listed
      rw [Table.listed_reported listed] at absent
      cases absent
  · exact fun call patch value type unhashable => Table.describing_refused unhashable

/-- The views of the table at a place agree with each other and with the states that it has gone through. -/
def World.ViewsAgree (w : World κ) (a : Address) (states : List Table) : Prop :=
  ∃ stored own listed, w.Shows a states stored own listed

theorem Heap.Remembers.viewsAgree (remembers : w.heap.Remembers a states) : w.ViewsAgree a states :=
  ⟨_, _, _, remembers.shows⟩

end

/-! ## After all that can be done -/

/-- A table that is made with entries under different keys has a history. Whatever code does with tables, however that nests in
patchers and ends, the history of a table goes on, and its views agree: at the end, and at each moment at which code, that of
patchers included, was about to do something. -/
theorem views_agree :
    (∀ (factories : List (Value × Value)) (patcher : Value), Value.Apart factories →
      ∃ past, Table.History (.of factories patcher :: past)) ∧
    ∀ (code : Value → Arguments → Client (Observed κ)) depth (c : Client (Observed κ)) (w : World (Watched (Observed κ))) a
      states, w.heap.Remembers a states → ∃ new moments,
        (c.ending code depth w).heap.Remembers a (new ++ states) ∧
        (c.ending code depth w).ViewsAgree a (new ++ states) ∧
        (c.ending code depth w).moments = moments ++ w.moments ∧
        ∀ h ∈ moments, ∃ earlier, earlier <:+ new ∧ h.Remembers a (earlier ++ states) ∧
          ∀ v : World (Watched (Observed κ)), v.heap = h → v.ViewsAgree a (earlier ++ states) := by
  refine ⟨fun factories patcher apart => Table.History.of_apart apart patcher, ?_⟩
  intro code depth c w a states remembers
  have play := playWithin_goesOn code depth
  obtain ⟨moments, noted, goesOn⟩ : GoesOn w (c.ending code depth w) := c.observed_goesOn play play w
  obtain ⟨new, now, before⟩ := goesOn a states remembers
  refine ⟨new, moments, now, now.viewsAgree, noted, ?_⟩
  intro h hh
  obtain ⟨earlier, behind, there⟩ := before h hh
  refine ⟨earlier, behind, there, ?_⟩
  rintro v rfl
  exact there.viewsAgree

/-! ## A table that is rearranged -/

/-- A patcher that hides a key that is not there, and stores a reserved name. -/
def reserving : Value → Arguments → Client (Observed Unit) := fun _ args =>
  match args.positional with
  | [.ref a, _, factory] =>
    .use (.method "hide" (.of [.str "3"])) a fun _ =>
      .use (.method "__setitem__" (.of [.str "__doc__", .none])) a fun _ => .done (.ok factory)
  | _ => .done (.ok .none)

/-- Code that takes an entry out, stores the hidden one, and brings the first one back. -/
def rearranging : Client (Observed Unit) :=
  .use (.method "pop" (.of [.str "1"])) plainFactoryPlace fun _ =>
    .use (.method "__setitem__" (.of [.str "3", .str "third"])) plainFactoryPlace fun _ =>
      .use (.method "setdefault" (.of [.str "1", .str "first"])) plainFactoryPlace .done

def arranged : Table :=
  .of [(.str "1", .str "first"), (.str "2", .str "second")] .none

/-- A world with that table. -/
def arrangedWorld : World (Watched (Observed Unit)) :=
  World.furnished [] ⟨⟨(), []⟩, [], false⟩ [.table arranged]

def rearranged : World (Watched (Observed Unit)) :=
  rearranging.ending reserving 2 arrangedWorld

theorem views_agree_rearranged : ∃ states,
    rearranged.ViewsAgree plainFactoryPlace states ∧
      (rearranged.heap.table plainFactoryPlace).ownKeys =
        [.str "2", .str "__doc__", .str "3", .str "1", .str "__dict__", .str "__module__"] ∧
      (rearranged.heap.table plainFactoryPlace).keys = [.str "2", .str "__doc__", .str "1"] := by
  have apart : Value.Apart arranged.factories := List.pairwise_pair.mpr (by decide)
  obtain ⟨made, goesOn⟩ := views_agree (κ := Unit)
  obtain ⟨past, history⟩ := made arranged.factories .none apart
  obtain ⟨new, -, -, agree, -⟩ :=
    goesOn reserving 2 rearranging arrangedWorld plainFactoryPlace (arranged :: past) ⟨history, rfl⟩
  exact ⟨_, agree, by decide +kernel, by decide +kernel⟩

end Patchwork
