import Patchwork.Proofs.Interception

/-!
One assignment of the host. It reaches a hook or none, and a hook that waits takes the runtime if both checks pass.
-/

namespace Patchwork

open Run

variable {κ : Type} {outside : Surroundings κ} {u v w z : World κ}

/-! ## Assignments -/

/-- An assignment to an attribute, with the world in which it is made and how deeply calls may nest in it. -/
structure Assignment (κ : Type) where
  world : World κ
  depth : Nat
  runtime : Address
  name : String
  value : Value
  /-- The value is there. -/
  present : ∀ b, value = .ref b → b < world.heap.size

namespace Assignment

/-- What runs the calls inside the assignment. -/
abbrev caller (outside : Surroundings κ) (x : Assignment κ) : Caller κ :=
  callWithin outside x.depth

/-- What the assignment does. -/
def run (outside : Surroundings κ) (x : Assignment κ) : Run κ Unit :=
  (setAttr (callWithin outside (x.depth + 1)) (.ref x.runtime) x.name x.value :
    Calling (callWithin outside (x.depth + 1)) Unit).run

def after (outside : Surroundings κ) (x : Assignment κ) : World κ :=
  (x.run outside).after x.world

/-- The hook that the assignment reaches, with its place. -/
def hook? (x : Assignment κ) : Option (Address × Interceptor) :=
  match x.world.heap[x.runtime]? with
  | some (.instance cls _ _) => x.world.heap.hook? cls x.name
  | _ => none

end Assignment

variable {x : Assignment κ} {a : Address} {i : Interceptor}

theorem Heap.hook?_found {h : Heap} {cls : Address} {name : String} (found : h.hook? cls name = some (a, i)) :
    h[a]? = some (.interceptor i) := by
  rw [Heap.hook?] at found
  split at found
  · split at found
    · next there =>
        cases found
        exact there
    · cases found
  · cases found

theorem Assignment.hook?_eq_some (h : x.hook? = some (a, i)) :
    x.world.heap[a]? = some (.interceptor i) ∧ ∃ cls attrs core,
      x.world.heap[x.runtime]? = some (.instance cls attrs core) ∧ x.world.heap.hook? cls x.name = some (a, i) := by
  rw [hook?] at h
  split at h
  · next cls attrs core found => exact ⟨Heap.hook?_found h, cls, attrs, core, found, h⟩
  · cases h

/-- An assignment to an attribute of an instance calls the hook that stands for it. -/
theorem setAttr_hooked {depth : Nat} {r cls : Address} {attrs : Attributes} {core : Option Value} {name : String}
    {value : Value} (object : w.heap[r]? = some (.instance cls attrs core)) (reached : w.heap.hook? cls name = some (a, i)) :
    (setAttr (callWithin outside (depth + 1)) (.ref r) name value : Calling (callWithin outside (depth + 1)) Unit).run w =
      (intercept (callWithin outside depth) a (.ref r) value : Working (callWithin outside depth) Unit).run w := by
  have hook := Heap.hook?_found reached
  have set : (setAttr (callWithin outside (depth + 1)) (.ref r) name value :
      Calling (callWithin outside (depth + 1)) Unit).run w =
      (callWithin outside (depth + 1) (.bound (.ref a) "__set__") (.of [.ref r, value]) >>= fun _ => pure ()) w := by
    rw [setAttr, Within.run_bind, bind_of_ok (heap_run w)]
    simp only [object, reached]
    rfl
  have called : callWithin outside (depth + 1) (.bound (.ref a) "__set__") (.of [.ref r, value]) w =
      ((intercept (callWithin outside depth) a (.ref r) value : Working (callWithin outside depth) Unit).run >>=
        fun _ => pure .none) w := by
    rw [callWithin, callOnce, Within.run_bind, bind_of_ok (heap_run w)]
    simp only [hook]
    rfl
  rw [set]
  cases ran : (intercept (callWithin outside depth) a (.ref r) value : Working (callWithin outside depth) Unit).run w with
  | ok r v =>
      rw [bind_of_ok ran] at called
      exact bind_of_ok called
  | error e v =>
      rw [bind_of_error ran] at called
      exact bind_of_error called

theorem Assignment.run_hooked (h : x.hook? = some (a, i)) : x.run outside x.world =
    (intercept (x.caller outside) a (.ref x.runtime) x.value :
      Working (x.caller outside) Unit).run x.world := by
  obtain ⟨-, cls, attrs, core, object, reached⟩ := hook?_eq_some h
  exact setAttr_hooked object reached

theorem Assignment.unhooked_quiet (h : x.hook? = none) : Quiet x.world (x.after outside) := by
  have seen : (heap : Calling (callWithin outside (x.depth + 1)) _).run x.world = .ok x.world.heap x.world := rfl
  have filled (b : Address) (c : Content) :
      Quiet x.world ((write b c : Calling (callWithin outside (x.depth + 1)) Unit).run.after x.world) :=
    (write b c : Quietly κ Unit).within x.world
  rw [after, run, setAttr, Within.run_bind, after_bind_ok seen]
  simp only
  split
  · exact filled _ _
  · split
    · exact filled _ _
    · exact Lasting.refl _
  · split <;> exact filled _ _
  · exact filled _ _
  · exact filled _ _
  · exact filled _ _
  · next cls attrs core found =>
      have free : x.world.heap.hook? cls x.name = none := by rwa [hook?, found] at h
      rw [free]
      simp only
      split
      · exact Lasting.refl _
      · exact filled _ _
  · exact (noAttribute (.ref x.runtime) x.name : Quietly κ Unit).within x.world

/-- A registry exists, and so does the table that it has. -/
structure World.Placed (w : World κ) (n : Nat) : Prop where
  here : n < w.registries.size
  present : ∀ b, (w.registry n).modules = .ref b → b < w.heap.size

theorem World.Placed.kept {n : Nat} (placed : v.Placed n) (kept : HooksKept v w) : w.Placed n where
  here := kept.size ▸ placed.here
  present b held := Nat.lt_of_lt_of_le (placed.present b (kept.modules n ▸ held)) kept.room

/-! ## One assignment -/

namespace Assignment

/-- Where the assignment comes from and the loader of the runtime are looked at. -/
def check (outside : Surroundings κ) (x : Assignment κ) : Run κ Bool :=
  match x.hook? with
  | some (_, i) =>
    (i.matcher.accepts (x.caller outside) (.ref x.runtime) : Working (x.caller outside) Bool).run
  | none => pure false

/-- The assignment reaches a hook and passes both checks. -/
def Accepted (outside : Surroundings κ) (x : Assignment κ) (a : Address) : Prop :=
  (∃ i, x.hook? = some (a, i)) ∧ ∃ v, x.check outside x.world = .ok true v

def Returns (outside : Surroundings κ) (x : Assignment κ) : Prop :=
  ∃ v, x.run outside x.world = .ok () v

/-- What is called while the runtime is checked and its table is taken leaves the hooks alone. -/
structure Alone (outside : Surroundings κ) (x : Assignment κ) : Prop where
  checking : HooksKept x.world ((x.check outside).after x.world)
  taking : ∀ {a i v}, x.hook? = some (a, i) → x.check outside x.world = .ok true v → i.commitment = .table →
    HooksKept (v.released (x.caller outside) a i)
      ((takeEntries (x.caller outside) (.ref x.runtime) x.value : Working (x.caller outside) _).run.after
        (v.released (x.caller outside) a i))

/-- What the runtime has in a world under the name of the hook that the assignment reaches. -/
def held? (x : Assignment κ) (w : World κ) : Option Value :=
  x.hook?.bind fun hook => w.stored x.runtime hook.2.name

theorem held?_hooked (h : x.hook? = some (a, i)) (w : World κ) : x.held? w = w.stored x.runtime i.name := by
  rw [held?, h]
  rfl

theorem check_hooked (h : x.hook? = some (a, i)) :
    x.check outside = (i.matcher.accepts (x.caller outside) (.ref x.runtime) :
      Working (x.caller outside) Bool).run := by
  rw [check, h]

theorem run_waiting (h : x.hook? = some (a, i)) (waits : i.committed = false) : x.run outside x.world =
    (x.check outside >>= fun genuine =>
      if genuine then (takeOver (x.caller outside) a i (.ref x.runtime) x.value).run
      else (storeOn (.ref x.runtime) i.name x.value : Working (x.caller outside) Unit).run) x.world := by
  rw [run_hooked h, intercept_checks (hook?_eq_some h).1 waits, check_hooked h]

/-- An assignment that no hook takes leaves the hooks as they are, and the runtime with the value. -/
theorem Alone.passes (alone : x.Alone outside)
    (idle : ∀ a i, x.hook? = some (a, i) → i.committed = true ∨ ¬ x.Accepted outside a) :
    HooksKept x.world (x.after outside) ∧
      ∀ z, x.run outside x.world = .ok () z → x.held? z = none ∨ x.held? z = some x.value := by
  cases h : x.hook? with
  | none =>
      exact ⟨(unhooked_quiet h).hooksKept, fun z _ => .inl (by rw [held?, h]; rfl)⟩
  | some hook =>
      obtain ⟨a, i⟩ := hook
      obtain ⟨found, cls, attrs, core, object, -⟩ := hook?_eq_some h
      -- In every case that returns, the value is stored in a world that kept the hooks.
      have storing {v : World κ} (kept : HooksKept x.world v) (ran : x.run outside x.world =
          (storeOn (.ref x.runtime) i.name x.value : Working (x.caller outside) Unit).run v) :
          HooksKept x.world (x.after outside) ∧
            ∀ z, x.run outside x.world = .ok () z → x.held? z = none ∨ x.held? z = some x.value := by
        obtain ⟨attrs', object'⟩ := kept.instances _ _ _ _ object
        obtain ⟨y, stored, quiet, holds⟩ :=
          storeOn_run (R := Acts (x.caller outside)) x.runtime i.name x.value v
        refine ⟨?_, fun z returned => .inr ?_⟩
        · rw [after, after_ok (ran.trans stored)]
          exact Lasting.trans kept quiet.hooksKept
        · rw [ran, stored] at returned
          cases returned
          rw [held?_hooked h, holds _ _ _ object']
      rcases idle a i h with done | refused
      · exact storing (Lasting.refl _) (by rw [run_hooked h, intercept_committed found done])
      · cases waits : i.committed with
        | true => exact storing (Lasting.refl _) (by rw [run_hooked h, intercept_committed found waits])
        | false =>
            have kept := alone.checking
            have whole : x.run outside x.world = _ := run_waiting h waits
            cases ran : x.check outside x.world with
            | error e v =>
                rw [bind_of_error ran] at whole
                rw [after_error ran] at kept
                refine ⟨by rwa [after, after_error whole], fun z returned => ?_⟩
                rw [whole] at returned
                cases returned
            | ok genuine v =>
                rw [bind_of_ok ran] at whole
                rw [after_ok ran] at kept
                cases genuine with
                | true => exact absurd ⟨⟨i, h⟩, v, ran⟩ refused
                | false => exact storing kept whole

theorem run_taking (h : x.hook? = some (a, i)) (waits : i.committed = false) (accepted : x.Accepted outside a) :
    ∃ v, x.check outside x.world = .ok true v ∧ x.run outside x.world =
      (takeOver (x.caller outside) a i (.ref x.runtime) x.value).run v := by
  obtain ⟨-, v, ran⟩ := accepted
  exact ⟨v, ran, by rw [run_waiting h waits, bind_of_ok ran, if_pos rfl]⟩

theorem Alone.released (alone : x.Alone outside) (h : x.hook? = some (a, i))
    (ran : x.check outside x.world = .ok true v) :
    Committed a i x.world (v.released (x.caller outside) a i) ∧
      ∀ n, ((v.released (x.caller outside) a i).registry n).modules = (x.world.registry n).modules := by
  have kept := alone.checking
  rw [after_ok ran] at kept
  have found := kept.hooks a i (hook?_eq_some h).1
  exact ⟨(World.released_committed found).after kept, fun n => by rw [World.released_registry, kept.modules]⟩

/-- A hook that waits takes what is assigned. -/
def Takes (outside : Surroundings κ) (x : Assignment κ) (a : Address) (i : Interceptor) : Prop :=
  x.hook? = some (a, i) ∧ i.committed = false ∧ x.Accepted outside a

/-- The module table of a registry is another one afterwards, and the runtime has it. -/
def HandsOver (outside : Surroundings κ) (n : Nat) (x : Assignment κ) : Prop :=
  ∃ z, x.run outside x.world = .ok () z ∧ (z.registry n).modules ≠ (x.world.registry n).modules ∧
    x.held? z = some (z.registry n).modules

/-- The runtime has a new wrapper around the callback afterwards, which exposes this runtime. -/
def Wraps (outside : Surroundings κ) (n : Nat) (x : Assignment κ) : Prop :=
  ∃ z b wr attr, x.run outside x.world = .ok () z ∧ x.held? z = some (.ref b) ∧ x.world.heap.size ≤ b ∧
    z.heap[b]? = some (.wrapper wr) ∧ wr.wrapping = .chunks attr x.value (.ref x.runtime) n

/-- A hook on the module table takes the table of the runtime, if that can be read and emptied. -/
theorem Takes.of_table (h : x.Takes outside a i) (alone : x.Alone outside) (table : i.commitment = .table) :
    Committed a i x.world (x.after outside) ∧
      (∀ n, ((x.after outside).registry n).modules ≠ (x.world.registry n).modules →
        n = i.registry ∧ x.Returns outside) ∧
      ∀ z, x.run outside x.world = .ok () z → ∃ b t, x.world.heap.size ≤ b ∧ z.heap[b]? = some (.table t) ∧
        x.held? z = some (.ref b) ∧
        (i.registry < x.world.registries.size → (z.registry i.registry).modules = .ref b) := by
  obtain ⟨reached, waits, accepted⟩ := h
  obtain ⟨v, ran, whole⟩ := run_taking reached waits accepted
  obtain ⟨committed, same⟩ := alone.released reached ran
  have taking := alone.taking reached ran table
  rw [takeOver_table table] at whole
  cases took : (takeEntries (x.caller outside) (.ref x.runtime) x.value :
      Working (x.caller outside) _).run (v.released (x.caller outside) a i) with
  | error e u =>
      rw [after_error took] at taking
      rw [bind_of_error took] at whole
      refine ⟨?_, fun n changed => ?_, fun z returned => ?_⟩
      · rw [after, after_error whole]
        exact committed.kept taking
      · rw [after, after_error whole, taking.modules, same] at changed
        exact absurd rfl changed
      · rw [whole] at returned
        cases returned
  | ok factories u =>
      rw [after_ok took] at taking
      rw [bind_of_ok took] at whole
      have tabled : Committed a i x.world (u.tabled i.registry factories) := (committed.kept taking).tabled
      obtain ⟨-, cls, attrs, core, object, -⟩ := hook?_eq_some reached
      obtain ⟨attrs', object'⟩ := tabled.instances _ _ _ _ object
      obtain ⟨y, stored, quiet, holds⟩ := storeOn_run (R := Acts (x.caller outside)) x.runtime i.name
        (.ref u.heap.size) (u.tabled i.registry factories)
      have ends : x.run outside x.world = .ok () y := whole.trans stored
      refine ⟨?_, fun n changed => ⟨?_, y, ends⟩, fun z returned => ?_⟩
      · rw [after, after_ok ends]
        exact tabled.kept quiet.hooksKept
      · rw [after, after_ok ends, quiet.hooksKept.modules] at changed
        refine Decidable.byContradiction fun other => changed ?_
        rw [World.tabled, World.modifyRegistry_other _ _ (Ne.symm other)]
        exact (taking.modules n).trans (same n)
      · rw [ends] at returned
        cases returned
        obtain ⟨o, made, essence⟩ := quiet.heap u.heap.size _ Array.getElem?_push_size
        cases o with
        | table t =>
            refine ⟨u.heap.size, t, Nat.le_trans committed.room taking.room, made, by
              rw [held?_hooked reached, holds _ _ _ object'], fun here => ?_⟩
            rw [quiet.hooksKept.modules, World.tabled, World.modifyRegistry_here]
            rwa [taking.size, committed.size]
        | _ => cases essence

/-- A hook on the chunks-loaded callback wraps that of the runtime. -/
theorem Takes.of_chunks {attr : String} (h : x.Takes outside a i) (alone : x.Alone outside)
    (chunks : i.commitment = .chunks attr) :
    Committed a i x.world (x.after outside) ∧
      (∀ n, ((x.after outside).registry n).modules = (x.world.registry n).modules) ∧
      ∀ z, x.run outside x.world = .ok () z →
        ∃ b wr, x.world.heap.size ≤ b ∧ z.heap[b]? = some (.wrapper wr) ∧
          wr.wrapping = .chunks attr x.value (.ref x.runtime) i.registry ∧ x.held? z = some (.ref b) := by
  obtain ⟨reached, waits, accepted⟩ := h
  obtain ⟨v, ran, whole⟩ := run_taking reached waits accepted
  obtain ⟨committed, same⟩ := alone.released reached ran
  rw [takeOver_chunks chunks] at whole
  have quiet := takeChunks_quiet (R := Acts (x.caller outside)) attr (.ref x.runtime) x.value i.registry
    (v.released (x.caller outside) a i)
  cases took : (takeChunks attr (.ref x.runtime) x.value i.registry : Working (x.caller outside) _).run
      (v.released (x.caller outside) a i) with
  | error e u =>
      rw [after_error took] at quiet
      rw [bind_of_error took] at whole
      refine ⟨?_, fun n => ?_, fun z returned => ?_⟩
      · rw [after, after_error whole]
        exact committed.kept quiet.hooksKept
      · rw [after, after_error whole, quiet.hooksKept.modules, same]
      · rw [whole] at returned
        cases returned
  | ok made u =>
      rw [after_ok took] at quiet
      rw [bind_of_ok took] at whole
      obtain ⟨-, cls, attrs, core, object, -⟩ := hook?_eq_some reached
      obtain ⟨attrs', object'⟩ := (committed.kept quiet.hooksKept).instances _ _ _ _ object
      obtain ⟨y, stored, quiet', holds⟩ := storeOn_run (R := Acts (x.caller outside)) x.runtime i.name made u
      have ends : x.run outside x.world = .ok () y := whole.trans stored
      refine ⟨?_, fun n => ?_, fun z returned => ?_⟩
      · rw [after, after_ok ends]
        exact (committed.kept quiet.hooksKept).kept quiet'.hooksKept
      · rw [after, after_ok ends, quiet'.hooksKept.modules, quiet.hooksKept.modules, same]
      · rw [ends] at returned
        cases returned
        obtain ⟨b, wr, fresh, rfl, made, wraps⟩ := takeChunks_ok took
        obtain ⟨o, found, essence⟩ := quiet'.heap _ _ made
        cases o with
        | wrapper wr' =>
            injection essence with same
            have same : wr'.wrapping = wr.wrapping := (Wrapper.mk.inj same).1
            exact ⟨b, wr', Nat.le_trans committed.room fresh, found, same.trans wraps, by
              rw [held?_hooked reached, holds _ _ _ object']⟩
        | _ => cases essence

theorem Takes.accepted {b : Address} (h : x.Takes outside a i) (accepted : x.Accepted outside b) : b = a := by
  obtain ⟨⟨j, reached⟩, -⟩ := accepted
  rw [h.1] at reached
  cases reached
  rfl

theorem Takes.committed (h : x.Takes outside a i) (alone : x.Alone outside) :
    Committed a i x.world (x.after outside) := by
  cases kind : i.commitment with
  | table => exact (h.of_table alone kind).1
  | chunks attr => exact (h.of_chunks alone kind).1

theorem Alone.untaken (alone : x.Alone outside) (no : ∀ a i, ¬ x.Takes outside a i) :
    HooksKept x.world (x.after outside) ∧
      ∀ z, x.run outside x.world = .ok () z → x.held? z = none ∨ x.held? z = some x.value := by
  refine alone.passes fun a i h => ?_
  cases waits : i.committed with
  | true => exact .inl rfl
  | false => exact .inr fun accepted => no a i ⟨h, waits, accepted⟩

/-- Only a hook on a table changes which table a registry has. -/
theorem Alone.modules_changed (alone : x.Alone outside) {n : Nat}
    (changed : ((x.after outside).registry n).modules ≠ (x.world.registry n).modules) :
    ∃ a i, x.Takes outside a i ∧ i.commitment = .table ∧ i.registry = n ∧ x.Returns outside := by
  by_cases taken : ∃ a i, x.Takes outside a i
  · obtain ⟨a, i, h⟩ := taken
    cases kind : i.commitment with
    | table =>
        obtain ⟨-, only, -⟩ := h.of_table alone kind
        obtain ⟨same, returns⟩ := only n changed
        exact ⟨a, i, h, kind, same.symm, returns⟩
    | chunks attr => exact absurd ((h.of_chunks alone kind).2.1 n) changed
  · exact absurd ((alone.untaken fun a i h => taken ⟨a, i, h⟩).1.modules n) changed

/-- Only a hook on a callback wraps it. -/
theorem Alone.wraps_taken (alone : x.Alone outside) {n : Nat} (wraps : x.Wraps outside n) :
    ∃ a i attr, x.Takes outside a i ∧ i.commitment = .chunks attr ∧ i.registry = n := by
  obtain ⟨z, b, wr, attr, returned, held, fresh, made, wrapping⟩ := wraps
  by_cases taken : ∃ a i, x.Takes outside a i
  · obtain ⟨a, i, h⟩ := taken
    cases kind : i.commitment with
    | table =>
        obtain ⟨b', t, -, table, held', -⟩ := (h.of_table alone kind).2.2 z returned
        rw [held] at held'
        cases held'
        rw [made] at table
        cases table
    | chunks attr' =>
        obtain ⟨b', wr', -, made', wrapping', held'⟩ := (h.of_chunks alone kind).2.2 z returned
        rw [held] at held'
        cases held'
        rw [made] at made'
        cases made'
        rw [wrapping] at wrapping'
        cases wrapping'
        exact ⟨a, i, _, h, kind, rfl⟩
  · rcases (alone.untaken fun a i h => taken ⟨a, i, h⟩).2 z returned with none | same
    · rw [held] at none
      cases none
    · rw [held] at same
      exact absurd (x.present b (Option.some.inj same).symm) (Nat.not_lt.mpr fresh)

theorem Takes.handsOver (h : x.Takes outside a i) (alone : x.Alone outside) (table : i.commitment = .table)
    (placed : x.world.Placed i.registry) (returns : x.Returns outside) : x.HandsOver outside i.registry := by
  obtain ⟨z, returned⟩ := returns
  obtain ⟨b, t, fresh, -, held, modules⟩ := (h.of_table alone table).2.2 z returned
  refine ⟨z, returned, fun same => ?_, by rw [held, modules placed.here]⟩
  rw [modules placed.here] at same
  exact absurd (placed.present b same.symm) (Nat.not_lt.mpr fresh)

theorem Takes.wraps {attr : String} (h : x.Takes outside a i) (alone : x.Alone outside)
    (chunks : i.commitment = .chunks attr) (returns : x.Returns outside) : x.Wraps outside i.registry := by
  obtain ⟨z, returned⟩ := returns
  obtain ⟨b, wr, fresh, made, wrapping, held⟩ := (h.of_chunks alone chunks).2.2 z returned
  exact ⟨z, b, wr, attr, returned, held, fresh, made, wrapping⟩

/-- Which hooks have committed after an assignment. -/
theorem Alone.hook (alone : x.Alone outside) {b : Address} {c : Bool}
    (before : x.world.heap[b]? = some (.interceptor { i with committed := c })) :
    ∃ c', (x.after outside).heap[b]? = some (.interceptor { i with committed := c' }) ∧
      (c' = true ↔ c = true ∨ x.Accepted outside b) := by
  by_cases taken : ∃ a j, x.Takes outside a j
  · obtain ⟨a, j, h⟩ := taken
    have committed := h.committed alone
    by_cases same : b = a
    · subst same
      have found := (hook?_eq_some h.1).1
      rw [before] at found
      cases found
      exact ⟨true, committed.here, fun _ => .inr h.2.2, fun _ => rfl⟩
    · refine ⟨c, committed.others b _ same before, .inl, fun or => or.resolve_right fun accepted => ?_⟩
      exact same (h.accepted accepted)
  · have kept := (alone.untaken fun a j h => taken ⟨a, j, h⟩).1
    refine ⟨c, kept.hooks b _ before, .inl, fun or => or.elim id fun accepted => ?_⟩
    obtain ⟨⟨j, reached⟩, passed⟩ := accepted
    have found := (hook?_eq_some reached).1
    rw [before] at found
    cases found
    cases c with
    | true => rfl
    | false => exact absurd ⟨b, _, reached, rfl, ⟨_, reached⟩, passed⟩ taken

end Assignment

theorem World.Placed.after {n : Nat} (placed : x.world.Placed n) (alone : x.Alone outside) :
    (x.after outside).Placed n := by
  by_cases taken : ∃ a i, x.Takes outside a i
  · obtain ⟨a, i, h⟩ := taken
    have committed := h.committed alone
    refine ⟨committed.size ▸ placed.here, fun b held => ?_⟩
    by_cases changed : ((x.after outside).registry n).modules = (x.world.registry n).modules
    · exact Nat.lt_of_lt_of_le (placed.present b (changed ▸ held)) committed.room
    · obtain ⟨a', i', h', table, rfl, z, returned⟩ := alone.modules_changed changed
      obtain ⟨b', t, -, made, -, modules⟩ := (h'.of_table alone table).2.2 z returned
      rw [Assignment.after, after_ok returned] at held ⊢
      rw [modules placed.here] at held
      cases held
      exact (Array.getElem?_eq_some_iff.mp made).1
  · exact placed.kept (alone.untaken fun a i h => taken ⟨a, i, h⟩).1

end Patchwork
