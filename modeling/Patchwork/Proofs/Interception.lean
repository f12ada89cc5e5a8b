import Patchwork.Proofs.Growth
import Patchwork.Proofs.Nesting

/-!
What a hook does with an assignment. If the checks fail, the value is stored. If they pass, the hook commits, goes off
its class and takes the value over.
-/

namespace Patchwork

open Run

variable {κ : Type} {u v w z : World κ} {a : Address} {i : Interceptor}

/-! ## What leaves the hooks alone -/

/-- Every hook is the same in both worlds, what is an object of a class stays one, and the registries have the
same module tables. -/
structure HooksKept (w w' : World κ) : Prop where
  hooks : ∀ (a : Nat) i, w.heap[a]? = some (.interceptor i) → w'.heap[a]? = some (.interceptor i)
  instances : ∀ (a : Nat) cls attrs core, w.heap[a]? = some (.instance cls attrs core) →
    ∃ attrs', w'.heap[a]? = some (.instance cls attrs' core)
  modules : ∀ n, (w'.registry n).modules = (w.registry n).modules
  room : w.heap.size ≤ w'.heap.size
  size : w'.registries.size = w.registries.size

instance : Lasting (HooksKept (κ := κ)) where
  refl _ := ⟨fun _ _ h => h, fun _ _ attrs _ h => ⟨attrs, h⟩, fun _ => rfl, Nat.le_refl _, rfl⟩
  trans first second :=
    ⟨fun a i h => second.hooks a i (first.hooks a i h), fun a cls attrs core h => by
      obtain ⟨attrs', h'⟩ := first.instances a cls attrs core h
      exact second.instances a cls attrs' core h',
      fun n => (second.modules n).trans (first.modules n), Nat.le_trans first.room second.room,
      second.size.trans first.size⟩

theorem Quiet.hooksKept (h : Quiet v w) : HooksKept v w where
  hooks a i found := by
    obtain ⟨o, found', same⟩ := h.heap a _ found
    cases o with
    | interceptor j =>
        cases same
        exact found'
    | _ => cases same
  instances a cls attrs core found := by
    obtain ⟨o, found', same⟩ := h.heap a _ found
    cases o with
    | «instance» cls' attrs' core' =>
        cases same
        exact ⟨attrs', found'⟩
    | _ => cases same
  modules n := by rw [World.registry, World.registry, h.registries]
  room := h.heap.size_le
  size := by rw [h.registries]

instance : Still (HooksKept (κ := κ)) where
  quiet h := h.hooksKept

/-! ## The parts of a hook -/

section

variable {R : World κ → World κ → Prop} [Moves R]

theorem Interceptor.at?_run (a : Address) (w : World κ) :
    ∃ found, (Interceptor.at? a : Within R _).run w = .ok found w := by
  have seen : (objectAt? a : Within R _).run w = .ok w.heap[a]? w := rfl
  rw [Interceptor.at?, Within.run_bind, bind_of_ok seen]
  split <;> exact ⟨_, rfl⟩

theorem Interceptor.at?_of_found (found : w.heap[a]? = some (.interceptor i)) :
    (Interceptor.at? a : Within R _).run w = .ok (some i) w := by
  have seen : (objectAt? a : Within R _).run w = .ok w.heap[a]? w := rfl
  rw [Interceptor.at?, Within.run_bind, bind_of_ok seen, found]
  rfl

theorem classAttrs_run (cls : Address) (w : World κ) :
    ∃ attrs, (classAttrs cls : Within R _).run w = .ok attrs w := by
  have seen : (objectAt? cls : Within R _).run w = .ok w.heap[cls]? w := rfl
  rw [classAttrs, Within.run_bind, bind_of_ok seen]
  split <;> exact ⟨_, rfl⟩

theorem setClassAttrs_quiet (cls : Address) (attrs : Attributes) (w : World κ) :
    ∃ z, (setClassAttrs cls attrs : Within R Unit).run w = .ok () z ∧ Quiet w z := by
  have seen : (objectAt? cls : Within R _).run w = .ok w.heap[cls]? w := rfl
  rw [setClassAttrs, Within.run_bind, bind_of_ok seen]
  split
  · exact ⟨_, rfl, (write cls (.attrs attrs) : Quietly κ Unit).within w⟩
  · exact ⟨w, rfl, Lasting.refl w⟩

theorem removeHook_quiet (a : Address) (w : World κ) :
    ∃ z, (removeHook a : Within R Unit).run w = .ok () z ∧ Quiet w z := by
  obtain ⟨found, ran⟩ := Interceptor.at?_run (R := R) a w
  rw [removeHook, Within.run_bind, bind_of_ok ran]
  cases found with
  | none => exact ⟨w, rfl, Lasting.refl w⟩
  | some i =>
      obtain ⟨attrs, own⟩ := classAttrs_run (R := R) i.owner w
      simp only
      rw [Within.run_bind, bind_of_ok own]
      split
      · split
        · exact setClassAttrs_quiet _ _ w
        · exact ⟨w, rfl, Lasting.refl w⟩
      · exact ⟨w, rfl, Lasting.refl w⟩

theorem textAttr?_quiet (v : Value) (name : String) (w : World κ) :
    Quiet w ((textAttr? v name : Within R _).run.after w) := by
  rw [textAttr?, Within.run_bind]
  refine bind_within (fun w => (getAttr?_grows v name w).quiet) (fun found w => ?_) w
  split <;> exact Lasting.refl w

theorem wrap_quiet (wrapping : Wrapping) (v : Value) (more : Attributes) (w : World κ) :
    Quiet w ((wrap wrapping v more : Within R Value).run.after w) := by
  rw [wrap]
  refine bind_within (textAttr?_quiet v "__name__") (fun name w => ?_) w
  refine bind_within (textAttr?_quiet v "__qualname__") (fun full w => ?_) w
  have seen : (heap : Within R _).run w = .ok w.heap w := rfl
  rw [Within.run_bind, after_bind_ok seen]
  exact (new _ : Quietly κ Value).within w

/-- A wrapper is a new object. -/
theorem wrap_ok {wrapping : Wrapping} {v made : Value} {more : Attributes}
    (h : (wrap wrapping v more : Within R Value).run w = .ok made z) :
    ∃ u wr, Quiet w u ∧ made = .ref u.heap.size ∧ wr.wrapping = wrapping ∧
      z = { u with heap := u.heap.push (.wrapper wr) } := by
  rw [wrap] at h
  obtain ⟨name, u₁, first, h⟩ := bind_ok.mp h
  obtain ⟨full, u₂, second, h⟩ := bind_ok.mp h
  have named := textAttr?_quiet (R := R) v "__name__" w
  have qualified := textAttr?_quiet (R := R) v "__qualname__" u₁
  rw [after_ok first] at named
  rw [after_ok second] at qualified
  cases h
  exact ⟨u₂, _, Lasting.trans named qualified, rfl, rfl, rfl⟩

theorem takeChunks_quiet (attr : String) (runtime original : Value) (n : Nat) (w : World κ) :
    Quiet w ((takeChunks attr runtime original n : Within R Value).run.after w) := by
  have seen : (heap : Within R _).run w = .ok w.heap w := rfl
  rw [takeChunks, Within.run_bind, after_bind_ok seen]
  exact bind_within (log .info _ : Quietly κ Unit).within (fun _ => wrap_quiet _ original []) w

theorem takeChunks_ok {attr : String} {runtime original made : Value} {n : Nat}
    (h : (takeChunks attr runtime original n : Within R Value).run w = .ok made z) :
    ∃ b wr, w.heap.size ≤ b ∧ made = .ref b ∧ z.heap[b]? = some (.wrapper wr) ∧
      wr.wrapping = .chunks attr original runtime n := by
  have seen : (heap : Within R _).run w = .ok w.heap w := rfl
  rw [takeChunks, Within.run_bind, bind_of_ok seen] at h
  obtain ⟨⟨⟩, u, logged, h⟩ := bind_ok.mp h
  obtain ⟨v, wr, quiet, rfl, wraps, rfl⟩ := wrap_ok h
  have room := quiet.hooksKept.room
  cases logged
  exact ⟨v.heap.size, wr, room, rfl, Array.getElem?_push_size, wraps⟩

/-- What the host's own table held. It is empty after that. -/
def takeEntries (call : Caller κ) [Calls call R] (runtime modules : Value) : Within R (List (Value × Value)) := do
  log .info s!"Found module factory table on {(← heap).typeName false runtime}"
  let copied ← Script.entriesOf call modules
  if ← isMutableMapping modules then
    let _ ← ask call (← readAttr call modules "clear") (.of [])
  pure (copied.foldl (fun d e => Value.insert d e.1 e.2) [])

theorem takeTable_run (call : Caller κ) [Calls call R] (runtime modules : Value) (n : Nat) :
    (takeTable call runtime modules n : Within R Value).run =
      (takeEntries call runtime modules : Within R _).run >>= fun factories => (do
        let table ← new (.table (Table.of factories (.native (.patching n))))
        setModules n table
        pure table : Within R Value).run := by
  rw [takeTable, takeEntries]
  simp only [Within.run_bind, bind_assoc]
  refine bind_congr fun h => bind_congr fun _ => bind_congr fun copied => bind_congr fun mutable => ?_
  cases mutable with
  | false => rfl
  | true =>
      simp only [if_true, Within.run_bind, bind_assoc]
      rfl

end

/-! ## What a hook takes -/

/-- What an object of a class has under a name itself. -/
def World.stored (w : World κ) (a : Address) (name : String) : Option Value :=
  match w.heap[a]? with
  | some (.instance _ attrs _) => attrs.get? name
  | _ => none

theorem Attributes.get?_set (attrs : Attributes) (name : String) (v : Value) :
    (attrs.set name v).get? name = some v := by
  rw [get?, set]
  split
  · next has =>
      induction attrs with
      | nil => cases has
      | cons a attrs ih =>
          by_cases here : a.1 = name
          · simp [here]
          · have rest : attrs.any (·.1 == name) = true := by simpa [here] using has
            have away : ¬((a.1 == name) = true) := by simpa using here
            rw [List.map_cons, if_neg away, List.find?_cons_of_neg (p := fun e : String × Value => e.1 == name) away]
            exact ih rest
  · next lacks =>
      rw [Bool.not_eq_true, List.any_eq_false] at lacks
      rw [List.find?_append, List.find?_eq_none.mpr lacks]
      simp

section

variable {R : World κ → World κ → Prop} [Moves R] {call : Caller κ} {r : Address} {value : Value}

theorem storeOn_run (r : Address) (name : String) (value : Value) (w : World κ) :
    ∃ z, (storeOn (.ref r) name value : Within R Unit).run w = .ok () z ∧ Quiet w z ∧
      ∀ cls attrs core, w.heap[r]? = some (.instance cls attrs core) → z.stored r name = some value := by
  have seen : (objectAt? r : Within R _).run w = .ok w.heap[r]? w := rfl
  rw [storeOn, Within.run_bind, bind_of_ok seen]
  split
  · next cls attrs core found =>
      refine ⟨_, rfl, (write r (.attrs (attrs.set name value)) : Quietly κ Unit).within w, fun _ _ _ _ => ?_⟩
      simp only [World.stored, Array.getElem?_modify, if_true, found, Option.map_some, Object.filled]
      exact Attributes.get?_set attrs name value
  · next other => exact ⟨w, rfl, Lasting.refl w, fun cls attrs core found => absurd found (other cls attrs core)⟩

/-- What a hook does once its checks have passed. -/
def takeOver (call : Caller κ) (a : Address) (i : Interceptor) (runtime value : Value) : Working call Unit := do
  replace a (.interceptor { i with committed := true })
  removeHook a
  let value ← match i.commitment with
    | .table => takeTable call runtime value i.registry
    | .chunks attr => takeChunks attr runtime value i.registry
  storeOn runtime i.name value

theorem intercept_committed (found : w.heap[a]? = some (.interceptor i)) (done : i.committed = true) :
    (intercept call a (.ref r) value : Working call Unit).run w =
      (storeOn (.ref r) i.name value : Working call Unit).run w := by
  rw [intercept, Within.run_bind, bind_of_ok (Interceptor.at?_of_found found)]
  simp only [done]
  rfl

theorem intercept_checks (found : w.heap[a]? = some (.interceptor i)) (waits : i.committed = false) :
    (intercept call a (.ref r) value : Working call Unit).run w =
      ((i.matcher.accepts call (.ref r) : Working call Bool).run >>= fun genuine =>
        if genuine then (takeOver call a i (.ref r) value).run
        else (storeOn (.ref r) i.name value : Working call Unit).run) w := by
  rw [intercept, Within.run_bind, bind_of_ok (Interceptor.at?_of_found found)]
  simp only [waits, Bool.false_eq_true, if_false, Within.run_bind]
  refine congrFun (congrArg _ (funext fun genuine => ?_)) w
  cases genuine <;> rfl

/-- The world in which a hook says that it has committed. -/
def World.marked (w : World κ) (a : Address) (i : Interceptor) : World κ :=
  { w with heap := w.heap.setIfInBounds a (.interceptor { i with committed := true }) }

/-- The world in which it is off its class as well. -/
def World.released (call : Caller κ) (w : World κ) (a : Address) (i : Interceptor) : World κ :=
  (removeHook a : Working call Unit).run.after (w.marked a i)

/-- One hook has committed between two worlds; the others are the same. -/
structure Committed (a : Address) (i : Interceptor) (w w' : World κ) : Prop where
  here : w'.heap[a]? = some (.interceptor { i with committed := true })
  others : ∀ (b : Nat) j, b ≠ a → w.heap[b]? = some (.interceptor j) → w'.heap[b]? = some (.interceptor j)
  instances : ∀ (b : Nat) cls attrs core, w.heap[b]? = some (.instance cls attrs core) →
    ∃ attrs', w'.heap[b]? = some (.instance cls attrs' core)
  room : w.heap.size ≤ w'.heap.size
  size : w'.registries.size = w.registries.size

theorem Committed.kept (h : Committed a i u v) (kept : HooksKept v w) : Committed a i u w where
  here := kept.hooks a _ h.here
  others b j other found := kept.hooks b j (h.others b j other found)
  instances b cls attrs core found := by
    obtain ⟨attrs', found'⟩ := h.instances b cls attrs core found
    exact kept.instances b cls attrs' core found'
  room := Nat.le_trans h.room kept.room
  size := kept.size.trans h.size

theorem Committed.after (h : Committed a i v w) (kept : HooksKept u v) : Committed a i u w where
  here := h.here
  others b j other found := h.others b j other (kept.hooks b j found)
  instances b cls attrs core found := by
    obtain ⟨attrs', found'⟩ := kept.instances b cls attrs core found
    exact h.instances b cls attrs' core found'
  room := Nat.le_trans kept.room h.room
  size := h.size.trans kept.size

theorem World.marked_committed (found : w.heap[a]? = some (.interceptor i)) : Committed a i w (w.marked a i) where
  here := by simp [marked, (Array.getElem?_eq_some_iff.mp found).1]
  others b j other found' := by simp only [marked, Array.getElem?_setIfInBounds_ne (Ne.symm other), found']
  instances b cls attrs core found' := by
    have other : a ≠ b := by
      rintro rfl
      rw [found] at found'
      cases found'
    exact ⟨attrs, by simp only [marked, Array.getElem?_setIfInBounds_ne other, found']⟩
  room := by simp [marked]
  size := rfl

theorem World.released_committed (found : w.heap[a]? = some (.interceptor i)) :
    Committed a i w (w.released call a i) := by
  obtain ⟨z, ran, quiet⟩ := removeHook_quiet (R := Acts call) a (w.marked a i)
  rw [released, after_ok ran]
  exact (marked_committed found).kept quiet.hooksKept

theorem World.released_registry (w : World κ) (a : Address) (i : Interceptor) :
    (w.released call a i).registry = w.registry := by
  obtain ⟨z, ran, quiet⟩ := removeHook_quiet (R := Acts call) a (w.marked a i)
  funext n
  rw [released, after_ok ran, registry, quiet.registries]
  rfl

/-- The world in which a table is that of a registry. -/
def World.tabled (w : World κ) (n : Nat) (factories : List (Value × Value)) : World κ :=
  World.modifyRegistry { w with heap := w.heap.push (.table (Table.of factories (.native (.patching n)))) } n
    fun r => { r with modules := .ref w.heap.size }

theorem Committed.tabled {n : Nat} {factories : List (Value × Value)} (h : Committed a i u v) :
    Committed a i u (v.tabled n factories) := by
  have pushed : HooksKept v { v with heap := v.heap.push (.table (Table.of factories (.native (.patching n)))) } :=
    ((alloc (.table (Table.of factories (.native (.patching n)))) : Quietly κ _).within v).hooksKept
  have first := h.kept pushed
  exact ⟨first.here, first.others, first.instances, first.room, (World.modifyRegistry_size _ _ _).trans first.size⟩

theorem takeOver_table (table : i.commitment = .table) :
    (takeOver call a i (.ref r) value).run w =
      ((takeEntries call (.ref r) value : Working call _).run >>= fun factories => do
        let v ← get
        set (v.tabled i.registry factories)
        (storeOn (.ref r) i.name (.ref v.heap.size) : Working call Unit).run) (w.released call a i) := by
  obtain ⟨z, ran, -⟩ := removeHook_quiet (R := Acts call) a (w.marked a i)
  have marked : (replace a (.interceptor { i with committed := true }) : Working call Unit).run w =
      .ok () (w.marked a i) := rfl
  rw [takeOver, Within.run_bind, bind_of_ok marked, Within.run_bind, bind_of_ok ran, World.released, after_ok ran,
    table]
  simp only [Within.run_bind, takeTable_run, bind_assoc]
  rfl

theorem takeOver_chunks {attr : String} (chunks : i.commitment = .chunks attr) :
    (takeOver call a i (.ref r) value).run w =
      ((takeChunks attr (.ref r) value i.registry : Working call _).run >>= fun made =>
        (storeOn (.ref r) i.name made : Working call Unit).run) (w.released call a i) := by
  obtain ⟨z, ran, -⟩ := removeHook_quiet (R := Acts call) a (w.marked a i)
  have marked : (replace a (.interceptor { i with committed := true }) : Working call Unit).run w =
      .ok () (w.marked a i) := rfl
  rw [takeOver, Within.run_bind, bind_of_ok marked, Within.run_bind, bind_of_ok ran, World.released, after_ok ran,
    chunks]
  rfl

end

end Patchwork
