import Patchwork.Proofs.Containment

/-!
What operations on tables are made of: reads by key, single changes that leave alone what counts as processed, calls of
other code, and quiet changes. What these keep, all operations keep.
-/

namespace Patchwork

open Run

variable {κ : Type} {R : World κ → World κ → Prop} [Moves R] {w : World κ}

/-- The table at an address; an empty one if there is none. -/
def Heap.table (h : Heap) (a : Address) : Table :=
  match h[a]? with
  | some (.table t) => t
  | _ => default

theorem Heap.table_at {h : Heap} {a : Address} {t : Table} (there : h[a]? = some (.table t)) : h.table a = t := by
  rw [Heap.table, there]

/-! ## Runs of single operations -/

theorem tableAt_run (a : Address) (w : World κ) : (tableAt a : Within R Table).run w = .ok (w.heap.table a) w := by
  have seen : (objectAt? a : Within R _).run w = .ok w.heap[a]? w := rfl
  rw [tableAt, Within.run_bind, bind_of_ok seen, Heap.table]
  cases w.heap[a]? with
  | none => rfl
  | some o => cases o <;> rfl

theorem checkKey_failed {S : World κ → World κ → Prop} [Still S] {key : Value} {type : String}
    (h : w.heap.unhashable? key = some type) :
    (checkKey key : Within S Unit).run w = .error (.failed (.unhashable type)) w := by
  have seen : (heap : Within S _).run w = .ok w.heap w := rfl
  rw [checkKey, Within.run_bind, bind_of_ok seen, h]
  rfl

/-- What reading an entry does: the patcher of the table is called exactly if the entry is there and fresh, and it is
marked as processed before. -/
theorem read_run (patch : Caller κ) [Calls patch R] (a : Address) (key : Value) (w : World κ) :
    (Table.read patch a key : Within R Value).run w = match w.heap.unhashable? key, (w.heap.table a).get? key with
      | some type, _ => .error (.failed (.unhashable type)) w
      | none, none => .error (.failed (.noKey key)) w
      | none, some factory =>
        if (w.heap.table a).isFresh key factory then
          patch (w.heap.table a).patcher (.of [.ref a, key, factory])
            (w.replaced a (.table ((w.heap.table a).process key)))
        else .ok factory w := by
  rw [Table.read, Within.run_bind]
  cases hashable : w.heap.unhashable? key with
  | some type => exact bind_of_error (checkKey_failed hashable)
  | none =>
      rw [bind_of_ok (checkKey_ok hashable), Within.run_bind, bind_of_ok (tableAt_run a w)]
      cases (w.heap.table a).get? key with
      | none => rfl
      | some factory =>
          have marked : (setTable a ((w.heap.table a).process key) : Within R Unit).run w =
              .ok () (w.replaced a (.table ((w.heap.table a).process key))) := rfl
          dsimp only
          split
          · rw [Within.run_bind, bind_of_ok marked]
            rfl
          · rfl

/-! ## Relations that computations keep -/

/-- All runs of a computation keep a relation. -/
def Within.Keeps {α : Type} (m : Within R α) (Q : World κ → World κ → Prop) : Prop :=
  ∀ w, Q w (m.run.after w)

section

variable {Q : World κ → World κ → Prop} [Lasting Q] {α β : Type}

namespace Within.Keeps

theorem pure (x : α) : (Pure.pure x : Within R α).Keeps Q :=
  fun w => Lasting.refl w

theorem fail (c : Cause) : (Run.fail c : Within R α).Keeps Q :=
  fun w => Lasting.refl w

theorem throw (e : Fault) : (MonadExcept.throw e : Within R α).Keeps Q :=
  fun w => Lasting.refl w

theorem bind {m : Within R α} {f : α → Within R β} (hm : m.Keeps Q) (hf : ∀ x, (f x).Keeps Q) :
    (m >>= f).Keeps Q :=
  bind_within hm hf

theorem fail_bind (c : Cause) (f : α → Within R β) : (Run.fail c >>= f).Keeps Q :=
  fun w => Lasting.refl w

theorem handle {m : Within R α} {f : Cause → Within R α} (hm : m.Keeps Q) (hf : ∀ c, (f c).Keeps Q) :
    (Run.handle m f).Keeps Q := by
  intro w
  rw [run_handle]
  exact handle_within hm hf w

theorem forM {f : α → Within R Unit} (hf : ∀ x, (f x).Keeps Q) : (xs : List α) → (xs.forM f).Keeps Q
  | [] => .pure ()
  | x :: xs => .bind (hf x) fun _ => forM hf xs

end Within.Keeps

theorem tableAt_keeps (a : Address) : (tableAt a : Within R Table).Keeps Q := by
  intro w
  rw [after_ok (tableAt_run a w)]
  exact Lasting.refl w

theorem checkKey_keeps (key : Value) : (checkKey key : Within R Unit).Keeps Q := by
  intro w
  cases hashable : w.heap.unhashable? key with
  | none =>
      rw [after_ok (checkKey_ok hashable)]
      exact Lasting.refl w
  | some type =>
      rw [after_error (checkKey_failed hashable)]
      exact Lasting.refl w

theorem keyAndDefault_keeps (function : String) (args : Arguments) :
    (Table.keyAndDefault function args : Within R (Value × Option Value)).Keeps Q := by
  unfold Table.keyAndDefault
  dsimp only
  split
  · split
    · exact .pure _
    · exact .fail _
  · exact .pure _
  · exact .pure _

theorem givenKey_keeps (function : String) (args : Arguments) :
    (Table.givenKey function args : Within R Value).Keeps Q := by
  rw [Table.givenKey]
  split
  · exact .pure _
  · exact .pure _
  · exact .fail _
  · exact .fail _

theorem visitFrom_keeps {f : Value → Within R α} (hf : ∀ key, (f key).Keeps Q) (a : Address) (size : Nat) :
    (fuel : Nat) → (passed : List Value) → (Table.visitFrom a size f passed fuel).Keeps Q
  | 0, passed => by
      refine .bind (tableAt_keeps a) fun t => ?_
      dsimp only
      split
      · exact .fail_bind _ _
      · split
        · exact .fail_bind _ _
        · exact .pure _
  | fuel + 1, passed => by
      refine .bind (tableAt_keeps a) fun t => ?_
      dsimp only
      split
      · exact .fail_bind _ _
      · split
        · exact .pure _
        · split
          · exact visitFrom_keeps hf a size fuel _
          · refine .bind (hf _) fun v => .bind (visitFrom_keeps hf a size fuel _) fun vs => .pure _

theorem visit_keeps {f : Value → Within R α} (hf : ∀ key, (f key).Keeps Q) (a : Address) :
    (Table.visit a f).Keeps Q :=
  .bind (tableAt_keeps a) fun _ => visitFrom_keeps hf a _ _ _

end

/-! ## All operations -/

/-- A single change that an operation makes to a table. -/
inductive Table.Change (t : Table) : Table → Prop where
  | stored (key value : Value) : Change t (t.set key value)
  | hidden (key : Value) : Change t (t.hide key)
  | described (key : Value) : Change t (t.describe key).2
  | removed {key : Value} : t.isPinned key = false → t.contains key = true → Change t (t.erase key)

/-- A relation between worlds that the parts of table operations keep, each for what it is. -/
structure Admits (call patch : Caller κ) (R Q : World κ → World κ → Prop) [Moves R] [Calls patch R] : Prop where
  quiet : ∀ {u v}, Quiet u v → Q u v
  changed : ∀ {w : World κ} {a : Address} {t : Table}, (w.heap.table a).Change t → Q w (w.replaced a (.table t))
  called : call.Keeps Q
  read : ∀ a key, (Table.read patch a key : Within R Value).Keeps Q

/-- A relation between worlds that the parts of table operations keep for leaving alone what counts as processed. -/
structure Allows (call patch : Caller κ) (R Q : World κ → World κ → Prop) [Moves R] [Calls patch R] : Prop where
  quiet : ∀ {u v}, Quiet u v → Q u v
  written : ∀ {w : World κ} {a : Address} {t : Table}, t.processed = (w.heap.table a).processed →
    Q w (w.replaced a (.table t))
  called : call.Keeps Q
  read : ∀ a key, (Table.read patch a key : Within R Value).Keeps Q

section

variable {Q : World κ → World κ → Prop} {α : Type}

/-- A change of a table that leaves alone what counts as processed. -/
theorem changeTable_keeps {f : Table → Within R α} {a : Address} (hf : ∀ w, Q w ((f (w.heap.table a)).run.after w)) :
    (tableAt a >>= f).Keeps Q := by
  intro w
  rw [Within.run_bind, after_bind_ok (tableAt_run a w)]
  exact hf w

/-- Describing an entry changes nothing but what is pinned. -/
theorem describe_pins (t : Table) (key : Value) : ∃ pinned, (t.describe key).2 = { t with pinned } := by
  rw [Table.describe]
  split
  · exact ⟨_, rfl⟩
  · split <;> exact ⟨_, rfl⟩

theorem describe_processed (t : Table) (key : Value) : (t.describe key).2.processed = t.processed := by
  obtain ⟨pinned, eq⟩ := describe_pins t key
  rw [eq]

theorem Table.Change.processed {t t' : Table} (change : t.Change t') : t'.processed = t.processed := by
  cases change with
  | described key => exact describe_processed t key
  | _ => rfl

theorem Allows.admits {call patch : Caller κ} [Calls patch R] (allows : Allows call patch R Q) :
    Admits call patch R Q where
  quiet := allows.quiet
  changed change := allows.written change.processed
  called := allows.called
  read := allows.read

namespace Admits

variable {call patch : Caller κ} [Calls patch R] (admits : Admits call patch R Q)
include admits

theorem new (o : Object) : (Run.new o : Within R Value).Keeps Q :=
  fun w => admits.quiet ⟨.push w.heap o, rfl, rfl, rfl, rfl, rfl, rfl⟩

variable [Lasting Q]

theorem store (a : Address) (key value : Value) : (Table.store a key value : Within R Unit).Keeps Q :=
  .bind (checkKey_keeps key) fun _ => changeTable_keeps fun _ => admits.changed (.stored key value)

theorem conceal (a : Address) (key : Value) : (Table.conceal a key : Within R Unit).Keeps Q :=
  .bind (checkKey_keeps key) fun _ => changeTable_keeps fun _ => admits.changed (.hidden key)

theorem remove (a : Address) (key : Value) : (Table.remove a key : Within R Unit).Keeps Q := by
  refine .bind (checkKey_keeps key) fun _ => changeTable_keeps fun w => ?_
  dsimp only
  split
  · exact Lasting.refl w
  · next unpinned =>
      split
      · next stored => exact admits.changed (.removed (Bool.eq_false_iff.mpr unpinned) stored)
      · exact Lasting.refl w

theorem inspect (a : Address) (key : Value) : (Table.inspect a key : Within R (Option EntryDescriptor)).Keeps Q := by
  refine changeTable_keeps fun w => ?_
  have described : Q w (w.replaced a (.table ((w.heap.table a).describe key).2)) :=
    admits.changed (.described key)
  dsimp only
  split
  · cases hashable : w.heap.unhashable? key with
    | some type =>
        rw [Within.run_bind, after_bind_error (checkKey_failed hashable)]
        exact Lasting.refl w
    | none =>
        rw [Within.run_bind, after_bind_ok (checkKey_ok hashable)]
        exact described
  · exact described

theorem descriptorValue (d : Option EntryDescriptor) : (Table.descriptorValue d : Within R Value).Keeps Q := by
  cases d with
  | none => exact .pure _
  | some d => exact admits.new _

theorem readAll (a : Address) : (Table.readAll patch a : Within R (List (Value × Value))).Keeps Q :=
  visit_keeps (fun key => .bind (admits.read a key) fun _ => .pure _) a

theorem read? (a : Address) (key : Value) : (Table.read? patch a key : Within R (Option Value)).Keeps Q := by
  refine .handle (.bind (admits.read a key) fun _ => .pure _) fun c => ?_
  split
  · exact .pure _
  · exact .fail c

theorem take (a : Address) (key : Value) (default : Option Value) :
    (Table.take patch a key default : Within R Value).Keeps Q := by
  cases default with
  | none => exact .bind (admits.read a key) fun _ => .bind (admits.remove a key) fun _ => .pure _
  | some d =>
      refine .bind (admits.read? a key) fun found => ?_
      cases found with
      | none => exact .pure _
      | some v => exact .bind (admits.remove a key) fun _ => .pure _

theorem takeFirst (a : Address) : (Table.takeFirst patch a : Within R (Value × Value)).Keeps Q := by
  refine .bind (tableAt_keeps a) fun t => ?_
  cases t.keys with
  | nil => exact .fail _
  | cons key _ => exact .bind (admits.read a key) fun _ => .bind (admits.remove a key) fun _ => .pure _

theorem clearFrom (a : Address) : (fuel : Nat) → (Table.clearFrom patch a fuel : Within R Unit).Keeps Q
  | 0 => .throw _
  | fuel + 1 => by
      refine .bind (.handle (.bind (admits.takeFirst a) fun _ => .pure _) fun c => ?_) fun done => ?_
      · split
        · exact .pure _
        · exact .fail c
      · cases done with
        | true => exact .pure _
        | false => exact clearFrom a fuel

theorem clear (a : Address) : (Table.clear patch a : Within R Unit).Keeps Q :=
  .bind (tableAt_keeps a) fun _ => admits.clearFrom a _

theorem readOrStore (a : Address) (key default : Value) :
    (Table.readOrStore patch a key default : Within R Value).Keeps Q := by
  refine .bind (admits.read? a key) fun found => ?_
  cases found with
  | none => exact .bind (admits.store a key default) fun _ => .pure _
  | some v => exact .pure _

variable [Calls call R]

theorem withCalls (m : Calling call α) : (Run.withCalls call m : Within R α).Keeps Q := by
  have : Still Q := { quiet := admits.quiet }
  have : Calls call Q := { called := admits.called }
  exact fun w => (m.within w).within

theorem update (a : Address) (other : Value) : (Table.update call patch a other : Within R Unit).Keeps Q := by
  have seen : (object? other : Within R (Option Object)).Keeps Q := fun w => Lasting.refl w
  refine .bind seen fun o => ?_
  split
  · refine .bind (visit_keeps (fun key => ?_) _) fun _ => .pure _
    exact .bind (admits.read _ key) fun v => admits.store a key v
  · refine .bind (admits.withCalls _) fun found => ?_
    split
    · refine .forM (fun e => ?_) _
      exact .bind (admits.withCalls e.2) fun v => admits.store a e.1 v
    · refine .bind (admits.withCalls _) fun es => .forM (fun e => ?_) es
      refine .bind (admits.withCalls _) fun vs => ?_
      split
      · exact admits.store a _ _
      · split
        · exact .fail _
        · exact .fail _

theorem sameAs (a : Address) (other : List (Value × Value)) :
    (Table.sameAs call patch a other : Within R Bool).Keeps Q :=
  .bind (admits.readAll a) fun _ => .bind (admits.new _) fun _ => .bind (admits.new _) fun _ => admits.withCalls _

theorem callMethod (a : Address) (name : String) (args : Arguments) :
    (Table.callMethod call patch a name args : Within R Value).Keeps Q := by
  unfold Table.callMethod
  split
  case h_1 => exact .bind (givenKey_keeps _ args) (admits.read a)
  case h_2 => exact .bind (givenKey_keeps _ args) fun k => .bind (admits.remove a k) fun _ => .pure _
  case h_3 =>
      split
      · exact .bind (admits.store a _ _) fun _ => .pure _
      · exact .fail _
  case h_4 => exact .bind (givenKey_keeps _ args) fun _ => .bind (admits.withCalls _) fun _ => .pure _
  case h_5 => exact .bind (tableAt_keeps a) fun _ => .pure _
  case h_6 => exact .bind (givenKey_keeps _ args) fun k => .bind (admits.conceal a k) fun _ => .pure _
  case h_7 =>
      refine .bind (givenKey_keeps _ args) fun k => .bind (checkKey_keeps k) fun _ => ?_
      exact .bind (tableAt_keeps a) fun _ => .pure _
  case h_8 =>
      refine .bind (givenKey_keeps _ args) fun k => .bind (admits.inspect a k) fun d => ?_
      exact admits.descriptorValue d
  case h_9 => exact .bind (tableAt_keeps a) fun _ => admits.new _
  case h_10 => exact .bind (tableAt_keeps a) fun _ => admits.new _
  case h_11 => exact .bind (admits.readAll a) fun _ => admits.new _
  case h_12 => exact .bind (admits.readAll a) fun _ => admits.new _
  case h_13 => exact .bind (admits.clear a) fun _ => .pure _
  case h_14 => exact .bind (admits.takeFirst a) fun _ => .pure _
  case h_15 =>
      refine .bind (.forM (admits.update a) _) fun _ => .bind (.forM (fun e => ?_) _) fun _ => .pure _
      exact admits.store a _ _
  case h_16 =>
      refine .bind (keyAndDefault_keeps _ args) fun e => ?_
      dsimp only
      split
      · exact .bind (admits.read? a e.1) fun _ => .pure _
      · exact admits.take a e.1 e.2
      · exact admits.readOrStore a e.1 _

end Admits

end

/-! ## The operations -/

/-- What can be done with a table. -/
inductive Table.Op where
  | method (name : String) (args : Arguments)
  | contains (key : Value)
  | iterate
  | length
  | truth
  | text
  | equals (other : List (Value × Value))

namespace Table.Op

/-- An operation as it is done; the table calls its patcher with `patch`, and all else with `call`. -/
def on (call patch : Caller κ) [Calls call R] [Calls patch R] (a : Address) : Table.Op → Within R Value
  | method name args => callMethod call patch a name args
  | contains key => do pure (.bool (← withCalls call (Script.holds call (.ref a) key)))
  | iterate => do pure (.tuple (← visit a pure))
  | length => do pure (.int (← withCalls call (lengthOf call (.ref a))))
  | truth => do pure (.bool (← withCalls call (Run.truth call (.ref a))))
  | text => do pure (.str (← withCalls call (shown call (.ref a))))
  | equals other => do pure (.bool (← sameAs call patch a other))

/-- The methods that neither read an entry nor call anything else. -/
def silentMethods : List String :=
  ["__setitem__", "__delitem__", "__contains__", "__len__", "hide", "is_processed", "describe", "own_keys", "keys"]

/-- Operations that call nothing. -/
def isSilent : Table.Op → Bool
  | method name _ => silentMethods.contains name
  | equals _ => false
  | _ => true

section

variable {call patch : Caller κ} [Calls call R] [Calls patch R] {Q : World κ → World κ → Prop} [Lasting Q]

/-- What quiet changes, calls, single changes and reads keep, all operations keep. -/
theorem keeps_admitted (admits : Admits call patch R Q) (a : Address) (o : Table.Op) :
    (o.on call patch a : Within R Value).Keeps Q := by
  cases o with
  | method name args => exact admits.callMethod a name args
  | contains key => exact .bind (admits.withCalls _) fun _ => .pure _
  | iterate => exact .bind (visit_keeps (fun _ => .pure _) a) fun _ => .pure _
  | length => exact .bind (admits.withCalls _) fun _ => .pure _
  | truth => exact .bind (admits.withCalls _) fun _ => .pure _
  | text => exact .bind (admits.withCalls _) fun _ => .pure _
  | equals other => exact .bind (admits.sameAs a other) fun _ => .pure _

theorem keeps (allows : Allows call patch R Q) (a : Address) (o : Table.Op) :
    (o.on call patch a : Within R Value).Keeps Q :=
  keeps_admitted allows.admits a o

end

section

variable {call call' patch patch' : Caller κ} [Calls call R] [Calls call' R] [Calls patch R] [Calls patch' R]
  {a : Address} {t : Table}

/-- What goes on from one result is the same from another one like it. -/
theorem bind_same {α β : Type} {m m' : Run κ α} {f : α → Run κ β} (same : m w = m' w) : (m >>= f) w = (m' >>= f) w := by
  simp only [bind, EStateM.bind, same]

theorem givenKey_ok {function : String} {args : Arguments} {key : Value} {v : World κ}
    (h : (givenKey function args : Within R Value).run w = .ok key v) : w = v := by
  rw [givenKey] at h
  split at h <;> cases h <;> rfl

theorem askClass_table (there : w.heap[a]? = some (.table t)) (name : String) (args : List Value) :
    (askClass call (.ref a) name args : Calling call _).run w = .ok none w := by
  have seen : (heap : Calling call _).run w = .ok w.heap w := rfl
  have bare : (ownMethod? (.ref a) name : Calling call _).run w = .ok none w := by
    rw [ownMethod?, Within.run_bind, bind_of_ok seen]
    simp only [there]
    rfl
  rw [askClass, Within.run_bind, bind_of_ok bare]
  rfl

theorem core_table (there : w.heap[a]? = some (.table t)) : w.heap.core (.ref a) = .ref a := by
  simp only [Heap.core, there]

theorem at_table (there : w.heap[a]? = some (.table t)) : w.heap.at? (.ref a) = some (.table t) := by
  simp only [Heap.at?, core_table there, there]

theorem holds_table (there : w.heap[a]? = some (.table t)) (key : Value) :
    (Script.holds call (.ref a) key : Calling call Bool).run w = match w.heap.unhashable? key with
      | some type => .error (.failed (.unhashable type)) w
      | none => .ok (t.contains key) w := by
  have seen : (heap : Calling call _).run w = .ok w.heap w := rfl
  rw [Script.holds, Within.run_bind, bind_of_ok seen, Within.run_bind, bind_of_ok (askClass_table there _ _)]
  simp only [core_table there, at_table there]
  cases hashable : w.heap.unhashable? key with
  | some type => exact bind_of_error (checkKey_failed hashable)
  | none => exact bind_of_ok (checkKey_ok hashable)

theorem lengthOf_table (there : w.heap[a]? = some (.table t)) :
    (lengthOf call (.ref a) : Calling call Nat).run w = .ok t.size w := by
  have seen : (heap : Calling call _).run w = .ok w.heap w := rfl
  rw [lengthOf, Within.run_bind, bind_of_ok (askClass_table there _ _), Within.run_bind, bind_of_ok seen]
  simp only [core_table there, at_table there]
  rfl

theorem truth_table (there : w.heap[a]? = some (.table t)) :
    (Run.truth call (.ref a) : Calling call Bool).run w = .ok (w.heap.truth (.ref a)) w := by
  rw [Run.truth, Within.run_bind, bind_of_ok (askClass_table there _ _), Within.run_bind,
    bind_of_ok (askClass_table there _ _)]
  rfl

theorem shown_table (there : w.heap[a]? = some (.table t)) :
    (shown call (.ref a) : Calling call String).run w = .ok (w.heap.repr (.ref a)) w := by
  have bare : (askText call (.ref a) "__repr__" : Calling call _).run w = .ok none w := by
    rw [askText, Within.run_bind, bind_of_ok (askClass_table there _ _)]
    rfl
  have seen : (heap : Calling call _).run w = .ok w.heap w := rfl
  have alone : selfShown w.heap printedDepth (.ref a) = [] := by
    simp only [printedDepth, selfShown, there]
  rw [shown, Within.run_bind, bind_of_ok bare, Within.run_bind, bind_of_ok seen]
  simp only [core_table there, checkDigits]
  refine (bind_of_ok (a := ()) (v := w) rfl).trans ((bind_of_ok seen).trans ?_)
  simp only [alone]
  rfl

/-- Silent operations are the same whatever calls do. -/
theorem silent_run (there : w.heap[a]? = some (.table t)) {o : Table.Op} (silent : o.isSilent = true) :
    (o.on call patch a : Within R Value).run w = (o.on call' patch' a : Within R Value).run w := by
  have holds : ∀ key, (withCalls call (Script.holds call (.ref a) key) : Within R Bool).run w =
      (withCalls call' (Script.holds call' (.ref a) key) : Within R Bool).run w :=
    fun key => (holds_table there key).trans (holds_table there key).symm
  cases o with
  | equals other => cases silent
  | iterate => rfl
  | method name args =>
      simp only [isSilent, silentMethods, List.contains_eq_mem, List.mem_cons, List.not_mem_nil, or_false,
        decide_eq_true_eq] at silent
      rcases silent with rfl | rfl | rfl | rfl | rfl | rfl | rfl | rfl | rfl
      all_goals simp only [on, Table.callMethod]
      rw [Within.run_bind, Within.run_bind]
      cases given : (givenKey ("LazyModuleTable." ++ "__contains__") args : Within R Value).run w with
      | error e v => rw [bind_of_error given, bind_of_error given]
      | ok key v =>
          obtain rfl := givenKey_ok given
          rw [bind_of_ok given, bind_of_ok given]
          exact bind_same (holds key)
  | contains key => exact bind_same (holds key)
  | length =>
      have same : (withCalls call (lengthOf call (.ref a)) : Within R Nat).run w =
          (withCalls call' (lengthOf call' (.ref a)) : Within R Nat).run w :=
        (lengthOf_table there).trans (lengthOf_table there).symm
      exact bind_same same
  | truth =>
      have same : (withCalls call (Run.truth call (.ref a)) : Within R Bool).run w =
          (withCalls call' (Run.truth call' (.ref a)) : Within R Bool).run w :=
        (truth_table there).trans (truth_table there).symm
      exact bind_same same
  | text =>
      have same : (withCalls call (shown call (.ref a)) : Within R String).run w =
          (withCalls call' (shown call' (.ref a)) : Within R String).run w :=
        (shown_table there).trans (shown_table there).symm
      exact bind_same same

end

end Table.Op

end Patchwork
