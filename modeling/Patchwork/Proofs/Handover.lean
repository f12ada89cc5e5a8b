import Patchwork.Proofs.Clearing
import Patchwork.Proofs.Commitment
import Patchwork.Proofs.FirstReads

/-!
How a hook takes over what the host assigns as its table of factories. It copies what the assigned mapping gives for the keys
that it lists, and then has the mapping clear itself. What a dictionary holds is taken over as it is; what a lazy table holds
is so only if each of its entries is listed, needs no patching and was not described.
-/

namespace Patchwork

open Run

variable {κ : Type} {R : World κ → World κ → Prop} [Moves R] {w u v : World κ} {a b : Address} {t : Table} {n : Nat}
  {runtime modules : Value}

/-! ## The parts of a handover -/

section

variable {call : Caller κ} [Calls call R] {es : List (Value × Value)}

/-- The world in which a table has been found on a runtime. -/
def World.noticed (w : World κ) (runtime : Value) : World κ :=
  { w with trace := .log .info s!"Found module factory table on {w.heap.typeName false runtime}" none :: w.trace }

/-- Has a mapping that can be changed clear itself. -/
def emptyOut (call : Caller κ) [Calls call R] (modules : Value) : Within R Unit := do
  if ← isMutableMapping modules then
    let _ ← ask call (← readAttr call modules "clear") (.of [])

theorem takeTable_steps (w : World κ) : (takeTable call runtime modules n : Within R Value).run w =
    (do
      let copied ← Script.entriesOf call modules
      emptyOut call modules
      let table ← new (.table (Table.of (copied.foldl (fun d e => Value.insert d e.1 e.2) []) (.native (.patching n))))
      setModules n table
      pure table : Within R Value).run (w.noticed runtime) := by
  have told : (log .info s!"Found module factory table on {w.heap.typeName false runtime}" : Within R Unit).run w =
      .ok () (w.noticed runtime) := rfl
  rw [takeTable, Within.run_bind, bind_of_ok (heap_run _), Within.run_bind, bind_of_ok told]
  simp only [emptyOut, Within.run_bind, bind_assoc]
  refine congrFun (bind_congr fun copied => bind_congr fun mutable => ?_) _
  cases mutable with
  | false => rfl
  | true =>
      simp only [if_true, Within.run_bind, bind_assoc]
      rfl

/-- Entries that could be copied, from a mapping that could be cleared, are those of the new table. -/
theorem takeTable_ok (copied : (Script.entriesOf call modules : Within R _).run (w.noticed runtime) = .ok es u)
    (emptied : (emptyOut call modules : Within R Unit).run u = .ok () v) (apart : Value.Apart es) :
    (takeTable call runtime modules n : Within R Value).run w = .ok (.ref v.heap.size) (v.tabled n es) := by
  rw [takeTable_steps, Within.run_bind, bind_of_ok copied, Within.run_bind, bind_of_ok emptied]
  have inserted := Value.foldl_insert [] apart
  rw [List.nil_append] at inserted
  rw [inserted]
  rfl

theorem takeTable_done {made : Value} {z : World κ}
    (h : (takeTable call runtime modules n : Within R Value).run w = .ok made z) :
    ∃ es u v, (Script.entriesOf call modules : Within R _).run (w.noticed runtime) = .ok es u ∧
      (emptyOut call modules : Within R Unit).run u = .ok () v ∧ made = .ref v.heap.size ∧
        z = v.tabled n (es.foldl (fun d e => Value.insert d e.1 e.2) []) := by
  rw [takeTable_steps] at h
  obtain ⟨es, u, copied, h⟩ := bind_ok.mp h
  obtain ⟨⟨⟩, v, emptied, h⟩ := bind_ok.mp h
  cases h
  exact ⟨es, u, v, copied, emptied, rfl, rfl⟩

end

/-! ## Methods that are built in -/

section

variable {call : Caller κ} [Calls call R] {name : String}

/-- A method that a class says nothing about is the built-in one. -/
theorem readAttr_builtin (bare : (ownMethod? modules "__getattr__" : Within R _).run w = .ok none w)
    (stored : (computedAttr? call modules name : Within R _).run w = .ok none w)
    (plain : (getAttr modules name : Within R Value).run w = (builtinMethod modules name : Within R Value).run w)
    (core : w.heap.core modules = .ref b) (other : name ≠ "__class__")
    (has : (methodsOf (w.heap.typeName false (.ref b))).contains name = true) :
    (readAttr call modules name : Within R Value).run w = .ok (.bound modules name) w := by
  rw [readAttr, Within.run_bind, bind_of_ok bare, Within.run_bind, bind_of_ok stored]
  refine plain.trans ?_
  rw [builtinMethod, Within.run_bind, bind_of_ok (heap_run _), if_neg other]
  simp only [core]
  have number : (Value.ref b).numberPart? name = none := rfl
  rw [number]
  dsimp only
  rw [if_pos has]
  rfl

end

/-! ## Lazy tables -/

namespace Table

/-- Calls of the methods of a table do what these do; the table calls its patcher with `patch`, and all else with `inner`. -/
def Serves (call inner patch : Caller κ) (a : Address) : Prop :=
  ∃ (R : World κ → World κ → Prop) (_ : Moves R) (_ : Calls inner R) (_ : Calls patch R), ∀ name args (w : World κ) t,
    w.heap[a]? = some (.table t) →
      call (.bound (.ref a) name) args w = (callMethod inner patch a name args : Within R Value).run w

/-- The machine serves tables; they call with what calls one level below. -/
theorem callWithin_serves (outside : Surroundings κ) (depth : Nat) (a : Address) :
    Serves (callWithin outside (depth + 1)) (callWithin outside depth) (callWithin outside depth) a := by
  refine ⟨Acts (callWithin outside depth), inferInstance, inferInstance, inferInstance, fun name args w t there => ?_⟩
  rw [callWithin, callOnce, Within.run_bind, bind_of_ok (heap_run _)]
  simp only [there]

/-- Calls that serve tables and do nothing else. -/
def serving (patch : Caller κ) : Caller κ := fun f args =>
  match f with
  | .bound (.ref a) name => (callMethod patch patch a name args : Within Anyhow Value).run
  | _ => pure .none

theorem serving_serves (patch : Caller κ) (a : Address) : Serves (serving patch) patch patch a :=
  ⟨Anyhow, inferInstance, inferInstance, inferInstance, fun _ _ _ _ _ => rfl⟩

/-- Reads a listed key as a copy does, by a call. -/
def copyEntry (call : Caller κ) [Calls call R] (a : Address) (key : Value) : Within R (Value × Value) := do
  pure (key, ← ask call (.bound (.ref a) "__getitem__") (.of [key]))

variable {call inner patch : Caller κ} [Calls call R] {es : List (Value × Value)} {e : Value × Value}

/-- A table is copied key by key, as its keys were listed at first. -/
theorem entriesOf_run (there : w.heap[a]? = some (.table t)) :
    (Script.entriesOf call (.ref a) : Within R _).run w = (t.keys.mapM (copyEntry call a) : Within R _).run w := by
  have bare : (ownMethod? (.ref a) "__iter__" : Within R _).run w = .ok none w := by
    rw [ownMethod?, Within.run_bind, bind_of_ok (heap_run _)]
    simp only [there]
    rfl
  have table : (object? (.ref a) : Within R _).run w = .ok (some (.table t)) w := by
    rw [object?_run, Table.Op.at_table there]
  have mapped : (Script.mappingEntries? call (.ref a) : Within R _).run w =
      .ok (some (t.keys.map fun k => (k, ask call (.bound (.ref a) "__getitem__") (.of [k])))) w := by
    rw [Script.mappingEntries?, Within.run_bind, bind_of_ok bare, Within.run_bind, bind_of_ok table]
    rfl
  have each : (Script.entryReads call (.ref a) : Within R _).run w = .ok (t.keys.map (copyEntry call a)) w := by
    rw [Script.entryReads, Within.run_bind, bind_of_ok mapped]
    simp only [List.map_map]
    rfl
  rw [Script.entriesOf, Within.run_bind, bind_of_ok each, List.mapM_map]
  rfl

theorem copies_keys {keys : List Value} (h : (keys.mapM (copyEntry call a) : Within R _).run w = .ok es u) :
    es.map (·.1) = keys := by
  induction keys generalizing es w with
  | nil =>
      cases h
      rfl
  | cons key keys ih =>
      rw [List.mapM_cons] at h
      obtain ⟨e, v, first, h⟩ := bind_ok.mp h
      obtain ⟨rest, v', others, h⟩ := bind_ok.mp h
      obtain ⟨x, v'', read, first⟩ := bind_ok.mp first
      cases first
      cases h
      rw [List.map_cons, ih others]

omit [Moves R] in
/-- Reading an entry by a call patches it if it is fresh. -/
theorem ask_read (serves : Serves call inner patch a) (there : w.heap[a]? = some (.table t)) (tidy : t.Tidy w.heap)
    (he : e ∈ t.factories) : (ask call (.bound (.ref a) "__getitem__") (.of [e.1]) : Within R Value).run w =
      if t.isFresh e.1 e.2 then patch t.patcher (.of [.ref a, e.1, e.2]) (w.replaced a (.table (t.process e.1)))
      else .ok e.2 w := by
  obtain ⟨S, _, _, _, answers⟩ := serves
  have stored : t.get? e.1 = some e.2 := tidy.apart.lookup? he (Value.sameKey_refl e.1)
  have reads : (ask call (.bound (.ref a) "__getitem__") (.of [e.1]) : Within R Value).run w =
      (read patch a e.1 : Within S Value).run w := by
    have asked : (ask call (.bound (.ref a) "__getitem__") (.of [e.1]) : Within R Value).run w =
        call (.bound (.ref a) "__getitem__") (.of [e.1]) w := rfl
    rw [asked, answers _ _ _ _ there]
    simp only [callMethod]
    exact bind_of_ok rfl
  rw [reads, read_run, tidy.hashable e he, Heap.table_at there, stored]

/-- Entries that need no patching are copied as they are. -/
theorem copies_plain (serves : Serves call inner patch a) (there : w.heap[a]? = some (.table t)) (tidy : t.Tidy w.heap)
    (plain : ∀ e ∈ es, e ∈ t.factories ∧ t.isFresh e.1 e.2 = false) :
    ((es.map (·.1)).mapM (copyEntry call a) : Within R _).run w = .ok es w := by
  induction es with
  | nil => rfl
  | cons e es ih =>
      obtain ⟨he, read⟩ := plain e List.mem_cons_self
      have first : (copyEntry call a e.1 : Within R _).run w = .ok e w := by
        have asked := ask_read (R := R) serves there tidy he
        rw [read, if_neg Bool.false_ne_true] at asked
        exact bind_of_ok asked
      rw [List.map_cons, List.mapM_cons, Within.run_bind, bind_of_ok first, Within.run_bind,
        bind_of_ok (ih fun e he => plain e (List.mem_cons_of_mem _ he))]
      rfl

/-- A patcher that refuses stops a copy at the first entry that needs patching. -/
theorem plain_of_copies {c : Cause} {copied : List (Value × Value)} (serves : Serves call inner (refusing c) a)
    (there : w.heap[a]? = some (.table t)) (tidy : t.Tidy w.heap) (stored : ∀ e ∈ es, e ∈ t.factories)
    (h : ((es.map (·.1)).mapM (copyEntry call a) : Within R _).run w = .ok copied u) :
    ∀ e ∈ es, t.isFresh e.1 e.2 = false := by
  induction es generalizing copied u with
  | nil => exact fun e he => absurd he List.not_mem_nil
  | cons e es ih =>
      rw [List.map_cons, List.mapM_cons] at h
      obtain ⟨x, v, first, h⟩ := bind_ok.mp h
      obtain ⟨rest, v', others, h⟩ := bind_ok.mp h
      obtain ⟨y, v'', asked, first⟩ := bind_ok.mp first
      cases first
      rw [ask_read serves there tidy (stored e List.mem_cons_self)] at asked
      split at asked
      · cases asked
      · next read =>
          cases asked
          have rest := ih (fun e he => stored e (List.mem_cons_of_mem _ he)) others
          exact List.forall_mem_cons.mpr ⟨Bool.eq_false_iff.mpr read, rest⟩

theorem readAttr_run (there : w.heap[a]? = some (.table t)) :
    (readAttr call (.ref a) "clear" : Within R Value).run w = .ok (.bound (.ref a) "clear") w := by
  refine readAttr_builtin ?_ ?_ ?_ (Op.core_table there) (by decide) ?_
  · rw [ownMethod?, Within.run_bind, bind_of_ok (heap_run _)]
    simp only [there]
    rfl
  · rw [computedAttr?, Within.run_bind, bind_of_ok (heap_run _)]
    simp only [classOf?, there]
    rfl
  · simp only [getAttr]
    rw [Within.run_bind, bind_of_ok (heap_run _)]
    simp only [there]
  · simp only [Heap.typeName, there]
    decide

/-- A table clears itself by its method. -/
theorem emptyOut_run (serves : Serves call inner patch a) (there : w.heap[a]? = some (.table t)) :
    ∃ (S : World κ → World κ → Prop) (_ : Moves S) (_ : Calls patch S), (emptyOut call (.ref a) : Within R Unit).run w =
      (clear patch a : Within S Unit).run w := by
  obtain ⟨S, _, _, _, answers⟩ := serves
  refine ⟨S, inferInstance, inferInstance, ?_⟩
  have mutable : (isMutableMapping (.ref a) : Within R Bool).run w = .ok true w := by
    have seen := object?_run (R := R) (.ref a) w
    rw [Op.at_table there] at seen
    exact bind_of_ok seen
  have asked : (ask call (.bound (.ref a) "clear") (.of []) : Within R Value).run w =
      (do clear patch a; pure .none : Within S Value).run w := by
    have same : (ask call (.bound (.ref a) "clear") (.of []) : Within R Value).run w =
        call (.bound (.ref a) "clear") (.of []) w := rfl
    rw [same, answers _ _ _ _ there]
    simp only [callMethod]
  rw [emptyOut, Within.run_bind, bind_of_ok mutable, if_pos rfl, Within.run_bind, bind_of_ok (readAttr_run there),
    Within.run_bind]
  cases cleared : (clear patch a : Within S Unit).run w with
  | ok _ v => exact bind_of_ok (asked.trans (bind_of_ok cleared))
  | error e v => exact bind_of_error (asked.trans (bind_of_error cleared))

/-- If all listed entries are patched and not described, those are taken over, with nothing called, and all others stay. -/
theorem takeTable_free (serves : Serves call inner patch a) (there : w.heap[a]? = some (.table t)) (tidy : t.Tidy w.heap)
    (free : ∀ e ∈ t.listed, t.isFree e = true) :
    (takeTable call runtime (.ref a) n : Within R Value).run w =
      .ok (.ref w.heap.size) (((w.noticed runtime).replaced a (.table (t.without t.listed))).tabled n t.listed) := by
  have there' : (w.noticed runtime).heap[a]? = some (.table t) := there
  have copied : (Script.entriesOf call (.ref a) : Within R _).run (w.noticed runtime) = .ok t.listed (w.noticed runtime) := by
    rw [entriesOf_run there', keys_eq]
    refine copies_plain serves there' tidy fun e he => ⟨(mem_of_mem_listed he).1, ?_⟩
    simpa using (Bool.and_eq_true_iff.mp (free e he)).1
  obtain ⟨S, _, _, cleared⟩ := emptyOut_run (R := R) serves there'
  have gone : (clear patch a : Within S Unit).run (w.noticed runtime) = .ok () _ :=
    (clear_cases there' tidy (List.append_nil _).symm free).1 rfl
  have made := takeTable_ok (n := n) copied (cleared.trans gone) (List.Pairwise.filter _ tidy.apart)
  rwa [World.replaced, Array.size_setIfInBounds] at made

/-- A table is taken over as it is, with nothing called, if all its entries are listed, patched and not described. -/
theorem takeTable_plain (serves : Serves call inner patch a) (there : w.heap[a]? = some (.table t)) (tidy : t.Tidy w.heap)
    (plain : ∀ e ∈ t.factories, t.isHidden e.1 = false ∧ t.isFree e = true) :
    (takeTable call runtime (.ref a) n : Within R Value).run w =
      .ok (.ref w.heap.size) (((w.noticed runtime).replaced a (.table { t with factories := [] })).tabled n t.factories) := by
  have all := listed_all fun e he => (plain e he).1
  rw [takeTable_free serves there tidy fun e he => (plain e (all ▸ he)).2, all, without_all tidy all]

theorem tabled_inj {fs fs' : List (Value × Value)} (same : u.tabled n fs = v.tabled n fs') : fs = fs' := by
  have heaps : (u.tabled n fs).heap = (v.tabled n fs').heap := by rw [same]
  have pushed : Object.table (Table.of fs (.native (.patching n))) = .table (Table.of fs' (.native (.patching n))) :=
    (Array.push_eq_push.mp heaps).1
  injection pushed with tables
  exact congrArg Table.factories tables

/-- If patchers that refuse are never called and all is taken over, all entries are listed, patched and not described. -/
theorem plain_of_takeTable (serves : Serves call inner (refusing (.raised .type [])) a) (there : w.heap[a]? = some (.table t))
    (tidy : t.Tidy w.heap) (taken : (takeTable call runtime (.ref a) n : Within R Value).run w =
      .ok (.ref w.heap.size) (((w.noticed runtime).replaced a (.table { t with factories := [] })).tabled n t.factories)) :
    ∀ e ∈ t.factories, t.isHidden e.1 = false ∧ t.isFree e = true := by
  have there' : (w.noticed runtime).heap[a]? = some (.table t) := there
  obtain ⟨es, u, v, copied, cleared, -, worlds⟩ := takeTable_done taken
  have stored : ∀ e ∈ t.listed, e ∈ t.factories := fun e he => (mem_of_mem_listed he).1
  rw [entriesOf_run there', keys_eq] at copied
  have read := plain_of_copies serves there' tidy stored copied
  rw [copies_plain serves there' tidy fun e he => ⟨stored e he, read e he⟩] at copied
  obtain ⟨rfl, rfl⟩ : t.listed = es ∧ w.noticed runtime = u := by
    cases copied
    exact ⟨rfl, rfl⟩
  have apart : Value.Apart ([] ++ t.listed) := List.Pairwise.filter _ tidy.apart
  have all : t.factories = t.listed := (tabled_inj worlds).trans (Value.foldl_insert [] apart)
  obtain ⟨S, _, _, clears⟩ := emptyOut_run (R := R) serves there'
  rw [clears] at cleared
  obtain ⟨taken, rest, parts, free, ⟨rfl, -⟩ | ⟨e, -, -, -, failed⟩ | ⟨e, v', -, -, failed⟩⟩ :=
    clear_refusing (R := S) there' tidy
  · rw [List.append_nil] at parts
    exact fun e he => ⟨(mem_of_mem_listed (all ▸ he)).2, free e (parts ▸ all ▸ he)⟩
  · rw [failed] at cleared
    cases cleared
  · rw [failed] at cleared
    cases cleared

end Table

/-! ## Dictionaries -/

/-- A mapping that goes by the methods of a dictionary: one itself, or an object that stands for one, whose class says nothing
about how it is iterated over, cleared or looked up. -/
inductive Heap.GoesBy (h : Heap) (b : Address) : Value → Prop where
  | itself : GoesBy h b (.ref b)
  | standing {a cls : Address} {attrs : Attributes} : h[a]? = some (.instance cls attrs (some (.ref b))) →
      attrs.get? "clear" = none → (∀ name ∈ ["__iter__", "__getattr__", "clear"], h.classAttr? cls name = none) →
      GoesBy h b (.ref a)

section

variable {call : Caller κ} [Calls call R] {es : List (Value × Value)}

theorem Heap.GoesBy.core (goes : w.heap.GoesBy b modules) (there : w.heap[b]? = some (.dict es)) :
    w.heap.core modules = .ref b := by
  cases goes with
  | itself => simp only [Heap.core, there]
  | standing here _ _ => simp only [Heap.core, here]

theorem Heap.GoesBy.at? (goes : w.heap.GoesBy b modules) (there : w.heap[b]? = some (.dict es)) :
    w.heap.at? modules = some (.dict es) := by
  rw [Heap.at?, goes.core there]
  exact there

theorem Heap.GoesBy.ownMethod? (goes : w.heap.GoesBy b modules) (there : w.heap[b]? = some (.dict es)) {name : String}
    (silent : name ∈ ["__iter__", "__getattr__", "clear"]) : (Run.ownMethod? modules name : Within R _).run w = .ok none w := by
  cases goes with
  | itself =>
      rw [Run.ownMethod?, Within.run_bind, bind_of_ok (heap_run _)]
      simp only [there]
      rfl
  | standing here _ quiet =>
      rw [Run.ownMethod?, Within.run_bind, bind_of_ok (heap_run _)]
      simp only [here, quiet name silent]
      rfl

theorem Heap.GoesBy.readAttr (goes : w.heap.GoesBy b modules) (there : w.heap[b]? = some (.dict es)) :
    (Run.readAttr call modules "clear" : Within R Value).run w = .ok (.bound modules "clear") w := by
  have type : w.heap.typeName false (.ref b) = "dict" := by simp only [Heap.typeName, there]
  refine readAttr_builtin (goes.ownMethod? there (by decide)) ?_ ?_ (goes.core there) (by decide) (by rw [type]; decide)
  · rw [computedAttr?, Within.run_bind, bind_of_ok (heap_run _)]
    cases goes with
    | itself =>
        simp only [classOf?, there]
        rfl
    | standing here _ quiet =>
        simp only [classOf?, here, Option.bind_some, quiet "clear" (by decide)]
        rfl
  · cases goes with
    | itself =>
        simp only [getAttr]
        rw [Within.run_bind, bind_of_ok (heap_run _)]
        simp only [there]
    | @standing a cls attrs here none quiet =>
        have silent := quiet "clear" (by decide)
        have free : w.heap.hook? cls "clear" = Option.none := by rw [Heap.hook?, silent]
        simp only [getAttr]
        rw [Within.run_bind, bind_of_ok (heap_run _)]
        simp only [here, free, none, silent]
        cases w.heap[cls]? with
        | none => rfl
        | some o => cases o <;> rfl

/-- A dictionary clears itself on the machine. -/
theorem clear_dict (outside : Surroundings κ) (depth : Nat) (goes : w.heap.GoesBy b modules)
    (there : w.heap[b]? = some (.dict es)) :
    callWithin outside (depth + 1) (.bound modules "clear") (.of []) w = .ok .none (w.replaced b (.dict [])) := by
  have methods : (Script.containerMethod (callWithin outside depth) modules "clear" (.of []) :
      Working (callWithin outside depth) Value).run w = .ok .none (w.replaced b (.dict [])) := by
    have held : (objectAt? b : Working (callWithin outside depth) _).run w = .ok (some (.dict es)) w := by
      rw [← there]
      rfl
    have values : (Script.valueMethod (callWithin outside depth) modules "clear" (.of []) :
        Working (callWithin outside depth) Value).run w = .ok .none (w.replaced b (.dict [])) := by
      rw [Script.valueMethod, Within.run_bind, bind_of_ok (heap_run _), goes.core there]
      dsimp only
      rw [Within.run_bind, bind_of_ok held]
      dsimp only
      have own : (Script.entries b : Working (callWithin outside depth) _).run w = .ok es w := bind_of_ok held
      have none : (Script.noArguments ("dict." ++ "clear") (.of []) : Working (callWithin outside depth) Unit).run w =
          .ok () w := rfl
      rw [Script.dictMethod, Within.run_bind, bind_of_ok own]
      simp only
      rw [Within.run_bind, bind_of_ok none, Within.run_bind, bind_of_ok (write_run there _)]
      rfl
    cases goes <;> exact values
  rw [callWithin, callOnce, Within.run_bind, bind_of_ok (heap_run _)]
  cases goes with
  | itself =>
      simp only [there]
      exact methods
  | standing here _ _ =>
      simp only [here]
      exact methods

/-- What is held as it is, is copied as it is. -/
theorem entriesOf_held (bare : (ownMethod? modules "__iter__" : Within R _).run w = .ok none w)
    (held : w.heap.at? modules = some (.dict es) ∨ w.heap.at? modules = some (.proxy es)) :
    (Script.entriesOf call modules : Within R _).run w = .ok es w := by
  have mapped : (Script.mappingEntries? call modules : Within R _).run w = .ok (some (es.map fun e => (e.1, pure e.2))) w := by
    rw [Script.mappingEntries?, Within.run_bind, bind_of_ok bare, Within.run_bind, bind_of_ok (object?_run _ _)]
    rcases held with held | held <;> rw [held] <;> rfl
  have each : (Script.entryReads call modules : Within R _).run w = .ok (es.map pure) w := by
    rw [Script.entryReads, Within.run_bind, bind_of_ok mapped]
    simp only [List.map_map]
    rfl
  rw [Script.entriesOf, Within.run_bind, bind_of_ok each, List.mapM_map]
  have all : (es.mapM fun e => (pure e : Within R (Value × Value))) = pure es := by
    rw [List.mapM_pure, List.map_id']
  exact congrArg (fun m : Within R _ => m.run w) all

/-- A dictionary is taken over as it is. -/
theorem takeTable_dict (outside : Surroundings κ) (depth : Nat) [Calls (callWithin outside (depth + 1)) R]
    (goes : w.heap.GoesBy b modules) (there : w.heap[b]? = some (.dict es)) (apart : Value.Apart es) :
    (takeTable (callWithin outside (depth + 1)) runtime modules n : Within R Value).run w =
      .ok (.ref w.heap.size) (((w.noticed runtime).replaced b (.dict [])).tabled n es) := by
  have goes' : (w.noticed runtime).heap.GoesBy b modules := goes
  have there' : (w.noticed runtime).heap[b]? = some (.dict es) := there
  have copied : (Script.entriesOf (callWithin outside (depth + 1)) modules : Within R _).run (w.noticed runtime) =
      .ok es (w.noticed runtime) :=
    entriesOf_held (goes'.ownMethod? there' (by decide)) (.inl (goes'.at? there'))
  have emptied : (emptyOut (callWithin outside (depth + 1)) modules : Within R Unit).run (w.noticed runtime) =
      .ok () ((w.noticed runtime).replaced b (.dict [])) := by
    have held : (object? modules : Within R _).run (w.noticed runtime) = .ok (some (.dict es)) (w.noticed runtime) := by
      rw [← goes'.at? there']
      rfl
    have mutable : (isMutableMapping modules : Within R Bool).run (w.noticed runtime) = .ok true (w.noticed runtime) :=
      bind_of_ok held
    rw [emptyOut, Within.run_bind, bind_of_ok mutable, if_pos rfl, Within.run_bind, bind_of_ok (goes'.readAttr there')]
    exact bind_of_ok (clear_dict outside depth goes' there')
  have made := takeTable_ok (n := n) copied emptied apart
  rwa [World.replaced, Array.size_setIfInBounds] at made

/-- A mapping that cannot be changed is taken over as it is, and stays so. -/
theorem takeTable_proxy (there : w.heap[b]? = some (.proxy es)) (apart : Value.Apart es) :
    (takeTable call runtime (.ref b) n : Within R Value).run w = .ok (.ref w.heap.size) ((w.noticed runtime).tabled n es) := by
  have held : (w.noticed runtime).heap.at? (.ref b) = some (.proxy es) := by
    have core : w.heap.core (.ref b) = .ref b := by simp only [Heap.core, there]
    simp only [Heap.at?, World.noticed, core, there]
  have bare : (ownMethod? (.ref b) "__iter__" : Within R _).run (w.noticed runtime) = .ok none (w.noticed runtime) := by
    have there' : (w.noticed runtime).heap[b]? = some (.proxy es) := there
    rw [ownMethod?, Within.run_bind, bind_of_ok (heap_run _)]
    simp only [there']
    rfl
  have copied : (Script.entriesOf call (.ref b) : Within R _).run (w.noticed runtime) = .ok es (w.noticed runtime) :=
    entriesOf_held bare (.inr held)
  refine takeTable_ok (v := w.noticed runtime) copied ?_ apart
  have fixed : (isMutableMapping (.ref b) : Within R Bool).run (w.noticed runtime) = .ok false (w.noticed runtime) := by
    have seen : (object? (.ref b) : Within R _).run (w.noticed runtime) = .ok (some (.proxy es)) (w.noticed runtime) := by
      rw [← held]
      rfl
    exact bind_of_ok seen
  rw [emptyOut, Within.run_bind, bind_of_ok fixed]
  rfl

end

/-! ## All together -/

/-- What can be taken from a lazy table are the keys that it lists, in their order. -/
theorem takeTable_keys {call : Caller κ} [Calls call R] {made : Value} {z : World κ} (there : w.heap[a]? = some (.table t))
    (tidy : t.Tidy w.heap) (taken : (takeTable call runtime (.ref a) n : Within R Value).run w = .ok made z) :
    ∃ c, made = .ref c ∧ (z.heap.table c).factories.map (·.1) = t.keys := by
  obtain ⟨es, u, v, copied, -, rfl, rfl⟩ := takeTable_done taken
  have there' : (w.noticed runtime).heap[a]? = some (.table t) := there
  rw [Table.entriesOf_run there'] at copied
  have keys := Table.copies_keys copied
  have listed : Value.Apart t.listed := List.Pairwise.filter _ tidy.apart
  have apart : Value.Apart ([] ++ es) := listed.of_keys (keys.trans (Table.keys_eq t))
  refine ⟨v.heap.size, rfl, ?_⟩
  rw [Heap.table_at (t := Table.of es (.native (.patching n))) ?_]
  · exact keys
  · have pushed : (v.tabled n es).heap[v.heap.size]? = some (.table (Table.of es (.native (.patching n)))) :=
      Array.getElem?_push_size
    rw [Value.foldl_insert [] apart]
    exact pushed

/-- What a hook takes over. (1) On the machine a dictionary, or an object that goes by the methods of one, is taken over as it
is: the new table holds its entries in their order, nothing is called, and it is left empty. (2) So is a mapping that cannot be
changed, which stays as it is. (3) Whatever calls do, the new table has the keys that a lazy table lists, in their order, and
no hidden one. (4) A lazy table is taken over as it is, with nothing called and nothing left, whatever its patcher does,
exactly if no entry is hidden, to be patched or described. -/
theorem takes_over_iff (w : World κ) (runtime : Value) (n : Nat) :
    (∀ (outside : Surroundings κ) depth [Calls (callWithin outside (depth + 1)) R] b modules es,
      w.heap.GoesBy b modules → w.heap[b]? = some (.dict es) → Value.Apart es →
        (takeTable (callWithin outside (depth + 1)) runtime modules n : Within R Value).run w =
          .ok (.ref w.heap.size) (((w.noticed runtime).replaced b (.dict [])).tabled n es)) ∧
    (∀ (call : Caller κ) [Calls call R] (b : Address) es, w.heap[b]? = some (.proxy es) → Value.Apart es →
      (takeTable call runtime (.ref b) n : Within R Value).run w = .ok (.ref w.heap.size) ((w.noticed runtime).tabled n es)) ∧
    ∀ a t, w.heap[a]? = some (.table t) → t.Tidy w.heap →
      (∀ (call : Caller κ) [Calls call R] made z, (takeTable call runtime (.ref a) n : Within R Value).run w = .ok made z →
        ∃ c, made = .ref c ∧ (z.heap.table c).factories.map (·.1) = t.keys) ∧
      ((∀ call inner patch : Caller κ, Table.Serves call inner patch a →
          ∀ (S : World κ → World κ → Prop) [Moves S] [Calls call S], (takeTable call runtime (.ref a) n : Within S Value).run w =
            .ok (.ref w.heap.size) (((w.noticed runtime).replaced a (.table { t with factories := [] })).tabled n t.factories)) ↔
        ∀ e ∈ t.factories, t.isHidden e.1 = false ∧ t.isFresh e.1 e.2 = false ∧ t.isPinned e.1 = false) := by
  refine ⟨fun outside depth _ b modules es goes there apart => takeTable_dict outside depth goes there apart,
    fun call _ b es there apart => takeTable_proxy there apart, fun a t there tidy =>
    ⟨fun call _ made z taken => takeTable_keys there tidy taken, ?_⟩⟩
  have free : ∀ e, t.isFree e = true ↔ t.isFresh e.1 e.2 = false ∧ t.isPinned e.1 = false := fun e => by
    simp [Table.isFree]
  simp only [← free]
  constructor
  · intro all
    have serves := Table.serving_serves (Table.refusing (.raised .type []) : Caller κ) a
    exact Table.plain_of_takeTable serves there tidy (all _ _ _ serves Anyhow)
  · exact fun plain call inner patch serves S _ _ => Table.takeTable_plain serves there tidy plain

/-! ## A hidden entry -/

/-- What is no module is taken over as it is. -/
theorem takes_over_plainNames :
    (takeTable (callWithin inert 1) .none (.ref (Table.unreadPlace + 1)) 0 : Within Anyhow Value).run Table.twoTables =
      .ok (.ref Table.twoTables.heap.size) (((Table.twoTables.noticed .none).replaced (Table.unreadPlace + 1)
        (.table { Table.plainNames with factories := [] })).tabled 0 Table.plainNames.factories) := by
  obtain ⟨-, -, tables⟩ := takes_over_iff (R := Anyhow) Table.twoTables .none 0
  have plain : ∀ e ∈ Table.plainNames.factories, Table.plainNames.isHidden e.1 = false ∧
      Table.plainNames.isFresh e.1 e.2 = false ∧ Table.plainNames.isPinned e.1 = false := by decide +kernel
  exact (tables _ _ rfl Table.plainNames_tidy).2.mpr plain _ _ _ (Table.callWithin_serves inert 0 _) Anyhow

/-- A hidden module is not in the new table, but stays in the old one. -/
theorem takeover_leaves_hidden : ∃ z,
    (takeTable (callWithin inert 1) .none (.ref Table.unreadPlace) 0 : Within Anyhow Value).run Table.twoTables =
      .ok (.ref Table.twoTables.heap.size) z ∧
    (z.heap.table Table.twoTables.heap.size).contains (.str "1") = false ∧
    (z.heap.table Table.unreadPlace).contains (.str "1") = true := by
  have serves := Table.callWithin_serves inert 0 Table.unreadPlace
  have free : ∀ e ∈ Table.halfHidden.listed, Table.halfHidden.isFree e = true := by decide +kernel
  exact ⟨_, Table.takeTable_free serves rfl Table.halfHidden_tidy free, by decide +kernel, by decide +kernel⟩

end Patchwork
