import Patchwork.Patch.Apply
import Patchwork.Proofs.Separation

/-!
Computations that only add to the world. They make objects, log, and register texts; every object that was there stays
as it was, and the engine and its surroundings are the same.
-/

namespace Patchwork

open Run

variable {κ : Type}

/-- The second world has all that the first one has; nothing in it is another thing than before. -/
structure Grows (w w' : World κ) : Prop where
  heap : ∀ (a : Nat) o, w.heap[a]? = some o → w'.heap[a]? = some o
  environment : w'.environment = w.environment
  registries : w'.registries = w.registries
  hooks : w'.hooks = w.hooks
  frames : w'.frames = w.frames
  history : w'.history = w.history
  host : w'.host = w.host
  sources : w'.sources = w.sources
  recompiled : w.recompiled ≤ w'.recompiled

instance : Lasting (Grows (κ := κ)) where
  refl _ := ⟨fun _ _ h => h, rfl, rfl, rfl, rfl, rfl, rfl, rfl, Nat.le_refl _⟩
  trans first second :=
    ⟨fun a o h => second.heap a o (first.heap a o h), second.environment.trans first.environment,
      second.registries.trans first.registries, second.hooks.trans first.hooks,
      second.frames.trans first.frames, second.history.trans first.history, second.host.trans first.host,
      second.sources.trans first.sources, Nat.le_trans first.recompiled second.recompiled⟩

theorem Grows.quiet {w w' : World κ} (h : Grows w w') : Quiet w w' :=
  ⟨fun a o found => ⟨o, h.heap a o found, rfl⟩, h.environment, h.registries, h.hooks, h.frames, h.history, h.host⟩

theorem Heap.Stays.size_le {h h' : Heap} (stays : h.Stays h') : h.size ≤ h'.size := by
  refine Nat.le_of_not_lt fun bound => ?_
  obtain ⟨o, found, -⟩ := stays h'.size h[h'.size] (Array.getElem?_eq_getElem bound)
  exact absurd (Array.getElem?_eq_some_iff.mp found).1 (Nat.lt_irrefl _)

theorem Grows.room {w w' : World κ} (h : Grows w w') : w.heap.size ≤ w'.heap.size :=
  Heap.Stays.size_le h.quiet.heap

/-- The world with one more object. -/
theorem Grows.push (w : World κ) (o : Object) : Grows w { w with heap := w.heap.push o } where
  heap a o' found := by
    have bound : a < w.heap.size := (Array.getElem?_eq_some_iff.mp found).1
    simp only
    rw [Array.getElem?_push_lt bound, ← Array.getElem?_eq_getElem bound]
    exact found
  environment := rfl
  registries := rfl
  hooks := rfl
  frames := rfl
  history := rfl
  host := rfl
  sources := rfl
  recompiled := Nat.le_refl _

namespace Within

variable {R : World κ → World κ → Prop} {α : Type}

@[ext] theorem ext {m m' : Within R α} (h : m.run = m'.run) : m = m' := by
  cases m
  cases h
  rfl

instance [Lasting R] : LawfulMonad (Within R) :=
  .mk' _ (fun m => Within.ext (bind_pure m.run)) (fun _ _ => rfl)
    fun m f g => Within.ext (bind_assoc m.run (fun a => (f a).run) fun b => (g b).run)

end Within

namespace Run

section

variable {R S : World κ → World κ → Prop} [Lasting R] [Lasting S] {α β : Type}

theorem mapM_within {f : α → Within R β} (hf : ∀ a w, S w ((f a).run.after w)) :
    (as : List α) → ∀ w, S w ((as.mapM f).run.after w)
  | [] => fun w => Lasting.refl w
  | a :: as => by
      rw [List.mapM_cons]
      exact bind_within (hf a) fun b => bind_within (mapM_within hf as) fun bs w => Lasting.refl w

end

variable {R : World κ → World κ → Prop} [Still R]

theorem new_grows (o : Object) (w : World κ) : Grows w ((new o : Within R Value).run.after w) :=
  Grows.push w o

theorem emit_grows (e : Event) (w : World κ) : Grows w ((emit e : Within R Unit).run.after w) :=
  ⟨fun _ _ h => h, rfl, rfl, rfl, rfl, rfl, rfl, rfl, Nat.le_refl _⟩

theorem log_grows (level : Level) (message : String) (w : World κ) :
    Grows w ((log level message : Within R Unit).run.after w) :=
  emit_grows _ w

theorem logFailure_grows (message : String) (c : Cause) (w : World κ) :
    Grows w ((logFailure message c : Within R Unit).run.after w) :=
  bind_within (fun w => Lasting.refl w) (fun _ => emit_grows _) w

theorem setRules_grows (rules : List Rule) (w : World κ) : Grows w ((setRules rules : Within R Unit).run.after w) :=
  ⟨fun _ _ h => h, rfl, rfl, rfl, rfl, rfl, rfl, rfl, Nat.le_refl _⟩

theorem countRecompiled_grows (w : World κ) : Grows w ((countRecompiled : Within R Nat).run.after w) :=
  ⟨fun _ _ h => h, rfl, rfl, rfl, rfl, rfl, rfl, rfl, Nat.le_succ _⟩

/-! ## Attributes -/

theorem builtinMethod_grows (v : Value) (name : String) (w : World κ) :
    Grows w ((builtinMethod v name : Within R Value).run.after w) := by
  have seen : (heap : Within R _).run w = .ok w.heap w := rfl
  rw [builtinMethod, Within.run_bind, after_bind_ok seen]
  repeat' split
  all_goals exact Lasting.refl w

theorem orMissing_grows (v : Value) (name : String) (found : Option Value) (w : World κ) :
    Grows w ((orMissing v name found : Within R Value).run.after w) := by
  cases found with
  | some found => exact Lasting.refl w
  | none => exact builtinMethod_grows v name w

/-- Reading an attribute leaves everything as it is; the owners of a record are listed anew. -/
theorem getAttr_grows (v : Value) (name : String) (w : World κ) :
    Grows w ((getAttr v name : Within R Value).run.after w) := by
  have seen : (heap : Within R _).run w = .ok w.heap w := rfl
  rw [getAttr, Within.run_bind, after_bind_ok seen]
  repeat' split
  all_goals first
    | exact Lasting.refl w
    | exact builtinMethod_grows _ _ w
    | exact orMissing_grows _ _ _ w
    | exact new_grows _ w

theorem getAttr?_grows (v : Value) (name : String) (w : World κ) :
    Grows w ((getAttr? v name : Within R _).run.after w) := by
  rw [getAttr?, run_handle]
  refine handle_within (bind_within (getAttr_grows v name) fun _ w => Lasting.refl w) (fun c w => ?_) w
  split <;> exact Lasting.refl w

/-! ## Source texts -/

theorem unwrapped_grows : (fuel : Nat) → (v : Value) → ∀ w : World κ,
    Grows w ((unwrapped fuel v : Within R Value).run.after w)
  | 0, v => fun w => Lasting.refl w
  | fuel + 1, v => by
      refine bind_within (getAttr?_grows v "__wrapped__") fun found => ?_
      cases found with
      | none => exact fun w => Lasting.refl w
      | some inner => exact unwrapped_grows fuel inner

theorem blockAt_grows (lines : List (List Char)) (row : Nat) (w : World κ) :
    Grows w ((blockAt lines row : Within R String).run.after w) := by
  simp only [blockAt]
  repeat' split
  all_goals exact Lasting.refl w

theorem sourceText_grows (v : Value) (w : World κ) : Grows w ((sourceText v : Within R String).run.after w) := by
  refine bind_within (unwrapped_grows 1000 v) (fun v w => ?_) w
  have seen : (heap : Within R _).run w = .ok w.heap w := rfl
  rw [Within.run_bind, after_bind_ok seen]
  have block (file : String) (row : Nat) :
      Grows w ((sourceLines file >>= fun lines => blockAt lines row : Within R String).run.after w) :=
    bind_within (R := Grows (κ := κ)) (fun w => Lasting.refl w) (fun lines => blockAt_grows lines row) w
  dsimp only
  repeat' split
  all_goals first
    | exact Lasting.refl w
    | exact block _ _

theorem normalize_grows (p : Policy) (source : String) (w : World κ) :
    Grows w ((Run.normalize p source : Within R String).run.after w) := by
  rw [Run.normalize]
  dsimp only
  split
  · exact bind_within (log_grows _ _) (fun _ w => Lasting.refl w) w
  · exact Lasting.refl w

end Run

variable {R : World κ → World κ → Prop} [Still R]

theorem normalizedSource_grows (policy : Policy) (factory : Value) (w : World κ) :
    Grows w ((normalizedSource policy factory : Within R _).run.after w) := by
  rw [normalizedSource, run_handle]
  refine handle_within (bind_within (sourceText_grows factory) fun text => ?_) (fun c w => ?_) w
  · exact bind_within (normalize_grows policy text) fun _ w => Lasting.refl w
  · split <;> exact Lasting.refl w

theorem globalsOf_grows (factory : Value) (w : World κ) : Grows w ((globalsOf factory : Within R _).run.after w) := by
  refine bind_within (getAttr?_grows factory "__globals__") (fun found w => ?_) w
  dsimp only
  split <;> exact Lasting.refl w

/-! ## Names -/

section

open Script

/-- The entries of the dictionary at a place. -/
def World.entriesAt (w : World κ) (a : Address) : List (Value × Value) :=
  match w.heap[a]? with
  | some (.dict es) => es
  | _ => []

theorem entries_run (a : Address) (w : World κ) :
    (entries a : Within R _).run w = .ok (w.entriesAt a) w := by
  have seen : (objectAt? a : Within R _).run w = .ok w.heap[a]? w := rfl
  rw [entries, Within.run_bind, bind_of_ok seen, World.entriesAt]
  cases w.heap[a]? with
  | none => rfl
  | some o => cases o <;> rfl

theorem loadGlobal_grows (a : Address) (name : String) (w : World κ) :
    Grows w ((loadGlobal a name : Within R Value).run.after w) := by
  rw [loadGlobal, Within.run_bind, after_bind_ok (entries_run a w)]
  split
  · exact Lasting.refl w
  · rw [Within.run_bind, after_bind_ok (entries_run builtinsDict w)]
    split <;> exact Lasting.refl w

theorem importModule_grows (name : String) (w : World κ) :
    Grows w ((importModule name : Within R Value).run.after w) := by
  rw [importModule]
  split <;> exact Lasting.refl w

end

/-! ## Rules -/

theorem checkKey_grows (v : Value) (w : World κ) : Grows w ((checkKey v : Within R Unit).run.after w) := by
  have seen : (heap : Within R _).run w = .ok w.heap w := rfl
  rw [checkKey, Within.run_bind, after_bind_ok seen]
  split <;> exact Lasting.refl w

theorem Matcher.of_grows (v : Value) (w : World κ) : Grows w ((Matcher.of v : Within R Matcher).run.after w) := by
  refine bind_within (checkKey_grows v) (fun _ w => ?_) w
  repeat' split
  all_goals exact Lasting.refl w

/-- A rule is remembered in the form in which it was first seen. -/
theorem Rule.ready_grows (r : Rule) (w : World κ) : Grows w ((r.ready : Within R ReadyRule).run.after w) := by
  have keys : ∀ w : World κ,
      Grows w (([r.find, r.replace, r.predicate, r.count].forM checkKey : Within R Unit).run.after w) := by
    rw [Within.run_forM]
    exact forM_within _ fun v _ => checkKey_grows v
  refine bind_within keys (fun _ w => ?_) w
  have seen : (world : Within R _).run w = .ok w w := rfl
  rw [Within.run_bind, after_bind_ok seen]
  refine bind_within (Matcher.of_grows _) (fun m u => ?_) w
  split
  · exact bind_within (setRules_grows _) (fun _ w => Lasting.refl w) u
  · exact Lasting.refl u

theorem RuleItem.condition_grows (item : RuleItem) (w : World κ) :
    Grows w ((item.condition : Within R Value).run.after w) := by
  cases item <;> exact Lasting.refl w

theorem addOwner_grows (owners : List Value) (owner : Value) (w : World κ) :
    Grows w ((addOwner owners owner : Within R _).run.after w) :=
  Lasting.refl w

theorem joined_grows (separator : String) (items : List Value) (w : World κ) :
    Grows w ((Run.joined separator items : Within R String).run.after w) := by
  refine bind_within (R := Grows (κ := κ)) (fun w => Lasting.refl w) (fun h => ?_) w
  refine bind_within (mapM_within (fun e w => ?_) _) fun _ w => Lasting.refl w
  dsimp only
  split <;> exact Lasting.refl w

theorem logDiff_grows (before : String) (after : Option String) (p : Pattern.Program) (width : Int) (w : World κ) :
    Grows w ((logDiff before after p width : Within R Unit).run.after w) :=
  bind_within (log_grows _ _) (fun _ => bind_within (log_grows _ _) fun _ => log_grows _ _) w

theorem report_grows (s : Setup) (patch : Patch) (r : Rule) (before : String) (outcome : RuleOutcome)
    (program : Option Pattern.Program) (after : Option String) (w : World κ) :
    Grows w ((report s patch r before outcome program after : Within R Unit).run.after w) := by
  cases outcome with
  | skipped => exact Lasting.refl w
  | applied => exact Lasting.refl w
  | noEffect =>
      simp only [report]
      cases patch.quiet <;> cases s.dev <;> cases patch.group <;>
        exact ⟨fun _ _ h => h, rfl, rfl, rfl, rfl, rfl, rfl, rfl, Nat.le_refl _⟩
  | failed c =>
      simp only [report]
      cases s.dev <;> cases program <;> cases patch.group <;>
        exact ⟨fun _ _ h => h, rfl, rfl, rfl, rfl, rfl, rfl, rfl, Nat.le_refl _⟩

end Patchwork
