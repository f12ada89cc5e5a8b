import Patchwork.Proofs.Draining
import Patchwork.Proofs.Keys
import Patchwork.Proofs.Nesting

/-!
Which failures come out of patching a module. Rules that fail are reported; conditions, what a patch looks for, and what
has to be read before and after are outside of that.
-/

namespace Patchwork

open Run

variable {κ : Type}

/-! ## Computations from which no failure comes -/

namespace Run

variable {α β : Type} {m : Run κ α} {f : α → Run κ β} {v w : World κ} {c : Cause}

/-- No ordinary failure comes out of a computation. -/
def Contained (m : Run κ α) : Prop :=
  ∀ w c v, m w = .error (.failed c) v → c.kind.isFatal = true

theorem contained_of_ok (h : ∀ w, ∃ a v, m w = .ok a v) : m.Contained := by
  intro w c v failed
  obtain ⟨a, u, ok⟩ := h w
  rw [ok] at failed
  cases failed

theorem Contained.pure (a : α) : (pure a : Run κ α).Contained :=
  contained_of_ok fun w => ⟨a, w, rfl⟩

theorem Contained.bind (hm : m.Contained) (hf : ∀ a, (f a).Contained) : (m >>= f).Contained := by
  intro w c v failed
  rcases bind_error.mp failed with failed | ⟨a, u, -, failed⟩
  · exact hm w c v failed
  · exact hf a u c v failed

theorem Contained.forM {f : α → Run κ Unit} (hf : ∀ a, (f a).Contained) : (as : List α) → (as.forM f).Contained
  | [] => .pure ()
  | a :: as => (hf a).bind fun _ => .forM hf as

theorem handle_contained {h : Cause → Run κ α} (hh : ∀ c, (h c).Contained) : (handle m h).Contained := by
  intro w c v failed
  cases fatal : c.kind.isFatal with
  | true => rfl
  | false =>
      obtain ⟨c', u, -, failed⟩ := handle_failed failed fatal
      rw [hh c' u c v failed] at fatal
      cases fatal

/-- How a computation can end without a fatal failure. -/
def Ordinary : EStateM.Result Fault (World κ) α → Prop
  | .ok _ _ => True
  | .error (.failed c) _ => c.kind.isFatal = false
  | .error .exhausted _ => False

theorem Contained.bind_iff {e : EStateM.Result Fault (World κ) β} (hm : m.Contained) (ordinary : Ordinary e) :
    (m >>= f) w = e ↔ ∃ a u, m w = .ok a u ∧ f a u = e := by
  constructor
  · intro h
    cases ran : m w with
    | ok a u => exact ⟨a, u, rfl, (bind_of_ok ran).symm.trans h⟩
    | error stop u =>
        rw [bind_of_error ran] at h
        subst h
        cases stop with
        | exhausted => cases ordinary
        | failed c =>
            have fatal := hm w c u ran
            rw [Ordinary, fatal] at ordinary
            cases ordinary
  · rintro ⟨a, u, ran, rest⟩
    exact (bind_of_ok ran).trans rest

/-- A computation without failures is followed by one from which the failure comes. -/
theorem Contained.failed_bind_iff (ordinary : c.kind.isFatal = false) (hm : m.Contained) :
    (m >>= f) w = .error (.failed c) v ↔ ∃ a u, m w = .ok a u ∧ f a u = .error (.failed c) v :=
  hm.bind_iff ordinary

end Run

variable {call : Caller κ} {s : Setup} {patch : Patch} {n run i j : Nat} {p q : Progress} {u v w z : World κ}
  {c : Cause}

/-! ## Rules -/

theorem showFactory_contained {R : World κ → World κ → Prop} [Still R] [Calls call R] (factory : Value)
    (listeners : List Value) : (showFactory call factory listeners : Within R Unit).run.Contained := by
  induction listeners with
  | nil => exact .pure ()
  | cons l listeners ih =>
      refine Contained.bind ?_ fun _ => ih
      rw [run_handle]
      exact handle_contained fun c => contained_of_ok fun w => ⟨_, _, rfl⟩

theorem report_contained {r : Rule} {before : String} {outcome : RuleOutcome} {program : Option Pattern.Program}
    {after : Option String} : (report s patch r before outcome program after : Calling call _).run.Contained := by
  refine contained_of_ok fun w => ?_
  cases outcome with
  | skipped => exact ⟨_, _, rfl⟩
  | applied => exact ⟨_, _, rfl⟩
  | noEffect =>
      simp only [report]
      cases patch.quiet <;> cases s.dev <;> cases patch.group <;> exact ⟨_, _, rfl⟩
  | failed c =>
      simp only [report]
      cases s.dev <;> cases program <;> cases patch.group <;> exact ⟨_, _, rfl⟩

theorem attempt_contained {r : Rule} : (attempt call s patch r p : Calling call _).run.Contained := by
  rw [attempt, run_handle]
  exact handle_contained fun c => .pure _

/-- Asking the condition of a rule. -/
def RuleItem.asked (call : Caller κ) (item : RuleItem) : Calling call Bool := do
  holdsNow call (← item.condition)

/-- A rule fails where its condition does. -/
theorem applyRule_failed_iff {item : RuleItem} (ordinary : c.kind.isFatal = false) :
    (applyRule call s patch item p : Calling call _).run w = .error (.failed c) v ↔
      (item.asked call).run w = .error (.failed c) v := by
  constructor
  · intro h
    rcases bind_error.mp h with failed | ⟨condition, u, known, after⟩
    · exact bind_of_error failed
    rcases bind_error.mp after with failed | ⟨holds, x, -, after⟩
    · exact (bind_of_ok known).trans failed
    cases holds with
    | false => cases after
    | true =>
        cases item with
        | other => cases after
        | rule r =>
            have fatal := (attempt_contained.bind fun _ => report_contained.bind fun _ => .pure _) x c v after
            rw [fatal] at ordinary
            cases ordinary
  · intro h
    rcases bind_error.mp h with failed | ⟨condition, u, known, failed⟩
    · exact bind_of_error failed
    · exact (bind_of_ok known).trans (bind_of_error failed)

/-! ## Patches -/

/-- How trying a patch fails: in its condition, in what it looks for, or in the condition of a rule in its turn. -/
inductive Breaks (call : Caller κ) (s : Setup) (patch : Patch) (p : Progress) (w : World κ) (c : Cause)
    (z : World κ) : Prop where
  | condition : (holdsNow call patch.predicate : Calling call _).run w = .error (.failed c) z →
      Breaks call s patch p w c z
  | find {u : World κ} : Turns call patch.predicate w true u →
      (Matcher.of patch.find : Calling call _).run u = .error (.failed c) z → Breaks call s patch p w c z
  | rule {u v : World κ} {ts : List (RuleTrial κ)} {item : RuleItem} {rest : List RuleItem} {q : Progress} :
      Selects call patch p w u → RuleTrials call s patch patch.rules p u ts (item :: rest) q v →
      (item.asked call).run v = .error (.failed c) z → Breaks call s patch p w c z

theorem Breaks.tried (h : Breaks call s patch p w c z) (ordinary : c.kind.isFatal = false) :
    (tryPatch call s patch p : Calling call _).run w = .error (.failed c) z := by
  cases h with
  | condition failed => exact bind_of_error failed
  | find asked failed => exact (bind_of_ok asked).trans (bind_of_error failed)
  | rule selects trials failed =>
      rw [tryPatch_selected selects]
      refine bind_of_error ((trials.resume false).trans ?_)
      exact bind_of_error ((applyRule_failed_iff ordinary).mpr failed)

theorem tryPatch_failed_iff (ordinary : c.kind.isFatal = false) :
    (tryPatch call s patch p : Calling call _).run w = .error (.failed c) z ↔ Breaks call s patch p w c z := by
  refine ⟨fun h => ?_, fun h => h.tried ordinary⟩
  rcases bind_error.mp h with failed | ⟨holds, u, asked, after⟩
  · exact .condition failed
  · cases holds with
    | false => cases after
    | true =>
        rcases bind_error.mp after with failed | ⟨m, u', read, after⟩
        · exact .find asked failed
        · cases found : m.isIn p.code.toList with
          | false =>
              simp only [found] at after
              cases after
          | true =>
              have selects : Selects call patch p w u' := ⟨u, m, asked, read, found⟩
              rw [tryPatch_selected selects] at h
              rcases bind_error.mp h with failed | ⟨_, _, -, after⟩
              · obtain ⟨ts, item, rest, q, v, trials, failed⟩ := applyRules_error failed
                exact .rule selects trials ((applyRule_failed_iff ordinary).mp failed)
              · cases after

/-! ## Runs -/

/-- How a run fails where it stands: in trying a patch, or since the patch that contributed has lost its place. -/
inductive Falters (call : Caller κ) (s : Setup) (n run i : Nat) (p : Progress) (w : World κ) (c : Cause)
    (z : World κ) : Prop where
  | breaks {o : Occurrence} : (w.registry n).patches[i]? = some o → Breaks call s o.patch p w c z →
      Falters call s n run i p w c z
  | lost {o : Occurrence} {q : Progress} {u : World κ} : (w.registry n).patches[i]? = some o →
      (tryPatch call s o.patch p : Calling call _).run w = .ok (q, true) u → o.patch.applyToAll = false →
      (u.registry n).patches[i]? = none → endTurn n run i o true u = .error (.failed c) z →
      Falters call s n run i p w c z

/-- A turn ends with a failure only if a patch is to be taken out of a place where there is none. -/
theorem endTurn_error {o : Occurrence} {contributed : Bool} {e : Fault}
    (h : endTurn n run i o contributed w = .error e z) :
    contributed = true ∧ o.patch.applyToAll = false ∧ (w.registry n).patches[i]? = none := by
  cases here : (w.registry n).patches[i]? with
  | some o' =>
      obtain ⟨v, ended, -⟩ := endTurn_place run o contributed here
      rw [ended] at h
      cases h
  | none =>
      cases used : contributed && !o.patch.applyToAll with
      | false =>
          have tried : noteDeed (.tried n run o.number) w = .ok () (w.noted (.tried n run o.number)) := rfl
          rw [endTurn, bind_of_ok tried, used] at h
          cases h
      | true =>
          rw [Bool.and_eq_true, Bool.not_eq_true'] at used
          exact ⟨used.1, used.2, rfl⟩

theorem takeTurn_failed_iff {o : Occurrence} (ordinary : c.kind.isFatal = false)
    (here : (w.registry n).patches[i]? = some o) :
    takeTurn call s n run i o p w = .error (.failed c) z ↔ Falters call s n run i p w c z := by
  constructor
  · intro h
    rcases bind_error.mp h with failed | ⟨⟨q, contributed⟩, u, tried, after⟩
    · exact .breaks here ((tryPatch_failed_iff ordinary).mp failed)
    rcases bind_error.mp after with failed | ⟨j, v, -, after⟩
    · obtain ⟨rfl, single, none⟩ := endTurn_error failed
      exact .lost here tried single none failed
    · cases after
  · intro h
    cases h with
    | breaks there breaks =>
        cases here.symm.trans there
        exact bind_of_error (breaks.tried ordinary)
    | lost there tried single none failed =>
        cases here.symm.trans there
        exact (bind_of_ok tried).trans (bind_of_error failed)

theorem Falters.here (h : Falters call s n run i p w c z) : ∃ o, (w.registry n).patches[i]? = some o := by
  cases h with
  | breaks here => exact ⟨_, here⟩
  | lost here => exact ⟨_, here⟩

/-- A run fails where it falters, unless it comes to more patches than it may. -/
theorem runPatches_failed_iff (ordinary : c.kind.isFatal = false) :
    runPatches call s n p w = .error (.failed c) z ↔
      ∃ ts j q v, Tries call s n p w ts j q v ∧ ts.length < (w.registry n).patches.length + extraPatches ∧
        Falters call s n w.history.length j q v c z := by
  constructor
  · intro h
    obtain ⟨ts, j, q, v, trials, stops⟩ := runPatches_trials call s n p w
    rw [h] at stops
    cases stops with
    | failed more here turn =>
        exact ⟨ts, j, q, v, trials, Nat.lt_of_sub_pos more, (takeTurn_failed_iff ordinary here).mp turn⟩
  · rintro ⟨ts, j, q, v, trials, bound, falters⟩
    obtain ⟨fuel, enough⟩ := Nat.exists_eq_add_of_lt bound
    obtain ⟨o, here⟩ := falters.here
    rw [runPatches_eq, enough, Nat.add_assoc, trials.resume, tryPatches_some here]
    exact bind_of_error ((takeTurn_failed_iff ordinary here).mpr falters)

/-! ## Modules -/

section

variable {id factory : Value} {listeners : List Value} {policy : Policy} {dev : Bool} {diffContext : Int}

/-- How applying the patches to a module fails: in reading its text or its globals, or in a turn. -/
inductive Interrupted (call : Caller κ) (id factory : Value) (n : Nat) (listeners : List Value) (policy : Policy)
    (dev : Bool) (diffContext : Int) (w : World κ) (c : Cause) (z : World κ) : Prop where
  | text {w₁ : World κ} : (showFactory call factory listeners : Working call _).run w = .ok () w₁ →
      closedOver w₁.heap factory = [] →
      (normalizedSource policy factory : Working call _).run w₁ = .error (.failed c) z →
      Interrupted call id factory n listeners policy dev diffContext w c z
  | globals {w₁ w₂ : World κ} {code : String} :
      (showFactory call factory listeners : Working call _).run w = .ok () w₁ → closedOver w₁.heap factory = [] →
      (normalizedSource policy factory : Working call _).run w₁ = .ok (some code) w₂ →
      (globalsOf factory : Working call _).run w₂ = .error (.failed c) z →
      Interrupted call id factory n listeners policy dev diffContext w c z
  | turn {s : Setup} {code : String} {u v : World κ} {ts : List (PatchTrial κ)} {j : Nat} {q : Progress} :
      Opens call id factory listeners policy dev diffContext w s code u →
      Tries call s n ⟨factory, code, []⟩ u ts j q v →
      ts.length < (u.registry n).patches.length + extraPatches →
      Falters call s n u.history.length j q v c z →
      Interrupted call id factory n listeners policy dev diffContext w c z

theorem applyPatches_failed_iff (ordinary : c.kind.isFatal = false) :
    (applyPatches call id factory n listeners policy dev diffContext : Working call _).run w = .error (.failed c) z ↔
      Interrupted call id factory n listeners policy dev diffContext w c z := by
  constructor
  · intro h
    rw [applyPatches, Within.run_bind, (showFactory_contained _ _).failed_bind_iff ordinary] at h
    obtain ⟨_, w₁, shown, h⟩ := h
    have seen : (heap : Working call _).run w₁ = .ok w₁.heap w₁ := rfl
    rw [Within.run_bind, bind_of_ok seen] at h
    cases free : closedOver w₁.heap factory with
    | cons name names =>
        rw [free] at h
        cases h
    | nil =>
        simp only [free, List.isEmpty_nil, Bool.not_true, Bool.false_eq_true, ↓reduceIte] at h
        rcases bind_error.mp h with failed | ⟨text, w₂, read, h⟩
        · exact .text shown free failed
        cases text with
        | none => cases h
        | some code =>
            rcases bind_error.mp h with failed | ⟨globals, u, known, h⟩
            · exact .globals shown free read failed
            rcases bind_error.mp h with failed | ⟨q, v, -, h⟩
            · obtain ⟨ts, j, q, v, trials, bound, falters⟩ := (runPatches_failed_iff ordinary).mp failed
              exact .turn ⟨w₁, w₂, globals, shown, free, read, known, rfl⟩ trials bound falters
            · cases h
  · intro h
    cases h with
    | @text w₁ shown free failed =>
        have seen : (heap : Working call _).run w₁ = .ok w₁.heap w₁ := rfl
        rw [applyPatches, Within.run_bind, bind_of_ok shown, Within.run_bind, bind_of_ok seen]
        simp only [free, List.isEmpty_nil, Bool.not_true, Bool.false_eq_true, ↓reduceIte]
        exact bind_of_error failed
    | @globals w₁ w₂ code shown free read failed =>
        have seen : (heap : Working call _).run w₁ = .ok w₁.heap w₁ := rfl
        rw [applyPatches, Within.run_bind, bind_of_ok shown, Within.run_bind, bind_of_ok seen]
        simp only [free, List.isEmpty_nil, Bool.not_true, Bool.false_eq_true, ↓reduceIte]
        exact (bind_of_ok read).trans (bind_of_error failed)
    | turn opens trials bound falters =>
        rw [opens.applyPatches]
        exact bind_of_error ((runPatches_failed_iff ordinary).mpr ⟨_, _, _, _, trials, bound, falters⟩)

end

/-! ## Reads -/

section

variable {id factory : Value} {a : Address}

/-- What follows once the patches have been applied: the owners are reported, and the factory is wrapped and stored. -/
def storeWrapper (call : Caller κ) (n : Nat) (a : Address) (id : Value) (r : ModuleRecord) : Working call Value := do
  if !r.patchedBy.isEmpty then
    let owners ← joined ", " r.patchedBy
    log .debug s!"Module {← str id} patched by {owners}"
  let wrapped ← wrapFactory r n a
  let _ ← ask call (.bound (.ref a) "__setitem__") (.of [id, wrapped])
  pure wrapped

/-- The version of the host, if it is known. -/
def World.hostVersion (w : World κ) : Value :=
  (w.environment.hostVersion?.map Value.str).getD .none

/-- What is read of the registry and the settings before patches are applied. -/
def Prepares (call : Caller κ) (n : Nat) (w : World κ) (policy : Policy) (dev : Bool) (diffContext : Int)
    (w₁ : World κ) : Prop :=
  (choosePolicy (w.registry n).policies w.hostVersion : Working call _).run w = .ok policy w₁ ∧
    dev = w₁.environment.isDev ∧ (diffWidth : Working call _).run w₁ = .ok diffContext w₁

theorem Prepares.patchFactory {policy : Policy} {dev : Bool} {diffContext : Int} {w₁ : World κ}
    (h : Prepares call n w policy dev diffContext w₁) :
    (patchFactory call n a id factory : Working call _).run w =
      ((applyPatches call id factory n (w.registry n).factoryListeners policy dev diffContext : Working call _).run >>=
        fun r => (storeWrapper call n a id r).run) w₁ := by
  obtain ⟨chosen, rfl, width⟩ := h
  have known : (Run.registry n : Working call _).run w = .ok (w.registry n) w := rfl
  have seen : (world : Working call _).run w = .ok w w := rfl
  have seen₁ : (world : Working call _).run w₁ = .ok w₁ w₁ := rfl
  refine (bind_of_ok known).trans ((bind_of_ok seen).trans ((bind_of_ok chosen).trans ?_))
  exact (bind_of_ok seen₁).trans (bind_of_ok width)

/-- How patching a factory fails: in choosing a policy, in a setting, in applying the patches, or in storing the
wrapper. -/
inductive Escapes (call : Caller κ) (n : Nat) (a : Address) (id factory : Value) (w : World κ) (c : Cause)
    (z : World κ) : Prop where
  | policy :
      (choosePolicy (w.registry n).policies w.hostVersion : Working call _).run w = .error (.failed c) z →
      Escapes call n a id factory w c z
  | setting {policy : Policy} {w₁ : World κ} :
      (choosePolicy (w.registry n).policies w.hostVersion : Working call _).run w = .ok policy w₁ →
      (diffWidth : Working call _).run w₁ = .error (.failed c) z → Escapes call n a id factory w c z
  | applying {policy : Policy} {dev : Bool} {diffContext : Int} {w₁ : World κ} :
      Prepares call n w policy dev diffContext w₁ →
      Interrupted call id factory n (w.registry n).factoryListeners policy dev diffContext w₁ c z →
      Escapes call n a id factory w c z
  | storing {policy : Policy} {dev : Bool} {diffContext : Int} {w₁ v : World κ} {r : ModuleRecord} :
      Prepares call n w policy dev diffContext w₁ →
      (applyPatches call id factory n (w.registry n).factoryListeners policy dev diffContext : Working call _).run w₁ =
        .ok r v →
      (storeWrapper call n a id r).run v = .error (.failed c) z → Escapes call n a id factory w c z

theorem diffWidth_ok {diffContext : Int} (h : (diffWidth : Working call _).run w = .ok diffContext v) : v = w := by
  obtain ⟨_, _, seen, h⟩ := bind_ok.mp h
  cases seen
  dsimp only at h
  split at h <;> cases h
  rfl

theorem patchFactory_failed_iff (ordinary : c.kind.isFatal = false) :
    (patchFactory call n a id factory : Working call _).run w = .error (.failed c) z ↔
      Escapes call n a id factory w c z := by
  have known : (Run.registry n : Working call _).run w = .ok (w.registry n) w := rfl
  have seen : (world : Working call _).run w = .ok w w := rfl
  constructor
  · intro h
    have h := (bind_of_ok known).symm.trans h
    have h := (bind_of_ok seen).symm.trans h
    rcases bind_error.mp h with failed | ⟨policy, w₁, chosen, h⟩
    · exact .policy failed
    have h := (bind_of_ok (show (world : Working call _).run w₁ = .ok w₁ w₁ from rfl)).symm.trans h
    rcases bind_error.mp h with failed | ⟨width, w₂, read, h⟩
    · exact .setting chosen failed
    obtain rfl := diffWidth_ok read
    rcases bind_error.mp h with failed | ⟨r, v, applied, h⟩
    · exact .applying ⟨chosen, rfl, read⟩ ((applyPatches_failed_iff ordinary).mp failed)
    · exact .storing ⟨chosen, rfl, read⟩ applied h
  · intro h
    cases h with
    | policy failed => exact (bind_of_ok known).trans ((bind_of_ok seen).trans (bind_of_error failed))
    | @setting policy w₁ chosen failed =>
        have seen₁ : (world : Working call _).run w₁ = .ok w₁ w₁ := rfl
        refine (bind_of_ok known).trans ((bind_of_ok seen).trans ((bind_of_ok chosen).trans ?_))
        exact (bind_of_ok seen₁).trans (bind_of_error failed)
    | applying prepares interrupted =>
        rw [prepares.patchFactory]
        exact bind_of_error ((applyPatches_failed_iff ordinary).mpr interrupted)
    | storing prepares applied failed =>
        rw [prepares.patchFactory]
        exact (bind_of_ok applied).trans failed

theorem isModuleId_hashable {key : Value} (h : Heap) (module : isModuleId key = true) : h.unhashable? key = none := by
  cases key with
  | int => rfl
  | str => rfl
  | _ => cases module

section

variable {outside : Surroundings κ} {fuel : Nat} {key x : Value} {t : Table}

/-- The world after an object has been put in the place of another one. -/
def World.replaced (w : World κ) (a : Address) (o : Object) : World κ :=
  { w with heap := w.heap.setIfInBounds a o }

theorem World.replaced_at {o o' : Object} (there : w.heap[a]? = some o') : (w.replaced a o).heap[a]? = some o := by
  have bound : a < w.heap.size := (Array.getElem?_eq_some_iff.mp there).1
  rw [World.replaced, Array.getElem?_setIfInBounds_self_of_lt bound]

theorem World.replaced_other {o : Object} {b : Address} (other : a ≠ b) : (w.replaced a o).heap[b]? = w.heap[b]? :=
  Array.getElem?_setIfInBounds_ne other

/-- Filling an object anew puts a filled one in its place. -/
theorem write_run {R : World κ → World κ → Prop} [Still R] {o : Object} (there : w.heap[a]? = some o) (c : Content) :
    (write a c : Within R Unit).run w = .ok () (w.replaced a (o.filled c)) := by
  have filled : w.heap.modify a (fun o => o.filled c) = w.heap.setIfInBounds a (o.filled c) := by
    refine Array.ext_getElem? fun i => ?_
    rw [Array.getElem?_modify, Array.getElem?_setIfInBounds]
    split
    · next same =>
        rw [← same, there, if_pos (Array.getElem?_eq_some_iff.mp there).1]
        rfl
    · rfl
  have ran : (write a c : Within R Unit).run w = .ok () { w with heap := w.heap.modify a fun o => o.filled c } := rfl
  rw [ran, filled, World.replaced]

theorem checkKey_ok {R : World κ → World κ → Prop} [Still R] (hashable : w.heap.unhashable? key = none) :
    (checkKey key : Within R Unit).run w = .ok () w := by
  have seen : (heap : Within R _).run w = .ok w.heap w := rfl
  rw [checkKey, Within.run_bind, bind_of_ok seen, hashable]
  rfl

theorem tableAt_ok {R : World κ → World κ → Prop} [Still R] (there : w.heap[a]? = some (.table t)) :
    (tableAt a : Within R Table).run w = .ok t w := by
  have seen : (objectAt? a : Within R _).run w = .ok w.heap[a]? w := rfl
  rw [tableAt, Within.run_bind, bind_of_ok seen, there]
  rfl

theorem store_ok {R : World κ → World κ → Prop} [Moves R] (there : w.heap[a]? = some (.table t))
    (hashable : w.heap.unhashable? key = none) :
    (Table.store a key x : Within R Unit).run w = .ok () (w.replaced a (.table (t.set key x))) := by
  rw [Table.store, Within.run_bind, bind_of_ok (checkKey_ok hashable), Within.run_bind, bind_of_ok (tableAt_ok there)]
  rfl

theorem callWithin_setItem (there : w.heap[a]? = some (.table t)) (hashable : w.heap.unhashable? key = none) :
    callWithin outside (fuel + 1) (.bound (.ref a) "__setitem__") (.of [key, x]) w =
      .ok .none (w.replaced a (.table (t.set key x))) := by
  have seen : (heap : Working (callWithin outside fuel) _).run w = .ok w.heap w := rfl
  rw [callWithin, callOnce, Within.run_bind, bind_of_ok seen]
  simp only [there]
  rw [Table.callMethod]
  exact (bind_of_ok (store_ok there hashable)).trans rfl

/-- A value is the wrapper of a module to which the patches were applied, and the table has it from then on. -/
def Wraps (call : Caller κ) (n : Nat) (a : Address) (id factory : Value) (w : World κ) (x : Value) (z : World κ) :
    Prop :=
  ∃ policy dev diffContext w₁ r v v₁ v₂,
    Prepares call n w policy dev diffContext w₁ ∧
    (applyPatches call id factory n (w.registry n).factoryListeners policy dev diffContext : Working call _).run w₁ =
      .ok r v ∧
    (wrapFactory r n a : Working call _).run v₁ = .ok x v₂ ∧
    ∀ t, v₂.heap[a]? = some (.table t) → ∃ t', z.heap[a]? = some (.table t') ∧ t'.get? id = some x

theorem storeWrapper_ok {r : ModuleRecord} (h : (storeWrapper call n a id r).run w = .ok x z) :
    ∃ v₁ v₂ y, (wrapFactory r n a : Working call _).run v₁ = .ok x v₂ ∧
      call (.bound (.ref a) "__setitem__") (.of [id, x]) v₂ = .ok y z := by
  have rest : ∀ {v₁}, (do
      let wrapped ← wrapFactory r n a
      let _ ← ask call (.bound (.ref a) "__setitem__") (.of [id, wrapped])
      pure wrapped : Working call Value).run v₁ = .ok x z →
      ∃ v₁ v₂ y, (wrapFactory r n a : Working call _).run v₁ = .ok x v₂ ∧
        call (.bound (.ref a) "__setitem__") (.of [id, x]) v₂ = .ok y z := by
    intro v₁ h
    obtain ⟨wrapped, v₂, made, h⟩ := bind_ok.mp h
    obtain ⟨y, v₃, set, h⟩ := bind_ok.mp h
    cases h
    exact ⟨v₁, v₂, y, made, set⟩
  simp only [storeWrapper] at h
  split at h
  · obtain ⟨_, _, -, h⟩ := bind_ok.mp h
    obtain ⟨_, _, -, h⟩ := bind_ok.mp h
    obtain ⟨_, _, -, h⟩ := bind_ok.mp h
    exact rest h
  · exact rest h

theorem patchFactory_wraps (module : isModuleId id = true)
    (h : (patchFactory (callWithin outside (fuel + 1)) n a id factory :
      Working (callWithin outside (fuel + 1)) _).run w = .ok x z) :
    Wraps (callWithin outside (fuel + 1)) n a id factory w x z := by
  obtain ⟨_, _, known, h⟩ := bind_ok.mp h
  cases known
  obtain ⟨_, _, seen, h⟩ := bind_ok.mp h
  cases seen
  obtain ⟨policy, w₀, chosen, h⟩ := bind_ok.mp h
  obtain ⟨_, _, seen, h⟩ := bind_ok.mp h
  cases seen
  obtain ⟨width, w₁, read, h⟩ := bind_ok.mp h
  obtain rfl := diffWidth_ok read
  obtain ⟨r, v, applied, h⟩ := bind_ok.mp h
  obtain ⟨v₁, v₂, y, wrapped, set⟩ := storeWrapper_ok h
  refine ⟨policy, _, width, w₁, r, v, v₁, v₂, ⟨chosen, rfl, read⟩, applied, wrapped, fun t there => ?_⟩
  rw [callWithin_setItem there (isModuleId_hashable _ module)] at set
  cases set
  exact ⟨t.set id x, World.replaced_at there, Value.lookup?_insert_self⟩

/-- Reads an entry of a table where calls may nest to some depth. -/
def readWithin (outside : Surroundings κ) (depth : Nat) (a : Address) (key : Value) : Run κ Value :=
  (Table.read (callWithin outside depth) a key : Working (callWithin outside depth) Value).run

/-- The first read of a module patches its factory. -/
theorem read_fresh (here : w.heap[a]? = some (.table t)) (stored : t.get? key = some factory)
    (fresh : t.isFresh key factory = true) (patcher : t.patcher = .native (.patching n)) :
    isModuleId key = true ∧
      readWithin outside (fuel + 2) a key w =
        (patchFactory (callWithin outside (fuel + 1)) n a key factory : Working (callWithin outside (fuel + 1)) _).run
          (w.replaced a (.table (t.process key))) := by
  have module : isModuleId key = true := by
    simp only [Table.isFresh, Bool.and_eq_true] at fresh
    exact fresh.1.2
  refine ⟨module, ?_⟩
  rw [readWithin, Table.read, Within.run_bind, bind_of_ok (checkKey_ok (isModuleId_hashable _ module)),
    Within.run_bind, bind_of_ok (tableAt_ok here)]
  simp only [stored, fresh, ↓reduceIte]
  have marked : (setTable a (t.process key) : Working (callWithin outside (fuel + 2)) _).run w =
      .ok () (w.replaced a (.table (t.process key))) := rfl
  rw [Within.run_bind, bind_of_ok marked, patcher]
  rfl

/-- Whatever rules, listeners and recompiled texts do: the first read of a module fails with an ordinary failure exactly
if patching lets one through, which rules that fail do not. A read that returns gives the wrapper and stores it. -/
theorem read_escapes_iff (here : w.heap[a]? = some (.table t)) (stored : t.get? key = some factory)
    (fresh : t.isFresh key factory = true) (patcher : t.patcher = .native (.patching n)) :
    (∀ c z, c.kind.isFatal = false →
      (readWithin outside (fuel + 2) a key w = .error (.failed c) z ↔
        Escapes (callWithin outside (fuel + 1)) n a key factory (w.replaced a (.table (t.process key))) c z)) ∧
    ∀ x z, readWithin outside (fuel + 2) a key w = .ok x z →
      Wraps (callWithin outside (fuel + 1)) n a key factory (w.replaced a (.table (t.process key))) x z := by
  obtain ⟨module, patched⟩ : isModuleId key = true ∧ readWithin outside (fuel + 2) a key w = _ :=
    read_fresh here stored fresh patcher
  rw [patched]
  exact ⟨fun c z ordinary => patchFactory_failed_iff ordinary, fun x z done => patchFactory_wraps module done⟩

end

end

/-! ## A condition that fails -/

/-- Surroundings in which every call fails. -/
def failing : Surroundings Unit :=
  fun _ _ _ => fail (.raised .runtime [])

/-- The place of the condition, behind the factory, and of the table behind both. -/
def conditionPlace : Address :=
  plainFactoryPlace + 1

def tablePlace : Address :=
  plainFactoryPlace + 2

def plainTable : Table :=
  .of [(.str "1", .ref plainFactoryPlace)] (.native (.patching 1))

/-- A table with one module, and a patch whose condition is a function of the surroundings. -/
def guarded : World Unit :=
  let w := World.furnished [] () [plainFactory [], .external 0 "condition", .table plainTable]
  { w with
    sources := [(moduleFile, [plainText.toList])]
    registries := #[.empty, { Registry.empty with
      patches := [⟨0, { renumbering with predicate := .ref conditionPlace }⟩] }, .empty] }

/-- The read of the module there. -/
def readGuarded : EStateM.Result Fault (World Unit) Value :=
  readWithin failing callDepth tablePlace (.str "1") guarded

/-- Whether a read fails with an ordinary failure. -/
def failsOrdinarily : EStateM.Result Fault (World Unit) Value → Bool
  | .error (.failed c) _ => !c.kind.isFatal
  | _ => false

theorem read_escapes_iff_guarded : ∃ c z, c.kind.isFatal = false ∧ readGuarded = .error (.failed c) z ∧
    Escapes (callWithin failing (callDepth - 1)) 1 tablePlace (.str "1") (.ref plainFactoryPlace)
      (guarded.replaced tablePlace (.table (plainTable.process (.str "1")))) c z := by
  have ends : failsOrdinarily readGuarded = true := by decide +kernel
  have here : guarded.heap[tablePlace]? = some (.table plainTable) := rfl
  have stored : plainTable.get? (.str "1") = some (.ref plainFactoryPlace) := rfl
  have fresh : plainTable.isFresh (.str "1") (.ref plainFactoryPlace) = true := by decide +kernel
  cases read : readGuarded with
  | ok x z =>
      rw [read] at ends
      cases ends
  | error e z =>
      rw [read] at ends
      cases e with
      | exhausted => cases ends
      | failed c =>
          have ordinary : c.kind.isFatal = false := by simpa [failsOrdinarily] using ends
          have iff : readWithin failing (898 + 2) tablePlace (.str "1") guarded = .error (.failed c) z ↔ _ :=
            (read_escapes_iff here stored fresh rfl).1 c z ordinary
          exact ⟨c, z, ordinary, rfl, iff.mp read⟩

/-- What a failed read leaves under a key. -/
def leftBehind (a : Address) (key : Value) : EStateM.Result Fault (World Unit) Value → Option (Bool × Bool × Address)
  | .error (.failed c) z =>
    match z.heap[a]? with
    | some (.table t) =>
      match t.get? key with
      | some (.ref b) => some (c.kind.isFatal, t.isProcessed key, b)
      | _ => none
    | _ => none
  | _ => none

/-- The failure of a condition comes out of the read. The factory stays in the table as it was, and counts as
patched. -/
theorem read_guarded_left :
    leftBehind tablePlace (.str "1") readGuarded = some (false, true, plainFactoryPlace) := by
  decide +kernel

end Patchwork
