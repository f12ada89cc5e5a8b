import Patchwork.Proofs.Containment
import Patchwork.Proofs.Fallback
import Patchwork.Proofs.TableRuns

/-!
Whose failures come out of running a module. Those of the original factory do, and so do those of reading what the
module exports; listeners, filters and subscribers fail on their own.
-/

namespace Patchwork

open Run

variable {κ : Type}

/-! ## Telling -/

section

variable {call : Caller κ} {registry : Nat} {exports id : Value}

theorem tellListener_contained {R : World κ → World κ → Prop} [Still R] [Calls call R] (what : String)
    (args : List Value) (listener : Value) : (tellListener call what args listener : Within R Unit).run.Contained := by
  rw [tellListener, run_handle]
  exact handle_contained fun c => contained_of_ok fun w => ⟨_, _, rfl⟩

theorem notifyModule_contained : (notifyModule call registry exports id : Working call _).run.Contained := by
  refine Contained.bind (contained_of_ok fun w => ⟨_, w, rfl⟩) fun r => ?_
  rw [Within.run_forM]
  exact .forM (tellListener_contained "module" _) _

theorem fireEntry_contained (candidates : List Value) (e : Value × Subscription) :
    (fireEntry call registry candidates id e).Contained := by
  refine Contained.bind (contained_of_ok fun w => ⟨w, w, rfl⟩) fun w => ?_
  split
  · exact handle_contained fun c => contained_of_ok fun w => ⟨_, _, rfl⟩
  · exact .pure ()

theorem firePass_contained (candidates : List Value) : (firePass call registry candidates id).Contained :=
  Contained.bind (contained_of_ok fun w => ⟨w, w, rfl⟩) fun _ => .forM (fireEntry_contained candidates) _

end

/-! ## Reading what a module exports -/

section

variable {call : Caller κ} {registry : Nat} {table : Address} {id module exports : Value} {w z : World κ} {c : Cause}

/-- How reporting the exports of a module fails: their normal form cannot be told, before the listeners run or once
more after that, or the module is to be hidden under an id that is no key. -/
inductive Unreported (call : Caller κ) (id : Value) (registry : Nat) (exports : Value) (w : World κ) (c : Cause)
    (z : World κ) : Prop where
  | normal : (exportsOf call exports : Working call _).run w = .error (.failed c) z →
      Unreported call id registry exports w c z
  | hidden {e : Exports} {u : World κ} : (exportsOf call exports : Working call _).run w = .ok e u →
      e.kind = .global → (checkKey id : Working call _).run u = .error (.failed c) z →
      Unreported call id registry exports w c z
  | again {e : Exports} {u v : World κ} : (exportsOf call exports : Working call _).run w = .ok e u →
      e.kind ≠ .global → (notifyModule call registry exports id : Working call _).run u = .ok () v →
      (exportsOf call exports : Calling call _).run v = .error (.failed c) z →
      Unreported call id registry exports w c z

theorem fireSubscriptions_failed_iff (ordinary : c.kind.isFatal = false) :
    fireSubscriptions call registry exports id w = .error (.failed c) z ↔
      (exportsOf call exports : Calling call _).run w = .error (.failed c) z := by
  refine bind_error.trans (or_iff_left ?_)
  rintro ⟨e, u, -, failed⟩
  rw [firePass_contained _ u c z failed] at ordinary
  cases ordinary

theorem reportExports_hides {e : Exports} (kind : e.kind = .global)
    (normal : (exportsOf call exports : Working call _).run w = .ok e z) :
    (reportExports call id registry table exports : Working call _).run w =
      (do
        checkKey id
        setTable table ((← tableAt table).hide id) : Working call Unit).run z := by
  rw [reportExports, Within.run_bind, bind_of_ok normal, kind]

theorem reportExports_tells {e : Exports} (kind : e.kind ≠ .global)
    (normal : (exportsOf call exports : Working call _).run w = .ok e z) :
    (reportExports call id registry table exports : Working call _).run w =
      ((notifyModule call registry exports id : Working call _).run >>=
        fun _ => fireSubscriptions call registry exports id) z := by
  rw [reportExports, Within.run_bind, bind_of_ok normal]
  split
  · next global => exact absurd global kind
  · rfl

theorem tableAt_contained {R : World κ → World κ → Prop} [Moves R] : (tableAt table : Within R Table).run.Contained :=
  contained_of_ok fun w => ⟨_, w, tableAt_run table w⟩

theorem reportExports_failed_iff (ordinary : c.kind.isFatal = false) :
    (reportExports call id registry table exports : Working call _).run w = .error (.failed c) z ↔
      Unreported call id registry exports w c z := by
  constructor
  · intro h
    rcases bind_error.mp h with failed | ⟨e, u, normal, -⟩
    · exact .normal failed
    by_cases kind : e.kind = .global
    · rw [reportExports_hides kind normal] at h
      rcases bind_error.mp h with failed | ⟨_, v, -, failed⟩
      · exact .hidden normal kind failed
      · rw [tableAt_contained.bind (fun _ => contained_of_ok fun w => ⟨_, _, rfl⟩) v c z failed] at ordinary
        cases ordinary
    · rw [reportExports_tells kind normal, notifyModule_contained.failed_bind_iff ordinary] at h
      obtain ⟨⟨⟩, v, told, failed⟩ := h
      exact .again normal kind told ((fireSubscriptions_failed_iff ordinary).mp failed)
  · intro h
    cases h with
    | normal failed => exact bind_of_error failed
    | hidden normal kind failed =>
        rw [reportExports_hides kind normal]
        exact bind_of_error failed
    | again normal kind told failed =>
        rw [reportExports_tells kind normal]
        exact (bind_of_ok told).trans ((fireSubscriptions_failed_iff ordinary).mpr failed)

/-- How reading what a module exports fails: the module refuses to give its exports, or they cannot be reported. -/
inductive Unreadable (call : Caller κ) (id : Value) (registry : Nat) (module : Value) (w : World κ) (c : Cause)
    (z : World κ) : Prop where
  | unread : (readAttr? call module "exports" : Working call _).run w = .error (.failed c) z →
      Unreadable call id registry module w c z
  | exports {exports : Value} {u : World κ} :
      (readAttr? call module "exports" : Working call _).run w = .ok (some exports) u → exports ≠ .none →
      Unreported call id registry exports u c z → Unreadable call id registry module w c z

theorem reportModule_exports {u : World κ} (given : exports ≠ .none)
    (read : (readAttr? call module "exports" : Working call _).run w = .ok (some exports) u) :
    (reportModule call id registry table module : Working call _).run w =
      (reportExports call id registry table exports : Working call _).run u := by
  rw [reportModule, Within.run_bind, bind_of_ok read, Option.getD_some]
  split
  · exact absurd rfl given
  · rfl

theorem reportModule_failed_iff (ordinary : c.kind.isFatal = false) :
    (reportModule call id registry table module : Working call _).run w = .error (.failed c) z ↔
      Unreadable call id registry module w c z := by
  constructor
  · intro h
    rcases bind_error.mp h with failed | ⟨given, u, read, h'⟩
    · exact .unread failed
    cases given with
    | none => cases h'
    | some exports =>
        by_cases lacks : exports = .none
        · subst lacks
          cases h'
        · rw [reportModule_exports lacks read] at h
          exact .exports read lacks ((reportExports_failed_iff ordinary).mp h)
  · intro h
    cases h with
    | unread failed => exact bind_of_error failed
    | exports read given failed =>
        rw [reportModule_exports given read]
        exact (reportExports_failed_iff ordinary).mpr failed

end

/-! ## Running a module -/

section

variable {call : Caller κ} {id original current module exports require : Value} {registry : Nat} {table : Address}
  {args : Arguments} {v w z : World κ} {c : Cause}

/-- The world after it has been reported that modules run as they are. -/
def uninitializedWorld (registry : Nat) (w : World κ) : World κ :=
  (reportUninitialized registry : Within Beside Unit).run.after w

theorem reportUninitialized_run (registry : Nat) (w : World κ) :
    (reportUninitialized registry : Working call Unit).run w = .ok () (uninitializedWorld registry w) := by
  have known : ∀ {R : World κ → World κ → Prop} [Moves R],
      (Run.registry registry : Within R _).run w = .ok (w.registry registry) w := rfl
  rw [uninitializedWorld, reportUninitialized, reportUninitialized, Within.run_bind, Within.run_bind,
    after_bind_ok known, bind_of_ok known]
  cases (w.registry registry).uninitializedLogged <;> rfl

/-- The original factory runs and fails: in place of all patched ones, as the current factory, or in place of the
current one, which failed before. -/
inductive HostFails (call : Caller κ) (id original current : Value) (registry : Nat) (args : Arguments) (w : World κ)
    (c : Cause) (z : World κ) : Prop where
  | bypass : isUninitialized registry w = true →
      call original args (uninitializedWorld registry w) = .error (.failed c) z →
      HostFails call id original current registry args w c z
  | current : isUninitialized registry w = false → current = original →
      call current args w = .error (.failed c) z → HostFails call id original current registry args w c z
  | fallback {c' : Cause} {v : World κ} : isUninitialized registry w = false →
      current ≠ original → c'.kind.isFatal = false →
      call current args w = .error (.failed c') v → call original args (fallbackWorld id c' v) = .error (.failed c) z →
      HostFails call id original current registry args w c z

/-- The current factory went through, and what the module exports cannot be read. -/
def ReadingFails (call : Caller κ) (id current : Value) (registry : Nat) (module : Value) (args : Arguments)
    (w : World κ) (c : Cause) (z : World κ) : Prop :=
  isUninitialized registry w = false ∧ ∃ x v, call current args w = .ok x v ∧ Unreadable call id registry module v c z

theorem ReadingFails.not_host {c' : Cause} {z' : World κ}
    (h : ReadingFails call id current registry module args w c z) :
    ¬ HostFails call id original current registry args w c' z' := by
  obtain ⟨initialized, x, v, done, -⟩ := h
  intro fails
  cases fails with
  | bypass uninitialized =>
      rw [initialized] at uninitialized
      cases uninitialized
  | current _ _ failed =>
      rw [done] at failed
      cases failed
  | fallback _ _ _ failed =>
      rw [done] at failed
      cases failed

theorem runModule_uninitialized (uninitialized : isUninitialized registry w = true) :
    (runModule call id original current registry table module exports require : Working call _).run w =
      call original (.of [module, exports, require]) (uninitializedWorld registry w) := by
  have seen : (world : Working call _).run w = .ok w w := rfl
  rw [runModule, Within.run_bind, bind_of_ok seen, uninitialized]
  exact bind_of_ok (reportUninitialized_run registry w)

theorem runModule_done {x : Value} (initialized : isUninitialized registry w = false)
    (done : call current (.of [module, exports, require]) w = .ok x v) :
    (runModule call id original current registry table module exports require : Working call _).run w =
      (do
        reportModule call id registry table module
        pure .none : Working call Value).run v := by
  have run := runCurrent_run call id original current (.of [module, exports, require]) w
  rw [done] at run
  rw [runModule_initialized initialized]
  exact bind_of_ok run

theorem runModule_passes {e : Fault} (initialized : isUninitialized registry w = false)
    (failed : (runCurrent call id original current (.of [module, exports, require]) : Working call _).run w =
      .error e v) :
    (runModule call id original current registry table module exports require : Working call _).run w =
      .error e v := by
  rw [runModule_initialized initialized]
  exact bind_of_error failed

/-- Once a module runs with a runtime, its failure is that of the current factory if this is the original one. -/
theorem runModule_same (initialized : isUninitialized registry w = false)
    (same : current = original)
    (failed : call current (.of [module, exports, require]) w = .error (.failed c) z) :
    (runModule call id original current registry table module exports require : Working call _).run w =
      .error (.failed c) z := by
  refine runModule_passes initialized ?_
  rw [runCurrent_run, failed]
  simp only [same, or_true, ↓reduceIte]

/-- A module fails after its current factory has failed only if the original one fails. -/
theorem HostFails.of_current {e : Fault} (initialized : isUninitialized registry w = false)
    (ran : call current (.of [module, exports, require]) w = .error e v) (ordinary : c.kind.isFatal = false)
    (h : (runModule call id original current registry table module exports require : Working call _).run w =
      .error (.failed c) z) :
    HostFails call id original current registry (.of [module, exports, require]) w c z := by
  have run := runCurrent_run call id original current (.of [module, exports, require]) w
  rw [ran] at run
  cases e with
  | exhausted =>
      rw [runModule_passes initialized run] at h
      cases h
  | failed c' =>
      cases fatal : c'.kind.isFatal with
      | true =>
          simp only [fatal, true_or, ↓reduceIte] at run
          rw [runModule_passes initialized run] at h
          cases h
          rw [fatal] at ordinary
          cases ordinary
      | false =>
          by_cases same : current = original
          · rw [runModule_same initialized same ran] at h
            cases h
            exact .current initialized same ran
          · rw [runModule_fallback same initialized fatal ran] at h
            exact .fallback initialized same fatal ran h

theorem runModule_failed_iff (ordinary : c.kind.isFatal = false) :
    (runModule call id original current registry table module exports require : Working call _).run w =
        .error (.failed c) z ↔
      HostFails call id original current registry (.of [module, exports, require]) w c z ∨
        ReadingFails call id current registry module (.of [module, exports, require]) w c z := by
  constructor
  · intro h
    cases initialized : isUninitialized registry w with
    | true =>
        rw [runModule_uninitialized initialized] at h
        exact .inl (.bypass initialized h)
    | false =>
        cases ran : call current (.of [module, exports, require]) w with
        | error e v => exact .inl (.of_current initialized ran ordinary h)
        | ok x v =>
            rw [runModule_done initialized ran] at h
            rcases bind_error.mp h with failed | ⟨_, _, -, done⟩
            · exact .inr ⟨initialized, x, v, ran, (reportModule_failed_iff ordinary).mp failed⟩
            · cases done
  · rintro (fails | ⟨initialized, x, v, done, failed⟩)
    · cases fails with
      | bypass uninitialized failed => rwa [runModule_uninitialized uninitialized]
      | current initialized same failed => exact runModule_same initialized same failed
      | fallback initialized other ordinary' failed failed' =>
          rwa [runModule_fallback other initialized ordinary' failed]
    · rw [runModule_done initialized done]
      exact bind_of_error ((reportModule_failed_iff ordinary).mpr failed)

/-- Whatever factories, listeners, filters and subscribers do: a call of a module's wrapper fails with an ordinary
failure exactly if the original factory fails with it, or the current one went through and what the module exports
cannot be read. Nothing but failures of the original comes out exactly if reading lets none through. -/
theorem runWrapper_failed_iff {wr : Wrapper} (wrapping : wr.wrapping = .factory id original current registry table)
    (bound : (boundParameters wr.qualifiedName ["module", "exports", "require"] args : Working call _).run w =
      .ok [module, exports, require] w) :
    (∀ c z, c.kind.isFatal = false → ((runWrapper call wr args : Working call _).run w = .error (.failed c) z ↔
      HostFails call id original current registry (.of [module, exports, require]) w c z ∨
        ReadingFails call id current registry module (.of [module, exports, require]) w c z)) ∧
    ((∀ c z, c.kind.isFatal = false → ((runWrapper call wr args : Working call _).run w = .error (.failed c) z ↔
      HostFails call id original current registry (.of [module, exports, require]) w c z)) ↔
      ∀ c z, c.kind.isFatal = false →
        ¬ ReadingFails call id current registry module (.of [module, exports, require]) w c z) := by
  have run : (runWrapper call wr args : Working call _).run w =
      (runModule call id original current registry table module exports require : Working call _).run w := by
    rw [runWrapper, wrapping]
    exact bind_of_ok bound
  have fails : ∀ c z, c.kind.isFatal = false →
      ((runWrapper call wr args : Working call _).run w = .error (.failed c) z ↔ _ ∨ _) :=
    fun c z ordinary => run ▸ runModule_failed_iff ordinary
  refine ⟨fails, fun host c z ordinary reading => ?_, fun reads c z ordinary => ?_⟩
  · exact reading.not_host ((host c z ordinary).mp ((fails c z ordinary).mpr (.inr reading)))
  · exact (fails c z ordinary).trans (or_iff_left (reads c z ordinary))

end

/-! ## A default export without a truth -/

/-- A factory that leaves the exports as they are, and a truth test that fails. -/
def untested : Surroundings Unit := fun _ k _ =>
  if k = 0 then pure .none else fail (.raised .value [.str "broken"])

/-- A module that exports an object whose class has that truth test. -/
def hollow : World Unit :=
  World.furnished [] () [.external 0 "factory",
    .instance moduleClass [("id", .str "1"), ("exports", .ref (loadedPlace 2))] none,
    .dict [(.str "default", .ref (loadedPlace 3))], .instance (loadedPlace 4) [] none,
    .class ⟨"Hollow", "Hollow", "host", [], [("__bool__", .ref (loadedPlace 5))]⟩, .external 1 "__bool__"]

/-- The wrapper of a module to which no patch contributed. -/
def hollowWrapper : Wrapper where
  wrapping := .factory (.str "1") (.ref (loadedPlace 0)) (.ref (loadedPlace 0)) 1 0
  wrapped := .ref (loadedPlace 0)
  name := "factory"
  qualifiedName := "factory"
  attrs := []

def hollowArgs : Arguments :=
  .of [.ref (loadedPlace 1), .ref (loadedPlace 2), .none]

def runHollow : EStateM.Result Fault (World Unit) Value :=
  (runWrapper (callValue untested) hollowWrapper hollowArgs : Working (callValue untested) _).run hollow

theorem hollow_not_host (c : Cause) (z : World Unit) :
    ¬ HostFails (callValue untested) (.str "1") (.ref (loadedPlace 0)) (.ref (loadedPlace 0)) 1 hollowArgs hollow c
      z := by
  intro fails
  cases fails with
  | bypass uninitialized => cases uninitialized
  | current _ _ failed =>
      cases failed
  | fallback _ _ _ failed =>
      cases failed

theorem runHollow_fails : runHollow = .error (.failed (.raised .value [.str "broken"])) hollow :=
  rfl

theorem runWrapper_failed_iff_hollow :
    ReadingFails (callValue untested) (.str "1") (.ref (loadedPlace 0)) 1 (.ref (loadedPlace 1)) hollowArgs hollow
      (.raised .value [.str "broken"]) hollow := by
  have wrapping : hollowWrapper.wrapping = .factory (.str "1") (.ref (loadedPlace 0)) (.ref (loadedPlace 0)) 1 0 := rfl
  have bound : (boundParameters hollowWrapper.qualifiedName ["module", "exports", "require"] hollowArgs :
      Working (callValue untested) _).run hollow = .ok [.ref (loadedPlace 1), .ref (loadedPlace 2), .none] hollow := rfl
  have fails := ((runWrapper_failed_iff wrapping bound).1 _ _ rfl).mp runHollow_fails
  exact fails.resolve_left (hollow_not_host _ _)

/-- The factory goes through, and the wrapper fails as the truth test does. -/
theorem runHollow_without_host :
    callValue untested (.ref (loadedPlace 0)) hollowArgs hollow = .ok .none hollow ∧
      runHollow = .error (.failed (.raised .value [.str "broken"])) hollow ∧
      ∀ c z, ¬ HostFails (callValue untested) (.str "1") (.ref (loadedPlace 0)) (.ref (loadedPlace 0)) 1 hollowArgs
        hollow c z :=
  ⟨rfl, runHollow_fails, hollow_not_host⟩

end Patchwork
