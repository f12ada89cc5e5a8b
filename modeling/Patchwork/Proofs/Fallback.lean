import Patchwork.Proofs.Nesting

/-!
Falling back to the original factory. The original is called on what the patched factory has left behind.
-/

namespace Patchwork

open Run Script

variable {κ : Type}

/-! ## How a factory ends -/

/-- The exports of a module, as the surroundings see them. -/
def World.exported (w : World κ) (module : Value) : Snapshot :=
  match (getAttr? module "exports" : Quietly κ _).run w with
  | .ok (some v) u => u.heap.snapshot v
  | _ => .null

/-- What can be seen of the end of a factory: its result or its failure, and the exports of the module. -/
structure Ending where
  result : Except Snapshot Snapshot
  exports : Snapshot

def endingOf (module : Value) : EStateM.Result Fault (World κ) Value → Ending
  | .ok v w => ⟨.ok (w.heap.snapshot v), w.exported module⟩
  | .error (.failed c) w => ⟨.error (.failure c.kind.name (c.message w.heap)), w.exported module⟩
  | .error .exhausted w => ⟨.error .null, w.exported module⟩

/-- All that was there is as it was, with more objects, texts and log records at most. -/
structure Adds (w w' : World κ) : Prop where
  heap : ∀ a < w.heap.size, w'.heap[a]? = w.heap[a]?
  environment : w'.environment = w.environment
  registries : w'.registries = w.registries
  hooks : w'.hooks = w.hooks
  frames : w'.frames = w.frames
  host : w'.host = w.host

/-- A factory ends in the same way whatever has been added before. -/
def Unaffected (call : Caller κ) (factory module : Value) (args : Arguments) (w : World κ) : Prop :=
  ∀ w', Adds w w' → endingOf module (call factory args w') = endingOf module (call factory args w)

/-! ## The fallback -/

section

variable {call : Caller κ} {id original current module exports require : Value} {a registry : Nat} {table : Address}
  {w w₁ : World κ} {c : Cause}

theorem boundParameters_positional (function : String) (w : World κ) :
    (boundParameters function ["module", "exports", "require"] (.of [module, exports, require]) : Working call _).run w =
      .ok [module, exports, require] w :=
  rfl

/-- The world after a failure has been reported. -/
def fallbackWorld (id : Value) (c : Cause) (w : World κ) : World κ :=
  (reportFallback id c : Within Beside Unit).run.after w

theorem fallbackWorld_adds (id : Value) (c : Cause) (w u : World κ) : Adds u (fallbackWorld id c w) ↔ Adds u w :=
  ⟨fun h => ⟨h.heap, h.environment, h.registries, h.hooks, h.frames, h.host⟩,
    fun h => ⟨h.heap, h.environment, h.registries, h.hooks, h.frames, h.host⟩⟩

theorem runCurrent_run (call : Caller κ) (id original current : Value) (args : Arguments) (w : World κ) :
    (runCurrent call id original current args : Working call _).run w =
      match call current args w with
      | .ok _ v => .ok true v
      | .error (.failed c) v =>
        if c.kind.isFatal = true ∨ current = original then .error (.failed c) v
        else .ok false (fallbackWorld id c v)
      | .error .exhausted v => .error .exhausted v := by
  rw [runCurrent, run_handle, Within.run_bind, ask_run]
  cases ran : call current args w with
  | ok x v => exact handle_of_ok _ (bind_of_ok ran)
  | error e v =>
      cases e with
      | exhausted => exact handle_of_exhausted _ (bind_of_error ran)
      | failed c =>
          cases ordinary : c.kind.isFatal with
          | true =>
              rw [handle_of_fatal _ (bind_of_error ran) ordinary]
              simp only [ordinary, true_or, ↓reduceIte]
          | false =>
              rw [handle_of_failed (bind_of_error ran) ordinary]
              simp only [ordinary, Bool.false_eq_true, false_or]
              split <;> rfl

theorem runCurrent_failed {args : Arguments} (other : current ≠ original)
    (ordinary : c.kind.isFatal = false) (failed : call current args w = .error (.failed c) w₁) :
    (runCurrent call id original current args : Working call _).run w = .ok false (fallbackWorld id c w₁) := by
  rw [runCurrent_run, failed]
  simp only [ordinary, other, Bool.false_eq_true, or_self, ↓reduceIte]

theorem runModule_initialized (initialized : isUninitialized registry w = false) :
    (runModule call id original current registry table module exports require : Working call _).run w =
      (do
        if ← runCurrent call id original current (.of [module, exports, require]) then
          reportModule call id registry table module
          pure .none
        else ask call original (.of [module, exports, require]) : Working call Value).run w := by
  have seen : (world : Working call _).run w = .ok w w := rfl
  rw [runModule, Within.run_bind, bind_of_ok seen, initialized]
  rfl

theorem runModule_fallback (other : current ≠ original)
    (initialized : isUninitialized registry w = false) (ordinary : c.kind.isFatal = false)
    (failed : call current (.of [module, exports, require]) w = .error (.failed c) w₁) :
    (runModule call id original current registry table module exports require : Working call _).run w =
      call original (.of [module, exports, require]) (fallbackWorld id c w₁) := by
  rw [runModule_initialized initialized]
  exact bind_of_ok (runCurrent_failed other ordinary failed)

theorem runWrapper_fallback {wr : Wrapper} (wrapping : wr.wrapping = .factory id original (.ref a) registry table)
    (patched : original ≠ .ref a) (initialized : isUninitialized registry w = false)
    (ordinary : c.kind.isFatal = false)
    (failed : call (.ref a) (.of [module, exports, require]) w = .error (.failed c) w₁) :
    (runWrapper call wr (.of [module, exports, require]) : Working call _).run w =
      call original (.of [module, exports, require]) (fallbackWorld id c w₁) := by
  rw [runWrapper, wrapping]
  refine (bind_of_ok (boundParameters_positional wr.qualifiedName w)).trans ?_
  exact runModule_fallback patched.symm initialized ordinary failed

end

/-! ## When that is what the original does alone -/

theorem Adds.refl (w : World κ) : Adds w w :=
  ⟨fun _ _ => rfl, rfl, rfl, rfl, rfl, rfl⟩

section

open Classical

/-- Calls in which one function fails in a given way, and all others tell whether what was there is as it was. -/
noncomputable def telling (a : Nat) (c : Cause) (w₁ w : World κ) : Caller κ := fun f _ u =>
  if f = .ref a then .error (.failed c) w₁ else .ok (.bool (decide (Adds w u))) w

theorem telling_failed (a : Nat) (c : Cause) (w₁ w u : World κ) (args : Arguments) :
    telling a c w₁ w (.ref a) args u = .error (.failed c) w₁ :=
  if_pos rfl

theorem telling_other {a : Nat} {f : Value} (other : f ≠ .ref a) (c : Cause) (w₁ w u : World κ) (args : Arguments) :
    telling a c w₁ w f args u = .ok (.bool (decide (Adds w u))) w := by
  rw [telling, if_neg other]

theorem snapshot_bool (h : Heap) (b : Bool) : h.snapshot (.bool b) = .bool b :=
  rfl

theorem endingOf_bool {module : Value} {b b' : Bool} {w w' : World κ}
    (same : endingOf module (.ok (.bool b) w) = endingOf module (.ok (.bool b') w')) : b = b' := by
  have result := congrArg Ending.result same
  simp only [endingOf, snapshot_bool, Except.ok.injEq, Snapshot.bool.injEq] at result
  exact result

/-- Wherever the patched factory fails in this way, the wrapper ends as the original does alone, unless what is added on
the way affects the original. -/
def EndsAsOriginal (wr : Wrapper) (a : Nat) (original module exports require : Value) (c : Cause)
    (w w₁ : World κ) : Prop :=
  ∀ call : Caller κ, call (.ref a) (.of [module, exports, require]) w = .error (.failed c) w₁ →
    Unaffected call original module (.of [module, exports, require]) w →
      endingOf module ((runWrapper call wr (.of [module, exports, require]) : Working call _).run w) =
        endingOf module (call original (.of [module, exports, require]) w)

/-- The original is called on what the patched factory has left behind. That is what the original does alone, whatever it
does, exactly if the patched factory left all that was there as it was. -/
theorem runWrapper_as_original_iff {id original module exports require : Value} {a registry : Nat} {table : Address}
    {wr : Wrapper} {w w₁ : World κ} {c : Cause}
    (wrapping : wr.wrapping = .factory id original (.ref a) registry table) (patched : original ≠ .ref a)
    (initialized : isUninitialized registry w = false) (ordinary : c.kind.isFatal = false) :
    (∀ call : Caller κ, call (.ref a) (.of [module, exports, require]) w = .error (.failed c) w₁ →
      (runWrapper call wr (.of [module, exports, require]) : Working call _).run w =
        call original (.of [module, exports, require]) (fallbackWorld id c w₁)) ∧
    (EndsAsOriginal wr a original module exports require c w w₁ ↔ Adds w w₁) := by
  refine ⟨fun _ failed => runWrapper_fallback wrapping patched initialized ordinary failed, ?_, ?_⟩
  · intro always
    have unaffected : Unaffected (telling a c w₁ w) original module (.of [module, exports, require]) w := by
      intro u adds
      rw [telling_other patched, telling_other patched, decide_eq_true adds, decide_eq_true (Adds.refl w)]
    have same := always (telling a c w₁ w) (telling_failed a c w₁ w w _) unaffected
    rw [runWrapper_fallback wrapping patched initialized ordinary (telling_failed a c w₁ w w _),
      telling_other patched, telling_other patched] at same
    have told := endingOf_bool same
    rw [decide_eq_true (Adds.refl w)] at told
    exact (fallbackWorld_adds id c w₁ w).mp (of_decide_eq_true told)
  · intro adds call failed unaffected
    rw [runWrapper_fallback wrapping patched initialized ordinary failed]
    exact unaffected _ ((fallbackWorld_adds id c w₁ w).mpr adds)

end

/-! ## A fallback on what has been written -/

/-- The places of objects behind those of a fresh world: two factories, a module, and its exports. -/
def loadedPlace (n : Nat) : Nat :=
  (World.start [] ()).heap.size + n

def loadedArgs : Arguments :=
  .of [.ref (loadedPlace 2), .ref (loadedPlace 3), .none]

/-- Both factories write into the exports. The first one fails after that. -/
def writing : Surroundings Unit := fun call k args => do
  match args.positional with
  | [_, exports, _] =>
    setItem call exports (.str (if k = 0 then "b" else "a")) (.int 1)
    if k = 0 then fail (.raised .value [])
    pure .none
  | _ => pure .none

def loaded : World Unit :=
  World.furnished [] () [.external 0 "patched", .external 1 "original",
    .instance moduleClass [("id", .str "m"), ("exports", .ref (loadedPlace 3))] none, .dict []]

def loadedWrapper : Wrapper where
  wrapping := .factory (.str "m") (.ref (loadedPlace 1)) (.ref (loadedPlace 0)) 1 0
  wrapped := .ref (loadedPlace 0)
  name := "factory"
  qualifiedName := "factory"
  attrs := []

/-- The world in which the first factory has failed. -/
def written : World Unit :=
  (callValue writing (.ref (loadedPlace 0)) loadedArgs).after loaded

theorem written_not_adds : ¬ Adds loaded written := by
  intro adds
  have same := adds.heap (loadedPlace 3) (by decide +kernel)
  have before : loaded.heap[loadedPlace 3]? = some (.dict []) := rfl
  have after : written.heap[loadedPlace 3]? = some (.dict [(.str "b", .int 1)]) := rfl
  rw [before, after] at same
  cases same

theorem runWrapper_as_original_iff_loaded :
    (runWrapper (callValue writing) loadedWrapper loadedArgs : Working (callValue writing) _).run loaded =
        callValue writing (.ref (loadedPlace 1)) loadedArgs (fallbackWorld (.str "m") (.raised .value []) written) ∧
      ¬ EndsAsOriginal loadedWrapper (loadedPlace 0) (.ref (loadedPlace 1)) (.ref (loadedPlace 2))
        (.ref (loadedPlace 3)) .none (.raised .value []) loaded written := by
  have patched : Value.ref (loadedPlace 1) ≠ .ref (loadedPlace 0) := by
    intro same
    cases same
  have failed : callValue writing (.ref (loadedPlace 0)) loadedArgs loaded =
      .error (.failed (.raised .value [])) written := rfl
  have wrapping : loadedWrapper.wrapping =
      .factory (.str "m") (.ref (loadedPlace 1)) (.ref (loadedPlace 0)) 1 0 := rfl
  have ordinary : (Cause.raised .value []).kind.isFatal = false := rfl
  constructor
  · exact (runWrapper_as_original_iff wrapping patched rfl ordinary).1 _ failed
  · exact fun always => written_not_adds ((runWrapper_as_original_iff wrapping patched rfl ordinary).2.mp always)

/-- The exports keep what the patched factory wrote. -/
theorem runWrapper_keeps_writes :
    (endingOf (.ref (loadedPlace 2))
        ((runWrapper (callValue writing) loadedWrapper loadedArgs : Working (callValue writing) _).run loaded)).exports =
      .dict [(.str "b", .int 1), (.str "a", .int 1)] ∧
    (endingOf (.ref (loadedPlace 2)) (callValue writing (.ref (loadedPlace 1)) loadedArgs loaded)).exports =
      .dict [(.str "a", .int 1)] :=
  ⟨rfl, rfl⟩

end Patchwork
