import Patchwork.Proofs.HostErrors
import Patchwork.Proofs.Separation

/-!
Before the host starts. Each call of a callback that starts it tells all listeners of the runtime, whether they have
been told before or not.
-/

namespace Patchwork

open Run

variable {κ : Type} {n : Nat} {listener runtime : Value} {u v w z : World κ} {call : Caller κ}

/-! ## How often a listener is told -/

/-- The listeners that are registered when a start begins. -/
def Deed.due (n : Nat) : Deed → List Value
  | .started m _ listeners => if m = n then listeners else []
  | _ => []

/-- The listener that is told, if one is. -/
def Deed.tells (n : Nat) : Deed → List Value
  | .told m l _ => if m = n then [l] else []
  | _ => []

/-- The listeners of a start that have all been told. -/
def Deed.settles (n : Nat) : Deed → List Value
  | .announced m listeners => if m = n then listeners else []
  | _ => []

/-- How often a listener was registered when starts began. -/
def timesDue (n : Nat) (listener : Value) (deeds : List Deed) : Nat :=
  (deeds.flatMap (Deed.due n)).count listener

def timesTold (n : Nat) (listener : Value) (deeds : List Deed) : Nat :=
  (deeds.flatMap (Deed.tells n)).count listener

/-- How often a listener was registered for starts that have told all their listeners. -/
def timesSettled (n : Nat) (listener : Value) (deeds : List Deed) : Nat :=
  (deeds.flatMap (Deed.settles n)).count listener

/-- Between two worlds a listener was told at least `past` times more than settled, and it is due at least `left` times
more than it was told. -/
def Tallies (n : Nat) (listener : Value) (past left : Int) (w w' : World κ) : Prop :=
  ∃ new, w'.history = new ++ w.history ∧ timesSettled n listener new + past ≤ timesTold n listener new ∧
    timesTold n listener new + left ≤ timesDue n listener new

namespace Tallies

variable {past left past' left' : Int}

theorem of_same (h : v.history = w.history) : Tallies n listener 0 0 w v :=
  ⟨[], h, Int.le_refl 0, Int.le_refl 0⟩

theorem trans (first : Tallies n listener past left u v) (second : Tallies n listener past' left' v w) :
    Tallies n listener (past + past') (left + left') u w := by
  obtain ⟨new, extended, told, due⟩ := first
  obtain ⟨new', extended', told', due'⟩ := second
  refine ⟨new' ++ new, by rw [extended', extended, List.append_assoc], ?_, ?_⟩
  · simp only [timesSettled, timesTold, List.flatMap_append, List.count_append] at told told' ⊢
    omega
  · simp only [timesDue, timesTold, List.flatMap_append, List.count_append] at due due' ⊢
    omega

theorem mono (h : Tallies n listener past left u v) (hp : past' ≤ past) (hl : left' ≤ left) :
    Tallies n listener past' left' u v := by
  obtain ⟨new, extended, told, due⟩ := h
  exact ⟨new, extended, by omega, by omega⟩

theorem single (w : World κ) (d : Deed)
    (told : (d.settles n).count listener + past ≤ (d.tells n).count listener)
    (due : (d.tells n).count listener + left ≤ (d.due n).count listener) :
    Tallies n listener past left w (w.noted d) :=
  ⟨[d], rfl, by simpa [timesSettled, timesTold] using told, by simpa [timesDue, timesTold] using due⟩

end Tallies

/-- Between two worlds a listener was told at least as often as settled, and at most as often as due. -/
abbrev Balanced (n : Nat) (listener : Value) : World κ → World κ → Prop :=
  Tallies n listener 0 0

instance : Lasting (Balanced (κ := κ) n listener) where
  refl _ := .of_same rfl
  trans first second := first.trans second

theorem Beside.balanced (h : Beside v w) : Balanced n listener v w :=
  .of_same h.history

instance : Moves (Balanced (κ := κ) n listener) where
  beside h := h.balanced

/-- A deed is about no start of a registry. -/
structure Deed.Aside (n : Nat) (d : Deed) : Prop where
  due : d.due n = []
  tells : d.tells n = []
  settles : d.settles n = []

theorem Deed.Aside.of_kind {d : Deed} (h : d.isStart = false) : d.Aside n := by
  cases d with
  | started => cases h
  | told => cases h
  | announced => cases h
  | _ => exact ⟨rfl, rfl, rfl⟩

theorem Deed.Aside.of_registry {d : Deed} (h : d.registry ≠ n) : d.Aside n := by
  cases d with
  | started => exact ⟨if_neg h, rfl, rfl⟩
  | told => exact ⟨rfl, if_neg h, rfl⟩
  | announced => exact ⟨rfl, rfl, if_neg h⟩
  | _ => exact ⟨rfl, rfl, rfl⟩

theorem DoneBetween.balanced (h : DoneBetween (Deed.Aside n) v w) : Balanced n listener v w := by
  obtain ⟨new, extended, aside⟩ := h
  have due : new.flatMap (Deed.due n) = [] := List.flatMap_eq_nil_iff.mpr fun d hd => (aside d hd).due
  have told : new.flatMap (Deed.tells n) = [] := List.flatMap_eq_nil_iff.mpr fun d hd => (aside d hd).tells
  have settled : new.flatMap (Deed.settles n) = [] := List.flatMap_eq_nil_iff.mpr fun d hd => (aside d hd).settles
  refine ⟨new, extended, ?_, ?_⟩
  · rw [timesSettled, timesTold, settled, told]
    exact Int.le_refl 0
  · rw [timesTold, timesDue, told, due]
    exact Int.le_refl 0

theorem Deed.isStart_of_request {d : Deed} (h : d.isRequest = true) : d.isStart = false := by
  cases d with
  | started => cases h
  | told => cases h
  | announced => cases h
  | _ => rfl

theorem BesidePatches.balanced (h : BesidePatches v w) : Balanced n listener v w :=
  (h.history.mono fun _ hd => .of_kind (Deed.isStart_of_request hd)).balanced

theorem registerPatch_balanced (m : Nat) (p : Patch) (w : World κ) :
    Balanced n listener w ((registerPatch m p).after w) := by
  refine bind_within (fun w => ?_) (fun _ w => ?_) w
  · exact DoneBetween.balanced ⟨[.registered m], rfl, fun d hd => List.mem_singleton.mp hd ▸ .of_kind rfl⟩
  · exact (Quiet.beside ((reportRegistered p : Quietly κ Unit).within w)).balanced

theorem runPatches_balanced (hc : call.Keeps (Balanced n listener)) (s : Setup) (m : Nat) (p : Progress) :
    ∀ w, Balanced n listener w ((runPatches call s m p).after w) :=
  runPatches_within Beside.balanced hc (fun _ _ _ hd _ w => (DoneBetween.single w (.of_kind hd)).balanced)
    (fun run o i w => DoneBetween.balanced ⟨[.used m run o (w.numbers m)[i]?], rfl, fun _ hd =>
      List.mem_singleton.mp hd ▸ .of_kind rfl⟩) s p

/-- Once told, a listener was told once more than settled, and is due once less. -/
theorem tellStart_tallies (hc : call.Keeps (Balanced n listener)) (runtime l : Value) (w : World κ) :
    Tallies n listener ([l].count listener) (-[l].count listener) w ((tellStart call n runtime l).after w) := by
  have told : Tallies n listener ([l].count listener) (-[l].count listener) w (w.noted (.told n l runtime)) := by
    refine .single w _ ?_ ?_ <;> simp only [Deed.settles, Deed.tells, Deed.due, ↓reduceIte, List.count_nil] <;> omega
  have heard := tellListener_within Beside.balanced hc "before-init" [runtime] l (w.noted (.told n l runtime))
  exact (told.trans heard).mono (by omega) (by omega)

theorem tellStarts_tallies (hc : call.Keeps (Balanced n listener)) (runtime : Value) :
    (listeners : List Value) → (w : World κ) → (listeners.forM (tellStart call n runtime)).Ends w
      (fun _ v => Tallies n listener (listeners.count listener) (-listeners.count listener) w v)
      (fun v => Tallies n listener 0 (-listeners.count listener) w v)
  | [], _ => .of_same rfl
  | l :: ls, w => by
      have first := tellStart_tallies hc runtime l w
      have count : (l :: ls).count listener = [l].count listener + ls.count listener := by
        rw [← List.count_append]
        rfl
      cases ran : tellStart call n runtime l w with
      -- A fatal failure cuts the start short: what is left stays due, and the start settles nothing.
      | error e v =>
          have whole : (l :: ls).forM (tellStart call n runtime) w = .error e v := bind_of_error ran
          rw [after_error ran] at first
          rw [Ends, whole]
          exact first.mono (by omega) (by omega)
      | ok _ v =>
          have whole : (l :: ls).forM (tellStart call n runtime) w = ls.forM (tellStart call n runtime) v :=
            bind_of_ok ran
          have rest := tellStarts_tallies hc runtime ls v
          rw [after_ok ran] at first
          rw [Ends] at rest
          rw [Ends, whole]
          cases told : ls.forM (tellStart call n runtime) v with
          | ok _ u =>
              rw [told] at rest
              exact (first.trans rest).mono (by omega) (by omega)
          | error e u =>
              rw [told] at rest
              exact (first.trans rest).mono (by omega) (by omega)

theorem runBeforeInit_balanced (hc : call.Keeps (Balanced n listener)) (m : Nat) (runtime : Value) :
    ∀ w, Balanced n listener w ((runBeforeInit call m runtime).after w) := by
  by_cases other : m ≠ n
  · refine runBeforeInit_within Beside.balanced hc (fun d hd _ w => ?_) runtime
    exact (DoneBetween.single w (.of_registry (hd ▸ other))).balanced
  · rw [ne_eq, Decidable.not_not] at other
    subst other
    intro w
    -- The note of the start gives what telling uses up, and the note that all are told takes what telling gave.
    have started : Tallies m listener 0 ((w.registry m).beforeInit.count listener) w
        (w.noted (.started m runtime (w.registry m).beforeInit)) := by
      refine .single w _ ?_ ?_ <;> simp only [Deed.settles, Deed.tells, Deed.due, ↓reduceIte, List.count_nil] <;> omega
    have told := tellStarts_tallies hc runtime (w.registry m).beforeInit
      (w.noted (.started m runtime (w.registry m).beforeInit))
    have whole : (runBeforeInit call m runtime).after w =
        ((w.registry m).beforeInit.forM (tellStart call m runtime) >>= fun _ =>
          modify fun v => v.noted (.announced m (w.registry m).beforeInit)).after
            (w.noted (.started m runtime (w.registry m).beforeInit)) := rfl
    rw [Ends] at told
    rw [whole]
    cases ran : (w.registry m).beforeInit.forM (tellStart call m runtime)
        (w.noted (.started m runtime (w.registry m).beforeInit)) with
    | error e v =>
        rw [ran] at told
        rw [after_bind_error ran]
        exact (started.trans told).mono (by omega) (by omega)
    | ok _ v =>
        have announced : Tallies m listener (-(w.registry m).beforeInit.count listener) 0 v
            (v.noted (.announced m (w.registry m).beforeInit)) := by
          refine .single v _ ?_ ?_ <;>
            simp only [Deed.settles, Deed.tells, Deed.due, ↓reduceIte, List.count_nil] <;> omega
        rw [ran] at told
        rw [after_bind_ok ran]
        exact ((started.trans told).trans announced).mono (by omega) (by omega)

theorem balanced_nests : Nests (Balanced (κ := κ) n listener) := by
  intro call hc α o
  cases o with
  | register m p => exact registerPatch_balanced m p
  | waitFor m filter callback => exact waitFor_keeps BesidePatches.balanced hc m filter callback
  | fire m exports id => exact fireSubscriptions_keeps BesidePatches.balanced hc m exports id
  | patch s m p => exact runPatches_balanced hc s m p
  | announce m runtime => exact runBeforeInit_balanced hc m runtime

theorem World.Reached.balanced {outside : Surroundings κ} (h : w.Reached outside) :
    timesSettled n listener w.history ≤ timesTold n listener w.history ∧
      timesTold n listener w.history ≤ timesDue n listener w.history := by
  obtain ⟨environment, host, acts⟩ := h
  obtain ⟨new, extended, told, due⟩ := acts.nested (R := Balanced n listener) balanced_nests
  have all : w.history = new := extended.trans (List.append_nil new)
  rw [all]
  exact ⟨by omega, by omega⟩

/-! ## A single start -/

/-- The world in which a runtime is the live one, unless there was another one. -/
def World.holding (w : World κ) (n : Nat) (runtime : Value) : World κ :=
  match (w.registry n).require with
  | .none => w.modifyRegistry n fun r => { r with require := runtime }
  | _ => w

/-- The world in which the listeners begin to be told. -/
def World.begun (w : World κ) (n : Nat) (runtime : Value) : World κ :=
  (((log .info startNotice : Quietly κ Unit).run.after w).holding n runtime).noted
    (.started n runtime (w.registry n).beforeInit)

/-- A listener is told of a runtime. It hears of it, or it fails and that is reported. -/
inductive Told (call : Caller κ) (n : Nat) (runtime listener : Value) (w u : World κ) : Prop where
  | heard {x : Value} : call listener (.of [runtime]) (w.noted (.told n listener runtime)) = .ok x u →
      Told call n runtime listener w u
  | failed {c : Cause} {v : World κ} :
      call listener (.of [runtime]) (w.noted (.told n listener runtime)) = .error (.failed c) v →
      c.kind.isFatal = false → u = (reportListener "before-init" listener c : Quietly κ Unit).run.after v →
      Told call n runtime listener w u

/-- Listeners are told of a runtime one after the other, whatever the ones before do. -/
inductive ToldAll (call : Caller κ) (n : Nat) (runtime : Value) : List Value → World κ → World κ → Prop where
  | nil {w : World κ} : ToldAll call n runtime [] w w
  | cons {l : Value} {ls : List Value} {w u v : World κ} : Told call n runtime l w u → ToldAll call n runtime ls u v →
      ToldAll call n runtime (l :: ls) w v

theorem tellStart_ok_iff : tellStart call n runtime listener w = .ok () u ↔ Told call n runtime listener w u := by
  have whole : tellStart call n runtime listener w =
      handle (do let _ ← call listener (.of [runtime]))
        (fun c => (reportListener "before-init" listener c : Calling call Unit).run)
        (w.noted (.told n listener runtime)) := by
    change (tellListener call "before-init" [runtime] listener : Calling call Unit).run _ = _
    rw [tellListener, run_handle]
    rfl
  rw [whole]
  constructor
  · intro h
    rcases handle_ok h with ok | ⟨c, v, failed, reported⟩
    · obtain ⟨x, v, heard, done⟩ := bind_ok.mp ok
      cases done
      exact .heard heard
    · rcases bind_error.mp failed with failed' | ⟨_, _, -, done⟩
      · cases fatal : c.kind.isFatal with
        | true =>
            rw [handle_of_fatal _ failed fatal] at h
            cases h
        | false =>
            cases reported
            exact .failed failed' fatal rfl
      · cases done
  · intro h
    cases h with
    | heard heard => exact handle_of_ok _ (bind_of_ok heard)
    | failed failed ordinary reported =>
        rw [handle_of_failed (bind_of_error failed) ordinary, reported]
        rfl

theorem tellStarts_ok_iff : {listeners : List Value} → {w v : World κ} →
    (listeners.forM (tellStart call n runtime) w = .ok () v ↔ ToldAll call n runtime listeners w v)
  | [], w, v => by
      constructor
      · intro h
        cases h
        exact .nil
      · intro h
        cases h
        rfl
  | l :: ls, w, v => by
      constructor
      · intro h
        obtain ⟨⟨⟩, u, first, rest⟩ := bind_ok.mp h
        exact .cons (tellStart_ok_iff.mp first) (tellStarts_ok_iff.mp rest)
      · intro h
        cases h with
        | cons first rest => exact (bind_of_ok (tellStart_ok_iff.mpr first)).trans (tellStarts_ok_iff.mpr rest)

theorem tellStart_contained (l : Value) : (tellStart call n runtime l).Contained :=
  Contained.bind (contained_of_ok fun _ => ⟨(), _, rfl⟩) fun _ => tellListener_contained "before-init" [runtime] l

theorem initRuntime_run {R : World κ → World κ → Prop} [Moves R] (n : Nat) (runtime : Value) (w : World κ) :
    ∃ first, (initRuntime n runtime : Within R Bool).run w = .ok first (w.holding n runtime) := by
  have known : (Run.registry n : Within R _).run w = .ok (w.registry n) w := rfl
  rw [initRuntime, Within.run_bind, bind_of_ok known, World.holding]
  cases (w.registry n).require <;> exact ⟨_, rfl⟩

/-- A runtime is the live one from then on exactly if it was before, or none was. -/
theorem World.holding_require (w : World κ) {n : Nat} (here : n < w.registries.size) (runtime : Value) :
    ((w.holding n runtime).registry n).require = runtime ↔
      (w.registry n).require = .none ∨ (w.registry n).require = runtime := by
  rw [holding]
  split
  · next none =>
      rw [w.modifyRegistry_here _ here]
      exact ⟨fun _ => .inl none, fun _ => rfl⟩
  · next held => exact ⟨.inr, fun h => h.resolve_left held⟩

theorem World.holding_beforeInit (w : World κ) (n : Nat) (runtime : Value) :
    ((w.holding n runtime).registry n).beforeInit = (w.registry n).beforeInit := by
  rw [holding]
  split
  · rcases w.modifyRegistry_registry n n fun r => { r with require := runtime } with same | ⟨-, changed⟩
    · rw [same]
    · rw [changed]
  · rfl

/-- A call of a callback that starts the host ends as the callback does after all listeners have been told. -/
theorem runStart_iff {callback : Value} {args : Arguments} {e : EStateM.Result Fault (World κ) Value}
    (ordinary : Ordinary e) :
    (runStart call callback runtime n args : Working call _).run w = e ↔
      ∃ v, ToldAll call n runtime (w.registry n).beforeInit (w.begun n runtime) v ∧
        call callback args (v.noted (.announced n (w.registry n).beforeInit)) = e := by
  have logged : (log .info startNotice : Working call Unit).run w =
      .ok () ((log .info startNotice : Quietly κ Unit).run.after w) := rfl
  obtain ⟨first, held⟩ :=
    initRuntime_run (R := Acts call) n runtime ((log .info startNotice : Quietly κ Unit).run.after w)
  have begun : beginStart n runtime (((log .info startNotice : Quietly κ Unit).run.after w).holding n runtime) =
      .ok (w.registry n).beforeInit (w.begun n runtime) := by
    rw [beginStart, modifyGet_run, World.holding_beforeInit]
    rfl
  have whole : (runStart call callback runtime n args : Working call _).run w =
      ((w.registry n).beforeInit.forM (tellStart call n runtime) >>= fun _ =>
        (modify fun v => v.noted (.announced n (w.registry n).beforeInit)) >>= fun _ => call callback args)
        (w.begun n runtime) := by
    rw [runStart, Within.run_bind, bind_of_ok logged, Within.run_bind, bind_of_ok held, Within.run_bind]
    change (runBeforeInit call n runtime >>= fun _ => call callback args) _ = _
    rw [runBeforeInit, bind_assoc, bind_of_ok begun, bind_assoc]
  rw [whole, (Contained.forM tellStart_contained _).bind_iff ordinary]
  constructor
  · rintro ⟨⟨⟩, v, told, rest⟩
    exact ⟨v, tellStarts_ok_iff.mp told, rest⟩
  · rintro ⟨v, told, rest⟩
    exact ⟨(), v, tellStarts_ok_iff.mpr told, rest⟩

/-- Whatever the host, its callbacks and the listeners do: a listener is told as often as callbacks that start the host
are called while it is registered, neither less nor more once all are told, so that it is told once at most exactly if
they are called once at most. Each call tells all listeners before the callback itself runs, and of the live runtime
exactly if no other one was live before. -/
theorem World.Reached.told_once_iff {outside : Surroundings κ} (h : w.Reached outside) (n : Nat) (listener : Value) :
    (timesSettled n listener w.history ≤ timesTold n listener w.history ∧
      timesTold n listener w.history ≤ timesDue n listener w.history) ∧
    (timesSettled n listener w.history = timesDue n listener w.history →
      (timesTold n listener w.history ≤ 1 ↔ timesDue n listener w.history ≤ 1)) ∧
    ∀ (call : Caller κ) (runtime : Value),
      (∀ callback args e, Ordinary e →
        ((runStart call callback runtime n args : Working call _).run w = e ↔
          ∃ v, ToldAll call n runtime (w.registry n).beforeInit (w.begun n runtime) v ∧
            call callback args (v.noted (.announced n (w.registry n).beforeInit)) = e)) ∧
      (n < w.registries.size → (((w.begun n runtime).registry n).require = runtime ↔
        (w.registry n).require = .none ∨ (w.registry n).require = runtime)) := by
  have counts : timesSettled n listener w.history ≤ timesTold n listener w.history ∧
      timesTold n listener w.history ≤ timesDue n listener w.history := h.balanced
  refine ⟨counts, fun all => by omega, fun call runtime => ⟨fun callback args e ordinary => ?_, fun here => ?_⟩⟩
  · exact runStart_iff ordinary
  · exact World.holding_require ((log .info startNotice : Quietly κ Unit).run.after w) here runtime

/-! ## A callback that is called twice -/

/-- A listener, a callback that starts the host, and the host's own function, which calls that callback twice. The first
two leave a mark when they are called. -/
def booting : Surroundings (List String) := fun call k args => do
  match k, args.positional[2]? with
  | 0, _ => modifyHost (· ++ ["told"])
  | 1, _ => modifyHost (· ++ ["started"])
  | _, some callback =>
    let _ ← ask call callback (.of [])
    let _ ← ask call callback (.of [])
  | _, none => pure ()
  pure .none

/-- The wrapper of the host's own function. -/
def bootWrapper : Wrapper where
  wrapping := .chunks "on_chunks_loaded" (.ref (loadedPlace 3)) (.ref (loadedPlace 2)) 1
  wrapped := .ref (loadedPlace 3)
  name := "on_chunks_loaded"
  qualifiedName := "on_chunks_loaded"
  attrs := []

/-- A runtime on which the host's function has been wrapped. -/
def hosted : World (List String) :=
  World.furnished [] [] [.external 0 "listener", .external 1 "<lambda: app('main')>", .instance moduleClass [] none,
    .external 2 "on_chunks_loaded", .wrapper bootWrapper]

/-- The world in which the listener is registered as well. -/
def intercepted : World (List String) :=
  hosted.modifyRegistry 1 fun r => { r with beforeInit := [.ref (loadedPlace 0)] }

/-- The world after the host has called its function with that callback. -/
def booted : World (List String) :=
  (callValue booting (.ref (loadedPlace 4)) (.of [.none, .none, .ref (loadedPlace 1)])).after intercepted

theorem booted_reached : booted.Reached booting := by
  have registered : Beside hosted intercepted :=
    (Run.modifyRegistry 1 (fun r => { r with beforeInit := [.ref (loadedPlace 0)] }) : Within Beside Unit).within hosted
  exact ((World.Reached.furnished [] [] _).acts (.beside registered)).acts (.call _ _ intercepted)

theorem told_once_iff_booted : timesDue 1 (.ref (loadedPlace 0)) booted.history = 2 ∧
    timesTold 1 (.ref (loadedPlace 0)) booted.history = 2 := by
  have due : timesDue 1 (.ref (loadedPlace 0)) booted.history = 2 := by decide +kernel
  have settled : timesSettled 1 (.ref (loadedPlace 0)) booted.history = 2 := by decide +kernel
  obtain ⟨⟨least, most⟩, -⟩ := booted_reached.told_once_iff 1 (.ref (loadedPlace 0))
  exact ⟨due, by omega⟩

/-- The listener is told before each of the two calls. -/
theorem booted_tells_twice : booted.host = ["told", "started", "told", "started"] ∧
    timesTold 1 (.ref (loadedPlace 0)) booted.history = 2 := by
  decide +kernel

end Patchwork
