import Patchwork.Proofs.Growth
import Patchwork.Proofs.HostErrors

/-!
Modules without patches. Their wrappers call the factory once, fail as it fails, and leave its objects alone but for what
is called to report the exports. What the factory returns does not come out once there is a runtime.
-/

namespace Patchwork

open Run

variable {κ : Type} {α β : Type}

/-! ## What calls leave -/

/-- All objects that there are stay as they are, but for a module table. -/
def World.KeepsObjects (table : Address) (w w' : World κ) : Prop :=
  ∀ a, a ≠ table → ∀ o, w.heap[a]? = some o → w'.heap[a]? = some o

/-- The second world comes from the first one by these calls, one after the other; before, between and after them no
object changes but the table. -/
inductive Trail (call : Caller κ) (table : Address) : World κ → List (Call κ) → World κ → Prop where
  | still {u v} : u.KeepsObjects table v → Trail call table u [] v
  | call {u v w f args cs} : u.KeepsObjects table v → Trail call table ((call f args).after v) cs w →
      Trail call table u (⟨f, args, v⟩ :: cs) w

/-- A call leaves an object as it is. -/
def Call.LeavesObject (call : Caller κ) (a : Address) (c : Call κ) : Prop :=
  ∀ o, c.world.heap[a]? = some o → ((call c.callee c.args).after c.world).heap[a]? = some o

theorem World.KeepsObjects.of_heap {table : Address} {w w' : World κ} (same : w'.heap = w.heap) :
    w.KeepsObjects table w' :=
  fun _ _ _ found => same ▸ found

theorem World.KeepsObjects.trans {table : Address} {u v w : World κ} (first : u.KeepsObjects table v)
    (second : v.KeepsObjects table w) : u.KeepsObjects table w :=
  fun a other o found => second a other o (first a other o found)

namespace Trail

variable {call : Caller κ} {table : Address} {u v w : World κ} {cs ds : List (Call κ)}

theorem after_still (first : u.KeepsObjects table v) (rest : Trail call table v cs w) : Trail call table u cs w := by
  cases rest with
  | still second => exact .still (first.trans second)
  | call second rest => exact .call (first.trans second) rest

theorem append (first : Trail call table u cs v) (second : Trail call table v ds w) :
    Trail call table u (cs ++ ds) w := by
  induction first with
  | still h => exact second.after_still h
  | call h _ ih => exact .call h (ih second)

/-- An object that all calls leave as it is stays as it is. -/
theorem leaves (h : Trail call table u cs w) {a : Address} (other : a ≠ table) (calls : ∀ c ∈ cs, c.LeavesObject call a)
    (o : Object) (found : u.heap[a]? = some o) : w.heap[a]? = some o := by
  induction h with
  | still keeps => exact keeps a other o found
  | call keeps _ ih =>
      have called := calls _ List.mem_cons_self o (keeps a other o found)
      exact ih (fun c hc => calls c (List.mem_cons_of_mem _ hc)) called

end Trail

/-- The second world comes from the first one by some such calls. -/
def Led (call : Caller κ) (table : Address) (u w : World κ) : Prop :=
  ∃ cs, Trail call table u cs w

instance (call : Caller κ) (table : Address) : Lasting (Led call table) where
  refl _ := ⟨[], .still (.of_heap rfl)⟩
  trans := fun ⟨_, first⟩ ⟨_, second⟩ => ⟨_, first.append second⟩

namespace Led

variable {call : Caller κ} {table : Address}

theorem of_heap {w w' : World κ} (same : w'.heap = w.heap) : Led call table w w' :=
  ⟨[], .still (.of_heap same)⟩

theorem of_grows {w w' : World κ} (h : Grows w w') : Led call table w w' :=
  ⟨[], .still fun a _ o found => h.heap a o found⟩

theorem called (f : Value) (args : Arguments) (w : World κ) : Led call table w ((call f args).after w) :=
  ⟨[⟨f, args, w⟩], .call (.of_heap rfl) (.still (.of_heap rfl))⟩

end Led

/-! ## Reading and reporting -/

/-- A computation changes no object but the table, unless a call in it does. -/
class Traced {R : World κ → World κ → Prop} (call : Caller κ) (table : Address) (m : Within R α) : Prop where
  led : ∀ w, Led call table w (m.run.after w)

namespace Traced

section

variable {R : World κ → World κ → Prop} [Still R] {call : Caller κ} {table : Address}

instance (a : α) : Traced call table (pure a : Within R α) :=
  ⟨fun w => Lasting.refl w⟩

instance (c : Cause) : Traced call table (fail c : Within R α) :=
  ⟨fun w => Lasting.refl w⟩

theorem bind {m : Within R α} {f : α → Within R β} (first : Traced call table m) (rest : ∀ a, Traced call table (f a)) :
    Traced call table (m >>= f) :=
  ⟨bind_within first.led fun a => (rest a).led⟩

theorem handle {m : Within R α} {f : Cause → Within R α} (first : Traced call table m)
    (rest : ∀ c, Traced call table (f c)) : Traced call table (handle m f) where
  led := by
    rw [run_handle]
    exact handle_within first.led fun c => (rest c).led

instance (m : Within R α) (f : α → Within R β) [first : Traced call table m] [rest : ∀ a, Traced call table (f a)] :
    Traced call table (m >>= f) :=
  first.bind rest

instance (m : Within R α) (f : Cause → Within R α) [first : Traced call table m]
    [rest : ∀ c, Traced call table (f c)] : Traced call table (Run.handle m f) :=
  first.handle rest

instance (f : α → Within R Unit) (as : List α) [each : ∀ a, Traced call table (f a)] :
    Traced call table (as.forM f) where
  led := by
    rw [Within.run_forM]
    exact forM_within as fun a _ => (each a).led

omit [Still R] in
theorem of_grows {m : Within R α} (grows : ∀ w, Grows w (m.run.after w)) : Traced call table m :=
  ⟨fun w => .of_grows (grows w)⟩

instance : Traced call table (heap : Within R Heap) :=
  ⟨fun w => Lasting.refl w⟩

instance (v : Value) : Traced call table (object? v : Within R _) :=
  ⟨fun w => Lasting.refl w⟩

instance (v : Value) : Traced call table (kindOf v : Within R _) :=
  ⟨fun w => Lasting.refl w⟩

instance (n : Nat) : Traced call table (Run.registry n : Within R _) :=
  ⟨fun w => Lasting.refl w⟩

instance (v : Value) (name : String) : Traced call table (getAttr v name : Within R _) :=
  of_grows (getAttr_grows v name)

instance (v : Value) : Traced call table (checkKey v : Within R _) :=
  of_grows (checkKey_grows v)

instance (message : String) (c : Cause) : Traced call table (logFailure message c : Within R Unit) :=
  of_grows (logFailure_grows message c)

instance (v : Value) : Traced call table (Run.repr v : Within R _) :=
  ⟨fun w => Lasting.refl w⟩

variable [Calls call R]

instance (f : Value) (args : Arguments) : Traced call table (ask call f args : Within R _) :=
  ⟨Led.called f args⟩

instance (v : Value) (name : String) : Traced call table (ownMethod? v name : Within R _) := by
  unfold ownMethod?
  repeat' first | with_reducible refine bind ?_ fun _ => ?_ | split | infer_instance

instance (v : Value) (name : String) (args : List Value) :
    Traced call table (askClass call v name args : Within R _) := by
  unfold askClass
  repeat' first | with_reducible refine bind ?_ fun _ => ?_ | split | infer_instance

instance (v : Value) : Traced call table (givenLength v : Within R _) := by
  unfold givenLength
  repeat' first | with_reducible refine bind ?_ fun _ => ?_ | split | infer_instance

instance (v : Value) : Traced call table (truth call v : Within R _) := by
  unfold truth mistyped
  repeat' first | with_reducible refine bind ?_ fun _ => ?_ | split | infer_instance

instance (v : Value) (name : String) : Traced call table (computedAttr? call v name : Within R _) := by
  unfold computedAttr?
  repeat' first | with_reducible refine bind ?_ fun _ => ?_ | split | infer_instance

instance (v : Value) (name : String) : Traced call table (readAttr call v name : Within R _) := by
  unfold readAttr
  repeat' first
    | with_reducible refine bind ?_ fun _ => ?_
    | with_reducible refine handle ?_ fun _ => ?_
    | split
    | infer_instance

instance (v : Value) (name : String) : Traced call table (readAttr? call v name : Within R _) := by
  unfold readAttr?
  refine handle inferInstance fun c => ?_
  split <;> infer_instance

instance (v : Value) : Traced call table (exportsOf call v : Within R _) := by
  unfold exportsOf defaultExport isMapping
  repeat' first | with_reducible refine bind ?_ fun _ => ?_ | split | infer_instance

instance firstAccepted (filter : Value) (candidates : List Value) :
    Traced call table (Run.firstAccepted call filter candidates : Within R _) := by
  induction candidates with
  | nil => exact inferInstanceAs (Traced call table (pure none : Within R _))
  | cons v r rest =>
      unfold Run.firstAccepted
      repeat' first | with_reducible refine bind ?_ fun _ => ?_ | split | infer_instance

instance (what : String) (args : List Value) (listener : Value) :
    Traced call table (tellListener call what args listener : Within R _) := by
  unfold tellListener reportListener
  infer_instance

instance (n : Nat) (exports id : Value) : Traced call table (notifyModule call n exports id : Within R _) := by
  unfold notifyModule
  infer_instance

end

/-! Telling subscribers changes registries on the way. -/

section

variable {call : Caller κ} {table : Address} {n : Nat} {id : Value}

theorem answer_led (filter : Value) (request : Nat) (w : World κ) :
    Led call table w ((answer n filter request).after w) := by
  refine .of_heap ?_
  simp only [answer, Run.after, modifyGet_run]
  split <;> rfl

theorem fireOne_led (candidates : List Value) (filter : Value) (s : Subscription) :
    ∀ w : World κ, Led call table w ((fireOne call n candidates id filter s).after w) := by
  refine bind_within (Traced.firstAccepted (R := Reaches call) filter candidates).led fun found => ?_
  cases found with
  | none => exact fun w => Lasting.refl w
  | some v =>
      refine bind_within (answer_led filter s.request) fun there => ?_
      cases there with
      | false => exact fun w => Lasting.refl w
      | true => exact bind_within (Led.called _ _) fun _ w => Lasting.refl w

theorem fireEntry_led (candidates : List Value) (e : Value × Subscription) :
    ∀ w : World κ, Led call table w ((fireEntry call n candidates id e).after w) := by
  refine bind_within (fun w => Lasting.refl w) fun u => ?_
  split
  · have report (c : Cause) : Traced call table (reportSubscription e.1 c : Quietly κ Unit) := by
      unfold reportSubscription
      infer_instance
    exact handle_within (fireOne_led candidates e.1 e.2) fun c => (report c).led
  · exact fun w => Lasting.refl w

theorem firePass_led (candidates : List Value) :
    ∀ w : World κ, Led call table w ((firePass call n candidates id).after w) :=
  bind_within (fun w => Lasting.refl w) fun _ => forM_within _ fun e _ => fireEntry_led candidates e

instance (exports : Value) : Traced call table (carryOut call (.fire n exports id) : Working call Unit) where
  led := by
    have normal : Traced call table (exportsOf call exports : Calling call _) := inferInstance
    exact bind_within normal.led fun e => firePass_led e.candidates

instance : Traced call table (tableAt table : Working call Table) :=
  ⟨fun w => .of_heap (by rw [after_ok (tableAt_run table w)])⟩

/-- The table is the one object that reporting changes by itself. -/
instance (t : Table) : Traced call table (setTable table t : Working call Unit) where
  led w := ⟨[], .still fun a other o found => by
    rw [← found]
    exact Array.getElem?_setIfInBounds_ne (Ne.symm other)⟩

instance (registry : Nat) (exports : Value) :
    Traced call table (reportExports call id registry table exports : Working call Unit) := by
  unfold reportExports
  refine bind inferInstance fun e => ?_
  split <;> infer_instance

instance (registry : Nat) (module : Value) :
    Traced call table (reportModule call id registry table module : Working call Unit) := by
  unfold reportModule
  refine bind inferInstance fun found => ?_
  split <;> infer_instance

end

end Traced

/-! ## Calling the wrapper -/

/-- What a computation ends with, without the world that it leaves. -/
def resultOf : EStateM.Result Fault (World κ) α → Except Fault α
  | .ok a _ => .ok a
  | .error e _ => .error e

/-- The world that it leaves. -/
def worldOf : EStateM.Result Fault (World κ) α → World κ
  | .ok _ w => w
  | .error _ w => w

/-- The world in which the wrapper of a module without patches calls the factory. -/
def World.entered (registry : Nat) (w : World κ) : World κ :=
  if isUninitialized registry w then uninitializedWorld registry w else w

theorem entered_heap (registry : Nat) (w : World κ) : (w.entered registry).heap = w.heap := by
  rw [World.entered]
  split
  · have known : (Run.registry registry : Within Beside _).run w = .ok (w.registry registry) w := rfl
    rw [uninitializedWorld, reportUninitialized, Within.run_bind, after_bind_ok known]
    cases (w.registry registry).uninitializedLogged <;> rfl
  · rfl

section

variable {call : Caller κ} {id factory module exports require : Value} {registry : Nat} {table : Address}
  {args : Arguments} {w : World κ}

/-- The factory of a module without patches fails: so does the module. -/
theorem runModule_failed {e : Fault} {v : World κ} (initialized : isUninitialized registry w = false)
    (failed : call factory (.of [module, exports, require]) w = .error e v) :
    (runModule call id factory factory registry table module exports require : Working call _).run w =
      .error e v := by
  refine runModule_passes initialized ?_
  rw [runCurrent_run, failed]
  cases e <;> simp only [or_true, ↓reduceIte]

theorem World.entered_initialized (initialized : isUninitialized registry w = false) : w.entered registry = w := by
  rw [World.entered, initialized]
  exact if_neg Bool.false_ne_true

/-- A wrapper whose arguments can be bound does what its module does. -/
theorem runWrapper_bound {wr : Wrapper} {original current : Value}
    (wrapping : wr.wrapping = .factory id original current registry table)
    (bound : (boundParameters wr.qualifiedName ["module", "exports", "require"] args : Working call _).run w =
      .ok [module, exports, require] w) :
    (runWrapper call wr args : Working call _).run w =
      (runModule call id original current registry table module exports require : Working call _).run w := by
  rw [runWrapper, wrapping]
  exact bind_of_ok bound

/-- What comes out behind a report is what is expected only if that is nothing, and the report goes through. -/
theorem reported_same {x : Value} {v : World κ}
    (same : resultOf ((do
      reportModule call id registry table module
      pure .none : Working call Value).run v) = resultOf (.ok x v)) :
    x = .none ∧ ∃ u, (reportModule call id registry table module : Working call Unit).run v = .ok () u := by
  cases reported : (reportModule call id registry table module : Working call Unit).run v with
  | ok _ u =>
      rw [Within.run_bind, bind_of_ok reported] at same
      cases same
      exact ⟨rfl, u, rfl⟩
  | error e u =>
      rw [Within.run_bind, bind_of_error reported] at same
      cases same

/-- With no runtime in development mode, the module is its factory. -/
theorem runModule_bypassed (uninitialized : isUninitialized registry w = true) :
    (runModule call id factory factory registry table module exports require : Working call _).run w =
      call factory (.of [module, exports, require]) (w.entered registry) := by
  rw [runModule_uninitialized uninitialized, World.entered, if_pos uninitialized]

/-- With a runtime or without one, the module fails as its factory does. -/
theorem runModule_raises {e : Fault} {v : World κ}
    (failed : call factory (.of [module, exports, require]) (w.entered registry) = .error e v) :
    (runModule call id factory factory registry table module exports require : Working call _).run w =
      .error e v := by
  cases initialized : isUninitialized registry w with
  | true => rw [runModule_bypassed initialized, failed]
  | false =>
      rw [World.entered_initialized initialized] at failed
      exact runModule_failed initialized failed

theorem runModule_reports {x : Value} {v : World κ} (initialized : isUninitialized registry w = false)
    (done : call factory (.of [module, exports, require]) (w.entered registry) = .ok x v) :
    (runModule call id factory factory registry table module exports require : Working call _).run w =
      (do
        reportModule call id registry table module
        pure .none : Working call Value).run v := by
  rw [World.entered_initialized initialized] at done
  exact runModule_done initialized done

/-- What comes out of a module is what comes out of its factory exactly if the factory is all that runs, or fails, or returns
nothing and its exports can be reported. -/
theorem runModule_result_iff :
    resultOf ((runModule call id factory factory registry table module exports require : Working call _).run w) =
        resultOf (call factory (.of [module, exports, require]) (w.entered registry)) ↔
      isUninitialized registry w = true ∨
      (∃ e v, call factory (.of [module, exports, require]) (w.entered registry) = .error e v) ∨
      ∃ v u, call factory (.of [module, exports, require]) (w.entered registry) = .ok .none v ∧
        (reportModule call id registry table module : Working call Unit).run v = .ok () u := by
  constructor
  · intro same
    cases initialized : isUninitialized registry w with
    | true => exact .inl rfl
    | false =>
        cases ran : call factory (.of [module, exports, require]) (w.entered registry) with
        | error e v => exact .inr (.inl ⟨e, v, rfl⟩)
        | ok x v =>
            rw [runModule_reports initialized ran, ran] at same
            obtain ⟨rfl, u, reported⟩ := reported_same same
            exact .inr (.inr ⟨v, u, rfl, reported⟩)
  · rintro (uninitialized | ⟨e, v, failed⟩ | ⟨v, u, done, reported⟩)
    · rw [runModule_bypassed uninitialized]
    · rw [runModule_raises failed, failed]
    · cases initialized : isUninitialized registry w with
      | true => rw [runModule_bypassed initialized]
      | false =>
          rw [runModule_reports initialized done, done, Within.run_bind, bind_of_ok reported]
          rfl

/-- Reporting changes no object but the table, unless a call in it does. -/
theorem reporting_led (v : World κ) : Led call table v (worldOf ((do
    reportModule call id registry table module
    pure .none : Working call Value).run v)) := by
  have report : Traced call table (do
      reportModule call id registry table module
      pure .none : Working call Value) := inferInstance
  exact report.led v

/-- The wrapper of a module to which no patch contributed calls the factory, once. It ends as the factory does if there is
no runtime in development mode, or if the factory fails. Otherwise the exports are reported, and nothing is returned; an
object is as the factory left it, unless something that is called to report the exports changes it. So what comes out is
what comes out of the factory exactly if it ends in one of the first two ways, or returns nothing and its exports can be
reported. -/
theorem runWrapper_unpatched {wr : Wrapper} (wrapping : wr.wrapping = .factory id factory factory registry table)
    (bound : (boundParameters wr.qualifiedName ["module", "exports", "require"] args : Working call _).run w =
      .ok [module, exports, require] w) :
    let direct := call factory (.of [module, exports, require]) (w.entered registry)
    let wrapped := (runWrapper call wr args : Working call _).run w
    (w.entered registry).heap = w.heap ∧
    (isUninitialized registry w = true → wrapped = direct) ∧
    (∀ e v, direct = .error e v → wrapped = direct) ∧
    (∀ x v, isUninitialized registry w = false → direct = .ok x v →
      wrapped = (do
        reportModule call id registry table module
        pure .none : Working call Value).run v ∧
      ∃ cs, Trail call table v cs (worldOf wrapped) ∧
        ∀ a, a ≠ table → (∀ c ∈ cs, c.LeavesObject call a) → ∀ o, v.heap[a]? = some o →
          (worldOf wrapped).heap[a]? = some o) ∧
    (resultOf wrapped = resultOf direct ↔ isUninitialized registry w = true ∨ (∃ e v, direct = .error e v) ∨
      ∃ v u, direct = .ok .none v ∧
        (reportModule call id registry table module : Working call Unit).run v = .ok () u) := by
  intro direct wrapped
  have run : wrapped =
      (runModule call id factory factory registry table module exports require : Working call _).run w :=
    runWrapper_bound wrapping bound
  refine ⟨entered_heap registry w, fun uninitialized => run.trans (runModule_bypassed uninitialized),
    fun e v failed => ?_, fun x v initialized done => ?_, ?_⟩
  · rw [run, runModule_raises failed]
    exact failed.symm
  · have reports := run.trans (runModule_reports initialized done)
    obtain ⟨cs, trail⟩ : Led call table v (worldOf wrapped) := reports ▸ reporting_led v
    exact ⟨reports, cs, trail, fun a other leaves => trail.leaves other leaves⟩
  · rw [run]
    exact runModule_result_iff

end

/-! ## A factory that returns something -/

/-- A factory that returns a number. -/
def answering : Surroundings Unit := fun _ _ _ =>
  pure (.int 7)

/-- A module with that factory, and its exports. -/
def plainModule : World Unit :=
  World.furnished [] () [.external 0 "factory",
    .instance moduleClass [("id", .str "1"), ("exports", .ref (loadedPlace 2))] none, .dict []]

def runPlain : EStateM.Result Fault (World Unit) Value :=
  (runWrapper (callValue answering) hollowWrapper hollowArgs : Working (callValue answering) _).run plainModule

theorem runWrapper_unpatched_plain : resultOf runPlain ≠
    resultOf (callValue answering (.ref (loadedPlace 0)) hollowArgs (plainModule.entered 1)) := by
  have wrapping : hollowWrapper.wrapping = .factory (.str "1") (.ref (loadedPlace 0)) (.ref (loadedPlace 0)) 1 0 := rfl
  have bound : (boundParameters hollowWrapper.qualifiedName ["module", "exports", "require"] hollowArgs :
      Working (callValue answering) _).run plainModule =
        .ok [.ref (loadedPlace 1), .ref (loadedPlace 2), .none] plainModule := rfl
  obtain ⟨-, -, -, -, same⟩ := runWrapper_unpatched wrapping bound
  intro ends
  rcases same.mp ends with uninitialized | ⟨e, v, failed⟩ | ⟨v, u, done, -⟩
  · cases uninitialized
  · cases failed
  · cases done

/-- The factory gives a number, and its wrapper gives nothing. -/
theorem runPlain_gives_nothing :
    resultOf (callValue answering (.ref (loadedPlace 0)) hollowArgs plainModule) = .ok (.int 7) ∧
      resultOf runPlain = .ok .none :=
  ⟨rfl, rfl⟩

end Patchwork
