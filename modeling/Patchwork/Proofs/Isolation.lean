import Patchwork.Proofs.HostErrors
import Patchwork.Proofs.Likeness
import Patchwork.Proofs.Pending

/-!
Observers that fail. Each is called in its turn whatever those before it did, and the world that is left is the one in
which it had returned instead, but for log records. Only what a module exports may keep the subscriptions from their
turns, where it cannot be told what that is once the module listeners have been called.
-/

namespace Patchwork

open Run

variable {κ : Type} {n : Nat}

namespace SameButLogs

variable {w w' : World κ}

theorem registries (h : SameButLogs w w') : w.registries = w'.registries :=
  h.same World.registries fun _ => rfl

theorem registry (h : SameButLogs w w') (n : Nat) : w.registry n = w'.registry n :=
  h.same (World.registry · n) fun _ => rfl

theorem noted (h : SameButLogs w w') (d : Deed) : SameButLogs (w.noted d) (w'.noted d) :=
  h.same (fun u => (u.noted d).unlogged) fun _ => by
    simp only [World.unlogged, World.noted, List.filter_filter, Bool.and_self]

theorem unsubscribed (h : SameButLogs w w') (n : Nat) (filter : Value) :
    SameButLogs (w.unsubscribed n filter) (w'.unsubscribed n filter) :=
  h.same (fun u => (u.unsubscribed n filter).unlogged) fun _ => by
    simp only [World.unlogged, World.unsubscribed, World.modifyRegistry, List.filter_filter, Bool.and_self]

end SameButLogs

/-! ## Observers that return instead -/

/-- Calls in which an ordinary failure is replaced by a result. -/
def calm (call : Caller κ) : Caller κ := fun f args =>
  handle (call f args) fun _ => pure .none

/-- Listeners are called one after the other, and each that fails returns instead. -/
def calmly (call : Caller κ) (args : List Value) (listeners : List Value) : Run κ Unit :=
  listeners.forM fun l => do
    let _ ← calm call l (.of args)

/-- The before-init listeners that there are now are told of a runtime; each that fails returns instead. -/
def startCalmly (call : Caller κ) (n : Nat) (runtime : Value) : Run κ Unit := do
  let listeners ← beginStart n runtime
  listeners.forM fun l => do
    modify fun w => w.noted (.told n l runtime)
    let _ ← calm call l (.of [runtime])
  modify fun w => w.noted (.announced n listeners)

/-- The turn of a subscription. A filter that fails rejects all that is left, and a callback that fails returns
instead. -/
def calmEntry (call : Caller κ) (n : Nat) (candidates : List Value) (id : Value) (e : Value × Subscription) :
    Run κ Unit := do
  if Value.hasKey ((← get).registry n).subscriptions e.1 then
    match ← handle (firstAccepted call e.1 candidates : Calling call _).run fun _ => pure none with
    | none => pure ()
    | some x =>
      if ← answer n e.1 e.2.request then
        let _ ← calm call e.2.callback (.of [x, id])

/-- The module listeners that there are now are told of exports; each that fails returns instead. -/
def notifyCalmly (call : Caller κ) (n : Nat) (exports id : Value) : Run κ Unit := do
  calmly call [exports, id] ((← get).registry n).moduleListeners

/-- The subscriptions that there are now have their turns, with observers that return instead of failing. -/
def passCalmly (call : Caller κ) (n : Nat) (candidates : List Value) (id : Value) : Run κ Unit := do
  ((← get).registry n).subscriptions.forM (calmEntry call n candidates id)

/-- The report of a module's exports, if observers that fail return instead. -/
def reportCalmly (call : Caller κ) (n : Nat) (exports id : Value) : Run κ Unit := do
  notifyCalmly call n exports id
  let e ← (exportsOf call exports : Calling call _)
  passCalmly call n e.candidates id

section

variable {E : World κ → World κ → Prop} [Likeness E] {α : Type}

/-- A failure that is reported where it is handled is like a result with which nothing more is done. -/
theorem stops_alike {m : Run κ α} {f f' : α → Run κ Unit} {report : Cause → Run κ Unit} {a : α} (same : Match E m m)
    (rest : ∀ a, Match E (handle (f a) report) (f' a)) (logs : ∀ c, (report c).Logs) (idle : f' a = pure ()) :
    Match E (handle (m >>= f) report) (handle m (fun _ => pure a) >>= f') := by
  intro w w' alike
  rcases EndAlike.cases (same w w' alike) with ⟨b, v, v', ran, ran', alike'⟩ | ⟨e, v, v', ran, ran', alike'⟩
  · rw [handle_congr (bind_of_ok ran), bind_of_ok (handle_of_ok _ ran')]
    exact rest b v v' alike'
  · cases e with
    | exhausted =>
        exact .error (handle_of_exhausted _ (bind_of_error ran)) (bind_of_error (handle_of_exhausted _ ran')) alike'
    | failed c =>
        cases ordinary : c.kind.isFatal with
        | true =>
            have passes := handle_of_fatal report (bind_of_error (f := f) ran) ordinary
            exact .error passes (bind_of_error (handle_of_fatal _ ran' ordinary)) alike'
        | false =>
            have stands : handle m (fun _ => pure a) w' = .ok a v' := handle_of_failed ran' ordinary
            rw [handle_of_failed (bind_of_error ran) ordinary, bind_of_ok stands, idle]
            exact (logs c).alike .pure v v' alike'

end

/-! ## Two runs -/

namespace SameButLogs

variable {α : Type}

/-- What depends on a registry is the same in both worlds. -/
theorem reads (f f' : Registry → Run κ α) (h : ∀ r, Match SameButLogs (f r) (f' r)) :
    Match SameButLogs (do f ((← get).registry n)) (do f' ((← get).registry n)) := by
  intro w w' alike
  change EndAlike _ (f (w.registry n) w) (f' (w'.registry n) w')
  rw [alike.registry n]
  exact h _ w w' alike

theorem does (d : Deed) : Match SameButLogs (modify (World.noted · d) : Run κ Unit) (modify (World.noted · d)) :=
  fun _ _ alike => ⟨rfl, alike.noted d⟩

theorem beginStart (runtime : Value) :
    Match SameButLogs (Run.beginStart n runtime : Run κ _) (Run.beginStart n runtime) := by
  intro w w' alike
  rw [Run.beginStart, modifyGet_run, modifyGet_run, alike.registry n]
  exact ⟨rfl, alike.noted _⟩

theorem answer (filter : Value) (request : Nat) :
    Match SameButLogs (Run.answer n filter request : Run κ _) (Run.answer n filter request) := by
  intro w w' alike
  cases found : Value.lookup? (w.registry n).subscriptions filter with
  | none =>
      have found' := found
      rw [alike.registry n] at found'
      exact .ok (answer_none request found) (answer_none request found') alike
  | some s =>
      have found' := found
      rw [alike.registry n] at found'
      exact .ok (answer_some request found) (answer_some request found') ((alike.unsubscribed n filter).noted _)

end SameButLogs

section

variable {call : Caller κ} [calls : call.Blind (SameButLogs (κ := κ))] {id runtime : Value}

theorem called_calmly {report : Cause → Run κ Unit} (logs : ∀ c, (report c).Logs) (f : Value) (args : Arguments) :
    Match SameButLogs (handle (do let _ ← call f args) report) (do let _ ← calm call f args) :=
  stops_alike (calls.same f args) (fun _ _ _ alike => .ok (handle_of_ok _ rfl) rfl alike) logs rfl

theorem tellListener_calmly {R : World κ → World κ → Prop} [Still R] [Calls call R] (what : String) (args : List Value)
    (listener : Value) : Match SameButLogs (tellListener call what args listener : Within R Unit).run
      (do let _ ← calm call listener (.of args)) := by
  rw [tellListener, run_handle]
  exact called_calmly (fun c => .record (fun _ => rfl) fun _ => rfl) listener _

theorem showFactory_calmly {R : World κ → World κ → Prop} [Still R] [Calls call R] (factory : Value)
    (listeners : List Value) :
    Match SameButLogs (showFactory call factory listeners : Within R Unit).run (calmly call [factory] listeners) := by
  rw [showFactory, Within.run_forM]
  refine .forM listeners fun l _ => ?_
  rw [run_handle]
  exact called_calmly (fun c => .record (fun _ => rfl) fun _ => rfl) l _

theorem notifyModule_calmly {R : World κ → World κ → Prop} [Still R] [Calls call R] (exports : Value) :
    Match SameButLogs (notifyModule call n exports id : Within R Unit).run (notifyCalmly call n exports id) :=
  SameButLogs.reads (fun r => (r.moduleListeners.forM (tellListener call "module" [exports, id]) : Within R _).run)
    (fun r => calmly call [exports, id] r.moduleListeners) fun r => by
      rw [Within.run_forM]
      exact .forM _ fun l _ => tellListener_calmly "module" _ l

theorem runBeforeInit_calmly : Match SameButLogs (runBeforeInit call n runtime) (startCalmly call n runtime) :=
  .bind (SameButLogs.beginStart runtime) fun listeners =>
    .bind (.forM listeners fun l _ => .bind (SameButLogs.does _) fun _ => tellListener_calmly "before-init" _ l)
      fun _ => SameButLogs.does _

/-- Once a filter has accepted, the subscription ends and the callback is called; that a filter is no key any more is
only reported. -/
theorem accepted_calmly {report : Cause → Run κ Unit} (logs : ∀ c, (report c).Logs) (x : Value)
    (e : Value × Subscription) :
    Match SameButLogs
      (handle (do
        if ← answer n e.1 e.2.request then
          let _ ← call e.2.callback (.of [x, id])
        else fail (.noKey e.1)) report)
      (do
        if ← answer n e.1 e.2.request then
          let _ ← calm call e.2.callback (.of [x, id])) := by
  intro w w' alike
  rcases EndAlike.cases (SameButLogs.answer (n := n) e.1 e.2.request w w' alike) with
    ⟨there, v, v', ended, ended', alike'⟩ | ⟨_, _, _, failed, -, -⟩
  · rw [handle_congr (bind_of_ok ended), bind_of_ok ended']
    cases there with
    | true => exact called_calmly logs _ _ v v' alike'
    | false =>
        change EndAlike _ (handle (fail (.noKey e.1)) report v) ((pure () : Run κ Unit) v')
        rw [handle_of_failed (m := fail (.noKey e.1)) (c := .noKey e.1) rfl rfl]
        exact (logs _).alike .pure v v' alike'
  · cases found : Value.lookup? (w.registry n).subscriptions e.1 with
    | none => cases (answer_none e.2.request found).symm.trans failed
    | some s => cases (answer_some e.2.request found).symm.trans failed

theorem fireEntry_calmly (candidates : List Value) (e : Value × Subscription) :
    Match SameButLogs (fireEntry call n candidates id e) (calmEntry call n candidates id e) := by
  refine SameButLogs.reads (fun r => if Value.hasKey r.subscriptions e.1 then _ else pure ())
    (fun r => if Value.hasKey r.subscriptions e.1 then _ else pure ()) fun r => ?_
  split
  · have logs : ∀ c, (reportSubscription e.1 c : Quietly κ Unit).run.Logs :=
      fun c => .record (fun _ => rfl) fun _ => rfl
    refine stops_alike (Blind.same (m := firstAccepted call e.1 candidates)) ?_ logs rfl
    rintro (_ | x)
    · exact fun _ _ alike => .ok (handle_of_ok _ rfl) rfl alike
    · exact accepted_calmly logs x e
  · exact .pure ()

theorem firePass_calmly (candidates : List Value) :
    Match SameButLogs (firePass call n candidates id) (passCalmly call n candidates id) :=
  SameButLogs.reads (fun r => r.subscriptions.forM (fireEntry call n candidates id))
    (fun r => r.subscriptions.forM (calmEntry call n candidates id)) fun _ =>
      .forM _ fun e _ => fireEntry_calmly candidates e

theorem report_calmly (exports : Value) :
    Match SameButLogs
      ((notifyModule call n exports id : Working call _).run >>= fun _ => fireSubscriptions call n exports id)
      (reportCalmly call n exports id) :=
  .bind (notifyModule_calmly exports) fun _ => .bind (Blind.same (m := exportsOf call exports)) fun e =>
    firePass_calmly e.candidates

end

/-! ## A single turn -/

section

variable {call : Caller κ} {candidates : List Value} {id : Value} {e : Value × Subscription} {w v u z : World κ}
  {x : Value} {c : Cause}

theorem unsubscribed_over (w : World κ) (n : Nat) (filter : Value) :
    Value.hasKey ((w.unsubscribed n filter).registry n).subscriptions filter = false := by
  rw [Value.hasKey, List.any_eq_false]
  intro e he
  rw [(mem_unsubscribed.mp he).2]
  exact Bool.false_ne_true

theorem answer_over {request : Nat} {filter : Value} (ended : answer n filter request w = .ok true v) :
    Value.hasKey (v.registry n).subscriptions filter = false := by
  cases found : Value.lookup? (w.registry n).subscriptions filter with
  | none => cases (answer_none request found).symm.trans ended
  | some s =>
      cases (answer_some request found).symm.trans ended
      exact unsubscribed_over w n filter

theorem fireEntry_run (listed : Value.hasKey (w.registry n).subscriptions e.1 = true) :
    fireEntry call n candidates id e w =
      handle (fireOne call n candidates id e.1 e.2) (fun c => (reportSubscription e.1 c : Quietly κ Unit).run) w :=
  congrFun (if_pos listed) w

/-- A failure in the turn of a subscription is only reported. -/
theorem fireEntry_failed (listed : Value.hasKey (w.registry n).subscriptions e.1 = true)
    (failed : fireOne call n candidates id e.1 e.2 w = .error (.failed c) v) (ordinary : c.kind.isFatal = false) :
    ∃ z, fireEntry call n candidates id e w = .ok () z ∧ SameButLogs z v := by
  rw [fireEntry_run listed, handle_of_failed failed ordinary]
  exact ⟨_, rfl, Likeness.logged rfl (.refl v)⟩

theorem fireOne_answered (accepted : (firstAccepted call e.1 candidates : Calling call _).run w = .ok (some x) v)
    (ended : answer n e.1 e.2.request v = .ok true u)
    (failed : call e.2.callback (.of [x, id]) u = .error (.failed c) z) :
    fireOne call n candidates id e.1 e.2 w = .error (.failed c) z := by
  refine (bind_of_ok accepted).trans ?_
  exact (bind_of_ok ended).trans (bind_of_error failed)

end

/-! ## Isolation -/

/-- Observers that fail are nothing to the others. -/
structure Isolates (call : Caller κ) : Prop where
  started : ∀ n runtime, Match SameButLogs (runBeforeInit call n runtime) (startCalmly call n runtime)
  shown : ∀ factory listeners,
    Match SameButLogs (showFactory call factory listeners : Calling call _).run (calmly call [factory] listeners)
  reported : ∀ {n id table exports e w u}, (exportsOf call exports : Working call _).run w = .ok e u →
    e.kind ≠ .global →
    EndAlike SameButLogs ((reportExports call id n table exports : Working call _).run w)
      (reportCalmly call n exports id u)
  /-- The subscription is used up before the callback is called, and what that leaves behind stays. -/
  used : ∀ {n candidates id e w x v u}, Value.hasKey (w.registry n).subscriptions e.1 = true →
    (firstAccepted call e.1 candidates : Calling call _).run w = .ok (some x) v →
    answer n e.1 e.2.request v = .ok true u →
    Value.hasKey (u.registry n).subscriptions e.1 = false ∧
      ∀ {c z}, c.kind.isFatal = false → call e.2.callback (.of [x, id]) u = .error (.failed c) z →
        ∃ z', fireEntry call n candidates id e w = .ok () z' ∧ SameButLogs z' z
  /-- What a filter that fails leaves behind stays. -/
  waits : ∀ {n candidates id e w c v}, Value.hasKey (w.registry n).subscriptions e.1 = true →
    c.kind.isFatal = false →
    (firstAccepted call e.1 candidates : Calling call _).run w = .error (.failed c) v →
    ∃ v', fireEntry call n candidates id e w = .ok () v' ∧ SameButLogs v' v
  /-- Only reading the exports once more, after the module listeners, keeps the subscriptions from their turns. -/
  kept_iff : ∀ {n id exports w c z}, c.kind.isFatal = false →
    (((notifyModule call n exports id : Working call _).run >>= fun _ => fireSubscriptions call n exports id) w =
        .error (.failed c) z ↔
      ∃ v, (notifyModule call n exports id : Working call _).run w = .ok () v ∧
        (exportsOf call exports : Calling call _).run v = .error (.failed c) z)

theorem observers_isolated (call : Caller κ) [call.Blind (SameButLogs (κ := κ))] : Isolates call where
  started _ _ := runBeforeInit_calmly
  shown := showFactory_calmly
  reported {n id table exports e w u} normal kind := by
    rw [reportExports_tells kind normal]
    exact report_calmly exports u u (.refl u)
  used listed accepted ended := by
    refine ⟨answer_over ended, fun ordinary failed => ?_⟩
    exact fireEntry_failed listed (fireOne_answered accepted ended failed) ordinary
  waits listed ordinary failed := fireEntry_failed listed (bind_of_error failed) ordinary
  kept_iff ordinary := by
    rw [notifyModule_contained.failed_bind_iff ordinary]
    refine ⟨fun ⟨_, v, told, failed⟩ => ⟨v, told, ?_⟩, fun ⟨v, told, failed⟩ => ⟨(), v, told, ?_⟩⟩
    · exact (fireSubscriptions_failed_iff ordinary).mp failed
    · exact (fireSubscriptions_failed_iff ordinary).mpr failed

/-! ## A listener that fails -/

/-- Listeners leave a mark when they are called; the one that is a text fails then. -/
def marking : Caller (List Value) := fun f _ => do
  modify fun w => { w with host := w.host ++ [f] }
  match f with
  | .str _ => fail (.raised .value [f])
  | _ => pure .none

instance : marking.Blind SameButLogs where
  same f args := by
    refine .bind (fun w w' alike => ⟨rfl, alike.same (fun u => ({ u with host := u.host ++ [f] } : World _).unlogged)
      fun _ => ?_⟩) fun _ => ?_
    · simp only [World.unlogged, List.filter_filter, Bool.and_self]
    · split
      · exact .throw _
      · exact .pure _

def marked : World (List Value) :=
  (showFactory marking (.int 0) [.str "first", .int 1] : Calling marking _).run.after (World.start [] [])

theorem observers_isolated_marked : marked.host = [.str "first", .int 1] ∧
    EndAlike SameButLogs
      ((showFactory marking (.int 0) [.str "first", .int 1] : Calling marking _).run (World.start [] []))
      (calmly marking [.int 0] [.str "first", .int 1] (World.start [] [])) :=
  ⟨rfl, (observers_isolated marking).shown _ _ _ _ (.refl _)⟩

/-! ## A listener after which the exports cannot be read -/

/-- A module listener, the truth test of a default export, which fails once that listener has been called, and a filter.
The first and the last leave a mark when they are called. -/
def spoiling : Surroundings (List Nat) := fun _ k _ => do
  match k with
  | 1 =>
    modifyHost (· ++ [1])
    pure .none
  | 2 => if (← world).host.contains 1 then fail (.raised .value [.str "broken"]) else pure (.bool false)
  | 3 =>
    modifyHost (· ++ [3])
    pure (.bool true)
  | _ => pure .none

/-- A module with that default export, a registry with the listener, and a subscription with the filter. -/
def spoiled : World (List Nat) :=
  (World.furnished [] [] [.external 0 "factory",
    .instance moduleClass [("id", .str "1"), ("exports", .ref (loadedPlace 2))] none,
    .dict [(.str "default", .ref (loadedPlace 3))], .instance (loadedPlace 4) [] none,
    .class ⟨"Hollow", "Hollow", "host", [], [("__bool__", .ref (loadedPlace 5))]⟩, .external 2 "__bool__",
    .external 1 "spoil", .external 3 "any", .external 4 "seen"]).modifyRegistry 1 fun r => { r with
      moduleListeners := [.ref (loadedPlace 6)]
      subscriptions := [(.ref (loadedPlace 7), ⟨.ref (loadedPlace 8), 0⟩)] }

def runSpoiled : Run (List Nat) Value :=
  (runWrapper (callValue spoiling) hollowWrapper hollowArgs : Working (callValue spoiling) _).run

/-- The listener is called, and the filter is not, though its subscription waits. -/
theorem spoiled_untold :
    (runSpoiled.after spoiled).host = [1] ∧
      Value.hasKey ((runSpoiled.after spoiled).registry 1).subscriptions (.ref (loadedPlace 7)) = true ∧
      ∃ z, runSpoiled spoiled = .error (.failed (.raised .value [.str "broken"])) z :=
  ⟨by decide +kernel, by decide +kernel, _, rfl⟩

end Patchwork
