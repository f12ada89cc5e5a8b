import Patchwork.Proofs.Growth

/-!
Runs from worlds that are alike: they have the same objects, and differ in what no object shows, such as log records.
Computations that look at nothing but objects end in the same way in both, and leave worlds that are alike again.
-/

namespace Patchwork

open Run

variable {κ : Type} {α β : Type}

/-- What computations on objects and texts look at is the same in both worlds. -/
structure SameStore (w w' : World κ) : Prop where
  heap : w.heap = w'.heap
  sources : w.sources = w'.sources
  recompiled : w.recompiled = w'.recompiled
  rules : w.rules = w'.rules
  environment : w.environment = w'.environment

def Event.isLog : Event → Bool
  | log _ _ _ => true
  | noted _ => false

/-- A relation of worlds with the same objects, texts and settings. Changes of these that are the same in both worlds
keep it, and log records do not matter to it. -/
class Likeness (E : World κ → World κ → Prop) : Prop where
  symm : ∀ {w w'}, E w w' → E w' w
  store : ∀ {w w'}, E w w' → SameStore w w'
  changed : ∀ {w w'} heap sources recompiled rules, E w w' →
    E { w with heap, sources, recompiled, rules } { w' with heap, sources, recompiled, rules }
  logged : ∀ {w w' e}, e.isLog = true → E w w' → E { w with trace := e :: w.trace } w'

/-- Two runs end with the same result or the same failure, in worlds that are alike. -/
def EndAlike (E : World κ → World κ → Prop) :
    EStateM.Result Fault (World κ) α → EStateM.Result Fault (World κ) α → Prop
  | .ok a v, .ok b v' => a = b ∧ E v v'
  | .error e v, .error e' v' => e = e' ∧ E v v'
  | _, _ => False

/-- Two computations end alike from worlds that are alike. -/
def Match (E : World κ → World κ → Prop) (m m' : Run κ α) : Prop :=
  ∀ w w', E w w' → EndAlike E (m w) (m' w')

/-- A computation ends alike in all worlds that are alike: it depends on nothing else. -/
class Blind {R : World κ → World κ → Prop} (E : World κ → World κ → Prop) (m : Within R α) : Prop where
  same : Match E m.run m.run

/-- All calls depend on nothing else. -/
class Caller.Blind (E : World κ → World κ → Prop) (call : Caller κ) : Prop where
  same : ∀ f args, Match E (call f args) (call f args)

namespace EndAlike

variable {E : World κ → World κ → Prop} {m m' : Run κ α} {w w' v v' : World κ}

/-- How two computations can end alike: both with a result, or both with a failure. -/
theorem cases (h : EndAlike E (m w) (m' w')) :
    (∃ a v v', m w = .ok a v ∧ m' w' = .ok a v' ∧ E v v') ∨
      ∃ e v v', m w = .error e v ∧ m' w' = .error e v' ∧ E v v' := by
  cases ran : m w with
  | ok a v =>
      cases ran' : m' w' with
      | ok b v' =>
          rw [ran, ran'] at h
          exact .inl ⟨a, v, v', rfl, by rw [h.1], h.2⟩
      | error e' v' =>
          rw [ran, ran'] at h
          cases h
  | error e v =>
      cases ran' : m' w' with
      | ok b v' =>
          rw [ran, ran'] at h
          cases h
      | error e' v' =>
          rw [ran, ran'] at h
          exact .inr ⟨e, v, v', rfl, by rw [h.1], h.2⟩

theorem ok {a : α} (ran : m w = .ok a v) (ran' : m' w' = .ok a v') (alike : E v v') :
    EndAlike E (m w) (m' w') := by
  rw [ran, ran']
  exact ⟨rfl, alike⟩

theorem error {e : Fault} (ran : m w = .error e v) (ran' : m' w' = .error e v')
    (alike : E v v') : EndAlike E (m w) (m' w') := by
  rw [ran, ran']
  exact ⟨rfl, alike⟩

end EndAlike

namespace Match

variable {E : World κ → World κ → Prop} {m m' : Run κ α} {f f' : α → Run κ β}

theorem pure (a : α) : Match E (pure a) (pure a) :=
  fun _ _ h => ⟨rfl, h⟩

theorem throw (e : Fault) : Match (α := α) E (throw e) (throw e) :=
  fun _ _ h => ⟨rfl, h⟩

theorem bind (first : Match E m m') (rest : ∀ a, Match E (f a) (f' a)) : Match E (m >>= f) (m' >>= f') := by
  intro w w' alike
  rcases EndAlike.cases (first w w' alike) with ⟨a, v, v', ran, ran', alike'⟩ | ⟨e, v, v', ran, ran', alike'⟩
  · rw [bind_of_ok ran, bind_of_ok ran']
    exact rest a v v' alike'
  · exact .error (bind_of_error ran) (bind_of_error ran') alike'

/-- Failures are handled alike; what is not handled passes in both. -/
theorem handle {f f' : Cause → Run κ α} (first : Match E m m') (rest : ∀ c, Match E (f c) (f' c)) :
    Match E (handle m f) (handle m' f') := by
  intro w w' alike
  rcases EndAlike.cases (first w w' alike) with ⟨a, v, v', ran, ran', alike'⟩ | ⟨e, v, v', ran, ran', alike'⟩
  · exact .ok (handle_of_ok f ran) (handle_of_ok f' ran') alike'
  · cases e with
    | exhausted => exact .error (handle_of_exhausted f ran) (handle_of_exhausted f' ran') alike'
    | failed c =>
        cases ordinary : c.kind.isFatal with
        | true => exact .error (handle_of_fatal f ran ordinary) (handle_of_fatal f' ran' ordinary) alike'
        | false =>
            rw [handle_of_failed ran ordinary, handle_of_failed ran' ordinary]
            exact rest c v v' alike'

theorem forM {f f' : α → Run κ Unit} : (as : List α) → (∀ a ∈ as, Match E (f a) (f' a)) →
    Match E (as.forM f) (as.forM f')
  | [], _ => pure ()
  | a :: as, h => bind (h a List.mem_cons_self) fun _ => forM as fun b hb => h b (List.mem_cons_of_mem _ hb)

end Match

/-! ## Log records -/

/-- A computation does nothing but log. -/
def Run.Logs (m : Run κ Unit) : Prop :=
  ∀ w, ∃ records : List Event, (∀ e ∈ records, e.isLog = true) ∧ m w = .ok () { w with trace := records ++ w.trace }

namespace Run.Logs

variable {E : World κ → World κ → Prop}

theorem pure : Logs (κ := κ) (pure ()) :=
  fun _ => ⟨[], fun _ h => absurd h List.not_mem_nil, rfl⟩

section

variable {R : World κ → World κ → Prop} [Still R]

theorem bind {m : Within R Unit} {f : Unit → Within R Unit} (first : Logs m.run) (rest : Logs (f ()).run) :
    Logs (m >>= f).run := by
  intro w
  obtain ⟨records, logs, ran⟩ := first w
  obtain ⟨more, logs', ran'⟩ := rest { w with trace := records ++ w.trace }
  refine ⟨more ++ records, fun e he => (List.mem_append.mp he).elim (logs' e) (logs e), ?_⟩
  rw [Within.run_bind, bind_of_ok ran, ran', List.append_assoc]

/-- What is looked up first is no matter. -/
theorem look {m : Within R α} {f : α → Within R Unit} (seen : ∀ w, ∃ a, m.run w = .ok a w)
    (rest : ∀ a, Logs (f a).run) : Logs (m >>= f).run := by
  intro w
  obtain ⟨a, ran⟩ := seen w
  rw [Within.run_bind, bind_of_ok ran]
  exact rest a w

end

theorem record {m : Run κ Unit} {e : World κ → Event} (h : ∀ w, (e w).isLog = true)
    (ran : ∀ w, m w = .ok () { w with trace := e w :: w.trace }) : Logs m :=
  fun w => ⟨[e w], fun _ he => List.mem_singleton.mp he ▸ h w, ran w⟩

theorem trace_alike [Likeness E] {w w' : World κ} (alike : E w w') : {records : List Event} →
    (∀ e ∈ records, e.isLog = true) → E { w with trace := records ++ w.trace } w'
  | [], _ => alike
  | e :: _, h =>
      Likeness.logged (h e List.mem_cons_self) (trace_alike alike fun f hf => h f (List.mem_cons_of_mem e hf))

/-- Whatever is logged is alike. -/
theorem alike [Likeness E] {m m' : Run κ Unit} (h : Logs m) (h' : Logs m') : Match E m m' := by
  intro w w' alike
  obtain ⟨records, logs, ran⟩ := h w
  obtain ⟨records', logs', ran'⟩ := h' w'
  exact .ok ran ran' (trace_alike (Likeness.symm (trace_alike (Likeness.symm alike) logs')) logs)

end Run.Logs

/-- Calls that change nothing, and depend on objects only. -/
def Caller.Pure (call : Caller κ) : Prop :=
  ∀ f args, ∃ answer : Heap → Except Fault Value, ∀ w, call f args w =
    match answer w.heap with
    | .ok v => .ok v w
    | .error e => .error e w

theorem Caller.Pure.blind {E : World κ → World κ → Prop} [Likeness E] {call : Caller κ} (pure : call.Pure) :
    call.Blind E where
  same f args w w' alike := by
    obtain ⟨answer, answers⟩ := pure f args
    rw [answers, answers, (Likeness.store alike).heap]
    cases answer w'.heap with
    | ok v => exact ⟨rfl, alike⟩
    | error e => exact ⟨rfl, alike⟩

namespace Blind

section

variable {R : World κ → World κ → Prop} [Still R] {E : World κ → World κ → Prop}

instance (a : α) : Blind E (pure a : Within R α) :=
  ⟨.pure a⟩

instance (e : Fault) : Blind E (throw e : Within R α) :=
  ⟨.throw e⟩

instance (c : Cause) : Blind E (fail c : Within R α) :=
  ⟨.throw _⟩

theorem bind {m : Within R α} {f : α → Within R β} (first : Blind E m) (rest : ∀ a, Blind E (f a)) :
    Blind E (m >>= f) :=
  ⟨.bind first.same fun a => (rest a).same⟩

/-- What follows need not be the same for results that there never are. -/
theorem bind_of {m : Within R α} {f : α → Within R β} {P : α → Prop} (first : Blind E m)
    (gives : ∀ w a v, m.run w = .ok a v → P a) (rest : ∀ a, P a → Blind E (f a)) : Blind E (m >>= f) where
  same w w' alike := by
    rcases EndAlike.cases (first.same w w' alike) with ⟨a, v, v', ran, ran', alike'⟩ | ⟨e, v, v', ran, ran', alike'⟩
    · have both := (rest a (gives w a v ran)).same v v' alike'
      rwa [← bind_of_ok (f := fun a => (f a).run) ran, ← bind_of_ok (f := fun a => (f a).run) ran'] at both
    · exact .error (bind_of_error ran) (bind_of_error ran') alike'

theorem handle {m : Within R α} {f : Cause → Within R α} (first : Blind E m) (rest : ∀ c, Blind E (f c)) :
    Blind E (handle m f) where
  same := by
    rw [run_handle]
    exact .handle first.same fun c => (rest c).same

instance (m : Within R α) (f : α → Within R β) [first : Blind E m] [rest : ∀ a, Blind E (f a)] : Blind E (m >>= f) :=
  first.bind rest

instance (m : Within R α) (f : Cause → Within R α) [first : Blind E m] [rest : ∀ c, Blind E (f c)] :
    Blind E (Run.handle m f) :=
  first.handle rest

instance (p : Prop) [Decidable p] (m m' : Within R α) [yes : Blind E m] [no : Blind E m'] :
    Blind E (if p then m else m') := by
  split
  · exact yes
  · exact no

theorem forM {f : α → Within R Unit} {as : List α} (each : ∀ a, Blind E (f a)) : Blind E (as.forM f) where
  same := by
    rw [Within.run_forM]
    exact .forM as fun a _ => (each a).same

theorem mapM {f : α → Within R β} : {as : List α} → (∀ a ∈ as, Blind E (f a)) → Blind E (as.mapM f)
  | [], _ => inferInstanceAs (Blind E (pure [] : Within R _))
  | a :: as, each => by
      have first := each a List.mem_cons_self
      have rest := mapM fun b hb => each b (List.mem_cons_of_mem a hb)
      rw [List.mapM_cons]
      infer_instance

theorem foldlM {f : β → α → Within R β} {b : β} {as : List α} (each : ∀ b a, Blind E (f b a)) :
    Blind E (as.foldlM f b) := by
  induction as generalizing b with
  | nil => exact inferInstanceAs (Blind E (pure b : Within R _))
  | cons a as ih =>
      rw [List.foldlM_cons]
      infer_instance

theorem filterMapM {f : α → Within R (Option β)} {as : List α} (each : ∀ a, Blind E (f a)) :
    Blind E (as.filterMapM f) := by
  induction as with
  | nil => exact inferInstanceAs (Blind E (pure [] : Within R _))
  | cons a as ih =>
      rw [List.filterMapM_cons]
      refine bind inferInstance fun b => ?_
      cases b <;> infer_instance

instance (f : α → Within R Unit) (as : List α) [each : ∀ a, Blind E (f a)] : Blind E (as.forM f) :=
  forM each

instance (f : α → Within R β) (as : List α) [each : ∀ a, Blind E (f a)] : Blind E (as.mapM f) :=
  mapM fun a _ => each a

instance (f : β → α → Within R β) (b : β) (as : List α) [each : ∀ b a, Blind E (f b a)] : Blind E (as.foldlM f b) :=
  foldlM each

instance (f : α → Within R (Option β)) (as : List α) [each : ∀ a, Blind E (f a)] : Blind E (as.filterMapM f) :=
  filterMapM each

end

variable {R : World κ → World κ → Prop} [Still R] {E : World κ → World κ → Prop} [Likeness E]

/-! ## Objects -/

instance : Blind E (heap : Within R Heap) :=
  ⟨fun _ _ alike => ⟨(Likeness.store alike).heap, alike⟩⟩

theorem changed {w w' : World κ} (f : Heap → Heap) (alike : E w w') :
    E { w with heap := f w.heap } { w' with heap := f w'.heap } := by
  obtain ⟨heap, sources, recompiled, rules, -⟩ := Likeness.store alike
  have both := Likeness.changed (f w.heap) w.sources w.recompiled w.rules alike
  rw [heap, sources, recompiled, rules] at both ⊢
  exact both

instance (o : Object) : Blind E (alloc o : Within R Address) :=
  ⟨fun _ _ alike => ⟨congrArg Array.size (Likeness.store alike).heap, changed (·.push o) alike⟩⟩

instance (a : Address) (c : Content) : Blind E (write a c : Within R Unit) :=
  ⟨fun _ _ alike => ⟨rfl, changed (fun h => h.modify a fun o => o.filled c) alike⟩⟩

instance (o : Object) : Blind E (new o : Within R Value) := by
  unfold new
  infer_instance

instance (v : Value) : Blind E (object? v : Within R _) := by
  unfold object?
  infer_instance

instance (a : Address) : Blind E (objectAt? a : Within R _) := by
  unfold objectAt?
  infer_instance

instance (v : Value) : Blind E (kindOf v : Within R _) := by
  unfold kindOf
  infer_instance

instance (v : Value) : Blind E (Run.repr v : Within R _) := by
  unfold Run.repr
  infer_instance

instance (v : Value) : Blind E (Run.str v : Within R _) := by
  unfold Run.str
  infer_instance

instance (v : Value) : Blind E (checkKey v : Within R _) := by
  unfold checkKey
  refine bind inferInstance fun h => ?_
  split <;> infer_instance

/-! ## Log records -/

instance (level : Level) (message : String) : Blind E (log level message : Within R Unit) :=
  ⟨Logs.alike (.record (fun _ => rfl) fun _ => rfl) (.record (fun _ => rfl) fun _ => rfl)⟩

instance (message : String) (failure : Option (String × String)) :
    Blind E (emit (.log .error message failure) : Within R Unit) :=
  ⟨Logs.alike (.record (fun _ => rfl) fun _ => rfl) (.record (fun _ => rfl) fun _ => rfl)⟩

instance (message : String) (c : Cause) : Blind E (logFailure message c : Within R Unit) := by
  unfold logFailure describe
  infer_instance

/-! ## Attributes -/

-- Where a function chooses by what it looked up, the proof goes through its parts up to the choice and on in each case.

instance (v : Value) (name : String) : Blind E (noAttribute (α := α) v name : Within R _) := by
  unfold noAttribute
  infer_instance

instance (v : Value) (name : String) : Blind E (builtinMethod v name : Within R _) := by
  unfold builtinMethod
  repeat' first | with_reducible refine bind ?_ fun _ => ?_ | split | infer_instance

instance (v : Value) (name : String) (found : Option Value) : Blind E (orMissing v name found : Within R _) := by
  cases found <;> (unfold orMissing; infer_instance)

instance (v : Value) (name : String) : Blind E (getAttr v name : Within R _) := by
  unfold getAttr
  repeat' first | with_reducible refine bind ?_ fun _ => ?_ | split | infer_instance

instance (v : Value) (name : String) : Blind E (getAttr? v name : Within R _) := by
  unfold getAttr?
  infer_instance

instance (v : Value) (name : String) : Blind E (deleteAttr v name : Within R _) := by
  unfold deleteAttr
  repeat' first | with_reducible refine bind ?_ fun _ => ?_ | split | infer_instance

/-! ## What classes say -/

section

variable {call : Caller κ} [Calls call R] [calls : call.Blind E]

instance (f : Value) (args : Arguments) : Blind E (ask call f args : Within R _) :=
  ⟨calls.same f args⟩

instance (v : Value) (name : String) (value : Value) : Blind E (setAttr call v name value : Within R _) := by
  unfold setAttr
  repeat' first | with_reducible refine bind ?_ fun _ => ?_ | split | infer_instance

instance (v : Value) (name : String) : Blind E (ownMethod? v name : Within R _) := by
  unfold ownMethod?
  repeat' first | with_reducible refine bind ?_ fun _ => ?_ | split | infer_instance

instance (v : Value) (name : String) (args : List Value) : Blind E (askClass call v name args : Within R _) := by
  unfold askClass
  repeat' first | with_reducible refine bind ?_ fun _ => ?_ | split | infer_instance

instance (message : String) : Blind E (mistyped (α := α) message : Within R _) := by
  unfold mistyped
  infer_instance

instance (v : Value) : Blind E (givenLength v : Within R _) := by
  unfold givenLength
  repeat' first | with_reducible refine bind ?_ fun _ => ?_ | split | infer_instance

instance (v : Value) : Blind E (truth call v : Within R _) := by
  unfold truth
  repeat' first | with_reducible refine bind ?_ fun _ => ?_ | split | infer_instance

instance (v : Value) (name : String) : Blind E (computedAttr? call v name : Within R _) := by
  unfold computedAttr?
  repeat' first | with_reducible refine bind ?_ fun _ => ?_ | split | infer_instance

instance (v : Value) (name : String) : Blind E (readAttr call v name : Within R _) := by
  unfold readAttr
  repeat' first
    | with_reducible refine bind ?_ fun _ => ?_
    | with_reducible refine handle ?_ fun _ => ?_
    | split
    | infer_instance

instance (v : Value) (name : String) : Blind E (readAttr? call v name : Within R _) := by
  unfold readAttr?
  infer_instance

/-! ## Exports -/

instance (v : Value) : Blind E (isMapping v : Within R _) := by
  unfold isMapping
  repeat' first | with_reducible refine bind ?_ fun _ => ?_ | split | infer_instance

instance (v : Value) : Blind E (defaultExport call v : Within R _) := by
  unfold defaultExport
  infer_instance

instance (v : Value) : Blind E (exportsOf call v : Within R _) := by
  unfold exportsOf
  infer_instance

instance firstAccepted (filter : Value) (candidates : List Value) :
    Blind E (Run.firstAccepted call filter candidates : Within R _) := by
  induction candidates with
  | nil => exact inferInstanceAs (Blind E (pure none : Within R _))
  | cons v r rest =>
      unfold Run.firstAccepted
      infer_instance

end

end Blind

/-! ## Worlds that differ in log records -/

/-- The world without its log records. -/
def World.unlogged (w : World κ) : World κ :=
  { w with trace := w.trace.filter fun e => !e.isLog }

def SameButLogs (w w' : World κ) : Prop :=
  w.unlogged = w'.unlogged

namespace SameButLogs

variable {w w' : World κ}

theorem refl (w : World κ) : SameButLogs w w :=
  Eq.refl w.unlogged

/-- What does not depend on log records is the same. -/
theorem same {α : Type} (h : SameButLogs w w') (f : World κ → α) (unlogged : ∀ w, f w = f w.unlogged) : f w = f w' := by
  rw [unlogged w, unlogged w', show w.unlogged = w'.unlogged from h]

end SameButLogs

instance : Likeness (SameButLogs (κ := κ)) where
  symm h := Eq.symm h
  store h := ⟨h.same World.heap fun _ => rfl, h.same World.sources fun _ => rfl, h.same World.recompiled fun _ => rfl,
    h.same World.rules fun _ => rfl, h.same World.environment fun _ => rfl⟩
  changed heap sources recompiled rules h :=
    h.same (fun u => { u with heap, sources, recompiled, rules : World κ }.unlogged) fun _ => by
      simp only [World.unlogged, List.filter_filter, Bool.and_self]
  logged {w w' e} log h := by
    rw [SameButLogs, World.unlogged, List.filter_cons_of_neg (by simp [log])]
    exact h

end Patchwork
