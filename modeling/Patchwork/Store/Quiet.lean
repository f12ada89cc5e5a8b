import Patchwork.Store.Within

/-!
Computations that leave the engine as it is. They make and fill objects, log, and register texts; what has been
registered, the hooks and the surroundings stay, and no object becomes one of another kind.
-/

namespace Patchwork

variable {κ : Type}

/-- What an object holds that can be replaced. -/
inductive Content where
  | items (vs : List Value)
  | entries (es : List (Value × Value))
  | attrs (attrs : Attributes)
  | name (s : String)
  | cell (v : Option Value)

namespace Object

/-- An object with other content; one that has no content of this sort stays as it is. -/
def filled : Object → Content → Object
  | list _, .items vs => list vs
  | set _, .items vs => set vs
  | dict _, .entries es => dict es
  | plain _, .attrs attrs => plain attrs
  | function f, .attrs attrs => function { f with attrs }
  | helper f _, .attrs attrs => helper f attrs
  | wrapper w, .attrs attrs => wrapper { w with attrs }
  | «class» c, .attrs attrs => «class» { c with attrs }
  | «instance» cls _ core, .attrs attrs => «instance» cls attrs core
  | function f, .name s => function { f with name := s }
  | cell _, .cell v => cell v
  | o, _ => o

/-- An object without the content that can be replaced. -/
def essence : Object → Object
  | list _ => list []
  | set _ => set []
  | dict _ => dict []
  | plain _ => plain []
  | function f => function { f with name := "", attrs := [] }
  | helper f _ => helper f []
  | wrapper w => wrapper { w with attrs := [] }
  | «class» c => «class» { c with attrs := [] }
  | «instance» cls _ core => «instance» cls [] core
  | cell _ => cell none
  | o => o

theorem essence_filled (o : Object) (c : Content) : (o.filled c).essence = o.essence := by
  cases o <;> cases c <;> rfl

end Object

/-- Every object stays what it is. -/
def Heap.Stays (h h' : Heap) : Prop :=
  ∀ (a : Nat) (o : Object), h[a]? = some o → ∃ o', h'[a]? = some o' ∧ o'.essence = o.essence

namespace Heap.Stays

theorem refl (h : Heap) : h.Stays h :=
  fun _ o found => ⟨o, found, rfl⟩

theorem trans {g h k : Heap} (first : g.Stays h) (second : h.Stays k) : g.Stays k := by
  intro a o found
  obtain ⟨o', found', same⟩ := first a o found
  obtain ⟨o'', found'', same'⟩ := second a o' found'
  exact ⟨o'', found'', same'.trans same⟩

theorem push (h : Heap) (o : Object) : h.Stays (h.push o) := by
  intro a o' found
  have bound : a < h.size := (Array.getElem?_eq_some_iff.mp found).1
  refine ⟨o', ?_, rfl⟩
  rw [Array.getElem?_push_lt bound]
  rw [Array.getElem?_eq_getElem bound] at found
  exact found

theorem fill (h : Heap) (a : Address) (c : Content) : h.Stays (h.modify a fun o => o.filled c) := by
  intro b o found
  rw [Array.getElem?_modify, found]
  by_cases same : a = b
  · rw [if_pos same]
    exact ⟨o.filled c, rfl, o.essence_filled c⟩
  · rw [if_neg same]
    exact ⟨o, rfl, rfl⟩

end Heap.Stays

/-- The engine and its surroundings are the same in both worlds. -/
structure Quiet (w w' : World κ) : Prop where
  heap : w.heap.Stays w'.heap
  environment : w'.environment = w.environment
  registries : w'.registries = w.registries
  hooks : w'.hooks = w.hooks
  frames : w'.frames = w.frames
  history : w'.history = w.history
  host : w'.host = w.host

instance : Lasting (Quiet (κ := κ)) where
  refl _ := ⟨.refl _, rfl, rfl, rfl, rfl, rfl, rfl⟩
  trans first second :=
    ⟨first.heap.trans second.heap, second.environment.trans first.environment,
      second.registries.trans first.registries, second.hooks.trans first.hooks,
      second.frames.trans first.frames, second.history.trans first.history, second.host.trans first.host⟩

/-- A computation that leaves the engine as it is. -/
abbrev Quietly (κ : Type) := Within (Quiet (κ := κ))

/-- Ways of changing the world that allow for quiet changes. -/
class Still (R : World κ → World κ → Prop) : Prop extends Lasting R where
  quiet : ∀ {u v}, Quiet u v → R u v

instance : Still (Quiet (κ := κ)) where
  quiet h := h

namespace Run

section

variable {m : Type → Type} [MonadExceptOf Fault m]

def fail {α : Type} (c : Cause) : m α :=
  throw (.failed c)

/-- Handles ordinary failures; fatal ones and the end of the fuel pass. -/
def handle {α : Type} (x : m α) (h : Cause → m α) : m α :=
  tryCatch x fun
    | .failed c => if c.kind.isFatal then throw (.failed c) else h c
    | .exhausted => throw .exhausted

end

theorem handle_ok {α : Type} {m : Run κ α} {f : Cause → Run κ α} {w v : World κ} {a : α}
    (h : handle m f w = .ok a v) : m w = .ok a v ∨ ∃ c u, m w = .error (.failed c) u ∧ f c u = .ok a v := by
  rw [handle, tryCatch_run] at h
  split at h
  · next e u failed =>
      split at h
      · next c =>
          split at h
          · cases h
          · exact .inr ⟨c, u, failed, h⟩
      · cases h
  · exact .inl h

theorem handle_of_failed {α : Type} {m : Run κ α} {f : Cause → Run κ α} {w v : World κ} {c : Cause}
    (h : m w = .error (.failed c) v) (ordinary : c.kind.isFatal = false) : handle m f w = f c v := by
  rw [handle, tryCatch_run, h]
  simp only [ordinary, Bool.false_eq_true, ↓reduceIte]

theorem handle_of_ok {α : Type} {m : Run κ α} (f : Cause → Run κ α) {w v : World κ} {a : α} (h : m w = .ok a v) :
    handle m f w = .ok a v := by
  rw [handle, tryCatch_run, h]

theorem handle_of_fatal {α : Type} {m : Run κ α} (f : Cause → Run κ α) {w v : World κ} {c : Cause}
    (h : m w = .error (.failed c) v) (fatal : c.kind.isFatal = true) : handle m f w = .error (.failed c) v := by
  rw [handle, tryCatch_run, h]
  simp only [fatal, ↓reduceIte]
  rfl

theorem handle_of_exhausted {α : Type} {m : Run κ α} (f : Cause → Run κ α) {w v : World κ}
    (h : m w = .error .exhausted v) : handle m f w = .error .exhausted v := by
  rw [handle, tryCatch_run, h]
  rfl

/-- An ordinary failure that comes out of a handler comes from handling another one. -/
theorem handle_failed {α : Type} {m : Run κ α} {f : Cause → Run κ α} {w v : World κ} {c : Cause}
    (h : handle m f w = .error (.failed c) v) (ordinary : c.kind.isFatal = false) :
    ∃ c' u, m w = .error (.failed c') u ∧ f c' u = .error (.failed c) v := by
  rw [handle, tryCatch_run] at h
  split at h
  · next e u failed =>
      split at h
      · next c' =>
          split at h
          · next fatal =>
              cases h
              rw [fatal] at ordinary
              cases ordinary
          · exact ⟨c', u, failed, h⟩
      · cases h
  · next done => exact absurd h (done _ _)

theorem run_handle {α : Type} {R : World κ → World κ → Prop} [Lasting R] (m : Within R α) (f : Cause → Within R α) :
    (handle m f).run = handle m.run fun c => (f c).run := by
  simp only [handle, Within.run_tryCatch]
  congr 1
  funext e
  cases e with
  | failed c =>
      simp only
      split <;> rfl
  | exhausted => rfl

variable {R : World κ → World κ → Prop} [Still R]

/-- The world as it is now. -/
def world : Within R (World κ) :=
  ⟨get, fun w => Lasting.refl w⟩

def alloc (o : Object) : Within R Address :=
  .changeGet (fun w => (w.heap.size, { w with heap := w.heap.push o }))
    fun w => Still.quiet ⟨.push w.heap o, rfl, rfl, rfl, rfl, rfl, rfl⟩

/-- Fills an object anew. -/
def write (a : Address) (c : Content) : Within R Unit :=
  .change (fun w => { w with heap := w.heap.modify a fun o => o.filled c })
    fun w => Still.quiet ⟨.fill w.heap a c, rfl, rfl, rfl, rfl, rfl, rfl⟩

def emit (e : Event) : Within R Unit :=
  .change (fun w => { w with trace := e :: w.trace }) fun _ => Still.quiet ⟨.refl _, rfl, rfl, rfl, rfl, rfl, rfl⟩

/-- The number of texts that have been recompiled so far; counts one more. -/
def countRecompiled : Within R Nat :=
  .changeGet (fun w => (w.recompiled, { w with recompiled := w.recompiled + 1 }))
    fun _ => Still.quiet ⟨.refl _, rfl, rfl, rfl, rfl, rfl, rfl⟩

def setRules (rules : List Rule) : Within R Unit :=
  .change (fun w => { w with rules }) fun _ => Still.quiet ⟨.refl _, rfl, rfl, rfl, rfl, rfl, rfl⟩

def setOnce (once : OnceMemory) : Within R Unit :=
  .change (fun w => { w with once }) fun _ => Still.quiet ⟨.refl _, rfl, rfl, rfl, rfl, rfl, rfl⟩

def setSources (sources : List (String × List (List Char))) : Within R Unit :=
  .change (fun w => { w with sources }) fun _ => Still.quiet ⟨.refl _, rfl, rfl, rfl, rfl, rfl, rfl⟩

def new (o : Object) : Within R Value := do
  pure (.ref (← alloc o))

def heap : Within R Heap := do
  pure (← world).heap

def object? (v : Value) : Within R (Option Object) := do
  pure ((← heap).at? v)

def objectAt? (a : Address) : Within R (Option Object) := do
  pure (← heap)[a]?

theorem heap_run (w : World κ) : (heap : Within R Heap).run w = .ok w.heap w :=
  rfl

theorem object?_run (v : Value) (w : World κ) : (object? v : Within R (Option Object)).run w = .ok (w.heap.at? v) w :=
  rfl

theorem objectAt?_run (a : Address) (w : World κ) :
    (objectAt? a : Within R (Option Object)).run w = .ok w.heap[a]? w :=
  rfl

/-- The type of a value as error messages give it. -/
def kindOf (v : Value) : Within R String := do
  pure ((← heap).kindOf v)

def repr (v : Value) : Within R String := do
  pure ((← heap).repr v)

def str (v : Value) : Within R String := do
  pure ((← heap).str v)

/-- Fails on values that cannot be keys. -/
def checkKey (v : Value) : Within R Unit := do
  match (← heap).unhashable? v with
  | some type => fail (.unhashable type)
  | none => pure ()

/-- The table at an address; empty if there is none. -/
def tableAt (a : Address) : Within R Table := do
  match ← objectAt? a with
  | some (.table t) => pure t
  | _ => pure default

def registry (n : Nat) : Within R Registry := do
  pure ((← world).registry n)

/-- The failure with its kind and message, as it is attached to log records and answers. -/
def describe (c : Cause) : Within R (String × String) := do
  pure (c.kind.name, c.message (← heap))

def log (level : Level) (message : String) : Within R Unit :=
  emit (.log level message none)

def logFailure (message : String) (c : Cause) : Within R Unit := do
  emit (.log .error message (some (← describe c)))

end Run

end Patchwork
