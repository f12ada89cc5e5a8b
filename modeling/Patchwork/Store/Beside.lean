import Patchwork.Store.Calling

/-!
Computations that leave alone which patches are registered and which subscriptions wait. They may change everything
else, what the surroundings keep included.
-/

namespace Patchwork

variable {κ : Type}

/-- The registered patches, the subscriptions and the history are the same in both worlds, and no registry came
or went. -/
structure Beside (w w' : World κ) : Prop where
  patches : ∀ n, (w'.registry n).patches = (w.registry n).patches
  subscriptions : ∀ n, (w'.registry n).subscriptions = (w.registry n).subscriptions
  history : w'.history = w.history
  size : w'.registries.size = w.registries.size

instance : Lasting (Beside (κ := κ)) where
  refl _ := ⟨fun _ => rfl, fun _ => rfl, rfl, rfl⟩
  trans first second :=
    ⟨fun n => (second.patches n).trans (first.patches n),
      fun n => (second.subscriptions n).trans (first.subscriptions n), second.history.trans first.history,
      second.size.trans first.size⟩

theorem Quiet.beside {w w' : World κ} (h : Quiet w w') : Beside w w' := by
  have same : w'.registry = w.registry := by
    funext n
    rw [World.registry, World.registry, h.registries]
  exact ⟨fun n => by rw [same], fun n => by rw [same], h.history, by rw [h.registries]⟩

/-- Ways of changing the world that allow for all changes beside the patches and the subscriptions. -/
class Moves (R : World κ → World κ → Prop) : Prop extends Lasting R where
  beside : ∀ {u v}, Beside u v → R u v

instance (R : World κ → World κ → Prop) [Moves R] : Still R where
  quiet h := Moves.beside h.beside

instance : Moves (Beside (κ := κ)) where
  beside h := h

namespace Run

variable {R : World κ → World κ → Prop} [Moves R]

/-- Puts an object in the place of another one. -/
def replace (a : Address) (o : Object) : Within R Unit :=
  .change (fun w => { w with heap := w.heap.setIfInBounds a o })
    fun _ => Moves.beside ⟨fun _ => rfl, fun _ => rfl, rfl, rfl⟩

def setTable (a : Address) (t : Table) : Within R Unit :=
  replace a (.table t)

def setHooks (hooks : Option HookSet) : Within R Unit :=
  .change (fun w => { w with hooks }) fun _ => Moves.beside ⟨fun _ => rfl, fun _ => rfl, rfl, rfl⟩

def setFrames (frames : List String) : Within R Unit :=
  .change (fun w => { w with frames }) fun _ => Moves.beside ⟨fun _ => rfl, fun _ => rfl, rfl, rfl⟩

def setTrace (trace : List Event) : Within R Unit :=
  .change (fun w => { w with trace }) fun _ => Moves.beside ⟨fun _ => rfl, fun _ => rfl, rfl, rfl⟩

def modifyEnvironment (f : Environment → Environment) : Within R Unit :=
  .change (fun w => { w with environment := f w.environment })
    fun _ => Moves.beside ⟨fun _ => rfl, fun _ => rfl, rfl, rfl⟩

/-- Changes what the surroundings keep. -/
def modifyHost (f : κ → κ) : Within R Unit :=
  .change (fun w => { w with host := f w.host }) fun _ => Moves.beside ⟨fun _ => rfl, fun _ => rfl, rfl, rfl⟩

/-- Changes a registry beside its patches and subscriptions. -/
def modifyRegistry (n : Nat) (f : Registry → Registry)
    (same : ∀ r, (f r).patches = r.patches ∧ (f r).subscriptions = r.subscriptions := by
      exact fun _ => ⟨rfl, rfl⟩) : Within R Unit :=
  .change (fun w => w.modifyRegistry n f) fun w => Moves.beside <| by
    refine ⟨fun m => ?_, fun m => ?_, rfl, w.modifyRegistry_size n f⟩
    · rcases w.modifyRegistry_registry n m f with h | ⟨_, h⟩
      · rw [h]
      · rw [h, (same _).1]
    · rcases w.modifyRegistry_registry n m f with h | ⟨_, h⟩
      · rw [h]
      · rw [h, (same _).2]

/-- Makes a runtime the live one of a registry. -/
def setRuntime (n : Nat) (require : Value) : Within R Unit :=
  modifyRegistry n fun r => { r with require }

/-- Makes a table the module table of a registry. -/
def setModules (n : Nat) (modules : Value) : Within R Unit :=
  modifyRegistry n fun r => { r with modules }

end Run

end Patchwork
