import Patchwork.Patch.Drain
import Patchwork.Registry.Dispatch

/-!
All that can happen to the registered patches and to the subscriptions, and that listeners are told before the host
starts; and computations that do nothing else about these.
-/

namespace Patchwork

variable {κ : Type} {α : Type} {R : World κ → World κ → Prop}

/-- What can be asked of the engine that is about patches, subscriptions or the start of the host, by the kind of its
result. -/
inductive Operation (κ : Type) : Type → Type where
  | register (registry : Nat) (p : Patch) : Operation κ Unit
  | waitFor (registry : Nat) (filter callback : Value) : Operation κ Unit
  | fire (registry : Nat) (exports id : Value) : Operation κ Unit
  | patch (s : Setup) (registry : Nat) (p : Progress) : Operation κ Progress
  | announce (registry : Nat) (runtime : Value) : Operation κ Unit

/-- An operation as it is done, with the calls in it left to `call`. -/
def Operation.run (call : Caller κ) : Operation κ α → Run κ α
  | register n p => Run.registerPatch n p
  | waitFor n filter callback => Run.waitFor call n filter callback
  | fire n exports id => Run.fireSubscriptions call n exports id
  | patch s n p => runPatches call s n p
  | announce n runtime => Run.runBeforeInit call n runtime

/-- The second world comes from the first one by operations, calls, and changes beside the patches and the
subscriptions. -/
inductive Acts (call : Caller κ) : World κ → World κ → Prop where
  | beside {u v} : Beside u v → Acts call u v
  | call (f : Value) (args : Arguments) (w : World κ) : Acts call w ((call f args).after w)
  | operation {α : Type} (o : Operation κ α) (w : World κ) : Acts call w ((o.run call).after w)
  | trans {u v w} : Acts call u v → Acts call v w → Acts call u w

/-- Ways of changing the world that allow for all operations. -/
class Works (call : Caller κ) (R : World κ → World κ → Prop) : Prop extends Calls call R where
  done : ∀ {α : Type} (o : Operation κ α) w, R w ((o.run call).after w)

/-- A computation that acts on patches and subscriptions by operations and calls only. -/
abbrev Working (call : Caller κ) := Within (Acts call)

instance (call : Caller κ) : Moves (Acts call) where
  refl w := .beside (Lasting.refl w)
  trans := .trans
  beside := .beside

instance (call : Caller κ) : Lasting (Acts call) where
  refl w := .beside (Lasting.refl w)
  trans := .trans

instance (call : Caller κ) : Still (Acts call) where
  quiet h := .beside h.beside

instance (call : Caller κ) : Calls call (Acts call) where
  called := .call

instance (call : Caller κ) : Works call (Acts call) where
  called := .call
  done := .operation

/-- Carries out an operation. -/
def Run.carryOut (call : Caller κ) [Works call R] (o : Operation κ α) : Within R α :=
  ⟨o.run call, fun w => Works.done o w⟩

/-- What operations, calls and other changes lead to is allowed wherever they are. -/
theorem Acts.within [Moves R] {call : Caller κ} [Works call R] {u w : World κ} (h : Acts call u w) :
    R u w := by
  induction h with
  | beside h => exact Moves.beside h
  | call f args w => exact Calls.called f args w
  | operation o w => exact Works.done o w
  | trans _ _ ih ih' => exact Lasting.trans ih ih'

end Patchwork
