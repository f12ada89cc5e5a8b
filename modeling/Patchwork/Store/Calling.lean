import Patchwork.Store.Quiet

/-!
Computations that leave the engine as it is, but for what the calls in them do.
-/

namespace Patchwork

variable {κ : Type}

/-- A call and the world in which it was made. -/
structure Call (κ : Type) where
  callee : Value
  args : Arguments
  world : World κ

/-- The second world comes from the first one by these calls, one after the other, with nothing but quiet
changes before, between and after them. -/
inductive Path (call : Caller κ) : World κ → List (Call κ) → World κ → Prop where
  | quiet {u v} : Quiet u v → Path call u [] v
  | call {u v w f args cs} : Quiet u v → Path call ((call f args).after v) cs w →
      Path call u (⟨f, args, v⟩ :: cs) w

namespace Path

variable {call : Caller κ} {u v w : World κ} {cs ds : List (Call κ)}

theorem after_quiet (first : Quiet u v) (rest : Path call v cs w) : Path call u cs w := by
  cases rest with
  | quiet second => exact .quiet (Lasting.trans first second)
  | call second rest => exact .call (Lasting.trans first second) rest

theorem append (first : Path call u cs v) (second : Path call v ds w) : Path call u (cs ++ ds) w := by
  induction first with
  | quiet h => exact second.after_quiet h
  | call h _ ih => exact .call h (ih second)

end Path

/-- The second world comes from the first one by quiet changes and calls. -/
def Reaches (call : Caller κ) (u w : World κ) : Prop :=
  ∃ cs, Path call u cs w

instance (call : Caller κ) : Lasting (Reaches call) where
  refl w := ⟨[], .quiet (Lasting.refl w)⟩
  trans := fun ⟨_, first⟩ ⟨_, second⟩ => ⟨_, first.append second⟩

/-- A computation that leaves the engine as it is, but for what the calls in it do. -/
abbrev Calling (call : Caller κ) := Within (Reaches call)

/-- Ways of changing the world that allow for calls. -/
class Calls (call : Caller κ) (R : World κ → World κ → Prop) : Prop where
  called : ∀ f args w, R w ((call f args).after w)

instance (call : Caller κ) : Still (Reaches call) where
  quiet h := ⟨[], .quiet h⟩

instance (call : Caller κ) : Calls call (Reaches call) where
  called f args w := ⟨[⟨f, args, w⟩], .call (Lasting.refl w) (.quiet (Lasting.refl _))⟩

/-- Calls a value. -/
def Run.ask {R : World κ → World κ → Prop} (call : Caller κ) [Calls call R] (f : Value) (args : Arguments) :
    Within R Value :=
  ⟨call f args, fun w => Calls.called f args w⟩

@[simp] theorem Run.ask_run {R : World κ → World κ → Prop} (call : Caller κ) [Calls call R] (f : Value)
    (args : Arguments) : (Run.ask call f args : Within R Value).run = call f args :=
  rfl

/-- What calls and quiet changes lead to is allowed wherever they are. -/
theorem Reaches.within {R : World κ → World κ → Prop} [Still R] {call : Caller κ} [Calls call R]
    {u w : World κ} (h : Reaches call u w) : R u w := by
  obtain ⟨cs, path⟩ := h
  induction path with
  | quiet h => exact Still.quiet h
  | call h _ ih => exact Lasting.trans (Still.quiet h) (Lasting.trans (Calls.called _ _ _) ih)

/-- Does what leaves the engine as it is, but for the calls in it, among what may change more. -/
def Run.withCalls {R : World κ → World κ → Prop} [Still R] {α : Type} (call : Caller κ) [Calls call R]
    (m : Calling call α) : Within R α :=
  ⟨m.run, fun w => (m.within w).within⟩

end Patchwork
