import Patchwork.Machine

/-!
Calls inside calls. A relation between worlds that every operation keeps as long as the calls inside it keep it is
kept by all calls, however deeply they nest.
-/

namespace Patchwork

variable {κ : Type} {R : World κ → World κ → Prop}

/-- All calls keep a relation. -/
def Caller.Keeps (call : Caller κ) (R : World κ → World κ → Prop) : Prop :=
  ∀ f args w, R w ((call f args).after w)

/-- All operations keep a relation if the calls in them do. -/
def Nests (R : World κ → World κ → Prop) : Prop :=
  ∀ {call : Caller κ}, call.Keeps R → ∀ {α : Type} (o : Operation κ α) w, R w ((o.run call).after w)

theorem Acts.keeps [Moves R] {call : Caller κ} {u w : World κ} (hR : Nests R) (hc : call.Keeps R)
    (h : Acts call u w) : R u w := by
  have : Works call R := { called := hc, done := hR hc }
  exact h.within

theorem callOnce_keeps [Moves R] {outside : Surroundings κ} {call : Caller κ} (hR : Nests R)
    (hc : call.Keeps R) (f : Value) (args : Arguments) (w : World κ) :
    R w ((callOnce outside call f args).run.after w) :=
  Acts.keeps hR hc ((callOnce outside call f args).within w)

theorem callWithin_keeps [Moves R] {outside : Surroundings κ} (hR : Nests R) :
    (fuel : Nat) → Caller.Keeps (callWithin outside fuel) R
  | 0 => fun _ _ w => Lasting.refl w
  | fuel + 1 => fun f args w => callOnce_keeps hR (callWithin_keeps hR fuel) f args w

/-- All worlds that come from a world by what the surroundings do are related to it. -/
theorem Acts.nested [Moves R] {outside : Surroundings κ} {u w : World κ} (hR : Nests R)
    (h : Acts (callValue outside) u w) : R u w :=
  h.keeps hR (callWithin_keeps hR callDepth)

/-- A world to which operations and calls lead from a fresh one. -/
def World.Reached (outside : Surroundings κ) (w : World κ) : Prop :=
  ∃ environment host, Acts (callValue outside) (World.start environment host) w

namespace World

variable {outside : Surroundings κ} {w w' : World κ}

theorem Reached.acts (h : w.Reached outside) (acts : Acts (callValue outside) w w') : w'.Reached outside := by
  obtain ⟨environment, host, before⟩ := h
  exact ⟨environment, host, before.trans acts⟩

/-- The world after an operation. -/
def doing {α : Type} (w : World κ) (outside : Surroundings κ) (o : Operation κ α) : World κ :=
  (o.run (callValue outside)).after w

theorem Reached.doing {α : Type} (h : w.Reached outside) (o : Operation κ α) : (w.doing outside o).Reached outside :=
  h.acts (.operation o w)

/-- A fresh world with objects of the surroundings in it. -/
def furnished (environment : Environment) (host : κ) (objects : List Object) : World κ :=
  let w := World.start environment host
  { w with heap := w.heap ++ objects.toArray }

theorem Reached.furnished (environment : Environment) (host : κ) (objects : List Object) :
    (furnished environment host objects).Reached outside :=
  ⟨environment, host, .beside ⟨fun _ => rfl, fun _ => rfl, rfl, rfl⟩⟩

end World

end Patchwork
