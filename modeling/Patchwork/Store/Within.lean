import Patchwork.Store.World

/-!
Computations that change the world only in a way that their type tells. Such a computation carries the proof, and
so does every one that is put together from such computations.
-/

namespace Patchwork

variable {κ : Type}

/-- The world that a computation leaves behind, whether it fails or not. -/
def Run.after {α : Type} (m : Run κ α) (w : World κ) : World κ :=
  match m w with
  | .ok _ v => v
  | .error _ v => v

/-- Ways of changing the world that one can follow one after the other. -/
class Lasting (R : World κ → World κ → Prop) : Prop where
  refl : ∀ w, R w w
  trans : ∀ {u v w}, R u v → R v w → R u w

/-- A computation that changes the world only in the way of `R`. -/
structure Within (R : World κ → World κ → Prop) (α : Type) where
  run : Run κ α
  within : ∀ w, R w (run.after w)

namespace Run

variable {α β : Type} {R : World κ → World κ → Prop}

theorem modifyGet_run (f : World κ → α × World κ) (w : World κ) :
    (modifyGet f : Run κ α) w = .ok (f w).1 (f w).2 :=
  rfl

theorem tryCatch_run (m : Run κ α) (f : Fault → Run κ α) (w : World κ) :
    tryCatch m f w = match m w with
      | .error e v => f e v
      | done => done := by
  change EStateM.tryCatch m f w = _
  delta EStateM.tryCatch
  cases m w <;> rfl

theorem bind_of_ok {m : Run κ α} {f : α → Run κ β} {w v : World κ} {a : α} (h : m w = .ok a v) :
    (m >>= f) w = f a v := by
  simp only [bind, EStateM.bind, h]

theorem bind_of_error {m : Run κ α} {f : α → Run κ β} {w v : World κ} {e : Fault} (h : m w = .error e v) :
    (m >>= f) w = .error e v := by
  simp only [bind, EStateM.bind, h]

theorem after_bind_ok {m : Run κ α} {f : α → Run κ β} {w v : World κ} {a : α} (h : m w = .ok a v) :
    (m >>= f).after w = (f a).after v := by
  simp only [after, bind, EStateM.bind, h]

theorem after_bind_error {m : Run κ α} {f : α → Run κ β} {w v : World κ} {e : Fault}
    (h : m w = .error e v) : (m >>= f).after w = v := by
  simp only [after, bind, EStateM.bind, h]

theorem bind_ok {m : Run κ α} {f : α → Run κ β} {w v : World κ} {b : β} :
    (m >>= f) w = .ok b v ↔ ∃ a u, m w = .ok a u ∧ f a u = .ok b v := by
  simp only [Bind.bind, EStateM.bind]
  constructor
  · intro h
    split at h
    · next a u first => exact ⟨a, u, first, h⟩
    · cases h
  · rintro ⟨a, u, first, rest⟩
    rw [first]
    exact rest

theorem bind_error {m : Run κ α} {f : α → Run κ β} {w v : World κ} {e : Fault} :
    (m >>= f) w = .error e v ↔ m w = .error e v ∨ ∃ a u, m w = .ok a u ∧ f a u = .error e v := by
  constructor
  · intro h
    cases first : m w with
    | ok a u => exact .inr ⟨a, u, rfl, (bind_of_ok first).symm.trans h⟩
    | error e' u =>
        rw [bind_of_error first] at h
        cases h
        exact .inl rfl
  · rintro (first | ⟨a, u, first, rest⟩)
    · exact bind_of_error first
    · exact (bind_of_ok first).trans rest

theorem after_ok {m : Run κ α} {w v : World κ} {a : α} (h : m w = .ok a v) : m.after w = v := by
  simp only [after, h]

theorem after_error {m : Run κ α} {w v : World κ} {e : Fault} (h : m w = .error e v) : m.after w = v := by
  simp only [after, h]

theorem bind_within [Lasting R] {m : Run κ α} {f : α → Run κ β} (hm : ∀ w, R w (m.after w))
    (hf : ∀ a w, R w ((f a).after w)) (w : World κ) : R w ((m >>= f).after w) := by
  have first := hm w
  cases h : m w with
  | ok a v =>
      rw [after_bind_ok h]
      rw [after_ok h] at first
      exact Lasting.trans first (hf a v)
  | error e v =>
      rw [after_bind_error h]
      rwa [after_error h] at first

/-- What holds after a computation, by how it ends. -/
def Ends (m : Run κ α) (w : World κ) (done : α → World κ → Prop) (failed : World κ → Prop) : Prop :=
  match m w with
  | .ok a v => done a v
  | .error _ v => failed v

theorem Ends.bind {m : Run κ α} {f : α → Run κ β} {w : World κ} {between : α → World κ → Prop}
    {done : β → World κ → Prop} {failed : World κ → Prop} (hm : m.Ends w between failed)
    (hf : ∀ a v, between a v → (f a).Ends v done failed) : (m >>= f).Ends w done failed := by
  simp only [Ends] at hm
  cases h : m w with
  | ok a v =>
      rw [h] at hm
      have rest := hf a v hm
      simp only [Ends, Bind.bind, EStateM.bind, h]
      exact rest
  | error e v =>
      rw [h] at hm
      simp only [Ends, Bind.bind, EStateM.bind, h]
      exact hm

theorem Ends.after {m : Run κ α} {w : World κ} {P : World κ → Prop} (h : m.Ends w (fun _ => P) P) :
    P (m.after w) := by
  simp only [Ends] at h
  simp only [Run.after]
  split at h <;> exact h

theorem ends_of_after {m : Run κ α} {w : World κ} {P : World κ → Prop} {done : α → World κ → Prop}
    {failed : World κ → Prop} (h : P (m.after w)) (ok : ∀ a v, P v → done a v) (error : ∀ v, P v → failed v) :
    m.Ends w done failed := by
  simp only [Run.after] at h
  simp only [Ends]
  split at h
  · exact ok _ _ h
  · exact error _ h

/-- What holds along a computation and the one behind it, with another property in between. -/
theorem bind_ensures {m : Run κ α} {f : α → Run κ β} {P Q S : World κ → Prop} (hm : ∀ w, P w → Q (m.after w))
    (hf : ∀ a w, Q w → S ((f a).after w)) (failed : ∀ w, Q w → S w) (w : World κ) (hw : P w) :
    S ((m >>= f).after w) := by
  have first : m.Ends w (fun _ => Q) S := ends_of_after (hm w hw) (fun _ _ h => h) failed
  have rest : ∀ a v, Q v → (f a).Ends v (fun _ => S) S := fun a v h =>
    ends_of_after (hf a v h) (fun _ _ hs => hs) fun _ hs => hs
  exact (Ends.bind first rest).after

section

variable {w : World κ} {done : β → World κ → Prop} {failed : World κ → Prop}

theorem Ends.get_bind {f : World κ → Run κ β} (h : (f w).Ends w done failed) : (get >>= f).Ends w done failed :=
  h

theorem Ends.modify_bind {f : World κ → World κ} {g : Unit → Run κ β} (h : (g ()).Ends (f w) done failed) :
    (modify f >>= g).Ends w done failed :=
  h

theorem Ends.modifyGet_bind {f : World κ → α × World κ} {g : α → Run κ β}
    (h : (g (f w).1).Ends (f w).2 done failed) : (modifyGet f >>= g).Ends w done failed :=
  h

end

theorem tryCatch_within [Lasting R] {m : Run κ α} {f : Fault → Run κ α} (hm : ∀ w, R w (m.after w))
    (hf : ∀ e w, R w ((f e).after w)) (w : World κ) : R w ((tryCatch m f).after w) := by
  have first := hm w
  cases h : m w with
  | ok a v =>
      have whole : tryCatch m f w = .ok a v := by rw [tryCatch_run, h]
      rw [after_ok whole]
      rwa [after_ok h] at first
  | error e v =>
      have whole : tryCatch m f w = f e v := by rw [tryCatch_run, h]
      rw [after_error h] at first
      have rest := hf e v
      simp only [after, whole]
      exact Lasting.trans first rest

end Run

namespace Within

variable {R : World κ → World κ → Prop}

/-- A change of the world. -/
@[always_inline, inline]
def change (f : World κ → World κ) (h : ∀ w, R w (f w)) : Within R Unit :=
  ⟨modify f, h⟩

/-- A change of the world with a result. -/
@[always_inline, inline]
def changeGet {α : Type} (f : World κ → α × World κ) (h : ∀ w, R w (f w).2) : Within R α :=
  ⟨modifyGet f, h⟩

@[always_inline]
instance [Lasting R] : Monad (Within R) where
  pure a := ⟨pure a, fun w => Lasting.refl w⟩
  bind m f := ⟨m.run >>= fun a => (f a).run, Run.bind_within m.within fun a => (f a).within⟩

@[always_inline]
instance [Lasting R] : MonadExceptOf Fault (Within R) where
  throw e := ⟨throw e, fun w => Lasting.refl w⟩
  tryCatch m f := ⟨tryCatch m.run fun e => (f e).run, Run.tryCatch_within m.within fun e => (f e).within⟩

@[always_inline]
instance : MonadLiftT (Within R) (Run κ) where
  monadLift m := m.run

/-! ## What the parts do -/

variable {α β : Type}

@[simp] theorem run_bind [Lasting R] (m : Within R α) (f : α → Within R β) :
    (m >>= f).run = m.run >>= fun a => (f a).run :=
  rfl

theorem run_forM [Lasting R] (f : α → Within R Unit) (as : List α) :
    (as.forM f).run = as.forM fun a => (f a).run := by
  induction as with
  | nil => rfl
  | cons a as ih =>
      change (f a >>= fun _ => as.forM f).run = _
      rw [run_bind, ih]
      rfl

@[simp] theorem run_tryCatch [Lasting R] (m : Within R α) (f : Fault → Within R α) :
    (tryCatch m f).run = tryCatch m.run fun e => (f e).run :=
  rfl

end Within

end Patchwork
