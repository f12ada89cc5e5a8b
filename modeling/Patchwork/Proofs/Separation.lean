import Patchwork.Proofs.Nesting

/-!
What each operation leaves alone. Those on patches leave the subscriptions, and those on subscriptions leave the
patches, but for what is called on the way.
-/

namespace Patchwork

open Run

variable {κ : Type} {R : World κ → World κ → Prop}

/-- Whether something was done to subscriptions. -/
def Deed.isRequest : Deed → Bool
  | .asked _ _ _ | .subscribed _ _ _ | .answered _ _ _ => true
  | _ => false

/-- Whether a patch was taken out after its turn. -/
def Deed.isUse : Deed → Bool
  | .used _ _ _ _ => true
  | _ => false

/-- Whether listeners were told before the host starts. -/
def Deed.isStart : Deed → Bool
  | .started _ _ _ | .told _ _ _ | .announced _ _ => true
  | _ => false

/-- Between two worlds only deeds of some kind were done. -/
def DoneBetween (kind : Deed → Prop) (w w' : World κ) : Prop :=
  ∃ new, w'.history = new ++ w.history ∧ ∀ d ∈ new, kind d

namespace DoneBetween

variable {kind kind' : Deed → Prop} {u v w : World κ}

theorem of_same (h : v.history = w.history) : DoneBetween kind w v :=
  ⟨[], h, fun _ hd => absurd hd List.not_mem_nil⟩

theorem noted (h : DoneBetween kind v w) {d : Deed} (hd : kind d) : DoneBetween kind v (w.noted d) := by
  obtain ⟨new, extended, kinds⟩ := h
  refine ⟨d :: new, by rw [World.noted_history, extended, List.cons_append], fun e he => ?_⟩
  rcases List.mem_cons.mp he with rfl | he
  · exact hd
  · exact kinds e he

theorem single (w : World κ) {d : Deed} (hd : kind d) : DoneBetween kind w (w.noted d) :=
  (of_same rfl).noted hd

theorem mono (h : DoneBetween kind v w) (imp : ∀ d, kind d → kind' d) : DoneBetween kind' v w := by
  obtain ⟨new, extended, kinds⟩ := h
  exact ⟨new, extended, fun d hd => imp d (kinds d hd)⟩

theorem trans (first : DoneBetween kind u v) (second : DoneBetween kind v w) : DoneBetween kind u w := by
  obtain ⟨new, extended, kinds⟩ := first
  obtain ⟨new', extended', kinds'⟩ := second
  refine ⟨new' ++ new, by rw [extended', extended, List.append_assoc], fun d hd => ?_⟩
  exact (List.mem_append.mp hd).elim (kinds' d) (kinds d)

theorem longer (h : DoneBetween kind v w) : v.history.length ≤ w.history.length := by
  obtain ⟨new, extended, _⟩ := h
  rw [extended, List.length_append]
  exact Nat.le_add_left _ _

theorem mem (h : DoneBetween kind v w) {d : Deed} (hd : d ∈ w.history) : kind d ∨ d ∈ v.history := by
  obtain ⟨new, extended, kinds⟩ := h
  exact (List.mem_append.mp (extended ▸ hd)).imp_left (kinds d)

end DoneBetween

/-- The subscriptions are the same in both worlds, and between them something was done to patches at most. -/
structure BesideSubscriptions (w w' : World κ) : Prop where
  subscriptions : ∀ n, (w'.registry n).subscriptions = (w.registry n).subscriptions
  history : DoneBetween (fun d => d.isRequest = false) w w'
  size : w'.registries.size = w.registries.size

/-- The patches are the same in both worlds, and between them something was done to subscriptions at most. -/
structure BesidePatches (w w' : World κ) : Prop where
  patches : ∀ n, (w'.registry n).patches = (w.registry n).patches
  history : DoneBetween (fun d => d.isRequest = true) w w'

theorem Beside.subscriptions_kept {w w' : World κ} (h : Beside w w') : BesideSubscriptions w w' :=
  ⟨h.subscriptions, .of_same h.history, h.size⟩

theorem Beside.patches_kept {w w' : World κ} (h : Beside w w') : BesidePatches w w' :=
  ⟨h.patches, .of_same h.history⟩

theorem BesideSubscriptions.noted (w : World κ) {d : Deed} (hd : d.isRequest = false) :
    BesideSubscriptions w (w.noted d) :=
  ⟨fun _ => rfl, .single w hd, rfl⟩

theorem BesidePatches.noted (w : World κ) {d : Deed} (hd : d.isRequest = true) :
    BesidePatches w (w.noted d) :=
  ⟨fun _ => rfl, .single w hd⟩

theorem BesideSubscriptions.modified (w : World κ) (n : Nat) {f : Registry → Registry} {d : Deed}
    (hf : ∀ r, (f r).subscriptions = r.subscriptions) (hd : d.isRequest = false) :
    BesideSubscriptions w ((w.modifyRegistry n f).noted d) := by
  refine ⟨fun m => ?_, (DoneBetween.of_same rfl).noted hd, w.modifyRegistry_size n f⟩
  rcases w.modifyRegistry_registry n m f with h | ⟨_, h⟩
  · rw [World.noted_registry, h]
  · rw [World.noted_registry, h, hf]

theorem modifyRegistry_patches (w : World κ) (n m : Nat) {f : Registry → Registry}
    (hf : ∀ r, (f r).patches = r.patches) : ((w.modifyRegistry n f).registry m).patches = (w.registry m).patches := by
  rcases w.modifyRegistry_registry n m f with h | ⟨_, h⟩
  · rw [h]
  · rw [h, hf]

/-! ## Computations with calls -/

section

variable [Lasting R] {α : Type}

theorem handle_within {m : Run κ α} {f : Cause → Run κ α} (hm : ∀ w, R w (m.after w))
    (hf : ∀ c w, R w ((f c).after w)) : ∀ w, R w ((handle m f).after w) := by
  refine tryCatch_within hm fun e => ?_
  split
  · next c =>
      split
      · exact fun w => Lasting.refl w
      · exact hf c
  · exact fun w => Lasting.refl w

theorem forM_within {f : α → Run κ Unit} :
    (as : List α) → (∀ a ∈ as, ∀ w, R w ((f a).after w)) → ∀ w, R w ((as.forM f).after w)
  | [], _ => fun w => Lasting.refl w
  | a :: as, hf => bind_within (hf a List.mem_cons_self) fun _ =>
      forM_within as fun b hb => hf b (List.mem_cons_of_mem _ hb)

end

theorem Reaches.keeps [Lasting R] {call : Caller κ} {u w : World κ}
    (hb : ∀ {u v}, Beside u v → R u v) (hc : call.Keeps R) (h : Reaches call u w) : R u w := by
  have : Moves R := { beside := hb }
  have : Calls call R := { called := hc }
  exact h.within

/-! ## Operations on patches -/

def Deed.registry : Deed → Nat
  | .registered n | .began n | .tried n _ _ | .used n _ _ _ | .moved n _ _ | .ended n _ _
  | .asked n _ _ | .subscribed n _ _ | .answered n _ _ | .started n _ _ | .told n _ _ | .announced n _ => n

section

variable [Lasting R] {call : Caller κ} {n : Nat} (hb : ∀ {u v}, Beside u v → R u v) (hc : call.Keeps R)
  (noted : ∀ d : Deed, d.registry = n → d.isRequest = false → d.isStart = false → d.isUse = false →
    ∀ w, R w (w.noted d))
  (used : ∀ run o i w, R w ((w.withoutPatch n i).noted (.used n run o (w.numbers n)[i]?)))
include noted used

theorem endTurn_within (run i : Nat) (o : Occurrence) (contributed : Bool) :
    ∀ w, R w ((endTurn n run i o contributed : Run κ Nat).after w) := by
  have moved : ∀ j w, R w ((noteMove n run o.number j >>= fun _ => pure j : Run κ Nat).after w) := fun j =>
    bind_within (fun w => noted _ rfl rfl rfl rfl w) fun _ w => Lasting.refl w
  refine bind_within (noted _ rfl rfl rfl rfl) fun _ => ?_
  split
  · refine bind_within (used run o.number i) fun found => ?_
    split
    · exact moved i
    · exact fun w => Lasting.refl w
  · exact moved (i + 1)

include hb hc

theorem takeTurn_within (s : Setup) (run i : Nat) (o : Occurrence) (p : Progress) :
    ∀ w, R w ((takeTurn call s n run i o p).after w) :=
  bind_within (fun w => ((tryPatch call s o.patch p : Calling call _).within w).keeps hb hc)
    fun _ => bind_within (endTurn_within noted used run i o _) fun _ w => Lasting.refl w

theorem tryPatches_within (s : Setup) (run : Nat) :
    (fuel i : Nat) → (p : Progress) → ∀ w, R w ((tryPatches call s n run fuel i p).after w)
  | 0, _, _ => fun w => Lasting.refl w
  | fuel + 1, i, p => by
      refine bind_within (fun w => Lasting.refl w) fun w₀ => ?_
      split
      · exact bind_within (fun w => noted _ rfl rfl rfl rfl w) fun _ w => Lasting.refl w
      · exact bind_within (takeTurn_within hb hc noted used s run i _ p) fun next =>
          tryPatches_within s run fuel next.1 next.2

/-- A run keeps what its single changes keep. -/
theorem runPatches_within (s : Setup) (p : Progress) : ∀ w, R w ((runPatches call s n p).after w) :=
  bind_within (fun w => Lasting.refl w) fun _ =>
    bind_within (noted _ rfl rfl rfl rfl) fun run => tryPatches_within hb hc noted used s run _ 0 p

end

section

variable [Lasting R] {call : Caller κ} (hb : ∀ {u v}, BesideSubscriptions u v → R u v)
include hb

theorem registerPatch_keeps (n : Nat) (p : Patch) : ∀ w, R w ((registerPatch n p : Run κ Unit).after w) :=
  bind_within (fun w => hb (.modified w n (fun _ => rfl) rfl))
    fun _ w => hb (Quiet.beside ((reportRegistered p : Quietly κ Unit).within w)).subscriptions_kept

omit [Lasting R] in
theorem withoutPatch_keeps (n i : Nat) (w : World κ) : R w (w.withoutPatch n i) :=
  hb ⟨fun m => by
    rcases w.modifyRegistry_registry n m _ with h | ⟨_, h⟩
    · rw [World.withoutPatch, h]
    · rw [World.withoutPatch, h], .of_same rfl, w.modifyRegistry_size n _⟩

theorem runPatches_keeps (hc : call.Keeps R) (s : Setup) (n : Nat) (p : Progress) :
    ∀ w, R w ((runPatches call s n p).after w) :=
  runPatches_within (fun h => hb h.subscriptions_kept) hc (fun _ _ hd _ _ w => hb (.noted w hd))
    (fun _ _ i w => Lasting.trans (withoutPatch_keeps hb n i w) (hb (.noted _ rfl))) s p

end

/-! ## Operations on subscriptions -/

theorem reportSubscription_beside (filter : Value) (c : Cause) (w : World κ) :
    Beside w ((reportSubscription filter c : Quietly κ Unit).run.after w) :=
  ((reportSubscription filter c : Quietly κ Unit).within w).beside

theorem answer_none {w : World κ} {n : Nat} {filter : Value} (request : Nat)
    (h : Value.lookup? (w.registry n).subscriptions filter = none) : answer n filter request w = .ok false w := by
  simp only [answer, modifyGet_run, h]

theorem answer_some {w : World κ} {n : Nat} {filter : Value} {s : Subscription} (request : Nat)
    (h : Value.lookup? (w.registry n).subscriptions filter = some s) :
    answer n filter request w =
      .ok true ((w.unsubscribed n filter).noted (.answered n request (some s.request))) := by
  simp only [answer, modifyGet_run, h]

theorem BesidePatches.modified (w : World κ) (n : Nat) {f : Registry → Registry}
    (hf : ∀ r, (f r).patches = r.patches) : BesidePatches w (w.modifyRegistry n f) :=
  ⟨fun m => modifyRegistry_patches w n m hf, .of_same rfl⟩

section

variable [Lasting R] {call : Caller κ} (hb : ∀ {u v}, Beside u v → R u v) (hc : call.Keeps R)
include hb hc

theorem fireEntry_within {n : Nat} {e : Value × Subscription} (candidates : List Value) (id : Value)
    (ha : ∀ w, R w ((answer n e.1 e.2.request : Run κ Bool).after w)) :
    ∀ w, R w ((fireEntry call n candidates id e).after w) := by
  refine bind_within (fun w => Lasting.refl w) fun v => ?_
  split
  · refine handle_within ?_ fun c w => hb (reportSubscription_beside _ c w)
    refine bind_within (fun w => ((firstAccepted call e.1 candidates : Calling call _).within w).keeps hb hc)
      fun found => ?_
    split
    · exact fun w => Lasting.refl w
    · refine bind_within ha fun there => ?_
      split
      · exact bind_within (fun w => hc _ _ w) fun _ w => Lasting.refl w
      · exact fun w => Lasting.refl w
  · exact fun w => Lasting.refl w

/-- A pass keeps what it keeps to end one of the subscriptions that it began with. -/
theorem firePass_within {n : Nat} (candidates : List Value) (id : Value) (w : World κ)
    (ha : ∀ e ∈ (w.registry n).subscriptions, ∀ v, R v ((answer n e.1 e.2.request : Run κ Bool).after v)) :
    R w ((firePass call n candidates id).after w) :=
  forM_within _ (fun e he => fireEntry_within hb hc candidates id (ha e he)) w

/-- A request keeps what its single changes keep. -/
theorem waitFor_within {n : Nat} (filter callback : Value)
    (asked : ∀ w : World κ, R w (w.noted (.asked n filter callback)))
    (answered : ∀ request (w : World κ), R w (w.noted (.answered n request none)))
    (subscribed : ∀ s w, R w ((subscribe n filter s : Run κ Unit).after w)) :
    ∀ w, R w ((waitFor call n filter callback).after w) := by
  refine bind_within asked fun request => ?_
  refine bind_within (fun w => ((searchExports call n filter : Calling call _).within w).keeps hb hc)
    fun found => ?_
  split
  · refine bind_within (answered request) fun _ => ?_
    refine handle_within (bind_within (fun w => hc _ _ w) fun _ w => Lasting.refl w) fun c w => ?_
    exact hb (reportSubscription_beside _ c w)
  · refine bind_within (fun w => ?_) fun _ => subscribed _
    exact hb ((checkKey filter : Quietly κ Unit).within w).beside

end

section

variable [Lasting R] {call : Caller κ} (hb : ∀ {u v}, BesidePatches u v → R u v)
include hb

theorem answer_keeps (n : Nat) (filter : Value) (request : Nat) :
    ∀ w, R w ((answer n filter request : Run κ Bool).after w) := by
  intro w
  cases found : Value.lookup? (w.registry n).subscriptions filter with
  | none =>
      rw [after_ok (answer_none request found)]
      exact Lasting.refl w
  | some s =>
      rw [after_ok (answer_some request found)]
      refine Lasting.trans (hb (.modified w n ?_)) (hb (.noted _ rfl))
      exact fun _ => rfl

variable (hc : call.Keeps R)
include hc

theorem fireSubscriptions_keeps (n : Nat) (exports id : Value) :
    ∀ w, R w ((fireSubscriptions call n exports id).after w) :=
  bind_within (fun w => ((exportsOf call exports : Calling call _).within w).keeps
    (fun h => hb h.patches_kept) hc) fun e w =>
      firePass_within (fun h => hb h.patches_kept) hc e.candidates id w fun _ _ =>
        answer_keeps hb n _ _

theorem waitFor_keeps (n : Nat) (filter callback : Value) :
    ∀ w, R w ((waitFor call n filter callback).after w) :=
  waitFor_within (fun h => hb h.patches_kept) hc filter callback (fun w => hb (.noted w rfl))
    (fun _ w => hb (.noted w rfl)) fun s w => by
      have changed : R w (w.subscribed n filter s) := hb (.modified w n fun _ => rfl)
      exact Lasting.trans changed (hb (.noted _ rfl))

end

/-! ## The start of the host -/

theorem tellListener_within [Lasting R] {call : Caller κ} (hb : ∀ {u v}, Beside u v → R u v) (hc : call.Keeps R)
    (what : String) (args : List Value) (listener : Value) :
    ∀ w, R w ((tellListener call what args listener : Calling call Unit).run.after w) := fun w =>
  ((tellListener call what args listener : Calling call Unit).within w).keeps hb hc

/-- Telling listeners before the host starts keeps what the notes of it keep. -/
theorem runBeforeInit_within [Lasting R] {call : Caller κ} {n : Nat} (hb : ∀ {u v}, Beside u v → R u v)
    (hc : call.Keeps R) (noted : ∀ d : Deed, d.registry = n → d.isStart = true → ∀ w, R w (w.noted d))
    (runtime : Value) :
    ∀ w, R w ((runBeforeInit call n runtime).after w) := by
  refine bind_within (fun w => noted _ rfl rfl w) fun listeners => ?_
  refine bind_within (forM_within listeners fun l _ => ?_) fun _ w => noted _ rfl rfl w
  exact bind_within (fun w => noted _ rfl rfl w) fun _ => tellListener_within hb hc _ _ _

theorem Deed.isRequest_of_start {d : Deed} (h : d.isStart = true) : d.isRequest = false := by
  cases d with
  | started => rfl
  | told => rfl
  | announced => rfl
  | _ => cases h

theorem runBeforeInit_keeps [Lasting R] {call : Caller κ} (hb : ∀ {u v}, BesideSubscriptions u v → R u v)
    (hc : call.Keeps R) (n : Nat) (runtime : Value) : ∀ w, R w ((runBeforeInit call n runtime).after w) :=
  runBeforeInit_within (fun h => hb h.subscriptions_kept) hc
    (fun _ _ hd w => hb (.noted w (Deed.isRequest_of_start hd))) runtime

end Patchwork
