import Patchwork.Proofs.Answers
import Patchwork.Proofs.KeyForms

/-!
Whether the callback of a request for an export is ever called. A request that began to wait waits until its callback
is called or another request takes its place.
-/

namespace Patchwork

open Run

variable {κ : Type} {n : Nat}

/-- The request that began to wait. -/
def Deed.enrolled? (n : Nat) : Deed → Option Nat
  | .subscribed m request _ => if m = n then some request else none
  | _ => none

/-- The request whose subscription was over for the sake of another request. -/
def Deed.replaced? (n : Nat) : Deed → Option Nat
  | .subscribed m _ displaced => if m = n then displaced else none
  | .answered m request (some other) => if m = n ∧ other ≠ request then some other else none
  | _ => none

/-- The requests that began to wait, the latest first. -/
def enrolled (n : Nat) (deeds : List Deed) : List Nat :=
  deeds.filterMap (Deed.enrolled? n)

/-- The requests whose subscriptions were over for the sake of others, the latest first. -/
def replaced (n : Nat) (deeds : List Deed) : List Nat :=
  deeds.filterMap (Deed.replaced? n)

/-- A request was made with a filter and a callback. -/
def World.Asked (w : World κ) (n request : Nat) (filter callback : Value) : Prop :=
  w.history.reverse[request]? = some (.asked n filter callback)

instance (w : World κ) (n request : Nat) (filter callback : Value) : Decidable (w.Asked n request filter callback) :=
  inferInstanceAs (Decidable (_ = _))

/-- The callback of a request waits under its filter, or under one that is equal to it as a key. -/
def World.Waits (w : World κ) (n request : Nat) (filter callback : Value) : Prop :=
  ∃ e ∈ (w.registry n).subscriptions, Value.sameKey e.1 filter = true ∧ e.2 = ⟨callback, request⟩

/-! ## What always holds -/

/-- Each request that began to wait is accounted for: it waits with its own callback, or its callback was called, or
another request took its place. -/
structure Accounted (n : Nat) (w : World κ) : Prop where
  here : n < w.registries.size
  apart : Value.Apart (w.registry n).subscriptions
  asked : ∀ e ∈ (w.registry n).subscriptions,
    ∃ filter, w.Asked n e.2.request filter e.2.callback ∧ Value.sameKey e.1 filter = true
  entered : ∀ e ∈ (w.registry n).subscriptions, e.2.request ∈ enrolled n w.history
  made : ∀ request ∈ enrolled n w.history, request < w.history.length
  found : ∀ request ∈ enrolled n w.history, request ∈ answers n w.history ∨
    request ∈ replaced n w.history ∨ ∃ e ∈ (w.registry n).subscriptions, e.2.request = request
  known : ∀ request ∈ replaced n w.history, request ∈ enrolled n w.history
  gone : ∀ request ∈ replaced n w.history, ∀ e ∈ (w.registry n).subscriptions, e.2.request ≠ request

theorem World.Asked.unique {w : World κ} {request : Nat} {filter callback filter' callback' : Value}
    (h : w.Asked n request filter callback) (h' : w.Asked n request filter' callback') :
    filter = filter' ∧ callback = callback' := by
  have same := h.symm.trans h'
  simpa using same

theorem World.Asked.lt {w : World κ} {request : Nat} {filter callback : Value}
    (h : w.Asked n request filter callback) : request < w.history.length := by
  obtain ⟨bound, _⟩ := List.getElem?_eq_some_iff.mp h
  rwa [List.length_reverse] at bound

/-- What was asked before stays asked. -/
theorem World.Asked.later {w w' : World κ} {request : Nat} {filter callback : Value}
    (h : w.Asked n request filter callback) (kept : w.history <:+ w'.history) : w'.Asked n request filter callback := by
  obtain ⟨new, extended⟩ := kept
  rw [World.Asked, ← extended, List.reverse_append, List.getElem?_append_left]
  · exact h
  · rw [List.length_reverse]
    exact h.lt

namespace Accounted

variable {w : World κ} {e f : Value × Subscription}

/-- No request waits twice. -/
theorem unique (hw : Accounted n w) (he : e ∈ (w.registry n).subscriptions) (hf : f ∈ (w.registry n).subscriptions)
    (same : e.2.request = f.2.request) : e = f := by
  obtain ⟨filter, asked, key⟩ := hw.asked e he
  obtain ⟨filter', asked', key'⟩ := hw.asked f hf
  obtain ⟨rfl, _⟩ := asked.unique (same ▸ asked')
  exact hw.apart.unique he hf (Value.sameKey_trans key (Value.sameKey_symm key'))

theorem waits {request : Nat} {filter callback : Value} (hw : Accounted n w)
    (asked : w.Asked n request filter callback) (he : e ∈ (w.registry n).subscriptions) (is : e.2.request = request) :
    w.Waits n request filter callback := by
  obtain ⟨filter', asked', key⟩ := hw.asked e he
  obtain ⟨rfl, same⟩ := asked.unique (is ▸ asked')
  refine ⟨e, he, key, ?_⟩
  rw [same, ← is]

end Accounted

/-- What was done stays done, and requests that begin to wait are new or did so before. -/
structure Since (n : Nat) (w w' : World κ) : Prop where
  kept : w.history <:+ w'.history
  enrolled : ∀ request ∈ enrolled n w'.history, request ∈ enrolled n w.history ∨ w.history.length ≤ request

theorem Since.refl (w : World κ) : Since n w w :=
  ⟨List.suffix_refl _, fun _ => .inl⟩

theorem Since.trans {u v w : World κ} (first : Since n u v) (second : Since n v w) : Since n u w := by
  refine ⟨first.kept.trans second.kept, fun request h => ?_⟩
  rcases second.enrolled request h with before | late
  · exact first.enrolled request before
  · exact .inr (Nat.le_trans first.kept.length_le late)

/-- No registry came or went. -/
def SameSize (w w' : World κ) : Prop :=
  w'.registries.size = w.registries.size

instance : Lasting (SameSize (κ := κ)) where
  refl _ := rfl
  trans first second := Eq.trans second first

/-- Registries stay, and worlds in which requests are accounted for go over into such worlds. -/
def Accounts (n : Nat) (w w' : World κ) : Prop :=
  SameSize w w' ∧ (Accounted n w → Accounted n w' ∧ Since n w w')

instance : Lasting (Accounts (κ := κ) n) where
  refl w := ⟨rfl, fun h => ⟨h, .refl w⟩⟩
  trans first second := by
    refine ⟨second.1.trans first.1, fun h => ?_⟩
    obtain ⟨between, since⟩ := first.2 h
    obtain ⟨after, since'⟩ := second.2 between
    exact ⟨after, since.trans since'⟩

/-! ## Changes elsewhere -/

/-- Nothing was done to the requests of a registry but that some were made. -/
def Deed.Spares (n : Nat) (d : Deed) : Prop :=
  d.enrolled? n = none ∧ d.replaced? n = none ∧ d.isAnswer n = false

theorem Deed.Spares.of_patch {d : Deed} (h : d.isRequest = false) : d.Spares n := by
  cases d <;> simp_all [isRequest, Spares, enrolled?, replaced?, isAnswer]

theorem Deed.Spares.of_registry {d : Deed} (h : d.registry ≠ n) : d.Spares n := by
  cases d with
  | answered m request other => cases other <;> simp_all [registry, Spares, enrolled?, replaced?, isAnswer]
  | _ => simp_all [registry, Spares, enrolled?, replaced?, isAnswer]

theorem Deed.Spares.asked (m : Nat) (filter callback : Value) : Deed.Spares n (.asked m filter callback) :=
  ⟨rfl, rfl, rfl⟩

/-- The subscriptions of a registry are the same in both worlds, and its requests were spared. -/
structure Aside (n : Nat) (w w' : World κ) : Prop where
  subscriptions : (w'.registry n).subscriptions = (w.registry n).subscriptions
  history : DoneBetween (Deed.Spares n) w w'
  size : w'.registries.size = w.registries.size

theorem BesideSubscriptions.aside {w w' : World κ} (h : BesideSubscriptions w w') : Aside n w w' :=
  ⟨h.subscriptions n, h.history.mono fun _ => .of_patch, h.size⟩

theorem Aside.noted (w : World κ) {d : Deed} (hd : d.Spares n) : Aside n w (w.noted d) :=
  ⟨rfl, .single w hd, rfl⟩

theorem Aside.modified (w : World κ) {m : Nat} (f : Registry → Registry) (other : m ≠ n) {d : Deed}
    (hd : d.Spares n) : Aside n w ((w.modifyRegistry m f).noted d) :=
  ⟨by rw [World.noted_registry, w.modifyRegistry_other f other], (DoneBetween.of_same rfl).noted hd,
    w.modifyRegistry_size m f⟩

theorem Aside.accounts {w w' : World κ} (h : Aside n w w') : Accounts n w w' := by
  refine ⟨h.size, fun hw => ?_⟩
  obtain ⟨new, extended, spares⟩ := h.history
  have none : enrolled n new = [] := List.filterMap_eq_nil_iff.mpr fun d hd => (spares d hd).1
  have none' : replaced n new = [] := List.filterMap_eq_nil_iff.mpr fun d hd => (spares d hd).2.1
  have same : enrolled n w'.history = enrolled n w.history := by
    rw [extended, enrolled, List.filterMap_append, ← enrolled, none, List.nil_append]
    rfl
  have same' : replaced n w'.history = replaced n w.history := by
    rw [extended, replaced, List.filterMap_append, ← replaced, none', List.nil_append]
    rfl
  have answered : answers n w'.history = answers n w.history := by
    rw [extended, answers_of_others fun d hd => (spares d hd).2.2]
  have kept : w.history <:+ w'.history := ⟨new, extended.symm⟩
  refine ⟨⟨h.size ▸ hw.here, ?_, ?_, ?_, ?_, ?_, ?_, ?_⟩, kept, fun request hr => .inl (same ▸ hr)⟩
  · rw [h.subscriptions]
    exact hw.apart
  · rw [h.subscriptions]
    exact fun e he => (hw.asked e he).imp fun filter asked => ⟨asked.1.later kept, asked.2⟩
  · rw [h.subscriptions, same]
    exact hw.entered
  · rw [same]
    exact fun request hr => Nat.lt_of_lt_of_le (hw.made request hr) h.history.longer
  · rw [h.subscriptions, same, same', answered]
    exact hw.found
  · rw [same, same']
    exact hw.known
  · rw [h.subscriptions, same']
    exact hw.gone

theorem Beside.accounts {w w' : World κ} (h : Beside w w') : Accounts n w w' :=
  h.subscriptions_kept.aside.accounts

instance : Moves (Accounts (κ := κ) n) where
  beside := Beside.accounts

/-! ## Single changes -/

theorem replaced_answered (request other : Nat) (before : List Deed) {r : Nat} :
    r ∈ replaced n (.answered n request (some other) :: before) ↔
      other ≠ request ∧ r = other ∨ r ∈ replaced n before := by
  by_cases own : other = request <;> simp [replaced, Deed.replaced?, own]

theorem enrolled_subscribed (request : Nat) (displaced : Option Nat) (before : List Deed) :
    enrolled n (.subscribed n request displaced :: before) = request :: enrolled n before := by
  simp [enrolled, Deed.enrolled?]

theorem replaced_subscribed (request : Nat) (displaced : Option Nat) (before : List Deed) {r : Nat} :
    r ∈ replaced n (.subscribed n request displaced :: before) ↔ displaced = some r ∨ r ∈ replaced n before := by
  cases displaced <;> simp [replaced, Deed.replaced?, eq_comm]

theorem answers_answered (request : Nat) (ended : Option Nat) (before : List Deed) :
    answers n (.answered n request ended :: before) = request :: answers n before := by
  rw [answers, if_pos rfl]

theorem Accounted.answered_at_once {w : World κ} (request : Nat) (hw : Accounted n w) :
    Accounted n (w.noted (.answered n request none)) where
  here := hw.here
  apart := hw.apart
  asked e he := (hw.asked e he).imp fun _ asked => ⟨asked.1.later (List.suffix_cons _ _), asked.2⟩
  entered := hw.entered
  made r hr := Nat.lt_succ_of_lt (hw.made r hr)
  found r hr := by
    rw [World.noted_history, answers_answered]
    exact (hw.found r hr).imp_left (List.mem_cons_of_mem _)
  known := hw.known
  gone := hw.gone

/-- The request whose subscription ended has been answered or replaced, whoever ended it. -/
theorem Accounted.answered {w : World κ} {filter : Value} {s : Subscription} (request : Nat) (hw : Accounted n w)
    (found : Value.lookup? (w.registry n).subscriptions filter = some s) :
    Accounted n ((w.unsubscribed n filter).noted (.answered n request (some s.request))) := by
  obtain ⟨key, there, same⟩ := Value.lookup?_entry found
  have left : ∀ e ∈ ((w.unsubscribed n filter).registry n).subscriptions, e.2.request ≠ s.request := by
    intro e he is
    obtain ⟨old, other⟩ := mem_unsubscribed.mp he
    rw [hw.unique old there is, same] at other
    cases other
  constructor
  case here => exact (w.modifyRegistry_size n _).symm ▸ hw.here
  case apart =>
    rw [World.noted_registry, World.unsubscribed, World.modifyRegistry_self w n rfl]
    exact hw.apart.erase filter
  case asked =>
    intro e he
    obtain ⟨own, asked, key⟩ := hw.asked e (mem_unsubscribed.mp he).1
    exact ⟨own, asked.later (List.suffix_cons _ _), key⟩
  case entered => exact fun e he => hw.entered e (mem_unsubscribed.mp he).1
  case made => exact fun r hr => Nat.lt_succ_of_lt (hw.made r hr)
  case found =>
    intro r hr
    rw [World.noted_history, answers_answered, replaced_answered]
    rcases hw.found r hr with answered | replaced | ⟨e, he, rfl⟩
    · exact .inl (List.mem_cons_of_mem _ answered)
    · exact .inr (.inl (.inr replaced))
    · cases other : Value.sameKey e.1 filter with
      | false => exact .inr (.inr ⟨e, mem_unsubscribed.mpr ⟨he, other⟩, rfl⟩)
      | true =>
          have is : e.2 = s := Option.some.inj ((hw.apart.lookup? he other).symm.trans found)
          rw [is]
          by_cases own : s.request = request
          · exact .inl (own ▸ List.mem_cons_self)
          · exact .inr (.inl (.inl ⟨own, rfl⟩))
  case known =>
    intro r hr
    rw [World.noted_history, replaced_answered] at hr
    rcases hr with ⟨_, rfl⟩ | hr
    · exact hw.entered _ there
    · exact hw.known r hr
  case gone =>
    intro r hr e he
    rw [World.noted_history, replaced_answered] at hr
    rcases hr with ⟨_, rfl⟩ | hr
    · exact left e he
    · exact hw.gone r hr e (mem_unsubscribed.mp he).1

theorem answer_accounts (m : Nat) (filter : Value) (request : Nat) (w : World κ) :
    Accounts n w ((answer m filter request : Run κ Bool).after w) := by
  cases found : Value.lookup? (w.registry m).subscriptions filter with
  | none =>
      rw [after_ok (answer_none request found)]
      exact Lasting.refl w
  | some s =>
      rw [after_ok (answer_some request found)]
      by_cases same : m = n
      · subst same
        have since : Since m w ((w.unsubscribed m filter).noted (.answered m request (some s.request))) :=
          ⟨List.suffix_cons _ _, fun _ hr => .inl hr⟩
        exact ⟨w.modifyRegistry_size m _, fun hw => ⟨hw.answered request found, since⟩⟩
      · exact (Aside.modified w _ same (.of_registry (d := .answered m request _) same)).accounts

/-! ## The beginning of a subscription -/

theorem subscribe_history (w : World κ) (filter : Value) (s : Subscription) :
    ((subscribe n filter s : Run κ Unit).after w).history =
      .subscribed n s.request ((Value.lookup? (w.registry n).subscriptions filter).map (·.request)) :: w.history :=
  rfl

theorem subscribe_subscriptions {w : World κ} (here : n < w.registries.size) (filter : Value) (s : Subscription) :
    (((subscribe n filter s : Run κ Unit).after w).registry n).subscriptions =
      Value.insert (w.registry n).subscriptions filter s :=
  congrArg Registry.subscriptions (w.modifyRegistry_here _ here)

/-- The request whose place is taken waited under an equal filter. -/
theorem displaced_waited {w : World κ} {filter : Value} {r : Nat}
    (h : (Value.lookup? (w.registry n).subscriptions filter).map (·.request) = some r) :
    ∃ e ∈ (w.registry n).subscriptions, e.2.request = r ∧ Value.sameKey e.1 filter = true := by
  obtain ⟨s, found, rfl⟩ := Option.map_eq_some_iff.mp h
  obtain ⟨key, there, same⟩ := Value.lookup?_entry found
  exact ⟨_, there, rfl, same⟩

namespace Accounted

variable {w : World κ} {filter : Value} {s : Subscription} {e : Value × Subscription}

/-- What waits when a subscription has begun. -/
theorem mem_subscribe (hw : Accounted n w)
    (he : e ∈ (((subscribe n filter s : Run κ Unit).after w).registry n).subscriptions) :
    e.2 = s ∧ Value.sameKey e.1 filter = true ∨
      e ∈ (w.registry n).subscriptions ∧ Value.sameKey e.1 filter = false := by
  rw [subscribe_subscriptions hw.here] at he
  exact Value.mem_insert_apart hw.apart he

end Accounted

/-- A request that was made after `start` and has not begun to wait. -/
structure Unlisted (n : Nat) (start : World κ) (request : Nat) (filter callback : Value) (w : World κ) : Prop where
  accounted : Accounted n w
  since : Since n start w
  asked : w.Asked n request filter callback
  new : start.history.length ≤ request
  unlisted : request ∉ enrolled n w.history

namespace Unlisted

variable {start w w' : World κ} {request : Nat} {filter callback : Value}

theorem later (h : Accounts n w w') (unlisted : Unlisted n start request filter callback w) :
    Unlisted n start request filter callback w' := by
  obtain ⟨hw, since⟩ := h.2 unlisted.accounted
  refine ⟨hw, unlisted.since.trans since, unlisted.asked.later since.kept, unlisted.new, fun waits => ?_⟩
  rcases since.enrolled request waits with before | late
  · exact unlisted.unlisted before
  · exact Nat.lt_irrefl _ (Nat.lt_of_lt_of_le unlisted.asked.lt late)

/-- A request begins to wait, and one whose place it takes is replaced. -/
theorem accounted_subscribe (unlisted : Unlisted n start request filter callback w) :
    Accounted n ((subscribe n filter ⟨callback, request⟩ : Run κ Unit).after w) := by
  have hw := unlisted.accounted
  have never : request ∉ replaced n w.history := fun h => unlisted.unlisted (hw.known request h)
  constructor
  case here => exact (w.modifyRegistry_size n _).symm ▸ hw.here
  case apart =>
    rw [subscribe_subscriptions hw.here]
    exact hw.apart.insert filter _
  case asked =>
    intro e he
    rcases hw.mem_subscribe he with ⟨is, key⟩ | ⟨old, _⟩
    · rw [is]
      exact ⟨filter, unlisted.asked.later (List.suffix_cons _ _), key⟩
    · exact (hw.asked e old).imp fun _ asked => ⟨asked.1.later (List.suffix_cons _ _), asked.2⟩
  case entered =>
    intro e he
    rw [subscribe_history, enrolled_subscribed]
    rcases hw.mem_subscribe he with ⟨is, _⟩ | ⟨old, _⟩
    · rw [is]
      exact List.mem_cons_self
    · exact List.mem_cons_of_mem _ (hw.entered e old)
  case made =>
    rw [subscribe_history, enrolled_subscribed]
    intro r hr
    rcases List.mem_cons.mp hr with rfl | hr
    · exact Nat.lt_succ_of_lt unlisted.asked.lt
    · exact Nat.lt_succ_of_lt (hw.made r hr)
  case found =>
    rw [subscribe_subscriptions hw.here, subscribe_history, enrolled_subscribed]
    intro r hr
    rw [replaced_subscribed]
    rcases List.mem_cons.mp hr with rfl | hr
    · have there : Value.lookup? (Value.insert (w.registry n).subscriptions filter ⟨callback, r⟩) filter =
        some ⟨callback, r⟩ := Value.lookup?_insert_self
      obtain ⟨key, there⟩ := Value.lookup?_mem there
      exact .inr (.inr ⟨_, there, rfl⟩)
    · rcases hw.found r hr with answered | replaced | ⟨e, he, rfl⟩
      · exact .inl answered
      · exact .inr (.inl (.inr replaced))
      · cases other : Value.sameKey e.1 filter with
        | false => exact .inr (.inr ⟨e, Value.mem_insert_of_other he other, rfl⟩)
        | true =>
            rw [hw.apart.lookup? he other]
            exact .inr (.inl (.inl rfl))
  case known =>
    rw [subscribe_history, enrolled_subscribed]
    intro r hr
    rw [replaced_subscribed] at hr
    refine List.mem_cons_of_mem _ ?_
    rcases hr with displaced | hr
    · obtain ⟨e, he, rfl, _⟩ := displaced_waited displaced
      exact hw.entered e he
    · exact hw.known r hr
  case gone =>
    intro r hr e he is
    rw [subscribe_history, replaced_subscribed] at hr
    rcases hw.mem_subscribe he with ⟨new, _⟩ | ⟨old, other⟩
    · obtain rfl : request = r := by
        rw [new] at is
        exact is
      rcases hr with displaced | hr
      · obtain ⟨f, hf, same, _⟩ := displaced_waited displaced
        exact unlisted.unlisted (same ▸ hw.entered f hf)
      · exact never hr
    · rcases hr with displaced | hr
      · obtain ⟨f, hf, same, key⟩ := displaced_waited displaced
        rw [hw.unique old hf (is.trans same.symm), key] at other
        cases other
      · exact hw.gone r hr e old is

theorem since_subscribe (unlisted : Unlisted n start request filter callback w) :
    Since n start ((subscribe n filter ⟨callback, request⟩ : Run κ Unit).after w) := by
  refine ⟨unlisted.since.kept.trans (List.suffix_cons _ _), fun r hr => ?_⟩
  rw [subscribe_history, enrolled_subscribed] at hr
  rcases List.mem_cons.mp hr with rfl | hr
  · exact .inr unlisted.new
  · exact unlisted.since.enrolled r hr

end Unlisted

/-! ## Operations -/

theorem fireSubscriptions_accounts {call : Caller κ} (hc : call.Keeps (Accounts n)) (m : Nat) (exports id : Value) :
    ∀ w, Accounts n w ((fireSubscriptions call m exports id).after w) :=
  bind_within (fun w => ((exportsOf call exports : Calling call _).within w).keeps Beside.accounts hc) fun found w =>
    firePass_within Beside.accounts hc found.candidates id w fun e _ => answer_accounts m e.1 e.2.request

theorem answerAtOnce_accounts (request : Nat) (w : World κ) :
    Accounts n w ((answerAtOnce n request : Run κ Unit).after w) :=
  ⟨rfl, fun hw => ⟨hw.answered_at_once request, ⟨List.suffix_cons _ _, fun _ => .inl⟩⟩⟩

theorem serve_accounts {call : Caller κ} (hc : call.Keeps (Accounts n)) (filter callback : Value) {start : World κ}
    {request : Nat} (w : World κ) (unlisted : Unlisted n start request filter callback w) :
    Accounted n ((serve call n filter callback request).after w) ∧
      Since n start ((serve call n filter callback request).after w) := by
  have settled : ∀ v, Unlisted n start request filter callback v → Accounted n v ∧ Since n start v :=
    fun v h => ⟨h.accounted, h.since⟩
  have searched : ∀ v, Accounts n v ((searchExports call n filter : Calling call _).run.after v) :=
    fun v => ((searchExports call n filter : Calling call _).within v).keeps Beside.accounts hc
  have checked : ∀ v, Accounts n v ((checkKey filter : Quietly κ Unit).run.after v) :=
    fun v => ((checkKey filter : Quietly κ Unit).within v).beside.accounts
  refine bind_ensures (fun v h => h.later (searched v)) (fun found v h => ?_) settled w unlisted
  match found with
  | some (id, value) =>
      have called : ∀ u, Accounts n u ((handle (do let _ ← call callback (.of [value, id])) fun c =>
          (reportSubscription filter c : Quietly κ Unit) : Run κ Unit).after u) :=
        handle_within (bind_within (fun u => hc _ _ u) fun _ u => Lasting.refl u)
          fun c u => (reportSubscription_beside filter c u).accounts
      have served : ∀ u, Accounts n u ((do
          answerAtOnce n request
          handle (do let _ ← call callback (.of [value, id])) fun c =>
            (reportSubscription filter c : Quietly κ Unit) : Run κ Unit).after u) :=
        bind_within (answerAtOnce_accounts request) fun _ => called
      exact settled _ (h.later (served v))
  | none =>
      refine bind_ensures (fun u hu => hu.later (checked u)) (fun _ u hu => ?_) settled v h
      exact ⟨hu.accounted_subscribe, hu.since_subscribe⟩

theorem asked_unlisted {w : World κ} (hw : Accounted n w) (filter callback : Value) :
    Unlisted n w w.history.length filter callback (w.noted (.asked n filter callback)) := by
  obtain ⟨hw', since⟩ := (Aside.noted w (.asked n filter callback)).accounts.2 hw
  refine ⟨hw', since, ?_, Nat.le_refl _, fun h => ?_⟩
  · rw [World.Asked, World.noted_history, List.reverse_cons, List.getElem?_append_right (by simp)]
    simp
  · exact Nat.lt_irrefl _ (hw.made _ h)

theorem waitFor_accounts {call : Caller κ} (hc : call.Keeps (Accounts n)) (m : Nat) (filter callback : Value) :
    ∀ w, Accounts n w ((waitFor call m filter callback).after w) := by
  by_cases same : m = n
  · subst same
    have sized : ∀ w, SameSize w ((waitFor call m filter callback).after w) :=
      waitFor_within (R := SameSize) (fun h => h.size) (fun f args w => (hc f args w).1) filter callback (fun _ => rfl)
        (fun _ _ => rfl) fun _ w => w.modifyRegistry_size m _
    exact fun w => ⟨sized w, fun hw => serve_accounts hc filter callback _ (asked_unlisted hw filter callback)⟩
  · refine waitFor_within Beside.accounts hc filter callback (fun w => (Aside.noted w (.asked m _ _)).accounts)
      (fun request w => ?_) fun s w => ?_
    · exact (Aside.noted w (.of_registry (d := .answered m request _) same)).accounts
    · exact (Aside.modified w _ same (.of_registry (d := .subscribed m s.request _) same)).accounts

/-! ## Runs -/

theorem accounts_nests : Nests (Accounts (κ := κ) n) := by
  intro call hc α o
  cases o with
  | register m p => exact registerPatch_keeps (fun h => h.aside.accounts) m p
  | waitFor m filter callback => exact waitFor_accounts hc m filter callback
  | fire m exports id => exact fireSubscriptions_accounts hc m exports id
  | patch s m p => exact runPatches_keeps (fun h => h.aside.accounts) hc s m p
  | announce m runtime => exact runBeforeInit_keeps (fun h => h.aside.accounts) hc m runtime

theorem start_accounted {environment : Environment} {host : κ}
    (here : n < (World.start environment host).registries.size) : Accounted n (World.start environment host) := by
  have none : ((World.start environment host).registry n).subscriptions = [] := by
    rw [World.start_registry]
    rfl
  refine ⟨here, ?_, ?_, ?_, ?_, ?_, ?_, ?_⟩
  · rw [none]
    exact List.Pairwise.nil
  · exact fun e he => absurd (none ▸ he) List.not_mem_nil
  · exact fun e he => absurd (none ▸ he) List.not_mem_nil
  all_goals exact fun _ h => absurd h List.not_mem_nil

theorem World.Reached.accounted {outside : Surroundings κ} {w : World κ} (h : w.Reached outside)
    (here : n < w.registries.size) : Accounted n w := by
  obtain ⟨environment, host, acts⟩ := h
  obtain ⟨size, accounted⟩ := acts.nested (accounts_nests (n := n))
  exact (accounted (start_accounted (size ▸ here))).1

/-! ## The turn of a request -/

/-- A filter rejects the first candidates and accepts `x`, the next one. -/
inductive Accepts (call : Caller κ) (filter : Value) : List Value → World κ → Value → World κ → Prop where
  | here {x rest w answer u v} : call filter (.of [x]) w = .ok answer u →
      (truth call answer : Calling call Bool).run u = .ok true v → Accepts call filter (x :: rest) w x v
  | later {y rest w answer u v x z} : call filter (.of [y]) w = .ok answer u →
      (truth call answer : Calling call Bool).run u = .ok false v → Accepts call filter rest v x z →
      Accepts call filter (y :: rest) w x z

/-- A module came in `w`, the pass over the subscriptions has come to `e`, with `rest` behind it, and the filter of `e`
has just accepted `x`: that is world `u`. -/
inductive Turn (call : Caller κ) (n : Nat) (exports id : Value) (w : World κ) (candidates : List Value)
    (e : Value × Subscription) (rest : List (Value × Subscription)) (x : Value) (u : World κ) : Prop where
  | comes {found v before y} : (exportsOf call exports : Calling call Exports).run w = .ok found v →
      found.candidates = candidates → (v.registry n).subscriptions = before ++ e :: rest →
      before.forM (fireEntry call n candidates id) v = .ok () y → e ∈ (y.registry n).subscriptions →
      Accepts call e.1 candidates y x u → Turn call n exports id w candidates e rest x u

/-- The callback of `e` is called with a candidate, and a failure is reported. -/
def callBack (call : Caller κ) (e : Value × Subscription) (x id : Value) : Run κ Unit :=
  handle (do let _ ← call e.2.callback (.of [x, id])) fun c => (reportSubscription e.1 c : Quietly κ Unit)

/-- A request that still waits when its filter has accepted a candidate stops waiting, its callback is called with the
candidate, and the rest of the pass follows. -/
def Delivers (call : Caller κ) (n : Nat) (w : World κ) : Prop :=
  ∀ {exports id candidates e rest x u}, Turn call n exports id w candidates e rest x u →
    e ∈ (u.registry n).subscriptions →
    fireSubscriptions call n exports id w =
      (callBack call e x id >>= fun _ => rest.forM (fireEntry call n candidates id))
        ((u.unsubscribed n e.1).noted (.answered n e.2.request (some e.2.request)))

section

variable {call : Caller κ} {exports id x : Value} {candidates : List Value} {e : Value × Subscription}
  {rest : List (Value × Subscription)} {w y u : World κ}

theorem Accepts.firstAccepted {filter : Value} (h : Accepts call filter candidates w x u) :
    (Run.firstAccepted call filter candidates : Calling call _).run w = .ok (some x) u := by
  induction h with
  | here asked accepted =>
      rw [Run.firstAccepted]
      exact (bind_of_ok asked).trans (bind_of_ok accepted)
  | later asked rejected _ ih =>
      rw [Run.firstAccepted]
      exact (bind_of_ok asked).trans ((bind_of_ok rejected).trans ih)

theorem handle_congr {α : Type} {m m' : Run κ α} {f : Cause → Run κ α} {w w' : World κ} (h : m w = m' w') :
    handle m f w = handle m' f w' := by
  rw [handle, handle, tryCatch_run, tryCatch_run, h]

theorem fireEntry_answers (waiting : e ∈ (y.registry n).subscriptions) (accepted : Accepts call e.1 candidates y x u)
    (waits : e ∈ (u.registry n).subscriptions) (apart : Value.Apart (u.registry n).subscriptions) :
    fireEntry call n candidates id e y =
      callBack call e x id ((u.unsubscribed n e.1).noted (.answered n e.2.request (some e.2.request))) := by
  have listed : Value.hasKey (y.registry n).subscriptions e.1 = true :=
    List.any_eq_true.mpr ⟨e, waiting, Value.sameKey_refl e.1⟩
  have ended : answer n e.1 e.2.request u =
      .ok true ((u.unsubscribed n e.1).noted (.answered n e.2.request (some e.2.request))) :=
    answer_some e.2.request (apart.lookup? waits (Value.sameKey_refl e.1))
  have present : (get : Run κ (World κ)) y = .ok y y := rfl
  rw [fireEntry, bind_of_ok present, if_pos listed, callBack]
  refine handle_congr ?_
  rw [fireOne]
  exact (bind_of_ok accepted.firstAccepted).trans (bind_of_ok ended)

theorem forM_split {α : Type} {f : α → Run κ Unit} {a : α} {rest : List α} :
    {before : List α} → {w y : World κ} → before.forM f w = .ok () y →
      (before ++ a :: rest).forM f w = (f a >>= fun _ => rest.forM f) y
  | [], w, y, came => by
      cases came
      rfl
  | b :: before, w, y, came => by
      obtain ⟨_, v, first, came⟩ := bind_ok.mp came
      exact (bind_of_ok first).trans (forM_split came)

/-- Between the coming of a module and the turn of a request, all requests stay accounted for. -/
theorem Turn.accounts (hc : call.Keeps (Accounts n)) (turn : Turn call n exports id w candidates e rest x u) :
    Accounts n w u := by
  obtain @⟨found, v, before, y, exported, rfl, listed, came, waiting, accepted⟩ := turn
  have normal : Accounts n w ((exportsOf call exports : Calling call _).run.after w) :=
    ((exportsOf call exports : Calling call _).within w).keeps Beside.accounts hc
  have passed : Accounts n v ((before.forM (fireEntry call n found.candidates id)).after v) :=
    forM_within before (fun f _ => fireEntry_within Beside.accounts hc found.candidates id
      (answer_accounts n f.1 f.2.request)) v
  have tested : Accounts n y ((firstAccepted call e.1 found.candidates : Calling call _).run.after y) :=
    ((firstAccepted call e.1 found.candidates : Calling call _).within y).keeps Beside.accounts hc
  rw [after_ok exported] at normal
  rw [after_ok came] at passed
  rw [after_ok accepted.firstAccepted] at tested
  exact Lasting.trans normal (Lasting.trans passed tested)

theorem Accounted.delivers (hc : call.Keeps (Accounts n)) (hw : Accounted n w) : Delivers call n w := by
  intro exports id candidates e rest x u turn waits
  have apart := ((turn.accounts hc).2 hw).1.apart
  obtain @⟨found, v, before, y, exported, rfl, listed, came, waiting, accepted⟩ := turn
  have pass : fireSubscriptions call n exports id w = firePass call n found.candidates id v := bind_of_ok exported
  have present : (get : Run κ (World κ)) v = .ok v v := rfl
  rw [pass, firePass, bind_of_ok present, listed, forM_split came]
  simp only [bind, EStateM.bind, fireEntry_answers waiting accepted waits apart]

end

/-- Of the requests that begin to wait, exactly those are lost that are replaced before their callbacks are called:
their callbacks are never called. All others wait, and the first module whose turn comes while they wait and which
their filters accept is handed to their callbacks, also when it comes inside a call. -/
theorem World.Reached.called_or_waits_iff {outside : Surroundings κ} {w : World κ} (h : w.Reached outside)
    {request : Nat} {filter callback : Value} (here : n < w.registries.size)
    (asked : w.Asked n request filter callback) (waited : request ∈ enrolled n w.history) :
    (request ∈ answers n w.history ∨ w.Waits n request filter callback ↔
      (request ∈ replaced n w.history → request ∈ answers n w.history)) ∧
    (∀ w', Acts (callValue outside) w w' → request ∈ answers n w'.history →
      request ∈ answers n w.history ∨ w.Waits n request filter callback) ∧
    Accounted n w ∧ ∀ fuel v, Accounted n v → Delivers (callWithin outside fuel) n v := by
  have hw := h.accounted here
  refine ⟨⟨?_, fun called => ?_⟩, fun w' acts answered => ?_, hw, fun fuel v hv => ?_⟩
  · rintro (answered | ⟨e, he, _, is⟩) taken
    · exact answered
    · exact absurd (congrArg Subscription.request is) (hw.gone request taken e he)
  · rcases hw.found request waited with answered | taken | ⟨e, he, is⟩
    · exact .inl answered
    · exact .inl (called taken)
    · exact .inr (hw.waits asked he is)
  · have since : Follows n w w' := (acts.nested tracks_nests h.waiting).2
    rcases since.answered request answered with before | ⟨e, he, is⟩ | late
    · exact .inl before
    · exact .inr (hw.waits asked he is)
    · exact absurd asked.lt (Nat.not_lt_of_le late)
  · exact hv.delivers (callWithin_keeps accounts_nests fuel)

/-! ## A callback that is never called -/

/-- Functions that accept everything. -/
def accepting : Surroundings Unit := fun _ _ _ =>
  pure (.bool true)

/-- The world in which two callbacks were subscribed under the same filter. -/
def subscribedTwice : World Unit :=
  World.furnished [] () [.external 0 "f", .external 1 "F", .external 2 "G"]
    |>.doing accepting (.waitFor 1 (.ref firstPlace) (.ref (firstPlace + 1)))
    |>.doing accepting (.waitFor 1 (.ref firstPlace) (.ref (firstPlace + 2)))

/-- The world in which a module came after that. -/
def firedOnce : World Unit :=
  subscribedTwice.doing accepting (.fire 1 (.int 1) (.str "1"))

theorem subscribedTwice_reached : subscribedTwice.Reached accepting :=
  ((World.Reached.furnished _ _ _).doing _).doing _

theorem called_or_waits_iff_second :
    (2 ∈ answers 1 subscribedTwice.history ∨
        subscribedTwice.Waits 1 2 (.ref firstPlace) (.ref (firstPlace + 2)) ↔
      (2 ∈ replaced 1 subscribedTwice.history → 2 ∈ answers 1 subscribedTwice.history)) ∧
    2 ∉ replaced 1 subscribedTwice.history ∧ 2 ∈ answers 1 firedOnce.history := by
  have asked : subscribedTwice.Asked 1 2 (.ref firstPlace) (.ref (firstPlace + 2)) := by decide +kernel
  have served := subscribedTwice_reached.called_or_waits_iff (by decide +kernel) asked (by decide +kernel)
  exact ⟨served.1, by decide +kernel, by decide +kernel⟩

/-- The second callback takes the place of the first one, which is not called when a module comes that the filter of
both accepts. -/
theorem firedOnce_loses_first :
    firedOnce.Reached accepting ∧ ¬ ∀ request ∈ enrolled 1 firedOnce.history, request ∈ answers 1 firedOnce.history :=
  ⟨subscribedTwice_reached.doing _, by decide +kernel⟩

end Patchwork
