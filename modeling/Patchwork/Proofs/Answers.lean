import Patchwork.Proofs.Keys
import Patchwork.Proofs.Separation

/-!
How often the callback of a request for an export is called. A pass over the subscriptions goes through those that
there were at its start, while the passes nested in it end subscriptions and start new ones under the same filters.
-/

namespace Patchwork

open Run

variable {κ : Type} {n : Nat}

/-- The requests whose callbacks have been called, the latest first. -/
def answers (n : Nat) : List Deed → List Nat
  | [] => []
  | .answered m request _ :: before => if m = n then request :: answers n before else answers n before
  | _ :: before => answers n before

/-- Every deed stands in a relation to what was done before it. -/
def Along (P : Deed → List Deed → Prop) : List Deed → Prop
  | [] => True
  | d :: before => P d before ∧ Along P before

/-- A deed is no second call of the same callback. -/
def IsFirst (n : Nat) (d : Deed) (before : List Deed) : Prop :=
  ∀ request ended, d = .answered n request ended → request ∉ answers n before

/-- A callback that ends the subscription of another request has not been called before. -/
def TakesOverFresh (n : Nat) (d : Deed) (before : List Deed) : Prop :=
  ∀ request other, d = .answered n request (some other) → other ≠ request → request ∉ answers n before

/-- A callback that is called at once, or ends its own subscription, has not been called before. -/
def AnswersFresh (n : Nat) (d : Deed) (before : List Deed) : Prop :=
  ∀ request ended, d = .answered n request ended → ended = none ∨ ended = some request →
    request ∉ answers n before

theorem Along.mono {P Q : Deed → List Deed → Prop} (h : ∀ d before, P d before → Q d before) :
    {deeds : List Deed} → Along P deeds → Along Q deeds
  | [], _ => trivial
  | _ :: _, all => ⟨h _ _ all.1, all.2.mono h⟩

theorem Along.and {P Q : Deed → List Deed → Prop} :
    {deeds : List Deed} → Along P deeds → Along Q deeds → Along (fun d before => P d before ∧ Q d before) deeds
  | [], _, _ => trivial
  | _ :: _, p, q => ⟨⟨p.1, q.1⟩, p.2.and q.2⟩

theorem answers_nodup_iff : {deeds : List Deed} → ((answers n deeds).Nodup ↔ Along (IsFirst n) deeds)
  | [] => by simp [answers, Along]
  | d :: before => by
      have rest : (answers n before).Nodup ↔ Along (IsFirst n) before := answers_nodup_iff
      cases d with
      | answered m request ended =>
          by_cases same : m = n
          · subst same
            simp [answers, Along, IsFirst, rest]
          · simp [answers, Along, IsFirst, rest, same]
      | _ => simp [answers, Along, IsFirst, rest]

theorem isFirst_iff {d : Deed} {before : List Deed} :
    IsFirst n d before ↔ AnswersFresh n d before ∧ TakesOverFresh n d before := by
  constructor
  · exact fun h => ⟨fun request ended is _ => h request ended is, fun request other is _ => h request _ is⟩
  · rintro ⟨fresh, past⟩ request ended is
    cases ended with
    | none => exact fresh request none is (.inl rfl)
    | some other =>
        by_cases same : other = request
        · exact fresh request _ is (.inr (congrArg some same))
        · exact past request other is same

/-! ## Changes elsewhere -/

/-- Whether a callback of a registry was called. -/
def Deed.isAnswer (n : Nat) : Deed → Bool
  | .answered m _ _ => m == n
  | _ => false

/-- The subscriptions of a registry are the same in both worlds, and none of its callbacks was called. -/
structure Elsewhere (n : Nat) (w w' : World κ) : Prop where
  subscriptions : (w'.registry n).subscriptions = (w.registry n).subscriptions
  history : DoneBetween (fun d => d.isAnswer n = false) w w'

theorem Deed.isAnswer_of_patch {d : Deed} (h : d.isRequest = false) : d.isAnswer n = false := by
  cases d with
  | answered m request ended => cases h
  | _ => rfl

theorem BesideSubscriptions.elsewhere {w w' : World κ} (h : BesideSubscriptions w w') : Elsewhere n w w' :=
  ⟨h.subscriptions n, h.history.mono fun _ => Deed.isAnswer_of_patch⟩

theorem Elsewhere.noted (w : World κ) {d : Deed} (hd : d.isAnswer n = false) : Elsewhere n w (w.noted d) :=
  ⟨rfl, .single w hd⟩

theorem Elsewhere.modified (w : World κ) {m : Nat} (f : Registry → Registry) (other : m ≠ n) :
    Elsewhere n w (w.modifyRegistry m f) :=
  ⟨by rw [w.modifyRegistry_other f other], .of_same rfl⟩

theorem answers_of_others {new before : List Deed} (h : ∀ d ∈ new, d.isAnswer n = false) :
    answers n (new ++ before) = answers n before := by
  induction new with
  | nil => rfl
  | cons d new ih =>
      have rest := ih fun e he => h e (List.mem_cons_of_mem _ he)
      cases d with
      | answered m request ended =>
          have other : m ≠ n := by simpa [Deed.isAnswer] using h _ List.mem_cons_self
          rw [List.cons_append, answers, if_neg other, rest]
      | _ => exact rest

theorem AnswersFresh.of_other {d : Deed} (h : d.isAnswer n = false) (before : List Deed) :
    AnswersFresh n d before := by
  rintro request ended rfl
  simp [Deed.isAnswer] at h

theorem Along.of_others {new before : List Deed} (h : ∀ d ∈ new, d.isAnswer n = false)
    (rest : Along (AnswersFresh n) before) : Along (AnswersFresh n) (new ++ before) := by
  induction new with
  | nil => exact rest
  | cons d new ih =>
      exact ⟨.of_other (h d List.mem_cons_self) _, ih fun e he => h e (List.mem_cons_of_mem _ he)⟩

/-! ## What always holds -/

/-- Requests that wait have not been answered, and each waits once. -/
structure Waiting (n : Nat) (w : World κ) : Prop where
  single : ((w.registry n).subscriptions.map fun e => e.2.request).Nodup
  made : ∀ e ∈ (w.registry n).subscriptions, e.2.request < w.history.length
  unanswered : ∀ e ∈ (w.registry n).subscriptions, e.2.request ∉ answers n w.history
  known : ∀ request ∈ answers n w.history, request < w.history.length
  fresh : Along (AnswersFresh n) w.history

/-- What changes from one world to another: subscriptions are new or were there before, and answers go to requests
that waited or are new. -/
structure Follows (n : Nat) (w w' : World κ) : Prop where
  longer : w.history.length ≤ w'.history.length
  kept : ∀ e ∈ (w'.registry n).subscriptions, e.2.request < w.history.length → e ∈ (w.registry n).subscriptions
  answered : ∀ request ∈ answers n w'.history, request ∈ answers n w.history ∨
    (∃ e ∈ (w.registry n).subscriptions, e.2.request = request) ∨ w.history.length ≤ request

theorem Follows.refl (w : World κ) : Follows n w w :=
  ⟨Nat.le_refl _, fun _ h _ => h, fun _ h => .inl h⟩

theorem Follows.trans {u v w : World κ} (first : Follows n u v) (second : Follows n v w) : Follows n u w where
  longer := Nat.le_trans first.longer second.longer
  kept e he old := first.kept e (second.kept e he (Nat.lt_of_lt_of_le old first.longer)) old
  answered request h := by
    rcases second.answered request h with h | ⟨e, he, rfl⟩ | new
    · exact first.answered request h
    · rcases Nat.lt_or_ge e.2.request u.history.length with old | new
      · exact .inr (.inl ⟨e, first.kept e he old, rfl⟩)
      · exact .inr (.inr new)
    · exact .inr (.inr (Nat.le_trans first.longer new))

/-- Worlds in which the invariant holds go over into such worlds. -/
def Tracks (n : Nat) (w w' : World κ) : Prop :=
  Waiting n w → Waiting n w' ∧ Follows n w w'

instance : Lasting (Tracks (κ := κ) n) where
  refl w := fun h => ⟨h, .refl w⟩
  trans first second := fun h =>
    ⟨(second (first h).1).1, (first h).2.trans (second (first h).1).2⟩

theorem Elsewhere.tracks {w w' : World κ} (h : Elsewhere n w w') : Tracks n w w' := by
  intro hw
  have longer := h.history.longer
  obtain ⟨new, extended, others⟩ := h.history
  have same : answers n w'.history = answers n w.history := by rw [extended, answers_of_others others]
  refine ⟨⟨?_, ?_, ?_, ?_, ?_⟩, longer, ?_, ?_⟩
  · rw [h.subscriptions]
    exact hw.single
  · rw [h.subscriptions]
    exact fun e he => Nat.lt_of_lt_of_le (hw.made e he) longer
  · rw [h.subscriptions, same]
    exact hw.unanswered
  · rw [same]
    exact fun request hr => Nat.lt_of_lt_of_le (hw.known request hr) longer
  · rw [extended]
    exact hw.fresh.of_others others
  · rw [h.subscriptions]
    exact fun _ he _ => he
  · rw [same]
    exact fun _ hr => .inl hr

theorem Beside.tracks {w w' : World κ} (h : Beside w w') : Tracks n w w' :=
  h.subscriptions_kept.elsewhere.tracks

instance : Moves (Tracks (κ := κ) n) where
  beside := Beside.tracks

/-! ## Passes -/

/-- The worlds that a pass comes through which began in `start`. -/
def Passing (n : Nat) (start w w' : World κ) : Prop :=
  Waiting n w ∧ Follows n start w → Waiting n w' ∧ Follows n start w'

instance (start : World κ) : Lasting (Passing n start) where
  refl _ := id
  trans first second := fun h => second (first h)

theorem Tracks.passing {start w w' : World κ} (h : Tracks n w w') : Passing n start w w' :=
  fun ⟨hw, since⟩ => ⟨(h hw).1, since.trans (h hw).2⟩

/-- The answer to a request that waits no longer changes nothing about those that wait. -/
theorem Waiting.answered {w : World κ} {request : Nat} {ended : Option Nat} (hw : Waiting n w)
    (made : request < w.history.length) (removed : ∀ e ∈ (w.registry n).subscriptions, e.2.request ≠ request)
    (first : AnswersFresh n (.answered n request ended) w.history) :
    Waiting n (w.noted (.answered n request ended)) where
  single := hw.single
  made e he := Nat.lt_succ_of_lt (hw.made e he)
  unanswered e he := by
    simp only [World.noted_history, answers, if_pos, List.mem_cons, not_or]
    exact ⟨removed e he, hw.unanswered e he⟩
  known := by
    simp only [World.noted_history, answers, if_pos, List.mem_cons]
    rintro r (rfl | hr)
    · exact Nat.lt_succ_of_lt made
    · exact Nat.lt_succ_of_lt (hw.known r hr)
  fresh := ⟨first, hw.fresh⟩

theorem Follows.answered_by {start w : World κ} {request : Nat} {ended : Option Nat} (since : Follows n start w)
    (waited : (∃ e ∈ (start.registry n).subscriptions, e.2.request = request) ∨ start.history.length ≤ request) :
    Follows n start (w.noted (.answered n request ended)) where
  longer := Nat.le_succ_of_le since.longer
  kept := since.kept
  answered := by
    simp only [World.noted_history, answers, if_pos, List.mem_cons]
    rintro r (rfl | hr)
    · exact .inr waited
    · exact since.answered r hr

theorem mem_unsubscribed {w : World κ} {filter : Value} {e : Value × Subscription} :
    e ∈ ((w.unsubscribed n filter).registry n).subscriptions ↔
      e ∈ (w.registry n).subscriptions ∧ Value.sameKey e.1 filter = false := by
  rw [World.unsubscribed, World.modifyRegistry_self w n rfl, Value.mem_erase]

theorem Waiting.unsubscribed {w : World κ} (hw : Waiting n w) (filter : Value) :
    Waiting n (w.unsubscribed n filter) where
  single := by
    rw [World.unsubscribed, World.modifyRegistry_self w n rfl]
    exact hw.single.sublist (List.filter_sublist.map _)
  made e he := hw.made e (mem_unsubscribed.mp he).1
  unanswered e he := hw.unanswered e (mem_unsubscribed.mp he).1
  known := hw.known
  fresh := hw.fresh

/-- A pass ends the subscription that it finds under the filter of one it began with. That one is gone then, even if
another one was found. -/
theorem answer_passing {start : World κ} {filter : Value} {s : Subscription} (began : Waiting n start)
    (listed : (filter, s) ∈ (start.registry n).subscriptions) (w : World κ) :
    Passing n start w ((answer n filter s.request : Run κ Bool).after w) := by
  cases found : Value.lookup? (w.registry n).subscriptions filter with
  | none =>
      rw [after_ok (answer_none s.request found)]
      exact Lasting.refl w
  | some t =>
      rintro ⟨hw, since⟩
      rw [after_ok (answer_some s.request found)]
      obtain ⟨key, there⟩ := Value.lookup?_mem found
      have removed : ∀ e ∈ ((w.unsubscribed n filter).registry n).subscriptions, e.2.request ≠ s.request := by
        intro e he same
        obtain ⟨old, other⟩ := mem_unsubscribed.mp he
        have before := since.kept e old (same ▸ began.made _ listed)
        have is : e = (filter, s) := List.inj_on_of_nodup_map began.single before listed same
        rw [is, Value.sameKey_refl] at other
        cases other
      have first : AnswersFresh n (.answered n s.request (some t.request)) w.history := by
        rintro request ended ⟨⟩ (h | h)
        · cases h
        · exact Option.some.inj h ▸ hw.unanswered _ there
      have made : s.request < w.history.length := Nat.lt_of_lt_of_le (began.made _ listed) since.longer
      constructor
      · exact (hw.unsubscribed filter).answered made removed first
      · refine Follows.answered_by ⟨since.longer, fun e he => ?_, since.answered⟩ (.inl ⟨_, listed, rfl⟩)
        exact since.kept e (mem_unsubscribed.mp he).1

theorem answer_elsewhere {m : Nat} (other : m ≠ n) (filter : Value) (request : Nat) (w : World κ) :
    Tracks n w ((answer m filter request : Run κ Bool).after w) := by
  cases found : Value.lookup? (w.registry m).subscriptions filter with
  | none =>
      rw [after_ok (answer_none request found)]
      exact Lasting.refl w
  | some t =>
      rw [after_ok (answer_some request found)]
      refine Lasting.trans (Elsewhere.modified w _ other).tracks (Elsewhere.noted _ ?_).tracks
      exact beq_false_of_ne other

theorem firePass_tracks {call : Caller κ} (hc : call.Keeps (Tracks n)) (m : Nat) (candidates : List Value)
    (id : Value) (w : World κ) : Tracks n w ((firePass call m candidates id).after w) := by
  by_cases same : m = n
  · subst same
    intro hw
    have passed : Passing m w w ((firePass call m candidates id).after w) :=
      firePass_within (fun h => h.tracks.passing) (fun f args v => (hc f args v).passing) candidates id w
        fun e he => answer_passing hw he
    exact passed ⟨hw, .refl w⟩
  · exact firePass_within Beside.tracks hc candidates id w fun e _ => answer_elsewhere same e.1 e.2.request

theorem fireSubscriptions_tracks {call : Caller κ} (hc : call.Keeps (Tracks n)) (m : Nat) (exports id : Value) :
    ∀ w, Tracks n w ((fireSubscriptions call m exports id).after w) :=
  bind_within (fun w => ((exportsOf call exports : Calling call _).within w).keeps Beside.tracks hc)
    fun e w => firePass_tracks hc m e.candidates id w

/-! ## Requests -/

/-- A request that was made after `start` has neither been answered nor begun to wait. -/
structure Owes (n : Nat) (start : World κ) (request : Nat) (w : World κ) : Prop where
  waiting : Waiting n w
  since : Follows n start w
  made : request < w.history.length
  new : start.history.length ≤ request
  unanswered : request ∉ answers n w.history
  unlisted : ∀ e ∈ (w.registry n).subscriptions, e.2.request ≠ request

namespace Owes

variable {start w w' : World κ} {request : Nat}

theorem tracked (h : Tracks n w w') (owes : Owes n start request w) : Owes n start request w' := by
  obtain ⟨hw, since⟩ := h owes.waiting
  refine ⟨hw, owes.since.trans since, Nat.lt_of_lt_of_le owes.made since.longer, owes.new, fun answered => ?_,
    fun e he same => ?_⟩
  · rcases since.answered request answered with old | ⟨e, he, same⟩ | late
    · exact owes.unanswered old
    · exact owes.unlisted e he same
    · exact Nat.lt_irrefl _ (Nat.lt_of_lt_of_le owes.made late)
  · exact owes.unlisted e (since.kept e he (same ▸ owes.made)) same

theorem answered (owes : Owes n start request w) :
    Waiting n (w.noted (.answered n request none)) ∧ Follows n start (w.noted (.answered n request none)) := by
  refine ⟨owes.waiting.answered owes.made owes.unlisted ?_, owes.since.answered_by (.inr owes.new)⟩
  rintro r ended ⟨⟩ _
  exact owes.unanswered

theorem subscribed (owes : Owes n start request w) (filter callback : Value) :
    Passing n start w (w.subscribed n filter ⟨callback, request⟩) := by
  intro before
  rcases w.modifyRegistry_registry n n (fun r =>
    { r with subscriptions := Value.insert r.subscriptions filter ⟨callback, request⟩ }) with same | ⟨_, same⟩
  · have none : Elsewhere n w (w.subscribed n filter ⟨callback, request⟩) := ⟨congrArg _ same, .of_same rfl⟩
    exact none.tracks.passing before
  · have entries : ((w.subscribed n filter ⟨callback, request⟩).registry n).subscriptions =
        Value.insert (w.registry n).subscriptions filter ⟨callback, request⟩ := congrArg _ same
    refine ⟨⟨?_, ?_, ?_, owes.waiting.known, owes.waiting.fresh⟩, owes.since.longer, ?_, owes.since.answered⟩
    · rw [entries]
      refine Value.insert_nodup (fun s : Subscription => s.request) owes.waiting.single fun h => ?_
      obtain ⟨e, he, same⟩ := List.mem_map.mp h
      exact owes.unlisted e he same
    · rw [entries]
      intro e he
      rcases Value.mem_insert he with old | is
      · exact owes.waiting.made e old
      · rw [is]
        exact owes.made
    · rw [entries]
      intro e he
      rcases Value.mem_insert he with old | is
      · exact owes.waiting.unanswered e old
      · rw [is]
        exact owes.unanswered
    · rw [entries]
      intro e he old
      rcases Value.mem_insert he with there | is
      · exact owes.since.kept e there old
      · rw [is] at old
        exact absurd owes.new (Nat.not_le_of_lt old)

end Owes

theorem asked_owes {w : World κ} (hw : Waiting n w) (filter callback : Value) :
    Owes n w w.history.length (w.noted (.asked n filter callback)) := by
  have noted : Elsewhere n w (w.noted (.asked n filter callback)) := .noted w rfl
  obtain ⟨hw', since⟩ := noted.tracks hw
  refine ⟨hw', since, Nat.lt_succ_self _, Nat.le_refl _, fun h => ?_, fun e he same => ?_⟩
  · exact Nat.lt_irrefl _ (hw.known _ h)
  · exact Nat.lt_irrefl _ (same ▸ hw.made e he)

theorem serve_ensures {call : Caller κ} (hc : call.Keeps (Tracks n)) (filter callback : Value)
    {start : World κ} {request : Nat} (w : World κ) (owes : Owes n start request w) :
    Waiting n ((serve call n filter callback request).after w) ∧
      Follows n start ((serve call n filter callback request).after w) := by
  have settled : ∀ v, Owes n start request v → Waiting n v ∧ Follows n start v := fun v h => ⟨h.waiting, h.since⟩
  have searched : ∀ v, Tracks n v ((searchExports call n filter : Calling call _).run.after v) :=
    fun v => ((searchExports call n filter : Calling call _).within v).keeps Beside.tracks hc
  have checked : ∀ v, Tracks n v ((checkKey filter : Quietly κ Unit).run.after v) :=
    fun v => ((checkKey filter : Quietly κ Unit).within v).beside.tracks
  refine bind_ensures (fun v h => h.tracked (searched v)) (fun found v h => ?_) settled w owes
  match found with
  | some (id, value) =>
        have called : ∀ u, Tracks n u ((handle (do let _ ← call callback (.of [value, id])) fun c =>
            (reportSubscription filter c : Quietly κ Unit) : Run κ Unit).after u) :=
          handle_within (bind_within (fun u => hc _ _ u) fun _ u => Lasting.refl u)
            fun c u => (reportSubscription_beside filter c u).tracks
        exact (called _).passing h.answered
  | none =>
        refine bind_ensures (fun u hu => hu.tracked (checked u)) (fun _ u hu => ?_) settled v h
        have waits := hu.subscribed filter callback ⟨hu.waiting, hu.since⟩
        exact (Elsewhere.noted (w := u.subscribed n filter ⟨callback, request⟩) rfl).tracks.passing waits

theorem waitFor_tracks {call : Caller κ} (hc : call.Keeps (Tracks n)) (m : Nat) (filter callback : Value) :
    ∀ w, Tracks n w ((waitFor call m filter callback).after w) := by
  by_cases other : m ≠ n
  · refine waitFor_within Beside.tracks hc filter callback (fun w => (Elsewhere.noted w rfl).tracks)
      (fun request w => (Elsewhere.noted w ?_).tracks) fun s w => ?_
    · exact beq_false_of_ne other
    · exact Lasting.trans (Elsewhere.modified w _ other).tracks (Elsewhere.noted (w.subscribed m filter s) rfl).tracks
  · rw [ne_eq, Decidable.not_not] at other
    subst other
    exact fun w hw => serve_ensures hc filter callback _ (asked_owes hw filter callback)

/-! ## Runs -/

theorem tracks_nests : Nests (Tracks (κ := κ) n) := by
  intro call hc α o
  cases o with
  | register m p => exact registerPatch_keeps (fun h => h.elsewhere.tracks) m p
  | waitFor m filter callback => exact waitFor_tracks hc m filter callback
  | fire m exports id => exact fireSubscriptions_tracks hc m exports id
  | patch s m p => exact runPatches_keeps (fun h => h.elsewhere.tracks) hc s m p
  | announce m runtime => exact runBeforeInit_keeps (fun h => h.elsewhere.tracks) hc m runtime

theorem start_waiting (environment : Environment) (host : κ) : Waiting n (World.start environment host) := by
  have none : ((World.start environment host).registry n).subscriptions = [] := by
    rw [World.start_registry]
    rfl
  constructor
  · rw [none]
    exact List.nodup_nil
  · exact fun e he => absurd (none ▸ he) List.not_mem_nil
  · exact fun e he => absurd (none ▸ he) List.not_mem_nil
  · exact fun _ h => absurd h List.not_mem_nil
  · trivial

theorem World.Reached.waiting {outside : Surroundings κ} {w : World κ} (h : w.Reached outside) : Waiting n w := by
  obtain ⟨environment, host, acts⟩ := h
  exact (acts.nested tracks_nests (start_waiting environment host)).1

/-- Whatever listeners, filters and callbacks do: the callback of each request is called once at most, except where
it ends the subscription of another request after it has been called. -/
theorem World.Reached.answered_once_iff {outside : Surroundings κ} {w : World κ} (h : w.Reached outside) (n : Nat) :
    (answers n w.history).Nodup ↔ Along (TakesOverFresh n) w.history := by
  rw [answers_nodup_iff]
  constructor
  · exact Along.mono fun _ _ first => (isFirst_iff.mp first).2
  · exact fun past => (h.waiting.fresh.and past).mono fun _ _ both => isFirst_iff.mpr both

/-! ## A callback that is called twice -/

/-- The place of the first object behind those of a fresh world. -/
def firstPlace : Address := (World.start [] ()).heap.size

/-- Five functions: two filters that accept everything, and three callbacks. The first callback fires the
subscriptions again and then subscribes the last one under the second filter. -/
def resubscribing : Surroundings Unit := fun call k _ =>
  match k with
  | 2 => do
    carryOut call (.fire 1 (.int 1) (.str "2"))
    carryOut call (.waitFor 1 (.ref (firstPlace + 1)) (.ref (firstPlace + 4)))
    pure .none
  | _ => pure (.bool true)

/-- The world in which the first two callbacks were subscribed and a module came. -/
def resubscribed : World Unit :=
  World.furnished [] () [.external 0 "f", .external 1 "g", .external 2 "F", .external 3 "G", .external 4 "H"]
    |>.doing resubscribing (.waitFor 1 (.ref firstPlace) (.ref (firstPlace + 2)))
    |>.doing resubscribing (.waitFor 1 (.ref (firstPlace + 1)) (.ref (firstPlace + 3)))
    |>.doing resubscribing (.fire 1 (.int 1) (.str "1"))

theorem resubscribed_reached : resubscribed.Reached resubscribing :=
  (((World.Reached.furnished _ _ _).doing _).doing _).doing _

theorem answered_once_iff_resubscribed :
    resubscribed.Reached resubscribing ∧
      ((answers 1 resubscribed.history).Nodup ↔ Along (TakesOverFresh 1) resubscribed.history) :=
  ⟨resubscribed_reached, resubscribed_reached.answered_once_iff 1⟩

/-- The second callback is called by the inner pass, and again by the outer one. -/
theorem resubscribed_answers_twice :
    resubscribed.Reached resubscribing ∧ ¬ (answers 1 resubscribed.history).Nodup :=
  ⟨resubscribed_reached, by decide +kernel⟩

end Patchwork
