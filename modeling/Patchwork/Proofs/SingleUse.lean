import Patchwork.Proofs.Drained

/-!
How often patches are used. A run over the patches of a registry goes by places, while the runs nested in it remove
patches from the same list.
-/

namespace Patchwork

open Run

variable {κ : Type} {n run i o : Nat} {start w : World κ}

/-- What is promised: an occurrence of a patch for one module contributes once, only what contributed is removed, there
always is something to remove, and a run that ends has tried all that is left. -/
structure SingleUse (n : Nat) (deeds : List Deed) : Prop where
  once : ((uses n deeds).map (·.1)).Nodup
  contributed : ∀ u ∈ uses n deeds, ∀ x, u.2 = some x → x ∈ (uses n deeds).map (·.1)
  found : ∀ u ∈ uses n deeds, u.2 ≠ none
  others : ∀ run present, .ended n run present ∈ deeds → ∀ x ∈ present, x ∈ triedBy n run deeds

/-- What that takes: whenever an occurrence contributed it was still at the place of its run, and what a run went past
before its turn was gone when the run ended. -/
structure InPlace (n : Nat) (deeds : List Deed) : Prop where
  own : ∀ u ∈ uses n deeds, u.2 = some u.1
  passed : ∀ run present, .ended n run present ∈ deeds → ∀ x ∈ skippedBy n run deeds, x ∉ present

/-! ## Runs under way -/

/-- A run has tried an occurrence or went past it. -/
def Seen (n run : Nat) (w : World κ) (x : Nat) : Prop :=
  x ∈ triedBy n run w.history ∨ x ∈ skippedBy n run w.history

/-- A run that began after `start` has not ended. -/
structure Underway (n run : Nat) (start w : World κ) : Prop where
  drained : Drained n w
  since : Loses n start w
  late : start.history.length ≤ run
  begun : run < w.history.length
  going : ∀ present, .ended n run present ∉ w.history
  apart : ∀ x ∈ skippedBy n run w.history, x ∉ triedBy n run w.history

/-- A run is about to go on from a place. What it has seen comes before all that stands there and behind. -/
structure Running (n run i : Nat) (start w : World κ) : Prop extends Underway n run start w where
  passed : ∀ x ∈ (w.numbers n).take i, Seen n run w x
  ahead : ∀ x, Seen n run w x → ∀ y ∈ (w.numbers n).drop i, x < y

/-- A run has just tried an occurrence. -/
structure Tried (n run o : Nat) (start w : World κ) : Prop extends Underway n run start w where
  behind : ∀ x ∈ w.numbers n, x ≤ o → Seen n run w x
  last : ∀ x, Seen n run w x → x ≤ o

/-- What is left when a run fails. -/
def Safe (n : Nat) (start w : World κ) : Prop :=
  Drained n w ∧ Loses n start w

theorem Underway.safe (h : Underway n run start w) : Safe n start w :=
  ⟨h.drained, h.since⟩

theorem not_ended_noted {d : Deed} (h : ∀ present, .ended n run present ∉ w.history)
    (other : ∀ present, .ended n run present ≠ d) : ∀ present, .ended n run present ∉ (w.noted d).history := by
  intro present there
  rcases List.mem_cons.mp there with same | there
  · exact other present same
  · exact h present there

/-- A run that is under way tries an occurrence or goes on. -/
theorem Underway.noted {d : Deed} (h : Underway n run start w) (hrun : d.run? n = some run)
    (unused : d.use? n = none) (other : ∀ present, .ended n run present ≠ d)
    (apart : ∀ x ∈ skippedBy n run (w.noted d).history, x ∉ triedBy n run (w.noted d).history) :
    Underway n run start (w.noted d) where
  drained := h.drained.noted hrun h.begun h.going unused fun present same => absurd same.symm (other present)
  since := h.since.noted hrun h.late
  late := h.late
  begun := Nat.lt_succ_of_lt h.begun
  going := not_ended_noted h.going other
  apart := apart

namespace Loses

variable {w' : World κ}

theorem others (h : Loses n w w') (begun : run < w.history.length) :
    DoneBetween (fun d => d.run? n ≠ some run) w w' :=
  h.history.mono fun _ late same => Nat.lt_irrefl _ (Nat.lt_of_lt_of_le begun (late run same))

theorem seen_iff (h : Loses n w w') (begun : run < w.history.length) {x : Nat} :
    Seen n run w' x ↔ Seen n run w x := by
  rw [Seen, Seen, (h.others begun).triedBy_eq, (h.others begun).skippedBy_eq]

/-- Runs that begin later do not touch one that is under way. -/
theorem underway (h : Loses n w w') (drained : Drained n w') (before : Underway n run start w) :
    Underway n run start w' := by
  refine ⟨drained, before.since.trans h, before.late, Nat.lt_of_lt_of_le before.begun h.history.longer, ?_, ?_⟩
  · intro present there
    rcases (h.others before.begun).mem there with other | there
    · exact other (if_pos rfl)
    · exact before.going present there
  · rw [(h.others before.begun).triedBy_eq, (h.others before.begun).skippedBy_eq]
    exact before.apart

/-- At the place where an occurrence stood stands the same one or a later one. -/
theorem place_ge (h : Loses n w w') (drained : Drained n w) (drained' : Drained n w')
    (here : (w.numbers n)[i]? = some o) {x : Nat} (now : (w'.numbers n)[i]? = some x) : o ≤ x := by
  by_contra before
  have earlier : x < o := Nat.lt_of_not_le before
  have old : ∀ y ∈ w'.numbers n, y ≤ o → y ∈ w.numbers n := fun y hy le =>
    h.kept y hy (Nat.lt_of_le_of_lt le (drained.made o (List.mem_of_getElem? here)))
  obtain ⟨j, hj⟩ := List.mem_iff_getElem?.mp (old x (List.mem_of_getElem? now) (Nat.le_of_lt earlier))
  have no_later : i ≤ j := place_le_of_subset drained.sorted drained'.sorted
    (fun y hy lt => old y hy (Nat.le_of_lt (Nat.lt_trans lt earlier))) hj now
  exact Nat.not_lt_of_le no_later (place_lt drained.sorted hj here earlier)

end Loses

theorem Running.unseen (h : Running n run i start w) (here : (w.numbers n)[i]? = some o) {x : Nat}
    (seen : Seen n run w x) : x < o :=
  h.ahead x seen o (place_mem_drop here (Nat.le_refl i))

/-- A run tries the occurrence at its place; what is called on the way leaves what the run has seen. -/
theorem Running.tried {w' : World κ} (h : Running n run i start w) (here : (w.numbers n)[i]? = some o)
    (drained : Drained n w') (since : Loses n w w') : Tried n run o start (w'.noted (.tried n run o)) := by
  have under := since.underway drained h.toUnderway
  have hrun : (Deed.tried n run o).run? n = some run := if_pos rfl
  have fresh : ∀ x, Seen n run w' x → x < o := fun x seen => h.unseen here ((since.seen_iff h.begun).mp seen)
  have tried : triedBy n run (w'.noted (.tried n run o)).history = o :: triedBy n run w'.history :=
    List.filterMap_cons_some (if_pos ⟨rfl, rfl⟩)
  have skipped : skippedBy n run (w'.noted (.tried n run o)).history = skippedBy n run w'.history := rfl
  have seen : ∀ x, Seen n run (w'.noted (.tried n run o)) x ↔ x = o ∨ Seen n run w' x := fun x => by
    rw [Seen, tried, skipped, List.mem_cons, or_assoc, Seen]
  refine ⟨under.noted hrun rfl nofun ?_, ?_, ?_⟩
  · rw [tried, skipped]
    intro x hx there
    rcases List.mem_cons.mp there with rfl | there
    · exact Nat.lt_irrefl _ (fresh x (.inr hx))
    · exact under.apart x hx there
  · intro x hx le
    refine (seen x).mpr ?_
    rcases Nat.lt_or_eq_of_le le with lt | rfl
    · right
      have made := h.drained.made o (List.mem_of_getElem? here)
      obtain ⟨j, hj⟩ := List.mem_iff_getElem?.mp (since.kept x hx (Nat.lt_trans lt made))
      have place : j < i := place_lt h.drained.sorted hj here lt
      exact (since.seen_iff h.begun).mpr (h.passed x (place_mem_take hj place))
    · exact .inl rfl
  · intro x hx
    rcases (seen x).mp hx with rfl | hx
    · exact Nat.le_refl _
    · exact Nat.le_of_lt (fresh x hx)

/-- A run goes on from a place behind which all is later than what it tried last. -/
theorem Tried.moved (h : Tried n run o start w) (i : Nat) (beyond : ∀ y ∈ (w.numbers n).drop i, o < y) :
    Running n run i start (w.noted (.moved n run (((w.numbers n).take i).filter (o < ·)))) := by
  have hrun : (Deed.moved n run (((w.numbers n).take i).filter (o < ·))).run? n = some run := if_pos rfl
  have tried : triedBy n run (w.noted (.moved n run (((w.numbers n).take i).filter (o < ·)))).history =
      triedBy n run w.history := rfl
  have skipped : skippedBy n run (w.noted (.moved n run (((w.numbers n).take i).filter (o < ·)))).history =
      ((w.numbers n).take i).filter (o < ·) ++ skippedBy n run w.history := by
    rw [skippedBy, World.noted_history, List.flatMap_cons, Deed.skips, if_pos ⟨rfl, rfl⟩, skippedBy]
  have mem : ∀ x, x ∈ ((w.numbers n).take i).filter (o < ·) ↔ x ∈ (w.numbers n).take i ∧ o < x := fun x => by
    rw [List.mem_filter, decide_eq_true_iff]
  refine ⟨h.toUnderway.noted hrun rfl (fun _ same => by cases same) ?_, ?_, ?_⟩
  · rw [tried, skipped]
    intro x hx there
    rcases List.mem_append.mp hx with hx | hx
    · exact Nat.not_lt_of_le (h.last x (.inl there)) ((mem x).mp hx).2
    · exact h.apart x hx there
  · intro x hx
    rw [Seen, tried, skipped, List.mem_append]
    rcases Nat.lt_or_ge o x with later | le
    · exact .inr (.inl ((mem x).mpr ⟨hx, later⟩))
    · rcases h.behind x (List.mem_of_mem_take hx) le with there | there
      · exact .inl there
      · exact .inr (.inr there)
  · intro x hx y hy
    rw [Seen, tried, skipped, List.mem_append] at hx
    rcases hx with hx | hx | hx
    · exact Nat.lt_of_le_of_lt (h.last x (.inl hx)) (beyond y hy)
    · exact take_lt_drop h.drained.sorted ((mem x).mp hx).1 hy
    · exact Nat.lt_of_le_of_lt (h.last x (.inr hx)) (beyond y hy)

/-- What stands behind a place at which nothing earlier than an occurrence stands. -/
theorem beyond_place (h : Drained n w) (here : ∀ x, (w.numbers n)[i]? = some x → o ≤ x) {y : Nat}
    (hy : y ∈ (w.numbers n).drop (i + 1)) : o < y := by
  obtain ⟨j, after, hj⟩ := mem_drop_place hy
  have bound : i < (w.numbers n).length := Nat.lt_trans after (List.getElem?_eq_some_iff.mp hj).1
  have found : (w.numbers n)[i]? = some (w.numbers n)[i] := List.getElem?_eq_getElem bound
  exact Nat.lt_of_le_of_lt (here _ found) (lt_of_place_lt h.sorted found hj after)

/-- A run removes what stands at its place. -/
theorem Tried.used (h : Tried n run o start w) (here : ∀ x, (w.numbers n)[i]? = some x → o ≤ x) :
    Tried n run o start ((w.withoutPatch n i).noted (.used n run o (w.numbers n)[i]?)) := by
  have hrun : (Deed.used n run o (w.numbers n)[i]?).run? n = some run := if_pos rfl
  have fewer : ∀ x ∈ (w.withoutPatch n i).numbers n, x ∈ w.numbers n := fun x hx =>
    List.mem_of_mem_eraseIdx (withoutPatch_numbers w n i ▸ hx)
  have removed : Loses n start (w.withoutPatch n i) := ⟨h.since.history, fun x hx => h.since.kept x (fewer x hx)⟩
  exact {
    drained := h.drained.used h.begun h.going here
    since := removed.noted hrun h.late
    late := h.late
    begun := Nat.lt_succ_of_lt h.begun
    going := not_ended_noted h.going nofun
    apart := h.apart
    behind := fun x hx => h.behind x (fewer x hx)
    last := h.last }

/-! ## Turns and runs -/

theorem endTurn_ends {w' : World κ} {o : Occurrence} (h : Running n run i start w)
    (here : (w.numbers n)[i]? = some o.number) (drained : Drained n w') (since : Loses n w w') (contributed : Bool) :
    (endTurn n run i o contributed).Ends w' (fun next v => Running n run next start v) (Safe n start) := by
  have here' : ∀ x, (w'.numbers n)[i]? = some x → o.number ≤ x := fun x => since.place_ge h.drained drained here
  have tried := h.tried here drained since
  refine Ends.modify_bind ?_
  split
  · have used := tried.used here'
    refine Ends.modifyGet_bind ?_
    split
    · refine Ends.modify_bind (used.moved i fun y hy => beyond_place drained here' ?_)
      refine mem_drop_eraseIdx ?_
      rw [← withoutPatch_numbers]
      exact hy
    · exact used.safe
  · exact Ends.modify_bind (tried.moved (i + 1) fun y hy => beyond_place drained here' hy)

section

variable {call : Caller κ} (hc : call.Keeps (Drains n)) (s : Setup)
include hc

theorem takeTurn_ends {o : Occurrence} (h : Running n run i start w) (here : (w.numbers n)[i]? = some o.number)
    (p : Progress) :
    (takeTurn call s n run i o p).Ends w (fun next v => Running n run next.1 start v) (Safe n start) := by
  have kept : Drained n _ ∧ Loses n w _ :=
    ((tryPatch call s o.patch p : Calling call _).within w).keeps Beside.drains hc h.drained
  have tried : ((tryPatch call s o.patch p : Calling call _).run).Ends w
      (fun _ v => Drained n v ∧ Loses n w v) (Safe n start) :=
    ends_of_after (P := fun v => Drained n v ∧ Loses n w v) kept (fun _ _ hv => hv)
      fun v hv => ⟨hv.1, h.since.trans hv.2⟩
  refine Ends.bind tried fun result v hv => ?_
  exact Ends.bind (endTurn_ends h here hv.1 hv.2 _) fun next u hu => hu

/-- What the run has seen stays before its place, whatever the runs inside it remove. -/
theorem tryPatches_ends : (fuel i : Nat) → (p : Progress) → (w : World κ) → Running n run i start w →
    (tryPatches call s n run fuel i p).Ends w (fun _ => Safe n start) (Safe n start)
  | 0, _, _, _, h => h.safe
  | fuel + 1, i, p, w, h => by
      refine Ends.get_bind ?_
      split
      · next none =>
          refine Ends.modify_bind ⟨?_, h.since.noted (if_pos rfl) h.late⟩
          refine h.drained.noted (if_pos rfl) h.begun h.going rfl fun present is => ?_
          cases is
          refine ⟨fun x hx => h.passed x ?_, h.apart⟩
          rw [World.numbers, ← List.map_take, List.take_of_length_le (List.getElem?_eq_none_iff.mp none)]
          exact hx
      · next o found =>
          have here : (w.numbers n)[i]? = some o.number := by
            rw [World.numbers, List.getElem?_map, found]
            rfl
          exact Ends.bind (takeTurn_ends hc s h here p) fun next v hv => tryPatches_ends fuel next.1 next.2 v hv

end

theorem began_running (hw : Drained n w) : Running n w.history.length 0 w (w.noted (.began n)) := by
  have since := (Apart.noted (n := n) w (d := .began n) rfl).drains hw
  have others : ∀ d ∈ (w.noted (.began n)).history, d.run? n ≠ some w.history.length := by
    intro d hd same
    rcases List.mem_cons.mp hd with rfl | hd
    · cases same
    · exact Nat.lt_irrefl _ (hw.begun d hd _ same)
  have untried : triedBy n w.history.length (w.noted (.began n)).history = [] :=
    List.filterMap_eq_nil_iff.mpr fun d hd => Deed.tried?_of_run (others d hd)
  have unskipped : skippedBy n w.history.length (w.noted (.began n)).history = [] :=
    List.flatMap_eq_nil_iff.mpr fun d hd => Deed.skips_of_run (others d hd)
  have unseen : ∀ x, ¬Seen n w.history.length (w.noted (.began n)) x := fun x seen => by
    rw [Seen, untried, unskipped] at seen
    exact seen.elim List.not_mem_nil List.not_mem_nil
  exact {
    drained := since.1
    since := since.2
    late := Nat.le_refl _
    begun := Nat.lt_succ_self _
    going := fun present there => others _ there (if_pos rfl)
    apart := fun x hx => absurd hx (unskipped ▸ List.not_mem_nil)
    passed := fun x hx => absurd hx List.not_mem_nil
    ahead := fun x seen => absurd seen (unseen x) }

theorem runPatches_drains {call : Caller κ} (hc : call.Keeps (Drains n)) (s : Setup) (m : Nat) (p : Progress) :
    ∀ w, Drains n w ((runPatches call s m p).after w) := by
  by_cases other : m ≠ n
  · refine runPatches_within Beside.drains hc (fun d hd _ _ _ w => (Apart.noted w ?_).drains)
      (fun run o i w => Lasting.trans (Apart.modified w _ other).drains (Apart.noted _ ?_).drains) s p
    · exact Deed.run?_of_registry (hd ▸ other)
    · exact Deed.run?_of_registry other
  · rw [ne_eq, Decidable.not_not] at other
    subst other
    intro w hw
    have whole : (runPatches call s m p).Ends w (fun _ => Safe m w) (Safe m w) :=
      Ends.get_bind (Ends.modifyGet_bind (tryPatches_ends hc s _ 0 p _ (began_running hw)))
    exact whole.after

theorem addOccurrence_numbers (n : Nat) (p : Patch) (w : World κ) :
    ((addOccurrence n p : Run κ Unit).after w).numbers n = w.numbers n ∨
      ((addOccurrence n p : Run κ Unit).after w).numbers n = w.numbers n ++ [w.history.length] := by
  rcases w.modifyRegistry_registry n n fun r => { r with patches := r.patches ++ [⟨w.history.length, p⟩] } with
    h | ⟨_, h⟩
  · exact .inl (congrArg (fun r => r.patches.map (·.number)) h)
  · exact .inr ((congrArg (fun r => r.patches.map (·.number)) h).trans List.map_append)

/-- An occurrence that comes in is later than all others. -/
theorem addOccurrence_drains (n : Nat) (p : Patch) (w : World κ) :
    Drains n w ((addOccurrence n p : Run κ Unit).after w) := by
  intro hw
  have noted : Drained n (w.noted (.registered n)) ∧ Loses n w (w.noted (.registered n)) :=
    (Apart.noted w rfl).drains hw
  have numbers := addOccurrence_numbers n p w
  have mem : ∀ x ∈ ((addOccurrence n p : Run κ Unit).after w).numbers n,
      x ∈ w.numbers n ∨ x = w.history.length := by
    intro x hx
    rcases numbers with same | more
    · exact .inl (same ▸ hx)
    · exact (List.mem_append.mp (more ▸ hx)).imp_right List.mem_singleton.mp
  refine ⟨{ noted.1 with sorted := ?_, made := ?_, gone := ?_ }, { noted.2 with kept := ?_ }⟩
  · rcases numbers with same | more
    · exact same ▸ hw.sorted
    · rw [more]
      refine List.pairwise_append.mpr ⟨hw.sorted, List.pairwise_singleton _ _, fun x hx y hy => ?_⟩
      exact List.mem_singleton.mp hy ▸ hw.made x hx
  · intro x hx
    rcases mem x hx with old | rfl
    · exact noted.1.made x old
    · exact Nat.lt_succ_self _
  · intro u hu x taken
    refine ⟨fun there => ?_, (noted.1.gone u hu x taken).2⟩
    rcases mem x there with old | rfl
    · exact (hw.gone u hu x taken).1 old
    · exact Nat.lt_irrefl _ (hw.gone u hu _ taken).2
  · intro x hx old
    rcases mem x hx with there | rfl
    · exact there
    · exact absurd old (Nat.lt_irrefl _)

theorem registerPatch_drains (m : Nat) (p : Patch) : ∀ w : World κ, Drains n w ((registerPatch m p).after w) := by
  refine bind_within (fun w => ?_) fun _ w => (Quiet.beside ((reportRegistered p : Quietly κ Unit).within w)).drains
  by_cases other : m ≠ n
  · exact Lasting.trans (Apart.modified w _ other).drains (Apart.noted _ rfl).drains
  · rw [ne_eq, Decidable.not_not] at other
    exact other ▸ addOccurrence_drains m p w

theorem drains_nests : Nests (Drains (κ := κ) n) := by
  intro call hc α o
  cases o with
  | register m p => exact registerPatch_drains m p
  | waitFor m filter callback => exact waitFor_keeps (fun h => h.apart.drains) hc m filter callback
  | fire m exports id => exact fireSubscriptions_keeps (fun h => h.apart.drains) hc m exports id
  | patch s m p => exact runPatches_drains hc s m p
  | announce m runtime =>
      exact runBeforeInit_within Beside.drains hc (fun _ _ hd w => (Apart.noted w (Deed.run?_of_start hd)).drains)
        runtime

theorem start_drained (environment : Environment) (host : κ) : Drained n (World.start environment host) := by
  have none : (World.start environment host).numbers n = [] := by
    rw [World.numbers, World.start_registry]
    rfl
  constructor
  · exact none ▸ .nil
  · exact fun x hx => absurd hx (none ▸ List.not_mem_nil)
  · exact fun u hu => absurd hu List.not_mem_nil
  · exact fun u hu => absurd hu List.not_mem_nil
  · exact List.nodup_nil
  · exact fun d hd => absurd hd List.not_mem_nil
  · exact fun run present there => absurd there List.not_mem_nil

theorem World.Reached.drained {outside : Surroundings κ} (h : w.Reached outside) : Drained n w := by
  obtain ⟨environment, host, acts⟩ := h
  exact (acts.nested drains_nests (start_drained environment host)).1

/-! ## Single use -/

/-- If only what contributed was removed, then each was removed for itself. The last one that was not would
have to be removed for an earlier one, and for itself as well. -/
theorem SingleUse.own (promised : SingleUse n w.history) (h : Drained n w) :
    ∀ u ∈ uses n w.history, u.2 = some u.1 := by
  have later : ∀ k, ∀ u ∈ uses n w.history, w.history.length ≤ u.1 + k → u.2 = some u.1 := by
    intro k
    induction k with
    | zero =>
        intro u hu bound
        obtain ⟨x, taken⟩ := Option.ne_none_iff_exists'.mp (promised.found u hu)
        have before : u.1 < w.history.length := Nat.lt_of_le_of_lt (h.behind u hu x taken) (h.gone u hu x taken).2
        exact absurd bound (Nat.not_le_of_lt before)
    | succ k ih =>
        intro u hu bound
        obtain ⟨x, taken⟩ := Option.ne_none_iff_exists'.mp (promised.found u hu)
        rcases Nat.lt_or_eq_of_le (h.behind u hu x taken) with after | same
        · obtain ⟨v, hv, rfl⟩ := List.mem_map.mp (promised.contributed u hu x taken)
          have itself : v.2 = some v.1 := ih v hv (by omega)
          exact absurd (h.taken_once hu hv taken itself ▸ after) (Nat.lt_irrefl _)
        · rw [taken, same]
  exact fun u hu => later w.history.length u hu (Nat.le_add_left _ _)

/-- Whatever predicates, replacements and recompiled texts do: patches are used once, for what contributed, and none
is left out, exactly if every occurrence that contributes is still at the place of its run, and what a run goes past
before its turn is gone at the end. -/
theorem World.Reached.single_use_iff {outside : Surroundings κ} (h : w.Reached outside) (n : Nat) :
    SingleUse n w.history ↔ InPlace n w.history := by
  have drained : Drained n w := h.drained
  constructor
  · intro promised
    refine ⟨promised.own drained, fun run present there x skipped left => ?_⟩
    exact (drained.ended run present there).2 x skipped (promised.others run present there x left)
  · intro inPlace
    have same : (uses n w.history).filterMap (·.2) = (uses n w.history).map (·.1) := by
      rw [← List.filterMap_eq_map]
      exact List.filterMap_congr inPlace.own
    refine ⟨same ▸ drained.single, fun u hu x taken => ?_, fun u hu => ?_, fun run present there x left => ?_⟩
    · rw [inPlace.own u hu] at taken
      cases taken
      exact List.mem_map_of_mem hu
    · rw [inPlace.own u hu]
      nofun
    · rcases (drained.ended run present there).1 x left with tried | skipped
      · exact tried
      · exact absurd left (inPlace.passed run present there x skipped)

/-! ## A patch that is used twice -/

/-- A patch for all modules with some text in them. -/
def patchFor (text : String) (predicate : Value) : Patch :=
  { owner := .str "p", find := .str text, rules := [.rule ⟨.str "1", .str "2", .none, .int 0⟩], predicate
    group := false, applyToAll := false, quiet := true }

/-- Patches a module by its text. -/
def patchText (id : String) : Operation Bool Progress :=
  .patch ⟨.str id, none, false, 20⟩ 1 ⟨.none, "def a(): 1", []⟩

/-- A predicate that reads another module the first time, if it reads any. -/
def readingOnce : Surroundings Bool := fun call _ _ => do
  if (← world).host then
    modifyHost fun _ => false
    let _ ← carryOut call (patchText "inner")
  pure (.bool true)

/-- The world in which a module has been patched, with two patches registered. The predicate of the first one may read
another module. -/
def patchedOnce (reads : Bool) : World Bool :=
  World.furnished [] reads [.external 0 "predicate"]
    |>.doing readingOnce (.register 1 (patchFor "a" (.ref (World.start [] ()).heap.size)))
    |>.doing readingOnce (.register 1 (patchFor "absent" .none))
    |>.doing readingOnce (patchText "outer")

theorem patchedOnce_reached (reads : Bool) : (patchedOnce reads).Reached readingOnce :=
  (((World.Reached.furnished _ _ _).doing _).doing _).doing _

theorem single_use_without_reading :
    (patchedOnce false).Reached readingOnce ∧ SingleUse 1 (patchedOnce false).history := by
  refine ⟨patchedOnce_reached false, ((patchedOnce_reached false).single_use_iff 1).mpr ⟨by decide +kernel, ?_⟩⟩
  have history : (patchedOnce false).history =
      [.ended 1 2 [1], .moved 1 2 [], .tried 1 2 1, .moved 1 2 [], .used 1 2 0 (some 0), .tried 1 2 0, .began 1,
        .registered 1, .registered 1] := by decide +kernel
  rw [history]
  intro run present _ x skipped
  simp [skippedBy, Deed.skips] at skipped

/-- The run inside uses the first patch, the one outside uses it again and removes the second one. -/
theorem used_twice_by_reading :
    (patchedOnce true).Reached readingOnce ∧ ¬ SingleUse 1 (patchedOnce true).history :=
  ⟨patchedOnce_reached true, fun promised => absurd promised.once (by decide +kernel)⟩

end Patchwork
