import Patchwork.Proofs.Group

/-!
Runs over the patches of a registry, trial by trial. A run tries one patch after the other on what the ones before it
left, and a patch tries its rules in the same way.
-/

namespace Patchwork

open Run

variable {κ : Type} {call : Caller κ} {s : Setup} {patch : Patch} {n run i j : Nat} {p q start : Progress}
  {u v w : World κ}

/-- A patch or a rule that has had its turn: what it was tried on, how that ended, and what it left. -/
structure Trial (κ ι ρ : Type) where
  subject : ι
  before : Progress
  world : World κ
  outcome : ρ
  after : Progress
  left : World κ

abbrev RuleTrial (κ : Type) := Trial κ RuleItem RuleOutcome

/-- The outcome says whether the patch contributed. -/
abbrev PatchTrial (κ : Type) := Trial κ Occurrence Bool

/-! ## Rules -/

def RuleOutcome.isApplied : RuleOutcome → Bool
  | applied => true
  | _ => false

/-- Whether a rule that ended so takes back all rules of its patch. -/
def Patch.undoneBy (patch : Patch) : RuleOutcome → Bool
  | .noEffect | .failed _ => patch.group
  | _ => false

/-- The first of some rules have had their turns, and none took back the others. -/
inductive RuleTrials (call : Caller κ) (s : Setup) (patch : Patch) :
    List RuleItem → Progress → World κ → List (RuleTrial κ) → List RuleItem → Progress → World κ → Prop where
  | nil {items : List RuleItem} {p : Progress} {w : World κ} : RuleTrials call s patch items p w [] items p w
  | cons {item : RuleItem} {items rest : List RuleItem} {p q r : Progress} {w u v : World κ} {outcome : RuleOutcome}
      {ts : List (RuleTrial κ)} :
      (applyRule call s patch item p : Calling call _).run w = .ok (q, outcome) u → patch.undoneBy outcome = false →
      RuleTrials call s patch items q u ts rest r v →
      RuleTrials call s patch (item :: items) p w (⟨item, p, w, outcome, q, u⟩ :: ts) rest r v

section

variable {item : RuleItem} {items rest : List RuleItem} {outcome : RuleOutcome} {contributed c : Bool}

theorem applyRules_next (one : (applyRule call s patch item p : Calling call _).run w = .ok (q, outcome) u)
    (kept : patch.undoneBy outcome = false) :
    (applyRules call s patch start contributed p (item :: rest) : Calling call _).run w =
      (applyRules call s patch start (contributed || outcome.isApplied) q rest : Calling call _).run u := by
  refine (bind_of_ok one).trans ?_
  cases outcome with
  | skipped => simp only [RuleOutcome.isApplied, Bool.or_false]
  | applied => simp only [RuleOutcome.isApplied, Bool.or_true]
  | noEffect =>
      have single : patch.group = false := kept
      simp only [RuleOutcome.isApplied, Bool.or_false, single]
  | failed c =>
      have single : patch.group = false := kept
      simp only [RuleOutcome.isApplied, Bool.or_false, single]

theorem applyRules_undone (one : (applyRule call s patch item p : Calling call _).run w = .ok (q, outcome) u)
    (undone : patch.undoneBy outcome = true) :
    (applyRules call s patch start contributed p (item :: rest) : Calling call _).run w = .ok (start, false) u := by
  refine (bind_of_ok one).trans ?_
  cases outcome with
  | skipped => cases undone
  | applied => cases undone
  | noEffect =>
      have group : patch.group = true := undone
      simp only [group]
      rfl
  | failed c =>
      have group : patch.group = true := undone
      simp only [group]
      rfl

/-- Rules that have had their turns need not be applied again. -/
theorem RuleTrials.resume {ts : List (RuleTrial κ)} (h : RuleTrials call s patch items p w ts rest q v) :
    ∀ contributed, (applyRules call s patch start contributed p items : Calling call _).run w =
      (applyRules call s patch start (contributed || ts.any (·.outcome.isApplied)) q rest : Calling call _).run v := by
  induction h with
  | nil => intro contributed; rw [List.any_nil, Bool.or_false]
  | cons one kept _ ih => intro contributed; rw [applyRules_next one kept, ih, List.any_cons, Bool.or_assoc]

/-- All rules have had their turns, or one took back the others. -/
theorem applyRules_ok : {items : List RuleItem} → {contributed : Bool} → {p : Progress} → {w : World κ} →
    (applyRules call s patch start contributed p items : Calling call _).run w = .ok (q, c) v →
    (∃ ts, RuleTrials call s patch items p w ts [] q v ∧ c = (contributed || ts.any (·.outcome.isApplied))) ∨
      q = start ∧ c = false
  | [], contributed, p, w, h => by
      cases h
      exact .inl ⟨[], .nil, (Bool.or_false _).symm⟩
  | item :: rest, contributed, p, w, h => by
      obtain ⟨⟨r, outcome⟩, u, one, -⟩ := bind_ok.mp h
      cases kept : patch.undoneBy outcome with
      | true =>
          rw [applyRules_undone one kept] at h
          cases h
          exact .inr ⟨rfl, rfl⟩
      | false =>
          rw [applyRules_next one kept] at h
          rcases applyRules_ok h with ⟨ts, trials, same⟩ | undone
          · exact .inl ⟨_, .cons one kept trials, by rw [same, List.any_cons, Bool.or_assoc]⟩
          · exact .inr undone

/-- Rules fail where one of them does. -/
theorem applyRules_error {e : Fault} : {items : List RuleItem} → {contributed : Bool} → {p : Progress} →
    {w : World κ} → (applyRules call s patch start contributed p items : Calling call _).run w = .error e v →
    ∃ ts item rest q u, RuleTrials call s patch items p w ts (item :: rest) q u ∧
      (applyRule call s patch item q : Calling call _).run u = .error e v
  | [], _, _, _, h => by cases h
  | item :: rest, contributed, p, w, h => by
      rcases bind_error.mp h with one | ⟨⟨q, outcome⟩, u, one, -⟩
      · exact ⟨[], item, rest, p, w, .nil, one⟩
      · cases kept : patch.undoneBy outcome with
        | true =>
            rw [applyRules_undone one kept] at h
            cases h
        | false =>
            rw [applyRules_next one kept] at h
            obtain ⟨ts, item', rest', r, u', trials, failed⟩ := applyRules_error h
            exact ⟨_, item', rest', r, u', .cons one kept trials, failed⟩

end

/-! ## Patches -/

/-- A patch is selected, all of its rules have their turns without one that takes back the others, and at least one of
them rewrites the text. -/
def Contributes (call : Caller κ) (s : Setup) (patch : Patch) (p : Progress) (w : World κ) (q : Progress)
    (v : World κ) : Prop :=
  ∃ u ts, Selects call patch p w u ∧ RuleTrials call s patch patch.rules p u ts [] q v ∧
    ∃ t ∈ ts, t.outcome.isApplied = true

theorem tryPatch_selected (selects : Selects call patch p w u) :
    (tryPatch call s patch p : Calling call _).run w =
      ((applyRules call s patch p false p patch.rules >>= fun result =>
        pure (if result.2 then result.1 else { result.1 with owners := p.owners }, result.2) :
          Calling call _)).run u := by
  obtain ⟨u₁, m, asked, read, found⟩ := selects
  refine (bind_of_ok asked).trans ?_
  refine (bind_of_ok read).trans ?_
  simp only [found, Bool.not_true, Bool.false_eq_true, ↓reduceIte]

/-- A rule that does not rewrite the text leaves it. -/
theorem applyRule_leaves {item : RuleItem} {outcome : RuleOutcome}
    (h : (applyRule call s patch item p : Calling call _).run w = .ok (q, outcome) v)
    (other : outcome.isApplied = false) : Leaves call patch p q := by
  obtain ⟨r, rfl, ⟨-, rfl, -⟩ | ⟨u, -, -, -, leaves⟩⟩ := applyRule_ok h
  · exact ⟨rfl, rfl, .inl rfl⟩
  · refine leaves ?_
    rintro rfl
    cases other

theorem RuleTrials.leaves {items rest : List RuleItem} {ts : List (RuleTrial κ)}
    (h : RuleTrials call s patch items p w ts rest q v) (none : ts.any (·.outcome.isApplied) = false) :
    q.current = p.current ∧ q.code = p.code := by
  induction h with
  | nil => exact ⟨rfl, rfl⟩
  | cons one _ _ ih =>
      rw [List.any_cons, Bool.or_eq_false_iff] at none
      obtain ⟨current, code, -⟩ := applyRule_leaves one none.1
      obtain ⟨current', code'⟩ := ih none.2
      exact ⟨current'.trans current, code'.trans code⟩

/-- Trying a patch ends in a contribution, or with what there was before. -/
theorem tryPatch_ok {c : Bool} (h : (tryPatch call s patch p : Calling call _).run w = .ok (q, c) v) :
    (c = true ∧ Contributes call s patch p w q v) ∨ (c = false ∧ q = p) := by
  obtain ⟨holds, u, asked, after⟩ := bind_ok.mp h
  cases holds with
  | false => cases after; exact .inr ⟨rfl, rfl⟩
  | true =>
      obtain ⟨m, u', read, after⟩ := bind_ok.mp after
      cases found : m.isIn p.code.toList with
      | false =>
          simp only [found] at after
          cases after
          exact .inr ⟨rfl, rfl⟩
      | true =>
          have selects : Selects call patch p w u' := ⟨u, m, asked, read, found⟩
          rw [tryPatch_selected selects] at h
          obtain ⟨⟨r, d⟩, v', applied, after⟩ := bind_ok.mp h
          cases after
          rcases applyRules_ok applied with ⟨ts, trials, rfl⟩ | ⟨rfl, rfl⟩
          · cases any : ts.any (·.outcome.isApplied) with
            | true => exact .inl ⟨rfl, u', ts, selects, trials, List.any_eq_true.mp any⟩
            | false =>
                obtain ⟨current, code⟩ := trials.leaves any
                refine .inr ⟨rfl, ?_⟩
                simp only [Bool.false_or, Bool.false_eq_true, ↓reduceIte, current, code]
          · exact .inr ⟨rfl, rfl⟩

theorem Contributes.tried (h : Contributes call s patch p w q v) :
    (tryPatch call s patch p : Calling call _).run w = .ok (q, true) v := by
  obtain ⟨u, ts, selects, trials, applied⟩ := h
  have all : (applyRules call s patch p false p patch.rules : Calling call _).run u = .ok (q, true) v := by
    rw [trials.resume false, List.any_eq_true.mpr applied]
    rfl
  rw [tryPatch_selected selects]
  exact bind_of_ok all

/-- What a trial says is whether the patch contributed. -/
theorem contributed_iff {c : Bool} (h : (tryPatch call s patch p : Calling call _).run w = .ok (q, c) v) :
    c = true ↔ Contributes call s patch p w q v := by
  constructor
  · rintro rfl
    rcases tryPatch_ok h with ⟨-, contributes⟩ | ⟨no, -⟩
    · exact contributes
    · cases no
  · intro contributes
    rw [contributes.tried] at h
    cases h
    rfl

/-! ## Runs -/

/-- A run has tried patches one after the other, from one place in the registry to another. -/
inductive PatchTrials (call : Caller κ) (s : Setup) (n run : Nat) :
    Nat → Progress → World κ → List (PatchTrial κ) → Nat → Progress → World κ → Prop where
  | nil {i : Nat} {p : Progress} {w : World κ} : PatchTrials call s n run i p w [] i p w
  | cons {i j k : Nat} {p q r : Progress} {w u v x : World κ} {o : Occurrence} {c : Bool} {ts : List (PatchTrial κ)} :
      (w.registry n).patches[i]? = some o → (tryPatch call s o.patch p : Calling call _).run w = .ok (q, c) u →
      endTurn n run i o c u = .ok j v → PatchTrials call s n run j q v ts k r x →
      PatchTrials call s n run i p w (⟨o, p, w, c, q, u⟩ :: ts) k r x

/-- How a run ends that goes no further. -/
inductive Stops (call : Caller κ) (s : Setup) (n run fuel i : Nat) (p : Progress) (w : World κ) :
    EStateM.Result Fault (World κ) Progress → Prop where
  | ended : 0 < fuel → (w.registry n).patches[i]? = none →
      Stops call s n run fuel i p w (.ok p (w.noted (.ended n run (w.numbers n))))
  | failed {o : Occurrence} {e : Fault} {v : World κ} : 0 < fuel → (w.registry n).patches[i]? = some o →
      takeTurn call s n run i o p w = .error e v → Stops call s n run fuel i p w (.error e v)
  | exhausted : fuel = 0 → Stops call s n run fuel i p w (.error .exhausted w)

theorem tryPatches_none {fuel : Nat} (h : (w.registry n).patches[i]? = none) :
    tryPatches call s n run (fuel + 1) i p w = .ok p (w.noted (.ended n run (w.numbers n))) := by
  have seen : (get : Run κ (World κ)) w = .ok w w := rfl
  rw [tryPatches, bind_of_ok seen, h]
  rfl

theorem tryPatches_some {fuel : Nat} {o : Occurrence} (h : (w.registry n).patches[i]? = some o) :
    tryPatches call s n run (fuel + 1) i p w =
      (takeTurn call s n run i o p >>= fun next => tryPatches call s n run fuel next.1 next.2) w := by
  have seen : (get : Run κ (World κ)) w = .ok w w := rfl
  rw [tryPatches, bind_of_ok seen, h]

theorem takeTurn_ok {o : Occurrence} {c : Bool}
    (tried : (tryPatch call s o.patch p : Calling call _).run w = .ok (q, c) u)
    (ended : endTurn n run i o c u = .ok j v) : takeTurn call s n run i o p w = .ok (j, q) v := by
  refine (bind_of_ok tried).trans ?_
  exact bind_of_ok ended

/-- What a run has tried need not be tried again. -/
theorem PatchTrials.resume {ts : List (PatchTrial κ)} (h : PatchTrials call s n run i p w ts j q v) (fuel : Nat) :
    tryPatches call s n run (ts.length + fuel) i p w = tryPatches call s n run fuel j q v := by
  induction h with
  | nil => rw [List.length_nil, Nat.zero_add]
  | cons here tried ended _ ih =>
      rw [List.length_cons, Nat.add_right_comm, tryPatches_some here, bind_of_ok (takeTurn_ok tried ended)]
      exact ih

/-- A run is made of trials, up to where it goes no further. -/
theorem tryPatches_trials : (fuel i : Nat) → (p : Progress) → (w : World κ) →
    ∃ ts j q v, PatchTrials call s n run i p w ts j q v ∧ ts.length ≤ fuel ∧
      Stops call s n run (fuel - ts.length) j q v (tryPatches call s n run fuel i p w)
  | 0, i, p, w => ⟨[], i, p, w, .nil, Nat.le_refl 0, .exhausted rfl⟩
  | fuel + 1, i, p, w => by
      cases here : (w.registry n).patches[i]? with
      | none => exact ⟨[], i, p, w, .nil, Nat.zero_le _, tryPatches_none here ▸ .ended (Nat.succ_pos _) here⟩
      | some o =>
          rw [tryPatches_some here]
          cases turn : takeTurn call s n run i o p w with
          | error e v =>
              refine ⟨[], i, p, w, .nil, Nat.zero_le _, ?_⟩
              rw [bind_of_error turn]
              exact .failed (Nat.succ_pos _) here turn
          | ok next v =>
              obtain ⟨⟨q, c⟩, u, tried, after⟩ := bind_ok.mp turn
              obtain ⟨j, v', ended, after⟩ := bind_ok.mp after
              cases after
              obtain ⟨ts, k, r, x, trials, bound, stops⟩ := tryPatches_trials fuel j q v
              refine ⟨_, k, r, x, .cons here tried ended trials, Nat.succ_le_succ bound, ?_⟩
              rw [bind_of_ok turn, List.length_cons, Nat.add_sub_add_right]
              exact stops

theorem runPatches_eq (w : World κ) :
    runPatches call s n p w =
      tryPatches call s n w.history.length ((w.registry n).patches.length + extraPatches) 0 p (w.noted (.began n)) := by
  have seen : (get : Run κ (World κ)) w = .ok w w := rfl
  have began : beginRun n w = .ok w.history.length (w.noted (.began n)) := rfl
  rw [runPatches, bind_of_ok seen, bind_of_ok began]

/-- Where the run over the patches of a registry stands. -/
abbrev Tries (call : Caller κ) (s : Setup) (n : Nat) (p : Progress) (w : World κ) (ts : List (PatchTrial κ)) (j : Nat)
    (q : Progress) (v : World κ) : Prop :=
  PatchTrials call s n w.history.length 0 p (w.noted (.began n)) ts j q v

/-- The run over the patches of a registry is made of trials, of which there are no more than the fuel allows. -/
theorem runPatches_trials (call : Caller κ) (s : Setup) (n : Nat) (p : Progress) (w : World κ) :
    ∃ ts j q v, Tries call s n p w ts j q v ∧
      Stops call s n w.history.length ((w.registry n).patches.length + extraPatches - ts.length) j q v
        (runPatches call s n p w) := by
  obtain ⟨ts, j, q, v, trials, -, stops⟩ := tryPatches_trials _ 0 p (w.noted (.began n))
  exact ⟨ts, j, q, v, trials, runPatches_eq w ▸ stops⟩

end Patchwork
