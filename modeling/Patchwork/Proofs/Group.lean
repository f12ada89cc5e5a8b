import Patchwork.Proofs.Separation

/-!
Groups of rules. A group contributes with all rules whose conditions hold, each on what the one before it left, or it
leaves no trace in what has been reached.
-/

namespace Patchwork

open Run

variable {κ : Type} {call : Caller κ} {s : Setup} {patch : Patch} {r : Rule} {p p' start : Progress} {w w' v : World κ}

/-- A rule changes a text, and the text that it makes can be recompiled with the owner among those that contributed. -/
def Rewrites (call : Caller κ) (s : Setup) (patch : Patch) (r : Rule) (p : Progress) (w : World κ) (p' : Progress)
    (w' : World κ) : Prop :=
  ∃ ready w₁ w₂ w₃,
    (r.ready : Calling call _).run w = .ok ready w₁ ∧
    (ready.apply call p.code : Calling call _).run w₁ = .ok p'.code w₂ ∧ p'.code ≠ p.code ∧
    (addOwner p.owners patch.owner : Calling call _).run w₂ = .ok p'.owners w₃ ∧
    (recompile call p'.code s.id p'.owners s.globals : Calling call _).run w₃ = .ok p'.current w'

/-- A rule leaves factory and text as they are. The owner may count among those that contributed until the patch is
done. -/
def Leaves (call : Caller κ) (patch : Patch) (p p' : Progress) : Prop :=
  p'.current = p.current ∧ p'.code = p.code ∧
    (p'.owners = p.owners ∨
      ∃ w w' : World κ, (addOwner p.owners patch.owner : Calling call _).run w = .ok p'.owners w')

/-- How a condition turns out. -/
def Turns (call : Caller κ) (condition : Value) (w : World κ) (holds : Bool) (w' : World κ) : Prop :=
  (holdsNow call condition : Calling call _).run w = .ok holds w'

/-- All rules whose conditions hold rewrite the text, one after the other. -/
inductive Rewritten (call : Caller κ) (s : Setup) (patch : Patch) :
    List RuleItem → Progress → World κ → Progress → World κ → Prop where
  | nil {p : Progress} {w : World κ} : Rewritten call s patch [] p w p w
  | skipped {r : Rule} {rest : List RuleItem} {p p' : Progress} {w v w' : World κ} :
      Turns call r.predicate w false v → Rewritten call s patch rest p v p' w' →
      Rewritten call s patch (.rule r :: rest) p w p' w'
  | applied {r : Rule} {rest : List RuleItem} {p p₁ p' : Progress} {w u v w' : World κ} :
      Turns call r.predicate w true u → Rewrites call s patch r p u p₁ v →
      Rewritten call s patch rest p₁ v p' w' → Rewritten call s patch (.rule r :: rest) p w p' w'

/-! ## Single rules -/

theorem attempt_ok {outcome : RuleOutcome} {program : Option Pattern.Program} {after : Option String}
    (h : (attempt call s patch r p : Calling call _).run w = .ok (p', outcome, program, after) v) :
    outcome ≠ .skipped ∧ (outcome = .applied → Rewrites call s patch r p w p' v) ∧
      (outcome ≠ .applied → Leaves call patch p p') := by
  have same : Leaves call patch p p := ⟨rfl, rfl, .inl rfl⟩
  simp only [attempt, run_handle] at h
  obtain h | ⟨c, u, -, h⟩ := handle_ok h
  case inr => cases h; exact ⟨nofun, nofun, fun _ => same⟩
  obtain ⟨ready, w₁, canonical, h⟩ := bind_ok.mp h
  simp only [run_handle] at h
  obtain h | ⟨c, u, -, h⟩ := handle_ok h
  case inr => cases h; exact ⟨nofun, nofun, fun _ => same⟩
  obtain ⟨code, w₂, rewritten, h⟩ := bind_ok.mp h
  dsimp only at h
  split at h
  · cases h; exact ⟨nofun, nofun, fun _ => same⟩
  next changed =>
  simp only [run_handle] at h
  obtain h | ⟨c, u, -, h⟩ := handle_ok h
  case inr => cases h; exact ⟨nofun, nofun, fun _ => same⟩
  obtain ⟨owners, w₃, owned, h⟩ := bind_ok.mp h
  simp only [run_handle] at h
  obtain h | ⟨c, u, -, h⟩ := handle_ok h
  case inr => cases h; exact ⟨nofun, nofun, fun _ => ⟨rfl, rfl, .inr ⟨w₂, w₃, owned⟩⟩⟩
  obtain ⟨current, w₄, recompiled, h⟩ := bind_ok.mp h
  cases h
  refine ⟨nofun, fun _ => ⟨ready, w₁, w₂, w₃, canonical, rewritten, changed, owned, ?_⟩, fun other => absurd rfl other⟩
  dsimp only
  exact recompiled

theorem report_applied {before : String} {program : Option Pattern.Program} {after : Option String} :
    (report s patch r before .applied program after : Calling call _).run w = .ok () w :=
  rfl

theorem condition_other {x : Value} (c : Value) :
    (RuleItem.condition (.other x) : Calling call _).run w ≠ .ok c v := by
  intro h
  cases h

/-- A rule whose turn is over without a failure: it was passed over, it rewrote the text, or it did neither. -/
theorem applyRule_ok {item : RuleItem} {outcome : RuleOutcome}
    (h : (applyRule call s patch item p : Calling call _).run w = .ok (p', outcome) v) :
    ∃ r, item = .rule r ∧
      ((outcome = .skipped ∧ p' = p ∧ Turns call r.predicate w false v) ∨
        ∃ u, Turns call r.predicate w true u ∧ outcome ≠ .skipped ∧
          (outcome = .applied → Rewrites call s patch r p u p' v) ∧
          (outcome ≠ .applied → Leaves call patch p p')) := by
  obtain ⟨c, u, asked, h⟩ := bind_ok.mp h
  cases item with
  | other x => exact absurd asked (condition_other c)
  | rule r =>
      cases asked
      refine ⟨r, rfl, ?_⟩
      obtain ⟨holds, u, turned, h⟩ := bind_ok.mp h
      cases holds with
      | false =>
          cases h
          exact .inl ⟨rfl, rfl, turned⟩
      | true =>
          obtain ⟨⟨p₁, outcome₁, program, after⟩, v₁, attempted, h⟩ := bind_ok.mp h
          obtain ⟨_, v₂, reported, h⟩ := bind_ok.mp h
          cases h
          obtain ⟨tried, rewrites, leaves⟩ := attempt_ok attempted
          refine .inr ⟨u, turned, tried, ?_, leaves⟩
          rintro rfl
          rw [report_applied] at reported
          cases reported
          exact rewrites rfl

/-! ## Groups -/

/-- A group ends with all of its rules or where it began. -/
theorem applyRules_group (group : patch.group = true) : {rules : List RuleItem} → {contributed c : Bool} →
    {p : Progress} → {w : World κ} → (contributed = false → p = start) →
    (applyRules call s patch start contributed p rules : Calling call _).run w = .ok (p', c) v →
    (c = true → Rewritten call s patch rules p w p' v) ∧ (c = false → p' = start)
  | [], contributed, c, p, w, unchanged, h => by
      cases h
      exact ⟨fun _ => .nil, unchanged⟩
  | item :: rest, contributed, c, p, w, unchanged, h => by
      obtain ⟨⟨p₁, outcome⟩, u, first, after⟩ := bind_ok.mp h
      obtain ⟨r, rfl, turn⟩ := applyRule_ok first
      simp only [group] at after
      rcases turn with ⟨rfl, rfl, turned⟩ | ⟨u', turned, tried, rewrites, -⟩
      · have rest := applyRules_group group unchanged after
        exact ⟨fun hc => .skipped turned (rest.1 hc), rest.2⟩
      · cases outcome with
        | skipped => exact absurd rfl tried
        | applied =>
            have contributed : true = false → p₁ = start := nofun
            have rest := applyRules_group group contributed after
            exact ⟨fun hc => .applied turned (rewrites rfl) (rest.1 hc), rest.2⟩
        | noEffect =>
            cases after
            exact ⟨nofun, fun _ => rfl⟩
        | failed c =>
            cases after
            exact ⟨nofun, fun _ => rfl⟩

/-! ## The turn of a group -/

/-- A call leaves the patches of a registry as they are. -/
def Call.Spares (call : Caller κ) (n : Nat) (c : Call κ) : Prop :=
  (((call c.callee c.args).after c.world).registry n).patches = (c.world.registry n).patches

theorem Quiet.patches (h : Quiet w w') (n : Nat) : (w'.registry n).patches = (w.registry n).patches := by
  rw [World.registry, World.registry, h.registries]

theorem Path.patches {n : Nat} {calls : List (Call κ)} (path : Path call w calls w')
    (spared : ∀ c ∈ calls, c.Spares call n) : (w'.registry n).patches = (w.registry n).patches := by
  induction path with
  | quiet h => exact h.patches n
  | call h _ ih =>
      have first := spared _ List.mem_cons_self
      rw [ih fun c hc => spared c (List.mem_cons_of_mem _ hc), first, h.patches n]

/-- The condition of a patch holds, and what it looks for is in the text. -/
def Selects (call : Caller κ) (patch : Patch) (p : Progress) (w w' : World κ) : Prop :=
  ∃ u m, Turns call patch.predicate w true u ∧ (Matcher.of patch.find : Calling call _).run u = .ok m w' ∧
    m.isIn p.code.toList = true

theorem tryPatch_group {u : World κ} {c : Bool} (group : patch.group = true) (selects : Selects call patch p w u)
    (h : (tryPatch call s patch p : Calling call _).run w = .ok (p', c) v) :
    (c = true → Rewritten call s patch patch.rules p u p' v) ∧ (c = false → p' = p) := by
  obtain ⟨u₁, m, asked, read, found⟩ := selects
  obtain ⟨holds, u₂, asked', after⟩ := bind_ok.mp h
  rw [Turns, asked'] at asked
  cases asked
  obtain ⟨m', u₃, read', after⟩ := bind_ok.mp after
  rw [read'] at read
  cases read
  simp only [found, Bool.not_true, Bool.false_eq_true, ↓reduceIte] at after
  obtain ⟨⟨p₁, c₁⟩, v₁, applied, after⟩ := bind_ok.mp after
  cases after
  have whole := applyRules_group group (fun _ => rfl) applied
  cases c₁ with
  | true => exact ⟨fun _ => whole.1 rfl, nofun⟩
  | false =>
      refine ⟨nofun, fun _ => ?_⟩
      rw [whole.2 rfl]
      rfl

/-- What has been reached after a patch was tried. -/
abbrev afterTrying (call : Caller κ) (s : Setup) (patch : Patch) (p : Progress) (w : World κ) : World κ :=
  (tryPatch call s patch p : Calling call _).run.after w

/-- A turn from which nothing remains: text, factory and owners are what they were, and so are the patches unless one of
the calls changed them. -/
structure Undone (call : Caller κ) (s : Setup) (n i : Nat) (o : Occurrence) (p : Progress) (w : World κ) (next : Nat)
    (p' : Progress) (w' : World κ) : Prop where
  progress : p' = p
  place : next = i + 1
  reaches : Reaches call w (afterTrying call s o.patch p w)
  patches : ∀ calls, Path call w calls (afterTrying call s o.patch p w) → (∀ c ∈ calls, c.Spares call n) →
    (w'.registry n).patches = (w.registry n).patches

theorem endTurn_unused {n run i next : Nat} {o : Occurrence}
    (h : endTurn n run i o false w = .ok next w') :
    next = i + 1 ∧ (w'.registry n).patches = (w.registry n).patches := by
  cases h
  exact ⟨rfl, rfl⟩

/-- Whatever its rules are and however they end: a group that was selected rewrote the text by all rules whose conditions
held, or nothing remains from its turn. -/
theorem takeTurn_all_or_nothing {n run i next : Nat} {o : Occurrence} {u : World κ} (group : o.patch.group = true)
    (selects : Selects call o.patch p w u) (done : takeTurn call s n run i o p w = .ok (next, p') w') :
    Rewritten call s o.patch o.patch.rules p u p' (afterTrying call s o.patch p w) ∨
      Undone call s n i o p w next p' w' := by
  obtain ⟨⟨p₁, c⟩, v, tried, after⟩ := bind_ok.mp done
  obtain ⟨next', v', ended, after⟩ := bind_ok.mp after
  cases after
  have outcome := tryPatch_group group selects tried
  have same : afterTrying call s o.patch p w = v := after_ok tried
  cases c with
  | true => exact .inl (same ▸ outcome.1 rfl)
  | false =>
      obtain ⟨place, patches⟩ := endTurn_unused ended
      refine .inr ⟨outcome.2 rfl, place, (tryPatch call s o.patch p : Calling call _).within w, ?_⟩
      intro calls path spared
      rw [patches, ← same, path.patches spared]

/-! ## A group that is undone -/

/-- A group of two rules, of which the second one has no effect on what the first one leaves. -/
def groupOfTwo : Occurrence where
  number := 0
  patch :=
    { owner := .str "p", find := .str "a", predicate := .none, group := true, applyToAll := false, quiet := false
      rules := [.rule ⟨.str "1", .str "2", .none, .int 0⟩, .rule ⟨.str "1", .str "3", .none, .int 0⟩] }

def callNothing : Caller Unit :=
  callValue fun _ _ _ => pure .none

def groupSetup : Setup :=
  ⟨.str "m", none, false, 20⟩

def groupStart : Progress :=
  ⟨.none, "def a(): 1", [.str "q"]⟩

theorem takeTurn_all_or_nothing_two : ∃ next p' w',
    takeTurn callNothing groupSetup 1 0 0 groupOfTwo groupStart (World.start [] ()) = .ok (next, p') w' ∧
      (Rewritten callNothing groupSetup groupOfTwo.patch groupOfTwo.patch.rules groupStart (World.start [] ()) p'
          (afterTrying callNothing groupSetup groupOfTwo.patch groupStart (World.start [] ())) ∨
        Undone callNothing groupSetup 1 0 groupOfTwo groupStart (World.start [] ()) next p' w') := by
  have selects : Selects callNothing groupOfTwo.patch groupStart (World.start [] ()) (World.start [] ()) :=
    ⟨_, _, rfl, rfl, by decide +kernel⟩
  have ends : (match takeTurn callNothing groupSetup 1 0 0 groupOfTwo groupStart (World.start [] ()) with
      | .ok _ _ => true
      | .error _ _ => false) = true := by decide +kernel
  cases turn : takeTurn callNothing groupSetup 1 0 0 groupOfTwo groupStart (World.start [] ()) with
  | error e v =>
      rw [turn] at ends
      cases ends
  | ok a v => exact ⟨a.1, a.2, v, rfl, takeTurn_all_or_nothing rfl selects turn⟩

end Patchwork
