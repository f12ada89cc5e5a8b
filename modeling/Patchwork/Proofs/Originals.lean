import Patchwork.Proofs.Draining
import Patchwork.Proofs.PlainRules
import Patchwork.Proofs.PlainTexts

/-!
What patching leaves of the factory that it starts from. However rules end, and in whichever order modules are patched,
the factory and what its globals bind stay what they were, unless a rewritten text or something that is called on the way
changes them itself.
-/

namespace Patchwork

open Run Script

variable {κ : Type} {w v z : World κ}

/-- The owners of the patches in a text, with the owner of another patch. -/
def Joins (call : Caller κ) (owner : Value) (owners owners' : List Value) : Prop :=
  ∃ u v, (addOwner owners owner : Calling call _).run u = .ok owners' v

/-- A rule has this form where it is applied in one of some worlds. -/
def Readies (call : Caller κ) (admits : World κ → Prop) (r : Rule) (ready : ReadyRule) : Prop :=
  ∃ u v, admits u ∧ (r.ready : Calling call _).run u = .ok ready v

namespace Guard

variable {G : Guard κ} {s : Setup} {comes : String → List Value → Prop} {patch : Patch} {p q : Progress}

/-! ## Patches -/

/-- Applying a rule to a text leaves admitted worlds behind. If the text becomes another one, that one comes up as well,
and it spares the factory under the label with any of the owners. -/
structure Tends (G : Guard κ) (id : Value) (comes : String → List Value → Prop) (owner : Value) (ready : ReadyRule)
    (code : String) (owners : List Value) : Prop where
  keeps : G.Keeps (ready.apply G.call code : Calling G.call _).run
  tame : ∀ w v code' owners', G.admits w → (ready.apply G.call code : Calling G.call _).run w = .ok code' v →
    code' ≠ code → Joins G.call owner owners owners' →
      comes code' owners' ∧ ∀ text, G.Labelled id owners' code' text → G.TameText text

/-- What a patch calls leaves admitted worlds behind, and the texts that its rules make spare the factory. -/
structure Harmless (G : Guard κ) (id : Value) (comes : String → List Value → Prop) (patch : Patch) : Prop where
  condition : G.Keeps (holdsNow G.call patch.predicate : Calling G.call _).run
  conditions : ∀ r, .rule r ∈ patch.rules → G.Keeps (holdsNow G.call r.predicate : Calling G.call _).run
  owned : ∀ code owners owners', comes code owners → Joins G.call patch.owner owners owners' → comes code owners'
  rewrites : ∀ r ready, .rule r ∈ patch.rules → Readies G.call G.admits r ready → ∀ code owners, comes code owners →
    G.Tends id comes patch.owner ready code owners

/-- A module has come as far as a text that comes up, in an admitted world. -/
def Stage (G : Guard κ) (comes : String → List Value → Prop) (p : Progress) (w : World κ) : Prop :=
  comes p.code p.owners ∧ G.admits w

section

variable (h : G.Harmless s.id comes patch) (told : s.globals = G.told)
include h told

theorem Harmless.attempt {r : Rule} (mem : .rule r ∈ patch.rules) (stage : G.Stage comes p w) :
    G.admits ((attempt G.call s patch r p : Calling G.call _).run.after w) := by
  simp only [Patchwork.attempt, run_handle]
  refine after_handle ?_ fun _ _ h => h
  refine after_bind (grows stage.2 (Rule.ready_grows r w)) fun ready w₁ readied h₁ => ?_
  have tends := h.rewrites r ready mem ⟨w, w₁, stage.2, readied⟩ _ _ stage.1
  dsimp only
  rw [run_handle]
  refine after_handle ?_ fun _ _ h => h
  refine after_bind (tends.keeps w₁ h₁) fun code w₂ rewrote h₂ => ?_
  dsimp only
  split
  · exact h₂
  next changed =>
  rw [run_handle]
  refine after_handle ?_ fun _ _ h => h
  refine after_bind (grows h₂ (addOwner_grows _ _ w₂)) fun owners w₃ joined h₃ => ?_
  rw [run_handle]
  refine after_handle ?_ fun _ _ h => h
  have tame := (tends.tame w₁ w₂ code owners h₁ rewrote changed ⟨_, _, joined⟩).2
  rw [told]
  exact after_bind (keeps_recompile tame w₃ h₃) fun _ _ _ h => h

/-- A rule leaves an admitted world, and the module as far as a text that comes up. -/
theorem Harmless.applyRule {item : RuleItem} (mem : item ∈ patch.rules) (stage : G.Stage comes p w) :
    (applyRule G.call s patch item p : Calling G.call _).run.Ends w (fun r => G.Stage comes r.1) G.admits := by
  have kept : G.admits ((Patchwork.applyRule G.call s patch item p : Calling G.call _).run.after w) := by
    cases item with
    | other v => exact stage.2
    | rule r =>
        refine (after_bind (h.conditions r mem w stage.2) fun holds u _ h₁ => ?_ :
          G.admits ((holdsNow G.call r.predicate >>= _ : Calling G.call _).run.after w))
        cases holds with
        | false => exact h₁
        | true =>
            refine after_bind (h.attempt told mem ⟨stage.1, h₁⟩) fun result u₁ _ h₂ => ?_
            exact after_bind (grows h₂ (report_grows _ _ _ _ _ _ _ u₁)) fun _ _ _ h => h
  refine ends_of_ok kept fun result u ran h₁ => ⟨?_, h₁⟩
  obtain ⟨r, rfl, ⟨-, same, -⟩ | ⟨u₁, turned, -, rewrites, leaves⟩⟩ := applyRule_ok ran
  · rw [same]
    exact stage.1
  · by_cases applied : result.2 = .applied
    · obtain ⟨ready, w₁, w₂, w₃, readied, rewrote, changed, joined, -⟩ := rewrites applied
      have admitted : G.admits u₁ := after_ok turned ▸ h.conditions r mem w stage.2
      have admitted₁ : G.admits w₁ := after_ok readied ▸ grows admitted (Rule.ready_grows r u₁)
      have tends := h.rewrites r ready mem ⟨u₁, w₁, admitted, readied⟩ _ _ stage.1
      exact (tends.tame w₁ w₂ _ _ admitted₁ rewrote changed ⟨_, _, joined⟩).1
    · obtain ⟨-, code, owners⟩ := leaves applied
      rw [code]
      rcases owners with same | ⟨x, x', joined⟩
      · rw [same]
        exact stage.1
      · exact h.owned _ _ _ stage.1 ⟨x, x', joined⟩

theorem Harmless.applyRules {start : Progress} : (items : List RuleItem) → items ⊆ patch.rules →
    ∀ contributed p w, comes start.code start.owners → G.Stage comes p w →
      (applyRules G.call s patch start contributed p items : Calling G.call _).run.Ends w
        (fun r => G.Stage comes r.1) G.admits
  | [], _ => fun contributed p w _ stage => stage
  | item :: rest, sub => fun contributed p w begin stage => by
      refine Ends.bind (h.applyRule told (sub List.mem_cons_self) stage) fun result v stage' => ?_
      have fewer : rest ⊆ patch.rules := fun i hi => sub (List.mem_cons_of_mem _ hi)
      obtain ⟨q, outcome⟩ := result
      dsimp only
      split
      · exact Harmless.applyRules rest fewer _ _ _ begin stage'
      · exact Harmless.applyRules rest fewer _ _ _ begin stage'
      · exact ⟨begin, stage'.2⟩
      · exact Harmless.applyRules rest fewer _ _ _ begin stage'

theorem Harmless.tryPatch (stage : G.Stage comes p w) :
    (tryPatch G.call s patch p : Calling G.call _).run.Ends w (fun r => G.Stage comes r.1) G.admits := by
  refine Ends.bind (ends_of_ok (h.condition w stage.2) fun holds v _ h₁ => h₁) fun holds v h₁ => ?_
  cases holds with
  | false => exact ⟨stage.1, h₁⟩
  | true =>
      refine Ends.bind (ends_of_ok (grows h₁ (Matcher.of_grows _ v)) fun m u _ h₂ => h₂) fun m u h₂ => ?_
      dsimp only
      split
      · exact ⟨stage.1, h₂⟩
      · refine Ends.bind (h.applyRules told patch.rules (fun _ h => h) false p u stage.1 ⟨stage.1, h₂⟩).ran ?_
        rintro ⟨q, contributed⟩ x ⟨stage', applied⟩
        cases contributed with
        | true => exact stage'
        | false =>
            have code : q.code = p.code := by
              rcases applyRules_ok applied with ⟨ts, trials, none⟩ | ⟨rfl, -⟩
              · exact (trials.leaves (by simpa using none.symm)).2
              · rfl
            refine ⟨?_, stage'.2⟩
            simpa only [Bool.false_eq_true, if_false, code] using stage.1

end

/-! ## Runs -/

/-- Worlds in which the patches of a registry are harmless. -/
def Peaceful (G : Guard κ) (n : Nat) (id : Value) (comes : String → List Value → Prop) : Prop :=
  ∀ w, G.admits w → ∀ o ∈ (w.registry n).patches, G.Harmless id comes o.patch

theorem admits_same (h : G.admits w) (more : UsesUp w v) (same : v.heap = w.heap) : G.admits v :=
  G.usesUp h more (same ▸ G.factory_kept h) (same ▸ G.globals_kept h)

theorem admits_noted (h : G.admits w) (d : Deed) : G.admits (w.noted d) :=
  admits_same h ⟨.refl _, rfl, rfl, rfl, rfl, rfl, fun _ => ⟨_, .refl _, rfl⟩, Nat.le_refl _, fun _ _ => rfl⟩ rfl

theorem admits_withoutPatch (h : G.admits w) (n i : Nat) : G.admits (w.withoutPatch n i) := by
  refine admits_same h ⟨.refl _, rfl, rfl, rfl, rfl, w.modifyRegistry_size n _, fun m => ?_, Nat.le_refl _, fun _ _ => rfl⟩
    rfl
  rcases w.modifyRegistry_registry n m fun r => { r with patches := r.patches.eraseIdx i } with same | ⟨-, fewer⟩
  · exact ⟨_, .refl _, same⟩
  · exact ⟨_, List.eraseIdx_sublist _ i, fewer⟩

/-- What is left behind if there was an admitted world. -/
def Kept (G : Guard κ) (w w' : World κ) : Prop :=
  G.admits w → G.admits w'

instance : Lasting G.Kept where
  refl _ h := h
  trans first second h := second (first h)

theorem admits_endTurn {n run i : Nat} {o : Occurrence} {contributed : Bool} (h : G.admits w) :
    G.admits ((endTurn n run i o contributed).after w) :=
  endTurn_within (R := G.Kept) (fun d _ _ _ _ _ h => admits_noted h d)
    (fun _ _ _ _ h => admits_noted (admits_withoutPatch h _ _) _) run i o contributed w h

section

variable {n : Nat} (peaceful : G.Peaceful n s.id comes) (told : s.globals = G.told)
include peaceful told

theorem takeTurn_stage {run i : Nat} {o : Occurrence} (here : (w.registry n).patches[i]? = some o)
    (stage : G.Stage comes p w) :
    (takeTurn G.call s n run i o p).Ends w (fun r => G.Stage comes r.2) G.admits := by
  have harmless := peaceful w stage.2 o (List.mem_of_getElem? here)
  refine Ends.bind (harmless.tryPatch told stage) fun result v stage' => ?_
  refine Ends.bind (ends_of_ok (admits_endTurn stage'.2) fun j u _ h => (⟨stage'.1, h⟩ : G.Stage comes result.1 u)) ?_
  exact fun j u h => h

theorem tryPatches_stage {run : Nat} : (fuel i : Nat) → (p : Progress) → (w : World κ) → G.Stage comes p w →
    (tryPatches G.call s n run fuel i p).Ends w (fun q => G.Stage comes q) G.admits
  | 0, _, _, _ => fun stage => stage.2
  | fuel + 1, i, p, w => fun stage => by
      rw [Ends]
      cases here : (w.registry n).patches[i]? with
      | none =>
          rw [tryPatches_none here]
          exact ⟨stage.1, admits_noted stage.2 _⟩
      | some o =>
          rw [tryPatches_some here]
          exact Ends.bind (takeTurn_stage peaceful told here stage) fun next v stage' =>
            tryPatches_stage fuel next.1 next.2 v stage'

theorem runPatches_stage (stage : G.Stage comes p w) :
    (runPatches G.call s n p).Ends w (fun q => G.Stage comes q) G.admits :=
  (tryPatches_stage peaceful told _ 0 p _ ⟨stage.1, admits_noted stage.2 _⟩).of_eq (runPatches_eq w)

end

end Guard

/-! ## Modules -/

/-- What a module is patched with. -/
structure Occasion where
  id : Value
  registry : Nat
  listeners : List Value
  policy : Policy
  dev : Bool
  diffContext : Int

/-- The world that is left when a factory has been patched, whether that failed or not. -/
def Occasion.after (call : Caller κ) (factory : Value) (o : Occasion) (w : World κ) : World κ :=
  (applyPatches call o.id factory o.registry o.listeners o.policy o.dev o.diffContext : Working call _).run.after w

namespace Guard

variable {G : Guard κ} {comes : String → List Value → Prop} {factory : Value} {o : Occasion}

/-- The factory tells of its globals, listeners leave admitted worlds behind, the text of the factory is one of those
that come up, and the patches are harmless. -/
structure Tidy (G : Guard κ) (factory : Value) (o : Occasion) (comes : String → List Value → Prop) : Prop where
  globals : ∀ w v r, G.admits w → (globalsOf factory : Working G.call _).run w = .ok r v → r = G.told
  listeners : ∀ l ∈ o.listeners, G.Keeps (G.call l (.of [factory]))
  text : ∀ w v code, G.admits w →
    (normalizedSource o.policy factory : Working G.call _).run w = .ok (some code) v → comes code []
  patches : G.Peaceful o.registry o.id comes

theorem Tidy.admits (h : G.Tidy factory o comes) (admitted : G.admits w) : G.admits (o.after G.call factory w) := by
  have shown : G.Keeps (showFactory G.call factory o.listeners : Working G.call Unit).run := by
    rw [showFactory, Within.run_forM]
    refine keeps_forM _ fun l hl w h₁ => ?_
    rw [run_handle]
    refine after_handle (after_bind (h.listeners l hl w h₁) fun _ _ _ h => h) fun c v h₂ => ?_
    exact after_bind h₂ fun text u _ h₃ => grows h₃ (logFailure_grows _ c u)
  rw [Occasion.after, applyPatches]
  refine after_bind (shown w admitted) fun _ w₁ _ h₁ => ?_
  have seen : (heap : Working G.call _).run w₁ = .ok w₁.heap w₁ := rfl
  rw [Within.run_bind, after_bind_ok seen]
  have untouched (level : Level) (text : String → String) (u : World κ) (h : G.admits u) (r : ModuleRecord) :
      G.admits ((do
        log level (text (← str o.id))
        pure r : Working G.call ModuleRecord).run.after u) :=
    grows h (bind_within (fun w => Lasting.refl w) (fun _ => bind_within (log_grows _ _) fun _ w => Lasting.refl w) u)
  dsimp only
  split
  · exact untouched _ _ w₁ h₁ _
  · refine after_bind (grows h₁ (normalizedSource_grows _ _ w₁)) fun text w₂ read h₂ => ?_
    cases text with
    | none => exact untouched _ _ w₂ h₂ _
    | some code =>
        refine after_bind (grows h₂ (globalsOf_grows _ w₂)) fun globals w₃ known h₃ => ?_
        have told := h.globals w₂ w₃ globals h₂ known
        have stage : G.Stage comes ⟨factory, code, []⟩ w₃ := ⟨h.text w₁ w₂ code h₁ read, h₃⟩
        have ran := runPatches_stage (s := ⟨o.id, globals, o.dev, o.diffContext⟩) h.patches told stage
        exact after_bind (ran.left fun _ _ stage => stage.2) fun _ _ _ h => h

/-- A factory is patched several times, with other changes in between that leave admitted worlds behind. -/
inductive Course (G : Guard κ) (factory : Value) : World κ → World κ → Prop where
  | done (w : World κ) : Course G factory w w
  | patched {o : Occasion} {comes : String → List Value → Prop} {w z : World κ} : G.Tidy factory o comes →
      Course G factory (o.after G.call factory w) z → Course G factory w z
  | changed {w v z : World κ} : (G.admits w → G.admits v) → Course G factory v z → Course G factory w z

/-- What the globals bind can be read as before. -/
theorem Intact.loadGlobal {z : World κ} (h : G.Intact z) {name : String} {v : Value} (other : name ≠ "__builtins__")
    (bound : Value.lookup? G.bound (.str name) = some v) :
    (loadGlobal G.globals name : Calling G.call Value).run z = .ok v z := by
  obtain ⟨es, found, same⟩ := h.globals
  have there : z.entriesAt G.globals = es := by rw [World.entriesAt, found]
  have seen : Value.lookup? es (.str name) = some v := by
    rw [← bound, ← same, Value.lookup?, Value.lookup?, bindings, List.find?_filter]
    congr 2
    funext e
    cases key : Value.sameKey e.1 (.str name) with
    | false => simp
    | true =>
        have away : Value.sameKey e.1 (.str "__builtins__") = false := by
          rw [← Bool.not_eq_true]
          intro builtin
          have equal := Value.sameKey_trans (Value.sameKey_symm key) builtin
          exact other (by simpa [Value.sameKey] using equal)
        simp [away]
  rw [Script.loadGlobal, Within.run_bind, bind_of_ok (entries_run _ z), there, seen]
  rfl

end Guard

/-! ## A factory that reads a name of its globals -/

/-- The text of a factory that reads a name of its globals. -/
def readingText : String :=
  "def a(): return state\n"

/-- A factory in the first line of its file, whose globals stand behind it. -/
def readingFactory : Object :=
  .function
    { name := "a", qualifiedName := "a"
      code := .of ⟨[], 0, none, [], none⟩ (.block [.give (some (.name "state"))]) moduleFile 1
      globals := plainFactoryPlace + 1, captured := [], defaults := [], attrs := [] }

/-- A patch with one rule, which puts one text in the place of another one. -/
def putting (find replace : String) : Patch :=
  { owner := .str "p", find := .str "def", rules := [.rule ⟨.str find, .str replace, .none, .int 0⟩], predicate := .none
    group := false, applyToAll := false, quiet := true }

/-- A world with that factory and a patch for it. -/
def readingWorld (p : Patch) : World Unit :=
  { World.furnished [] () [readingFactory, .dict [(.str "state", .int 1)]] with
    sources := [(moduleFile, [readingText.toList])]
    registries := #[.empty, { Registry.empty with patches := [⟨0, p⟩] }, .empty] }

def readingOccasion : Occasion :=
  ⟨.str "m", 1, [], .standard, false, 20⟩

/-- The number under a name of the globals. -/
def World.stateOf (w : World Unit) : Option Int :=
  (Value.lookup? (w.entriesAt (plainFactoryPlace + 1)) (.str "state")).bind Value.integer?

theorem patchedFile_long (id : String) (n : Nat) : 16 ≤ (patchedFile id n).length := by
  delta patchedFile
  simp only [String.length_append]
  have label : (toString "<patched module ").length = 16 := by decide
  omega

theorem moduleFile_own (id : String) (n : Nat) : moduleFile ≠ patchedFile id n := by
  intro same
  have long := patchedFile_long id n
  rw [← same] at long
  exact absurd long (by decide)
/-- Worlds in which the factory, its globals, its text and its patch are as they were. -/
structure HoldsReading (w : World Unit) : Prop where
  there : w.heap[plainFactoryPlace]? = some readingFactory
  globals : ∃ es, w.heap[plainFactoryPlace + 1]? = some (.dict es) ∧ bindings es = [(.str "state", .int 1)]
  lines : w.linesOf moduleFile = [readingText.toList]
  patches : ∀ o ∈ (w.registry 1).patches, o.patch = putting "state" "0"

def readingGuard : Guard Unit where
  call := silent
  place := plainFactoryPlace
  object := readingFactory
  globals := plainFactoryPlace + 1
  bound := [(.str "state", .int 1)]
  told := some (plainFactoryPlace + 1)
  admits := HoldsReading
  told_globals _ h := (Option.some.inj h).symm
  apart := Nat.succ_ne_self _
  factory_kept h := h.there
  globals_kept h := h.globals
  usesUp h more there globals :=
    { there, globals
      lines := (more.sources moduleFile fun id n _ => moduleFile_own id n).trans h.lines
      patches := fun o ho => by
        obtain ⟨ps, fewer, same⟩ := more.registries 1
        rw [same] at ho
        exact h.patches o (fewer.subset ho) }

/-- The text that the rule makes. -/
def zeroText : String :=
  "def a(): return 0\n"

/-- The texts of the factory, before and after it has been patched. -/
def readingComes (code : String) (owners : List Value) : Prop :=
  (code = readingText ∨ code = zeroText) ∧ (owners = [] ∨ owners = [.str "p"])

theorem readingFactory_normalized {w : World Unit} (h : HoldsReading w) :
    (normalizedSource .standard (.ref plainFactoryPlace) : Working silent _).run w = .ok (some readingText) w :=
  normalizedSource_line ⟨by decide +kernel, by decide +kernel, by decide +kernel⟩ h.there rfl rfl h.lines

theorem readingComes_adds {code : String} {owners owners' : List Value} (h : readingComes code owners)
    (adds : Joins silent (.str "p") owners owners') : owners' = [.str "p"] := by
  obtain ⟨u, v, added⟩ := adds
  rcases h.2 with rfl | rfl
  · cases added
    rfl
  · cases added
    rfl

theorem putting_harmless : readingGuard.Harmless (.str "m") readingComes (putting "state" "0") where
  condition _ h := h
  conditions r mem w h := by
    cases List.mem_singleton.mp mem
    exact h
  owned code owners owners' h adds := ⟨h.1, .inr (readingComes_adds h adds)⟩
  rewrites r ready mem readies code owners h := by
    cases List.mem_singleton.mp mem
    obtain ⟨u, v, -, readied⟩ := readies
    obtain ⟨finds, literal, count⟩ := Rule.ready_texts rfl rfl readied
    refine ⟨Guard.keeps_grows (ReadyRule.apply_literal_grows code literal), ?_⟩
    intro w z code' owners' admitted applied changed adds
    have result := ReadyRule.apply_literal finds literal count applied
    rcases h.1 with rfl | rfl
    · have zero : replacedAll "state" "0" readingText = zeroText := by decide +kernel
      obtain rfl : code' = zeroText := result.trans zero
      obtain rfl := readingComes_adds h adds
      refine ⟨⟨.inr rfl, .inr rfl⟩, fun text labelled => ?_⟩
      obtain ⟨u', v', names, v'', -, -, joined, rfl⟩ := labelled
      cases joined
      have plain : ((Script.compile? (labelLine "m" "p" ++ "\n" ++ zeroText ++ "\n").toList).all
          fun body => body.all Script.Stmt.isPlain) = true := by decide +kernel
      exact Guard.tameText_plain plain
    · have same : replacedAll "state" "0" zeroText = zeroText := by decide +kernel
      exact absurd (result.trans same) changed

theorem readingGuard_tidy : readingGuard.Tidy (.ref plainFactoryPlace) readingOccasion readingComes where
  globals w v r h read := by
    rw [globalsOf_function (HoldsReading.there h)] at read
    cases read
    rfl
  listeners l hl := absurd hl List.not_mem_nil
  text w v code h read := by
    cases (readingFactory_normalized h).symm.trans read
    exact ⟨.inl rfl, .inl rfl⟩
  patches w h o ho := by
    rw [HoldsReading.patches h o ho]
    exact putting_harmless

end Patchwork
