import Patchwork.Proofs.PlainWorlds

/-!
What is left of a patch without the rules that did not rewrite the text. Unless a patch is a group, these leave no trace:
the others do without them what they did among them.
-/

namespace Patchwork

open Run Script

variable {κ : Type} {G : Realm κ} {s : Setup} {patch : Patch} {u v w w' : World κ} {names : List String}
  {name code code' : String} {p p' : Progress}

/-- The rules that rewrote the text when they had their turns. -/
def applied (ts : List (RuleTrial κ)) : List RuleItem :=
  (ts.filter (·.outcome.isApplied)).map (·.subject)

/-- A patch with other rules. -/
def Patch.withRules (patch : Patch) (rules : List RuleItem) : Patch :=
  { patch with rules }

/-- The other rules of a patch have no part in the turn of one. -/
theorem RuleTrials.withRules {call : Caller κ} {items rest rules : List RuleItem} {ts : List (RuleTrial κ)}
    {q : Progress} (h : RuleTrials call s patch items p w ts rest q v) :
    RuleTrials call s (patch.withRules rules) items p w ts rest q v := by
  induction h with
  | nil => exact .nil
  | cons one kept _ ih => exact .cons one kept ih

namespace Realm

/-- A text comes from another one by rules, from left to right. -/
inductive Composes (G : Realm κ) : List RuleItem → String → String → Prop where
  | nil {code : String} : Composes G [] code code
  | cons {r : Rule} {rest : List RuleItem} {code code' code'' : String} : G.Makes r code code' →
      Composes G rest code' code'' → Composes G (.rule r :: rest) code code''

theorem PureRule.makes {r : Rule} (h : G.PureRule r) (comes : G.comes w)
    (rewrites : Rewrites G.call s patch r p w p' v) : G.Makes r p.code p'.code := by
  obtain ⟨ready, u, z, -, read, rewrote, -⟩ := rewrites
  intro w' comes'
  obtain ⟨ready', u', read', follows, follows', alike⟩ := (h.ready_agree comes comes').of_ok read
  obtain ⟨code', z', rewrote', -, -, rfl⟩ := (h.apply_agree alike p.code follows.comes follows'.comes).of_ok rewrote
  exact ⟨ready', u', z', read', rewrote'⟩

/-- Rules had their turns, and those among them that rewrote the text had theirs on their own. -/
structure Alone (G : Realm κ) (s : Setup) (patch : Patch) (items : List RuleItem) (names : List String) (name : String)
    (p : Progress) (w : World κ) (p' : Progress) (w' : World κ) (ts ts' : List (RuleTrial κ)) (q : Progress)
    (v : World κ) (q' : Progress) (v' : World κ) : Prop where
  all : RuleTrials G.call s patch items p w ts [] q v
  alone : RuleTrials G.call s patch (applied ts) p' w' ts' [] q' v'
  rewrite : ∀ t ∈ ts', t.outcome.isApplied = true
  some : ts'.any (·.outcome.isApplied) = ts.any (·.outcome.isApplied)
  level : G.Level names name q v q' v'
  owned : ts.any (·.outcome.isApplied) = true ∨ Owned names name p p' → Owned names name q q'
  composes : G.Composes (applied ts) p.code q.code
  follows : G.Follows w v
  follows' : G.Follows w' v'

theorem alone (recompiles : G.Recompiles s) (owner : patch.owner = .str name) (single : patch.group = false)
    {items : List RuleItem} (pure : ∀ item ∈ items, ∃ r, item = .rule r ∧ G.PureRule r)
    (level : G.Level names name p w p' w') (first : G.comes w) (second : G.comes w') :
    ∃ ts ts' q v q' v', G.Alone s patch items names name p w p' w' ts ts' q v q' v' := by
  induction items generalizing p p' w w' with
  | nil =>
      exact ⟨[], [], p, w, p', w', .nil, .nil, fun _ none => absurd none List.not_mem_nil, rfl, level,
        fun owned => owned.resolve_left Bool.false_ne_true, .nil, .refl first, .refl second⟩
  | cons item rest ih =>
      obtain ⟨r, rfl, h⟩ := pure item List.mem_cons_self
      have others := fun item hi => pure item (List.mem_cons_of_mem _ hi)
      obtain ⟨⟨p₁, outcome⟩, w₁, ⟨p₁', outcome'⟩, w₁', one, one', follows, follows', alike⟩ :=
        h.applyRule_agree recompiles owner level first second
      have kept (outcome : RuleOutcome) : patch.undoneBy outcome = false := by cases outcome <;> first | rfl | exact single
      cases rewrote : outcome.isApplied with
      | false =>
          obtain ⟨current, same, -⟩ := applyRule_leaves one rewrote
          have stays : G.Level names name p₁ w₁ p' w' :=
            ⟨current ▸ level.current.later follows.toLater (.refl second), same.trans level.code, same ▸ level.text,
              level.known, alike.level.owns, level.owns'⟩
          obtain ⟨ts, ts', q, v, q', v', h⟩ := ih others stays follows.comes second
          have none : applied (⟨.rule r, p, w, outcome, p₁, w₁⟩ :: ts) = applied ts := by simp [applied, rewrote]
          refine ⟨_, ts', q, v, q', v', .cons one (kept _) h.all, none ▸ h.alone, h.rewrite, ?_, h.level, fun owned => ?_, ?_,
            follows.trans h.follows, h.follows'⟩
          · rw [List.any_cons, rewrote, Bool.false_or, h.some]
          · rw [List.any_cons, rewrote, Bool.false_or] at owned
            exact h.owned (owned.imp_right fun both => ⟨(alike.owned (.inr both)).1, both.2⟩)
          · rw [none, ← same]
            exact h.composes
      | true =>
          obtain ⟨ts, ts', q, v, q', v', h'⟩ := ih others alike.level follows.comes follows'.comes
          have more : applied (⟨.rule r, p, w, outcome, p₁, w₁⟩ :: ts) = .rule r :: applied ts := by simp [applied, rewrote]
          have rewrote' : outcome'.isApplied = true := alike.outcome.isApplied ▸ rewrote
          have alone' := RuleTrials.cons one' (kept _) h'.alone
          rw [← more] at alone'
          refine ⟨_, _, q, v, q', v', .cons one (kept _) h'.all, alone', fun t ht => ?_, ?_, h'.level,
            fun _ => h'.owned (.inr (alike.owned (.inl rewrote))), ?_, follows.trans h'.follows, follows'.trans h'.follows'⟩
          · rcases List.mem_cons.mp ht with rfl | ht
            · exact rewrote'
            · exact h'.rewrite t ht
          · rw [List.any_cons, List.any_cons, rewrote, rewrote', Bool.true_or, Bool.true_or]
          · rw [more]
            refine .cons ?_ h'.composes
            obtain ⟨r', same, ⟨rfl, -⟩ | ⟨u, turned, -, rewrites, -⟩⟩ := applyRule_ok one
            · cases rewrote
            · cases same
              have done : outcome = .applied := by cases outcome <;> first | rfl | cases rewrote
              obtain ⟨b, settles⟩ := h.condition
              obtain ⟨u', asked, after⟩ := settles w first
              rw [Turns, asked] at turned
              cases turned
              exact h.makes after.comes (rewrites done)

/-- A patch that is selected for a text is so from wherever it is tried. -/
theorem PurePatch.selects (h : G.PurePatch patch) (selects : Selects G.call patch p w u) (first : G.comes w)
    (second : G.comes w') : G.Follows w u ∧ ∃ u', Selects G.call patch p w' u' ∧ G.Follows w' u' := by
  obtain ⟨v, m, turned, read, found⟩ := selects
  obtain ⟨b, settles⟩ := h.condition
  obtain ⟨m', finds⟩ := h.finds
  obtain ⟨v₁, asked, follows⟩ := settles w first
  obtain ⟨v', asked', follows'⟩ := settles w' second
  rw [Turns, asked] at turned
  cases turned
  rw [matcher_run finds] at read
  cases read
  exact ⟨follows, v', ⟨v', _, asked', matcher_run finds v', found⟩, follows'⟩

/-- The turn of a patch whose rules have all had theirs. -/
theorem takeTurn_trials {call : Caller κ} {n i : Nat} {o o' : Occurrence} {ts : List (RuleTrial κ)} {q : Progress}
    {c : Bool} (run : Nat) (selects : Selects call o.patch p w u)
    (trials : RuleTrials call s o.patch o.patch.rules p u ts [] q v) (any : ts.any (·.outcome.isApplied) = c)
    (here : (v.registry n).patches[i]? = some o') : ∃ x,
      takeTurn call s n run i o p w = .ok (if c && !o.patch.applyToAll then i else i + 1,
        if c then q else { q with owners := p.owners }) x ∧
      endTurn n run i o c v = .ok (if c && !o.patch.applyToAll then i else i + 1) x ∧
      (x.registry n).patches = if c && !o.patch.applyToAll then (v.registry n).patches.eraseIdx i
        else (v.registry n).patches := by
  obtain ⟨x, ended, patches⟩ := endTurn_place run o c here
  refine ⟨x, takeTurn_ok ?_ ended, ended, patches⟩
  have all : (applyRules call s o.patch p false p o.patch.rules : Calling call _).run u = .ok (q, c) v := by
    rw [trials.resume false, Bool.false_or, any]
    rfl
  rw [tryPatch_selected selects]
  exact bind_of_ok all

/-- Whatever the rules of a patch do that is no group: the module is left as if the patch had only those that rewrote the
text when they had their turns. These make the text that is left, from left to right; text, factory and owners are the
same, and so is whether the patch is used up. -/
theorem takeTurn_without_failures {k i : Nat} {o : Occurrence} (pure : G.PurePatch o.patch)
    (recompiles : G.Recompiles s) (single : o.patch.group = false) (text : G.texts p.code)
    (named : p.owners = names.map .str) (known : ∀ n ∈ names, G.names n) (selects : Selects G.call o.patch p w u) (first : G.comes w) (second : G.comes w')
    (here : i < (w.registry G.registry).patches.length) (here' : i < (w'.registry G.registry).patches.length) :
    ∃ ts r v, RuleTrials G.call s o.patch o.patch.rules p u ts [] r v ∧
      let used := ts.any (·.outcome.isApplied) && !o.patch.applyToAll
      let next := if used then i else i + 1
      let left (patches : List Occurrence) := if used then patches.eraseIdx i else patches
      ∃ q x q' x', takeTurn G.call s G.registry k i o p w = .ok (next, q) x ∧
        takeTurn G.call s G.registry k i { o with patch := o.patch.withRules (applied ts) } p w' = .ok (next, q') x' ∧
        G.Even q x q' x' ∧ G.Composes (applied ts) p.code q.code ∧
        (x.registry G.registry).patches = left (w.registry G.registry).patches ∧
        (x'.registry G.registry).patches = left (w'.registry G.registry).patches := by
  obtain ⟨name, owner, one⟩ := pure.owner
  obtain ⟨follows, u', selects', follows'⟩ := pure.selects selects first second
  have level : G.Level names name p u p u' := ⟨.inl rfl, rfl, text, forall_withName known one, .inl named, .inl named⟩
  obtain ⟨ts, ts', r, v, r', v', h⟩ := alone recompiles owner single pure.rules level follows.comes follows'.comes
  have after := follows.trans h.follows
  have after' := follows'.trans h.follows'
  obtain ⟨o₁, there⟩ : ∃ o₁, (w.registry G.registry).patches[i]? = some o₁ := ⟨_, List.getElem?_eq_getElem here⟩
  obtain ⟨o₂, there'⟩ : ∃ o₂, (w'.registry G.registry).patches[i]? = some o₂ := ⟨_, List.getElem?_eq_getElem here'⟩
  rw [← after.patches] at there
  rw [← after'.patches] at there'
  obtain ⟨x, turn, ended, patches⟩ := takeTurn_trials k selects h.all rfl there
  obtain ⟨x', turn', ended', patches'⟩ := takeTurn_trials (o := { o with patch := o.patch.withRules (applied ts) }) k
    selects' h.alone.withRules h.some there'
  rw [after.patches] at patches
  rw [after'.patches] at patches'
  refine ⟨ts, r, v, h.all, _, x, _, x', turn, turn', ?_, ?_, patches, patches'⟩
  · have level := h.level.later (endTurn_later after.comes ended) (endTurn_later after'.comes ended')
    cases some : ts.any (·.outcome.isApplied) with
    | true =>
        obtain ⟨owners, owners'⟩ := h.owned (.inl some)
        exact ⟨level.current, level.code, level.text, owners.trans owners'.symm, _, owners, level.known⟩
    | false => exact ⟨level.current, level.code, level.text, rfl, names, named, known⟩
  · cases ts.any (·.outcome.isApplied) <;> exact h.composes

end Realm

/-! ## Rules that fail on their way -/

/-- A factory that gives a number. -/
def givingText (n : String) : String :=
  "def a(): return " ++ n ++ "\n"

/-- A text that cannot be read. -/
def brokenText (n : String) : String :=
  "de a(): return " ++ n ++ "\n"

def givingSite : PlainSite where
  globals := plainFactoryPlace + 1
  objects := []
  files := []
  texts := [givingText "1", givingText "2", brokenText "1", brokenText "2"]
  puts := [("1", "2"), ("def", "de")]
  apart _ h := absurd h List.not_mem_nil
  own _ h := absurd h List.not_mem_nil
  plain := by decide +kernel
  closed := by decide +kernel

/-- A patch of a rule that rewrites the text, the same one once more, and one whose text cannot be read. -/
def givingPatch : Patch :=
  puttingPatch "p" "def" [("1", "2"), ("1", "2"), ("def", "de")] false

def givingSetup : Setup :=
  ⟨.str "m", some (plainFactoryPlace + 1), false, 20⟩

def givingStart : Progress :=
  ⟨.ref plainFactoryPlace, givingText "1", []⟩

theorem givingSite_holds (patch : Patch) : givingSite.Holds (readingWorld patch) where
  globals := ⟨_, rfl⟩
  objects _ h := absurd h List.not_mem_nil
  files _ h := absurd h List.not_mem_nil
  rules _ h := absurd h List.not_mem_nil
  own a f there id n _ := PlainSite.own_of_short (by decide +kernel : (readingWorld renumbering).heap.all _ = true) a f there id n

/-- Whether a computation gives such a result. -/
def givesSuch {α : Type} (f : α → Bool) : EStateM.Result Fault (World Unit) α → Bool
  | .ok a _ => f a
  | .error _ _ => false

theorem givesSuch_ok {α : Type} {f : α → Bool} {r : EStateM.Result Fault (World Unit) α} (h : givesSuch f r = true) :
    ∃ a v, r = .ok a v ∧ f a = true := by
  cases r with
  | ok a v => exact ⟨a, v, rfl, h⟩
  | error e v => cases h

theorem takeTurn_without_failures_giving :
    let w := readingWorld givingPatch
    let w' := readingWorld (givingPatch.withRules [.rule (puttingRule "1" "2")])
    ∃ ts r v, RuleTrials silent givingSetup givingPatch givingPatch.rules givingStart w ts [] r v ∧
      ∃ q x q' x', takeTurn silent givingSetup 1 0 0 ⟨0, givingPatch⟩ givingStart w = .ok (0, q) x ∧
        takeTurn silent givingSetup 1 0 0 ⟨0, givingPatch.withRules (applied ts)⟩ givingStart w' = .ok (0, q') x' ∧
        givingSite.realm.Even q x q' x' ∧ q.code = givingText "2" ∧
        givingSite.realm.Composes (applied ts) (givingText "1") (givingText "2") ∧
        (x.registry 1).patches = [] ∧ (x'.registry 1).patches = [] := by
  intro w w'
  have pure : givingSite.realm.PurePatch givingPatch := PlainSite.purePatch (by decide +kernel) "def" (by decide) false
  have recompiles : givingSite.realm.Recompiles givingSetup := givingSite.recompiles (by decide +kernel) false 20
  have selects : Selects silent givingPatch givingStart w w := ⟨w, .literal "def", rfl, rfl, by decide +kernel⟩
  have text : givingSite.realm.texts givingStart.code := List.mem_cons_self
  have named : givingStart.owners = ([] : List String).map .str := rfl
  have known : ∀ n ∈ ([] : List String), givingSite.realm.names n := fun _ none => absurd none List.not_mem_nil
  have first : givingSite.realm.comes w := givingSite_holds givingPatch
  have second : givingSite.realm.comes w' := givingSite_holds _
  have here : 0 < (w.registry givingSite.realm.registry).patches.length := Nat.one_pos
  have here' : 0 < (w'.registry givingSite.realm.registry).patches.length := Nat.one_pos
  obtain ⟨ts, r, v, trials, q, x, q', x', turn, turn', even, composes, left, left'⟩ :=
    Realm.takeTurn_without_failures (k := 0) (i := 0) (o := ⟨0, givingPatch⟩) pure recompiles rfl text named known selects
      first second here here'
  have ends : givesSuch (fun r => r.1 == 0 && r.2.code == givingText "2")
      (takeTurn silent givingSetup 1 0 0 ⟨0, givingPatch⟩ givingStart w) = true := by decide +kernel
  have turned : takeTurn silent givingSetup 1 0 0 ⟨0, givingPatch⟩ givingStart w = _ := turn
  rw [turned, givesSuch, Bool.and_eq_true, beq_iff_eq, beq_iff_eq] at ends
  obtain ⟨next, code⟩ := ends
  have used : (ts.any (·.outcome.isApplied) && !givingPatch.applyToAll) = true := by
    cases used : ts.any (·.outcome.isApplied) && !givingPatch.applyToAll with
    | true => rfl
    | false =>
        rw [used] at next
        cases next
  rw [used, if_pos rfl] at turn turn'
  simp only [used, ↓reduceIte] at left left'
  rw [code] at composes
  exact ⟨ts, r, v, trials, q, x, q', x', turn, turn', even, code, composes, left, left'⟩

/-- Calls under which texts do what they say. -/
def acting : Caller Unit :=
  callValue fun _ _ _ => pure .none

/-- A rule whose text adds to a list before it fails, and one whose text needs something to be in that list. -/
def notingRule : Rule :=
  puttingRule "def" "seen.append(1)\nmissing\ndef"

def needingRule : Rule :=
  puttingRule "def" "seen[0]\ndef"

def notingPatch : Patch :=
  { puttingPatch "p" "def" [] false with rules := [.rule notingRule, .rule needingRule] }

/-- A world with a factory whose globals have an empty list. -/
def notingWorld : World Unit :=
  { World.furnished [] () [readingFactory, .dict [(.str "seen", .ref (plainFactoryPlace + 2))], .list []] with
    sources := [(moduleFile, [readingText.toList])] }

def notingStart : Progress :=
  ⟨.ref plainFactoryPlace, readingText, []⟩

/-- Applies both rules. -/
def noteAndNeed : Run Unit (RuleOutcome × Progress × RuleOutcome) := do
  let (p, noted) ← (applyRule acting givingSetup notingPatch (.rule notingRule) notingStart : Calling acting _).run
  let (q, needed) ← (applyRule acting givingSetup notingPatch (.rule needingRule) p : Calling acting _).run
  pure (noted, q, needed)

/-- A rule that failed is not without a trace if its text did something: without it the one behind it fails, too. -/
theorem failing_text_acts : ∃ ts q v,
    RuleTrials acting givingSetup notingPatch notingPatch.rules notingStart notingWorld ts [] q v ∧
      applied ts = [.rule needingRule] ∧
      (tryPatch acting givingSetup notingPatch notingStart : Calling acting _).run notingWorld = .ok (q, true) v ∧
      q.code = "seen[0]\n" ++ readingText ∧
      ∃ q' v', (tryPatch acting givingSetup (notingPatch.withRules (applied ts)) notingStart : Calling acting _).run
          notingWorld = .ok (q', false) v' ∧ q'.code = readingText := by
  have both : givesSuch (fun r => !r.1.isApplied && r.2.2.isApplied && r.2.1.code == "seen[0]\n" ++ readingText)
      (noteAndNeed notingWorld) = true := by decide +kernel
  have one : givesSuch (fun r => !r.2 && r.1.code == readingText)
      ((tryPatch acting givingSetup (notingPatch.withRules [.rule needingRule]) notingStart : Calling acting _).run
        notingWorld) = true := by decide +kernel
  obtain ⟨⟨noted, q, needed⟩, v, ran, same⟩ := givesSuch_ok both
  obtain ⟨⟨p, noted'⟩, u, first, ran⟩ := bind_ok.mp ran
  obtain ⟨⟨q', needed'⟩, v', second, ran⟩ := bind_ok.mp ran
  cases ran
  simp only [Bool.and_eq_true, Bool.not_eq_true', beq_iff_eq] at same
  obtain ⟨⟨failed, rewrote⟩, code⟩ := same
  have kept (outcome : RuleOutcome) : notingPatch.undoneBy outcome = false := by cases outcome <;> rfl
  have trials : RuleTrials acting givingSetup notingPatch notingPatch.rules notingStart notingWorld
      [⟨.rule notingRule, notingStart, notingWorld, noted, p, u⟩, ⟨.rule needingRule, p, u, needed, q, v⟩] [] q v :=
    .cons first (kept _) (.cons second (kept _) .nil)
  have rewriting : applied [⟨.rule notingRule, notingStart, notingWorld, noted, p, u⟩, ⟨.rule needingRule, p, u, needed, q, v⟩] =
      [.rule needingRule] := by simp [applied, failed, rewrote]
  have selects : Selects acting notingPatch notingStart notingWorld notingWorld :=
    ⟨_, .literal "def", rfl, rfl, by decide +kernel⟩
  have contributes : Contributes acting givingSetup notingPatch notingStart notingWorld q v :=
    ⟨_, _, selects, trials, _, List.mem_cons_of_mem _ List.mem_cons_self, rewrote⟩
  obtain ⟨⟨q', c⟩, v', tried, same⟩ := givesSuch_ok one
  simp only [Bool.and_eq_true, Bool.not_eq_true', beq_iff_eq] at same
  obtain ⟨rfl, code'⟩ := same
  exact ⟨_, q, v, trials, rewriting, contributes.tried, code, q', v', rewriting ▸ tried, code'⟩

end Patchwork
