import Patchwork.Proofs.Agreement
import Patchwork.Proofs.Diagnostics
import Patchwork.Proofs.PlainRules
import Patchwork.Proofs.Provenance
import Patchwork.Proofs.TableRuns

/-!
Rules and patches that depend on nothing but the text: wherever they are tried on it, they end in the same way. Their
conditions settle, functions that stand in for matches go by the match, and recompiling goes by text and owners.
-/

namespace Patchwork

open Run Script

variable {κ : Type} {R : World κ → World κ → Prop} [Still R] {G : Realm κ} {s : Setup} {patch : Patch} {r : Rule}
  {u v w w' : World κ} {names : List String} {name code : String} {p p' : Progress}

/-! ## What rules look for -/

/-- What a value looks for, if it looks for anything. -/
def Matcher.read? : Value → Option Matcher
  | .str s => some (.literal s)
  | .pattern p => p.canonical.toOption.map .pattern
  | _ => none

theorem Cause.pattern_mild (f : Pattern.Fault) (text : List Char) : (Cause.pattern f text).kind.isFatal = false := by
  rw [Cause.kind]
  split <;> rfl

theorem Matcher.of_run (v : Value) (w : World κ) :
    (∃ m, Matcher.read? v = some m ∧ (Matcher.of v : Within R _).run w = .ok m w) ∨
      Matcher.read? v = none ∧ ∃ c, (Matcher.of v : Within R _).run w = .error (.failed c) w ∧ c.kind.isFatal = false := by
  cases hashable : w.heap.unhashable? v with
  | some type =>
      refine .inr ⟨?_, _, bind_of_error (checkKey_failed hashable), rfl⟩
      cases v with
      | str | pattern => cases hashable
      | _ => rfl
  | none =>
      have passed : (checkKey v : Within R _).run w = .ok () w := checkKey_ok hashable
      cases v with
      | str s => exact .inl ⟨_, rfl, bind_of_ok passed⟩
      | pattern p =>
          rw [Matcher.read?]
          cases canonical : p.canonical with
          | ok q => exact .inl ⟨_, rfl, (bind_of_ok passed).trans (by simp only [canonical]; rfl)⟩
          | error f =>
              exact .inr ⟨rfl, _, (bind_of_ok passed).trans (by simp only [canonical]; rfl), Cause.pattern_mild f _⟩
      | _ => exact .inr ⟨rfl, _, bind_of_ok passed, rfl⟩

theorem Matcher.read?_congr {v v' : Value} (same : Value.sameKey v v' = true) : Matcher.read? v = Matcher.read? v' := by
  cases v with
  | str s => rw [Value.eq_of_sameKey_str same]
  | pattern p =>
      cases v' with
      | pattern q =>
          simp only [Value.sameKey, Pattern.same, Pattern.Flags.same, Bool.and_eq_true, beq_iff_eq, List.all_eq_true,
            List.contains_iff_mem] at same
          obtain ⟨⟨-, source⟩, there, back⟩ := same
          have kept : p.keptFlags = q.keptFlags := by
            refine List.filter_congr fun f _ => ?_
            rw [Bool.eq_iff_iff, List.contains_iff_mem, List.contains_iff_mem]
            exact ⟨there _, back _⟩
          rw [Matcher.read?, Matcher.read?, Pattern.canonical, Pattern.canonical, source, kept]
      | _ => simp [Value.sameKey] at same
  | _ => cases v' <;> first | rfl | simp [Value.sameKey] at same

/-- Outcomes of one kind. -/
inductive RuleOutcome.Alike : RuleOutcome → RuleOutcome → Prop where
  | skipped : Alike .skipped .skipped
  | applied : Alike .applied .applied
  | noEffect : Alike .noEffect .noEffect
  | failed (c c' : Cause) : Alike (.failed c) (.failed c')

theorem RuleOutcome.Alike.isApplied {a b : RuleOutcome} (h : a.Alike b) : a.isApplied = b.isApplied := by
  cases h <;> rfl

theorem RuleOutcome.Alike.undoneBy {a b : RuleOutcome} (h : a.Alike b) : patch.undoneBy a = patch.undoneBy b := by
  cases h <;> rfl

theorem Owns.adds (h : Owns names name p) (w : World κ) {call : Caller κ} :
    (addOwner p.owners (.str name) : Calling call _).run w = .ok ((withName names name).map .str) w := by
  rcases h with h | h
  · rw [h, addOwner_str]
  · rw [h, addOwner_str, withName_self]

/-! ## Rules that are ready -/

/-- What a rule is made of. -/
def Rule.parts (r : Rule) : List Value :=
  [r.find, r.replace, r.predicate, r.count]

namespace Realm

/-- What a function makes of a match. -/
def substitute (call : Caller κ) (v found : Value) : Calling call (List Char) := do
  replacementText (← ask call v (.of [found]))

/-- A rule that depends on nothing but the text that it is applied to. -/
structure PureRule (G : Realm κ) (r : Rule) : Prop where
  listed : r ∈ G.rules
  hashable : ∀ v ∈ r.parts, ∀ w w', G.comes w → G.comes w' →
    w.heap.unhashable? v = w'.heap.unhashable? v
  condition : ∃ b, G.Settles (holdsNow G.call r.predicate : Calling G.call _).run b
  callable : ∀ w w', G.comes w → G.comes w' → isCallable w.heap r.replace = isCallable w'.heap r.replace
  answers : ∀ w w' (a a' : Address) groups names, G.comes w → G.comes w' →
    isCallable w.heap r.replace = true → w.heap[a]? = some (.found groups names) →
      w'.heap[a']? = some (.found groups names) →
        G.AgreeAt Equal (substitute G.call r.replace (.ref a)).run (substitute G.call r.replace (.ref a')).run w w'
  texts : ∀ code code' w u v ready, G.texts code → G.comes w →
    (r.ready : Calling G.call _).run w = .ok ready u → (ready.apply G.call code : Calling G.call _).run u = .ok code' v →
      G.texts code'

/-- Two readings of a rule look for the same, replace it by the same, and as often. -/
structure ReadAlike (r : Rule) (a : ReadyRule) (_ : World κ) (b : ReadyRule) (_ : World κ) : Prop where
  matcher : a.matcher = b.matcher
  replacement : a.replacement = b.replacement
  count : a.count.integer? = b.count.integer?
  value : ∀ v, a.replacement = .value v → v = r.replace

/-- Keys are checked one after the other, and nothing changes by that. -/
theorem checkKeys_run (w : World κ) (vs : List Value) :
    ((∀ v ∈ vs, w.heap.unhashable? v = none) ∧ (vs.forM checkKey : Within R Unit).run w = .ok () w) ∨
      (∃ v ∈ vs, w.heap.unhashable? v ≠ none) ∧
        ∃ c, (vs.forM checkKey : Within R Unit).run w = .error (.failed c) w ∧ c.kind.isFatal = false := by
  induction vs with
  | nil => exact .inl ⟨fun _ hv => absurd hv List.not_mem_nil, rfl⟩
  | cons v vs ih =>
      cases here : w.heap.unhashable? v with
      | some type =>
          exact .inr ⟨⟨v, List.mem_cons_self, by simp [here]⟩, _, bind_of_error (checkKey_failed here), rfl⟩
      | none =>
          rcases ih with ⟨all, passed⟩ | ⟨⟨v', there, bad⟩, c, failed, mild⟩
          · refine .inl ⟨fun v' hv => ?_, (bind_of_ok (checkKey_ok here)).trans passed⟩
            rcases List.mem_cons.mp hv with rfl | hv
            · exact here
            · exact all v' hv
          · exact .inr ⟨⟨v', List.mem_cons_of_mem _ there, bad⟩, c, (bind_of_ok (checkKey_ok here)).trans failed, mild⟩

/-- What stands in for what is looked for, if a value says so. -/
def replacementFor : Matcher → Value → Replacement
  | .literal _, .str s => .literal s
  | _, v => .value v

theorem replacementFor_value {m : Matcher} {v v' : Value} (h : replacementFor m v = .value v') : v' = v := by
  rw [replacementFor.eq_def] at h
  split at h
  · cases h
  · exact (Replacement.value.inj h).symm

/-- An equal rule that was seen before reads the same. -/
theorem PureRule.known (h : G.PureRule r) (comes : G.comes w) :
    Matcher.read? ((w.rules.find? r.same).getD r).find = Matcher.read? r.find ∧
      ((w.rules.find? r.same).getD r).replace = r.replace ∧
      ((w.rules.find? r.same).getD r).count.integer? = r.count.integer? := by
  cases seen : w.rules.find? r.same with
  | none => exact ⟨rfl, rfl, rfl⟩
  | some known =>
      have same := List.find?_some seen
      obtain ⟨replace, count⟩ := G.agreed comes h.listed (List.mem_of_find?_eq_some seen) same
      simp only [Rule.same, Bool.and_eq_true] at same
      exact ⟨(Matcher.read?_congr same.1.1.1).symm, replace, count⟩

/-- A rule is read as it says, or it cannot be read. -/
theorem PureRule.ready_run (h : G.PureRule r) (comes : G.comes w) :
    (∃ ready v, (r.ready : Calling G.call _).run w = .ok ready v ∧ G.Follows w v ∧
      (∀ v ∈ r.parts, w.heap.unhashable? v = none) ∧
      Matcher.read? r.find = some ready.matcher ∧ ready.replacement = replacementFor ready.matcher r.replace ∧
      ready.count.integer? = r.count.integer?) ∨
    ∃ c, (r.ready : Calling G.call _).run w = .error (.failed c) w ∧ c.kind.isFatal = false ∧
      ((∃ v ∈ r.parts, w.heap.unhashable? v ≠ none) ∨ Matcher.read? r.find = none) := by
  rcases checkKeys_run (R := Reaches G.call) w r.parts with ⟨all, passed⟩ | ⟨bad, c, failed, mild⟩
  · obtain ⟨read, replace, count⟩ := h.known comes
    have seen : (world : Calling G.call _).run w = .ok w w := rfl
    rw [Rule.parts] at passed
    rw [Rule.ready, Within.run_bind, bind_of_ok passed, Within.run_bind, bind_of_ok seen]
    dsimp only
    rcases Matcher.of_run (R := Reaches G.call) ((w.rules.find? r.same).getD r).find w with ⟨m, finds, found⟩ | ⟨none, c, failed, mild⟩
    · rw [Within.run_bind, bind_of_ok found]
      generalize (w.rules.find? r.same).getD r = k at read replace count finds
      have stands : replacementFor m k.replace = replacementFor m r.replace := congrArg _ replace
      refine .inl ⟨⟨m, replacementFor m k.replace, k.count⟩, ?_⟩
      cases (w.rules.find? r.same).isNone with
      | true => exact ⟨{ w with rules := r :: w.rules }, rfl, .remembered comes h.listed, all, read ▸ finds, stands, count⟩
      | false => exact ⟨w, rfl, .refl comes, all, read ▸ finds, stands, count⟩
    · exact .inr ⟨c, bind_of_error failed, mild, .inr (read ▸ none)⟩
  · exact .inr ⟨c, bind_of_error failed, mild, .inl bad⟩

theorem PureRule.ready_agree (h : G.PureRule r) (first : G.comes w) (second : G.comes w') :
    G.AgreeAt (ReadAlike r) (r.ready : Calling G.call _).run (r.ready : Calling G.call _).run w w' := by
  have keys (v : Value) (hv : v ∈ r.parts) := h.hashable v hv w w' first second
  rcases h.ready_run first with ⟨a, v, ran, follows, all, read, replaces, count⟩ | ⟨c, failed, mild, why⟩
  · rcases h.ready_run second with ⟨b, v', ran', follows', -, read', replaces', count'⟩ | ⟨c, -, -, ⟨x, hx, bad⟩ | none⟩
    · have matcher : a.matcher = b.matcher := Option.some.inj (read.symm.trans read')
      exact .inl ⟨a, v, b, v', ran, ran', follows, follows', matcher, by rw [replaces, replaces', matcher],
        count.trans count'.symm, fun x hx => replacementFor_value (replaces.symm.trans hx)⟩
    · exact absurd ((keys x hx).symm.trans (all x hx)) bad
    · rw [none] at read
      cases read
  · rcases h.ready_run second with ⟨b, v', -, -, all, read, -, -⟩ | ⟨c', failed', mild', -⟩
    · rcases why with ⟨x, hx, bad⟩ | none
      · exact absurd ((keys x hx).trans (all x hx)) bad
      · rw [none] at read
        cases read
    · exact agreeAt_failed first second failed failed' mild mild'

/-! ## Texts that rules make -/

theorem limitOf_agree {a b : Value} (same : a.integer? = b.integer?) (first : G.comes w) (second : G.comes w') :
    G.AgreeAt Equal (limitOf a : Calling G.call _).run (limitOf b : Calling G.call _).run w w' := by
  rw [limitOf, limitOf, ← same]
  cases a.integer? with
  | none => exact agreeAt_failed first second rfl rfl rfl rfl
  | some n =>
      dsimp only
      split
      · exact agreeAt_failed first second rfl rfl rfl rfl
      · split <;> exact agreeAt_given first second rfl rfl rfl

theorem templatePieces_agree (p : Pattern.Program) (v : Value) (first : G.comes w) (second : G.comes w') :
    G.AgreeAt Equal (templatePieces p v : Calling G.call _).run (templatePieces p v : Calling G.call _).run w w' := by
  cases v with
  | str s =>
      rw [templatePieces]
      cases Pattern.Template.pieces p s.toList with
      | ok pieces => exact agreeAt_given first second rfl rfl rfl
      | error e =>
          cases e with
          | unknownName => exact agreeAt_failed first second rfl rfl rfl rfl
          | fault f => exact agreeAt_failed first second rfl rfl (Cause.pattern_mild f _) (Cause.pattern_mild f _)
  | _ => exact agreeAt_failed first second rfl rfl rfl rfl

theorem filledTemplate_agree (p : Pattern.Program) (text : Array Char) (pieces : List Pattern.Piece) (m : Pattern.Match)
    (first : G.comes w) (second : G.comes w') :
    G.AgreeAt Equal (filledTemplate p text pieces m : Calling G.call _).run
      (filledTemplate p text pieces m : Calling G.call _).run w w' := by
  rw [filledTemplate]
  cases Pattern.fill? p text m pieces with
  | some s => exact agreeAt_given first second rfl rfl rfl
  | none => exact agreeAt_failed first second rfl rfl (Cause.pattern_mild _ _) (Cause.pattern_mild _ _)

/-- A function is given matches that are alike. -/
theorem PureRule.substitute_agree (h : G.PureRule r) (p : Pattern.Program) (text : Array Char) (m : Pattern.Match)
    (callable : ∀ w, G.comes w → isCallable w.heap r.replace = true) (first : G.comes w) (second : G.comes w') :
    G.AgreeAt Equal (foundValue p text m >>= substitute G.call r.replace : Calling G.call _).run
      (foundValue p text m >>= substitute G.call r.replace : Calling G.call _).run w w' := by
  have made (w : World κ) : (foundValue p text m : Calling G.call Value).run w = .ok (.ref w.heap.size)
      { w with heap := w.heap.push (.found ((List.range (p.groups + 1)).map fun n => (m.group? text n).map String.ofList)
        p.names) } := rfl
  have follows := Follows.matched first ((List.range (p.groups + 1)).map fun n => (m.group? text n).map String.ofList) p.names
  have follows' := Follows.matched second ((List.range (p.groups + 1)).map fun n => (m.group? text n).map String.ofList) p.names
  have given : G.AgreeAt (fun a v b v' => a = .ref w.heap.size ∧ b = .ref w'.heap.size ∧ v = _ ∧ v' = _)
      (foundValue p text m : Calling G.call Value).run (foundValue p text m : Calling G.call Value).run w w' :=
    .inl ⟨_, _, _, _, made w, made w', follows, follows', rfl, rfl, rfl, rfl⟩
  refine given.bind ?_
  rintro _ _ _ _ - - ⟨rfl, rfl, rfl, rfl⟩
  exact h.answers _ _ _ _ _ _ follows.comes follows'.comes (callable _ follows.comes) Array.getElem?_push_size
    Array.getElem?_push_size

/-- What a rule makes of a text is the same from wherever it is applied. -/
theorem PureRule.apply_agree (h : G.PureRule r) {a b : ReadyRule} (alike : ReadAlike r a w b w') (code : String)
    (first : G.comes w) (second : G.comes w') :
    G.AgreeAt Equal (a.apply G.call code : Calling G.call _).run (b.apply G.call code : Calling G.call _).run w w' := by
  rw [ReadyRule.apply, ReadyRule.apply, ← alike.matcher]
  refine (limitOf_agree alike.count first second).bind ?_
  rintro limit v _ v' follows follows' rfl
  dsimp only
  split
  · exact agreeAt_given follows.comes follows'.comes rfl rfl rfl
  · have changed : G.AgreeAt Equal (a.changes G.call a.matcher.program code.toList limit : Calling G.call _).run
        (b.changes G.call a.matcher.program code.toList limit : Calling G.call _).run v v' := by
      rw [ReadyRule.changes, ReadyRule.changes, ← alike.replacement]
      cases stands : a.replacement with
      | literal s => exact agreeAt_given follows.comes follows'.comes rfl rfl rfl
      | value x =>
          obtain rfl := alike.value x stands
          have seen (w : World κ) : (heap : Calling G.call _).run w = .ok w.heap w := rfl
          refine .seen (seen v) (seen v') ?_
          dsimp only
          rw [h.callable v' v follows'.comes follows.comes]
          cases callable : isCallable v.heap r.replace with
          | true =>
              have callable (w : World κ) (comes : G.comes w) : isCallable w.heap r.replace = true :=
                (h.callable w v comes follows.comes).trans callable
              simp only [↓reduceIte]
              refine agreeAt_mapM _ (fun m _ w w' first second => ?_) v v' follows.comes follows'.comes
              have one := h.substitute_agree a.matcher.program code.toList.toArray m callable first second
              have paired : G.AgreeAt Equal
                  ((foundValue a.matcher.program code.toList.toArray m >>= substitute G.call r.replace) >>= fun text =>
                    pure (m, text) : Calling G.call _).run
                  ((foundValue a.matcher.program code.toList.toArray m >>= substitute G.call r.replace) >>= fun text =>
                    pure (m, text) : Calling G.call _).run w w' := by
                refine one.bind ?_
                rintro text u _ u' past past' rfl
                exact .inl (giveAt_pure past.comes past'.comes rfl)
              simpa only [substitute, bind_assoc] using paired
          | false =>
              simp only [Bool.false_eq_true, ↓reduceIte]
              refine (templatePieces_agree _ _ follows.comes follows'.comes).bind ?_
              rintro pieces z _ z' after after' rfl
              refine agreeAt_mapM _ (fun m _ w w' first second => ?_) z z' after.comes after'.comes
              refine (filledTemplate_agree _ _ pieces m first second).bind ?_
              rintro text u _ u' past past' rfl
              exact .inl (giveAt_pure past.comes past'.comes rfl)
    refine changed.bind ?_
    rintro changes z _ z' follows follows' rfl
    exact agreeAt_given follows.comes follows'.comes rfl rfl rfl

/-! ## Turns of rules -/

/-- Recompiling goes by the text and the owners. -/
def Recompiles (G : Realm κ) (s : Setup) : Prop :=
  ∀ code (names : List String) w w', G.texts code → (∀ n ∈ names, G.names n) → G.comes w → G.comes w' →
    G.AgreeAt ShownAlike (recompile G.call code s.id (names.map .str) s.globals : Calling G.call _).run
      (recompile G.call code s.id (names.map .str) s.globals : Calling G.call _).run w w'

/-- What a rule makes of a text, wherever it is applied. -/
def Makes (G : Realm κ) (r : Rule) (code code' : String) : Prop :=
  ∀ w, G.comes w → ∃ ready u v, (r.ready : Calling G.call _).run w = .ok ready u ∧
    (ready.apply G.call code : Calling G.call _).run u = .ok code' v

/-- While the rules of a patch have their turns, two modules are at the same text, and their factories show the same. -/
structure Level (G : Realm κ) (names : List String) (name : String) (p : Progress) (w : World κ) (p' : Progress)
    (w' : World κ) : Prop where
  current : ShownAlike p.current w p'.current w'
  code : p.code = p'.code
  text : G.texts p.code
  known : ∀ n ∈ withName names name, G.names n
  owns : Owns names name p
  owns' : Owns names name p'

theorem Level.later (h : G.Level names name p w p' w') (first : G.Later w v) (second : G.Later w' u) :
    G.Level names name p v p' u :=
  ⟨h.current.later first second, h.code, h.text, h.known, h.owns, h.owns'⟩

/-- Both have the owner among those that contributed. -/
def Owned (names : List String) (name : String) (p p' : Progress) : Prop :=
  p.owners = (withName names name).map .str ∧ p'.owners = (withName names name).map .str

/-- A turn of a rule ended alike for two modules. -/
structure TurnAlike (G : Realm κ) (names : List String) (name : String) (p p' : Progress) (a : Progress × RuleOutcome)
    (v : World κ) (b : Progress × RuleOutcome) (v' : World κ) : Prop where
  level : G.Level names name a.1 v b.1 v'
  outcome : a.2.Alike b.2
  owned : a.2.isApplied = true ∨ Owned names name p p' → Owned names name a.1 b.1

theorem PureRule.attempt_agree (h : G.PureRule r) (recompiles : G.Recompiles s) (owner : patch.owner = .str name)
    (level : G.Level names name p w p' w') (first : G.comes w) (second : G.comes w') :
    G.GiveAt (fun a v b v' => G.TurnAlike names name p p' (a.1, a.2.1) v (b.1, b.2.1) v')
      (attempt G.call s patch r p : Calling G.call _).run (attempt G.call s patch r p' : Calling G.call _).run w w' := by
  obtain ⟨current', code', owners'⟩ := p'
  obtain rfl : p.code = code' := level.code
  -- a failure leaves text and factory, and perhaps the owner
  have failing {p' : Progress} {w w' v v' : World κ} {owners owners' : List Value} (level : G.Level names name p w p' w') (c c' : Cause)
      (follows : G.Follows w v) (follows' : G.Follows w' v') (x y : Option Pattern.Program × Option String)
      (own : owners = p.owners ∧ owners' = p'.owners ∨ owners = (withName names name).map .str ∧ owners' = owners) :
      G.GiveAt (fun a v b v' => G.TurnAlike names name p p' (a.1, a.2.1) v (b.1, b.2.1) v')
        (pure ({ p with owners }, .failed c, x)) (pure ({ p' with owners := owners' }, .failed c', y)) v v' := by
    have later := level.later follows.toLater follows'.toLater
    refine giveAt_pure follows.comes follows'.comes ?_
    rcases own with ⟨rfl, rfl⟩ | ⟨rfl, rfl⟩
    · exact ⟨later, .failed c c', fun owned => owned.resolve_left Bool.false_ne_true⟩
    · exact ⟨⟨later.current, later.code, later.text, later.known, .inr rfl, .inr rfl⟩, .failed c c', fun _ => ⟨rfl, rfl⟩⟩
  simp only [attempt, run_handle]
  refine AgreeAt.handle ?_ fun c v c' v' follows follows' =>
    failing level c c' follows follows' _ _ (.inl ⟨rfl, rfl⟩)
  refine (h.ready_agree first second).ran.bind ?_
  rintro a v b v' follows follows' ⟨alike, ready, -⟩
  have level := level.later follows.toLater follows'.toLater
  simp only [run_handle, ← alike.matcher]
  refine .inl (AgreeAt.handle ?_ fun c v c' v' follows follows' =>
    failing level c c' follows follows' _ _ (.inl ⟨rfl, rfl⟩))
  refine (h.apply_agree alike p.code follows.comes follows'.comes).ran.bind ?_
  rintro code u _ u' after after' ⟨rfl, rewrote, -⟩
  have level := level.later after.toLater after'.toLater
  have text : G.texts code := h.texts p.code code _ _ _ a level.text first ready rewrote
  dsimp only
  split
  · exact .inl (giveAt_pure after.comes after'.comes ⟨level, .noEffect, fun owned => owned.resolve_left Bool.false_ne_true⟩)
  simp only [run_handle, owner]
  refine .inl (AgreeAt.handle ?_ fun c v c' v' follows follows' =>
    failing level c c' follows follows' _ _ (.inl ⟨rfl, rfl⟩))
  refine .seen (level.owns.adds u) (level.owns'.adds u') ?_
  simp only [run_handle]
  refine .inl (AgreeAt.handle ?_ fun c v c' v' follows follows' =>
    failing level c c' follows follows' _ _ (.inr ⟨rfl, rfl⟩))
  refine (recompiles code (withName names name) u u' text level.known after.comes after'.comes).bind ?_
  intro f z f' z' past past' shown
  exact .inl (giveAt_pure past.comes past'.comes ⟨⟨shown, rfl, text, level.known, .inr rfl, .inr rfl⟩, .applied, fun _ => ⟨rfl, rfl⟩⟩)

theorem giveAt_logs {m m' : Run κ Unit} (logs : m.Logs) (logs' : m'.Logs) (first : G.comes w) (second : G.comes w') :
    G.GiveAt Equal m m' w w' := by
  obtain ⟨records, -, ran⟩ := logs w
  obtain ⟨records', -, ran'⟩ := logs' w'
  exact ⟨(), _, (), _, ran, ran', .logged first _, .logged second _, rfl⟩

/-- A rule ends its turn in the same way from wherever it is tried. -/
theorem PureRule.applyRule_agree (h : G.PureRule r) (recompiles : G.Recompiles s) (owner : patch.owner = .str name)
    (level : G.Level names name p w p' w') (first : G.comes w) (second : G.comes w') :
    G.GiveAt (G.TurnAlike names name p p') (applyRule G.call s patch (.rule r) p : Calling G.call _).run
      (applyRule G.call s patch (.rule r) p' : Calling G.call _).run w w' := by
  obtain ⟨b, settles⟩ := h.condition
  have asked : (RuleItem.condition (.rule r) : Calling G.call Value) = pure r.predicate := rfl
  simp only [applyRule, asked, pure_bind]
  refine (settles.giveAt first second).bind ?_
  rintro b v _ v' follows follows' rfl
  have level := level.later follows.toLater follows'.toLater
  cases b with
  | false =>
      exact giveAt_pure follows.comes follows'.comes ⟨level, .skipped, fun owned => owned.resolve_left Bool.false_ne_true⟩
  | true =>
      refine (h.attempt_agree recompiles owner level follows.comes follows'.comes).bind ?_
      intro a u b u' after after' alike
      refine (giveAt_logs (report_logs _ _ _ _ _ _ _) (report_logs _ _ _ _ _ _ _) after.comes after'.comes).bind ?_
      intro _ z _ z' past past' _
      exact giveAt_pure past.comes past'.comes
        ⟨alike.level.later past.toLater past'.toLater, alike.outcome, alike.owned⟩

/-! ## Turns of patches -/

/-- A patch whose conditions and replacements depend on nothing but the text. -/
structure PurePatch (G : Realm κ) (patch : Patch) : Prop where
  owner : ∃ name, patch.owner = .str name ∧ G.names name
  finds : ∃ m, Matcher.read? patch.find = some m
  condition : ∃ b, G.Settles (holdsNow G.call patch.predicate : Calling G.call _).run b
  rules : ∀ item ∈ patch.rules, ∃ r, item = .rule r ∧ G.PureRule r

/-- Two modules have come to the same text for the same owners, and their factories show the same. -/
structure Even (G : Realm κ) (p : Progress) (w : World κ) (p' : Progress) (w' : World κ) : Prop where
  current : ShownAlike p.current w p'.current w'
  code : p.code = p'.code
  text : G.texts p.code
  owners : p.owners = p'.owners
  named : ∃ names : List String, p.owners = names.map .str ∧ ∀ n ∈ names, G.names n

theorem Even.later (h : G.Even p w p' w') (first : G.Later w v) (second : G.Later w' u) : G.Even p v p' u :=
  ⟨h.current.later first second, h.code, h.text, h.owners, h.named⟩

theorem forall_withName {P : String → Prop} (all : ∀ n ∈ names, P n) (one : P name) : ∀ n ∈ withName names name, P n := by
  intro n hn
  rw [withName] at hn
  split at hn
  · exact all n hn
  · rcases List.mem_append.mp hn with there | here
    · exact all n there
    · exact List.mem_singleton.mp here ▸ one

theorem Even.level (h : G.Even p w p' w') (known : G.names name) :
    ∃ names, p.owners = names.map .str ∧ (∀ n ∈ names, G.names n) ∧ G.Level names name p w p' w' := by
  obtain ⟨names, named, all⟩ := h.named
  exact ⟨names, named, all, h.current, h.code, h.text, forall_withName all known, .inl named, .inl (h.owners ▸ named)⟩

/-- Two modules are at the same text and both contributed, or they are where they began. -/
structure RulesAlike (G : Realm κ) (names : List String) (name : String) (a : Progress × Bool) (v : World κ)
    (b : Progress × Bool) (v' : World κ) : Prop where
  level : G.Level names name a.1 v b.1 v'
  contributed : a.2 = b.2
  owned : a.2 = true → Owned names name a.1 b.1

theorem applyRules_agree (recompiles : G.Recompiles s) (owner : patch.owner = .str name) {start start' : Progress} :
    (items : List RuleItem) → (∀ item ∈ items, ∃ r, item = .rule r ∧ G.PureRule r) →
    ∀ {p p' : Progress} {w w' : World κ} {contributed : Bool}, G.Level names name p w p' w' →
    G.Level names name start w start' w' → (contributed = true → Owned names name p p') → G.comes w → G.comes w' →
    G.GiveAt (G.RulesAlike names name) (applyRules G.call s patch start contributed p items : Calling G.call _).run
      (applyRules G.call s patch start' contributed p' items : Calling G.call _).run w w'
  | [], _, _, _, _, _, _, level, _, owned, first, second => giveAt_pure first second ⟨level, rfl, owned⟩
  | item :: rest, pure, p, p', w, w', contributed, level, began, owned, first, second => by
      obtain ⟨r, rfl, h⟩ := pure item List.mem_cons_self
      have more := @applyRules_agree recompiles owner start start' rest fun item hi => pure item (List.mem_cons_of_mem _ hi)
      refine (h.applyRule_agree recompiles owner level first second).bind ?_
      rintro ⟨q, outcome⟩ v ⟨q', outcome'⟩ v' follows follows' alike
      have began := began.later follows.toLater follows'.toLater
      have stays (h : contributed = true) : Owned names name q q' := alike.owned (.inr (owned h))
      obtain ⟨level', outcomes, applied⟩ := alike
      have undone : G.GiveAt (G.RulesAlike names name) (Pure.pure (start, false) : Calling G.call _).run
          (Pure.pure (start', false) : Calling G.call _).run v v' :=
        giveAt_pure follows.comes follows'.comes ⟨began, rfl, nofun⟩
      cases outcomes with
      | skipped => exact more level' began stays follows.comes follows'.comes
      | applied => exact more level' began (fun _ => applied (.inl rfl)) follows.comes follows'.comes
      | noEffect =>
          cases group : patch.group with
          | true => simpa only [group] using undone
          | false => simpa only [group] using more level' began stays follows.comes follows'.comes
      | failed c c' =>
          cases group : patch.group with
          | true => simpa only [group] using undone
          | false => simpa only [group] using more level' began stays follows.comes follows'.comes

/-- A matcher is read without anything changing. -/
theorem matcher_run {find : Value} {m : Matcher} (finds : Matcher.read? find = some m) (w : World κ) :
    (Matcher.of find : Within R _).run w = .ok m w := by
  rcases Matcher.of_run (R := R) find w with ⟨m', read, ran⟩ | ⟨none, -⟩
  · rw [finds] at read
    cases read
    exact ran
  · rw [finds] at none
    cases none

/-- A patch ends its turn in the same way from wherever it is tried. -/
theorem PurePatch.tryPatch_agree (h : G.PurePatch patch) (recompiles : G.Recompiles s) (even : G.Even p w p' w')
    (first : G.comes w) (second : G.comes w') :
    G.GiveAt (fun a v b v' => a.2 = b.2 ∧ G.Even a.1 v b.1 v') (tryPatch G.call s patch p : Calling G.call _).run
      (tryPatch G.call s patch p' : Calling G.call _).run w w' := by
  obtain ⟨name, owner, known⟩ := h.owner
  obtain ⟨b, settles⟩ := h.condition
  obtain ⟨m, finds⟩ := h.finds
  rw [tryPatch, tryPatch]
  refine (settles.giveAt first second).bind ?_
  rintro b v _ v' follows follows' rfl
  have even := even.later follows.toLater follows'.toLater
  cases b with
  | false => exact giveAt_pure follows.comes follows'.comes ⟨rfl, even⟩
  | true =>
      simp only [Bool.not_true, Bool.false_eq_true, ↓reduceIte]
      have read : G.GiveAt Equal (Matcher.of patch.find : Calling G.call _).run (Matcher.of patch.find : Calling G.call _).run v v' :=
        ⟨m, v, m, v', matcher_run finds v, matcher_run finds v', .refl follows.comes, .refl follows'.comes, rfl⟩
      refine read.bind ?_
      rintro m u _ u' follows follows' rfl
      have even := even.later follows.toLater follows'.toLater
      dsimp only
      rw [← even.code]
      cases found : m.isIn p.code.toList with
      | false =>
          simp only [Bool.not_false, ↓reduceIte]
          exact giveAt_pure follows.comes follows'.comes ⟨rfl, even⟩
      | true =>
          simp only [Bool.not_true, Bool.false_eq_true, ↓reduceIte]
          obtain ⟨names, named, all, level⟩ := even.level known
          have none : false = true → Owned names name p p' := fun h => absurd h Bool.false_ne_true
          have tried := applyRules_agree recompiles owner patch.rules h.rules level level none
            follows.comes follows'.comes
          refine tried.bind ?_
          rintro ⟨q, c⟩ z ⟨q', c'⟩ z' past past' ⟨level', rfl, owned⟩
          refine giveAt_pure past.comes past'.comes ⟨rfl, ?_⟩
          cases c with
          | true =>
              obtain ⟨owners, owners'⟩ := owned rfl
              exact ⟨level'.current, level'.code, level'.text, owners.trans owners'.symm, _, owners, level'.known⟩
          | false => exact ⟨level'.current, level'.code, level'.text, even.owners, names, named, all⟩

/-- The end of a turn leaves a world that comes up, whatever patch it takes out. -/
theorem endTurn_later {run i j : Nat} {o : Occurrence} {contributed : Bool} (comes : G.comes w)
    (ended : endTurn G.registry run i o contributed w = .ok j v) : G.Later w v := by
  have tried : noteDeed (.tried G.registry run o.number) w = .ok () (w.noted (.tried G.registry run o.number)) := rfl
  have after := Later.noted comes (.tried G.registry run o.number)
  rw [endTurn, bind_of_ok tried] at ended
  refine after.trans ?_
  cases used : contributed && !o.patch.applyToAll with
  | false =>
      simp only [used, Bool.false_eq_true, ↓reduceIte] at ended
      cases ended
      exact .noted after.comes _
  | true =>
      simp only [used, ↓reduceIte] at ended
      obtain ⟨there, u, taken, rest⟩ := bind_ok.mp ended
      cases taken
      have without := (Later.usedUp after.comes i).trans (.noted (G.usedUp i after.comes)
        (.used G.registry run o.number ((w.noted (.tried G.registry run o.number)).numbers G.registry)[i]?))
      split at rest
      · cases rest
        exact without.trans (.noted without.comes _)
      · cases rest

end Realm

end Patchwork
