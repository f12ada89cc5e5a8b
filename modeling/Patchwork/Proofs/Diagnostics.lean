import Mathlib.Data.List.InsertIdx
import Patchwork.Proofs.Draining
import Patchwork.Proofs.ScriptLikeness

/-!
What is only told of patching: whether a host is in development, how much of a text diffs show, and which patches warn.
Two runs that differ in nothing else end in the same way, and leave the same behind but for log records.
-/

namespace Patchwork

open Run Script

variable {κ : Type} {R : World κ → World κ → Prop} [Still R] {n : Nat}

/-! ## Texts and rules -/

namespace Blind

variable {E : World κ → World κ → Prop} [Likeness E]

instance (file : String) : Blind E (sourceLines file : Within R _) := by
  unfold sourceLines
  refine ⟨fun w w' alike => ?_⟩
  have seen (w : World κ) : (world : Within R _).run w = .ok w w := rfl
  rw [Within.run_bind, bind_of_ok (seen w), bind_of_ok (seen w'), (Likeness.store alike).sources]
  exact ⟨rfl, alike⟩

instance (lines : List (List Char)) (row : Nat) : Blind E (blockAt lines row : Within R _) := by
  unfold blockAt
  repeat' first | split | infer_instance | dsimp only

instance unwrapped (fuel : Nat) (v : Value) : Blind E (Run.unwrapped fuel v : Within R _) := by
  induction fuel generalizing v with
  | zero => exact inferInstanceAs (Blind E (pure v : Within R _))
  | succ fuel ih =>
      unfold Run.unwrapped
      refine bind inferInstance fun found => ?_
      split <;> infer_instance

instance (v : Value) : Blind E (sourceText v : Within R _) := by
  unfold sourceText
  repeat' first | with_reducible refine bind ?_ fun _ => ?_ | split | infer_instance | dsimp only

instance : Blind E (reportUntokenized : Within R Unit) := by
  unfold reportUntokenized
  infer_instance

instance (p : Policy) (source : String) : Blind E (normalize p source : Within R _) := by
  unfold Run.normalize
  infer_instance

instance (policy : Policy) (factory : Value) : Blind E (normalizedSource policy factory : Within R _) := by
  unfold normalizedSource
  infer_instance

instance (factory : Value) : Blind E (globalsOf factory : Within R _) := by
  unfold globalsOf
  repeat' first | with_reducible refine bind ?_ fun _ => ?_ | split | infer_instance

instance (file text : String) : Blind E (registerSource file text : Within R _) where
  same w w' alike := by
    obtain ⟨heap, sources, recompiled, rules, -⟩ := Likeness.store alike
    have both := Likeness.changed w.heap ((file, Text.wideLines text.toList) :: w.sources.filter fun s => s.1 != file)
      w.recompiled w.rules alike
    refine ⟨rfl, ?_⟩
    change E { w with sources := _ } { w' with sources := _ }
    rw [heap, sources, recompiled, rules] at both ⊢
    exact both

instance : Blind E (countRecompiled : Within R Nat) where
  same w w' alike := by
    obtain ⟨heap, sources, recompiled, rules, -⟩ := Likeness.store alike
    have both := Likeness.changed w.heap w.sources (w.recompiled + 1) w.rules alike
    refine ⟨recompiled, ?_⟩
    rw [heap, sources, recompiled, rules] at both ⊢
    exact both

instance (rules : List Rule) : Blind E (setRules rules : Within R Unit) where
  same w w' alike := by
    obtain ⟨heap, sources, recompiled, -, -⟩ := Likeness.store alike
    have both := Likeness.changed w.heap w.sources w.recompiled rules alike
    refine ⟨rfl, ?_⟩
    change E { w with rules } { w' with rules }
    rw [heap, sources, recompiled] at both ⊢
    exact both

instance (separator : String) (items : List Value) : Blind E (joined separator items : Within R _) := by
  unfold joined
  refine bind inferInstance fun h => bind (mapM fun v _ => ?_) inferInstance
  dsimp only
  split <;> infer_instance

instance (v : Value) : Blind E (Matcher.of v : Within R _) := by
  unfold Matcher.of
  repeat' first | with_reducible refine bind ?_ fun _ => ?_ | split | infer_instance

instance (r : Rule) : Blind E (r.ready : Within R _) := by
  unfold Rule.ready
  refine bind inferInstance fun _ => ⟨fun w w' alike => ?_⟩
  have seen (w : World κ) : (world : Within R _).run w = .ok w w := rfl
  rw [Within.run_bind, bind_of_ok (seen w), bind_of_ok (seen w'), (Likeness.store alike).rules]
  exact Blind.same w w' alike

instance (count : Value) : Blind E (limitOf count : Within R _) := by
  unfold limitOf
  repeat' first | with_reducible refine bind ?_ fun _ => ?_ | split | infer_instance

instance (p : Pattern.Program) (text : Array Char) (m : Pattern.Match) :
    Blind E (foundValue p text m : Within R _) := by
  unfold foundValue
  infer_instance

instance (v : Value) : Blind E (replacementText v : Within R _) := by
  unfold replacementText
  repeat' first | with_reducible refine bind ?_ fun _ => ?_ | split | infer_instance

instance (p : Pattern.Program) (template : Value) : Blind E (templatePieces p template : Within R _) := by
  unfold templatePieces
  repeat' first | with_reducible refine bind ?_ fun _ => ?_ | split | infer_instance

instance (p : Pattern.Program) (text : Array Char) (pieces : List Pattern.Piece) (m : Pattern.Match) :
    Blind E (filledTemplate p text pieces m : Within R _) := by
  unfold filledTemplate
  split <;> infer_instance

variable {call : Caller κ} [Calls call R] [calls : call.Blind E]

instance (r : ReadyRule) (p : Pattern.Program) (source : List Char) (limit : Option Nat) :
    Blind E (r.changes call p source limit : Within R _) := by
  unfold ReadyRule.changes
  repeat' first | with_reducible refine bind ?_ fun _ => ?_ | split | infer_instance

instance (r : ReadyRule) (source : String) : Blind E (r.apply call source : Within R _) := by
  unfold ReadyRule.apply
  repeat' first | with_reducible refine bind ?_ fun _ => ?_ | split | infer_instance

instance (source : String) (id : Value) (owners : List Value) (globals : Option Address) :
    Blind E (recompile call source id owners globals : Within R _) := by
  unfold recompile
  repeat' first | with_reducible refine bind ?_ fun _ => ?_ | split | infer_instance | dsimp only

instance (factory : Value) (listeners : List Value) : Blind E (showFactory call factory listeners : Within R _) := by
  unfold showFactory
  infer_instance

instance (condition : Value) : Blind E (holdsNow call condition : Within R _) := by
  unfold holdsNow
  repeat' first | with_reducible refine bind ?_ fun _ => ?_ | split | infer_instance

instance (item : RuleItem) : Blind E (item.condition : Within R _) := by
  cases item <;> (unfold RuleItem.condition; infer_instance)

instance (owners : List Value) (owner : Value) : Blind E (addOwner owners owner : Within R _) := by
  unfold addOwner
  infer_instance

instance (s : Setup) (patch : Patch) (r : Rule) (p : Progress) : Blind E (attempt call s patch r p : Within R _) := by
  unfold attempt
  repeat' first
    | with_reducible refine bind ?_ fun _ => ?_
    | with_reducible refine handle ?_ fun _ => ?_
    | split
    | infer_instance

end Blind

/-! ## Worlds that differ in what is told -/

/-- The patch that warns of rules without effect. -/
def Patch.loud (p : Patch) : Patch :=
  { p with quiet := false }

def Occurrence.loud (o : Occurrence) : Occurrence :=
  { o with patch := o.patch.loud }

def Registry.loud (r : Registry) : Registry :=
  { r with patches := r.patches.map Occurrence.loud }

/-- The world in which all patches warn. -/
def World.loud (w : World κ) : World κ :=
  { w with registries := w.registries.map Registry.loud }

/-- The worlds differ in nothing but log records and which patches warn. -/
def SameButTold (w w' : World κ) : Prop :=
  SameButLogs w.loud w'.loud

theorem World.loud_registry (w : World κ) (n : Nat) : w.loud.registry n = (w.registry n).loud := by
  simp only [World.registry, World.loud, Array.getD_eq_getD_getElem?, Array.getElem?_map]
  cases w.registries[n]? <;> rfl

theorem World.loud_withoutPatch (w : World κ) (n i : Nat) : (w.withoutPatch n i).loud = w.loud.withoutPatch n i := by
  have registries : (w.withoutPatch n i).loud.registries = (w.loud.withoutPatch n i).registries := by
    simp only [World.withoutPatch, World.modifyRegistry, World.loud]
    ext1
    · simp only [Array.size_map, Array.size_modify]
    · simp only [Array.getElem_map, Array.getElem_modify]
      split
      · simp only [Registry.loud, List.eraseIdx_map]
      · rfl
  exact congrArg (fun registries => { w with registries }) registries

theorem World.loud_loud (w : World κ) : w.loud.loud = w.loud := by
  have twice : Registry.loud ∘ Registry.loud = Registry.loud := by
    funext r
    simp only [Function.comp_apply, Registry.loud, List.map_map]
    rfl
  simp only [World.loud, Array.map_map, twice]

namespace SameButTold

variable {w w' : World κ}

theorem loud (w : World κ) : SameButTold w w.loud :=
  congrArg World.unlogged w.loud_loud.symm

/-- What depends neither on log records nor on which patches warn is the same. -/
theorem same {α : Type} (h : SameButTold w w') (f : World κ → α) (told : ∀ w, f w = f w.loud.unlogged) :
    f w = f w' := by
  rw [told w, told w', show w.loud.unlogged = w'.loud.unlogged from h]

theorem patches (h : SameButTold w w') (n : Nat) :
    (w.registry n).patches.map Occurrence.loud = (w'.registry n).patches.map Occurrence.loud := by
  have both : (w.loud.registry n).patches = (w'.loud.registry n).patches :=
    SameButLogs.same h (fun w => (w.registry n).patches) fun _ => rfl
  rwa [World.loud_registry, World.loud_registry] at both

theorem numbers (h : SameButTold w w') (n : Nat) : w.numbers n = w'.numbers n := by
  have both := congrArg (List.map Occurrence.number) (h.patches n)
  rwa [List.map_map, List.map_map] at both

theorem noted (h : SameButTold w w') (d : Deed) : SameButTold (w.noted d) (w'.noted d) :=
  SameButLogs.same h (fun u => (u.noted d).unlogged) fun _ => by
    simp only [World.unlogged, World.noted, List.filter_filter, Bool.and_self]

theorem withoutPatch (h : SameButTold w w') (n i : Nat) : SameButTold (w.withoutPatch n i) (w'.withoutPatch n i) := by
  rw [SameButTold, World.loud_withoutPatch, World.loud_withoutPatch]
  exact SameButLogs.same h (fun u => (u.withoutPatch n i).unlogged) fun _ => by
    simp only [World.unlogged, World.withoutPatch, World.modifyRegistry, List.filter_filter, Bool.and_self]

end SameButTold

instance : Likeness (SameButTold (κ := κ)) where
  symm h := Likeness.symm (E := SameButLogs) h
  store h := by
    obtain ⟨heap, sources, recompiled, rules, environment⟩ := Likeness.store (E := SameButLogs) h
    exact ⟨heap, sources, recompiled, rules, environment⟩
  changed heap sources recompiled rules h := Likeness.changed (E := SameButLogs) heap sources recompiled rules h
  logged log h := Likeness.logged (E := SameButLogs) log h

/-! ## Reports -/

theorem logDiff_logs (before : String) (after : Option String) (p : Pattern.Program) (width : Int) :
    (logDiff before after p width : Within R Unit).run.Logs :=
  .bind (.record (fun _ => rfl) fun _ => rfl) <| .bind (.record (fun _ => rfl) fun _ => rfl) <|
    .record (fun _ => rfl) fun _ => rfl

/-- A report does nothing but log, whatever text, match and width it is given. -/
theorem report_logs (s : Setup) (patch : Patch) (r : Rule) (before : String) (outcome : RuleOutcome)
    (program : Option Pattern.Program) (after : Option String) :
    (report s patch r before outcome program after : Within R Unit).run.Logs := by
  have shown (v : Value) (w : World κ) : ∃ text, (Run.str v : Within R String).run w = .ok text w := ⟨_, rfl⟩
  have noted : ∀ {level : Level} {message : String}, (log level message : Within R Unit).run.Logs :=
    .record (fun _ => rfl) fun _ => rfl
  have failure : ∀ {message : String} {c : Cause}, (logFailure message c : Within R Unit).run.Logs :=
    .record (fun _ => rfl) fun _ => rfl
  unfold report
  repeat' first
    | exact .pure
    | exact noted
    | exact failure
    | exact logDiff_logs _ _ _ _
    | with_reducible refine .look (shown _) fun _ => ?_
    | with_reducible refine .bind ?_ ?_
    | split

/-! ## Patching -/

section

variable {E : World κ → World κ → Prop} [Likeness E] {call : Caller κ} [Calls call R] [calls : call.Blind E]
variable {s : Setup} {patch : Patch}

theorem applyRule_alike (dev : Bool) (diffContext : Int) (quiet : Bool) (item : RuleItem) (p : Progress) :
    Match E (applyRule call s patch item p : Within R _).run
      (applyRule call { s with dev, diffContext } { patch with quiet } item p : Within R _).run := by
  refine .bind (Blind.same (m := item.condition)) fun c => .bind (Blind.same (m := holdsNow call c)) fun holds => ?_
  cases holds with
  | false => exact .pure _
  | true =>
      cases item with
      | other v => exact .pure _
      | rule r =>
          refine .bind (Blind.same (m := attempt call s patch r p)) fun ended => ?_
          exact .bind (Logs.alike (report_logs _ _ _ _ _ _ _) (report_logs _ _ _ _ _ _ _)) fun _ => .pure _

theorem applyRules_alike (dev : Bool) (diffContext : Int) (quiet : Bool) (start : Progress) : (items : List RuleItem) →
    (contributed : Bool) → (p : Progress) →
    Match E (applyRules call s patch start contributed p items : Within R _).run
      (applyRules call { s with dev, diffContext } { patch with quiet } start contributed p items : Within R _).run
  | [], _, _ => .pure _
  | item :: rest, contributed, p => by
      refine .bind (applyRule_alike dev diffContext quiet item p) fun ended => ?_
      obtain ⟨p, outcome⟩ := ended
      have others := fun contributed => applyRules_alike dev diffContext quiet start rest contributed p
      cases outcome with
      | skipped => exact others contributed
      | applied => exact others true
      | noEffect | failed c =>
          cases patch with
          | mk owner find rules predicate group applyToAll own =>
              cases group with
              | true => exact .pure _
              | false => exact others contributed

theorem tryPatch_alike (dev : Bool) (diffContext : Int) (quiet : Bool) (p : Progress) :
    Match E (tryPatch call s patch p : Within R _).run
      (tryPatch call { s with dev, diffContext } { patch with quiet } p : Within R _).run := by
  refine .bind (Blind.same (m := holdsNow call patch.predicate)) fun holds => ?_
  cases holds with
  | false => exact .pure _
  | true =>
      refine .bind (Blind.same (m := Matcher.of patch.find)) fun matcher => ?_
      cases found : matcher.isIn p.code.toList with
      | false =>
          simp only [found]
          exact .pure _
      | true =>
          simp only [found]
          exact .bind (applyRules_alike dev diffContext quiet p patch.rules false p) fun _ => .pure _

end

/-! ## Runs over the patches of a registry -/

theorem Occurrence.eq_of_loud {o o' : Occurrence} (h : o.loud = o'.loud) :
    o' = { o with patch := { o.patch with quiet := o'.patch.quiet } } := by
  obtain ⟨number, patch⟩ := o
  obtain ⟨number', patch'⟩ := o'
  obtain ⟨owner, find, rules, predicate, group, applyToAll, quiet⟩ := patch
  obtain ⟨owner', find', rules', predicate', group', applyToAll', quiet'⟩ := patch'
  cases h
  rfl

namespace SameButTold

variable {w w' : World κ}

/-- At each place of the patches there is the same occurrence, whether it warns or not. -/
theorem at_place (h : SameButTold w w') (n i : Nat) :
    (w'.registry n).patches[i]? = none ∧ (w.registry n).patches[i]? = none ∨
      ∃ o quiet, (w.registry n).patches[i]? = some o ∧
        (w'.registry n).patches[i]? = some { o with patch := { o.patch with quiet } } := by
  have both := congrArg (·[i]?) (h.patches n)
  simp only [List.getElem?_map] at both
  cases there : (w.registry n).patches[i]? with
  | none =>
      rw [there, Option.map_none, eq_comm, Option.map_eq_none_iff] at both
      exact .inl ⟨both, rfl⟩
  | some o =>
      rw [there, Option.map_some, eq_comm, Option.map_eq_some_iff] at both
      obtain ⟨o', there', loud⟩ := both
      exact .inr ⟨o, o'.patch.quiet, rfl, by rw [there', ← Occurrence.eq_of_loud loud.symm]⟩

theorem deed (d : Deed) : Match SameButTold (noteDeed d : Run κ Unit) (noteDeed d) :=
  fun _ _ alike => ⟨rfl, alike.noted d⟩

theorem began (n : Nat) : Match SameButTold (beginRun n : Run κ Nat) (beginRun n) :=
  fun _ _ alike => ⟨alike.same (fun w => w.history.length) fun _ => rfl, alike.noted _⟩

theorem used (n run occurrence i : Nat) :
    Match SameButTold (usePatch n run occurrence i : Run κ Bool) (usePatch n run occurrence i) := by
  intro w w' alike
  refine ⟨congrArg (fun numbers : List Nat => numbers[i]?.isSome) (alike.numbers n), ?_⟩
  rw [alike.numbers n]
  exact (alike.withoutPatch n i).noted _

theorem moved (n run occurrence i : Nat) :
    Match SameButTold (noteMove n run occurrence i : Run κ Unit) (noteMove n run occurrence i) := by
  intro w w' alike
  refine ⟨rfl, ?_⟩
  dsimp only
  rw [alike.numbers n]
  exact alike.noted _

theorem ended (n run : Nat) : Match SameButTold (endRun n run : Run κ Unit) (endRun n run) := by
  intro w w' alike
  refine ⟨rfl, ?_⟩
  dsimp only
  rw [alike.numbers n]
  exact alike.noted _

end SameButTold

section

variable {call : Caller κ} [calls : call.Blind (SameButTold (κ := κ))] {s : Setup}

theorem endTurn_alike (n run i : Nat) (o : Occurrence) (quiet contributed : Bool) :
    Match SameButTold (endTurn n run i o contributed : Run κ Nat)
      (endTurn n run i { o with patch := { o.patch with quiet } } contributed) := by
  refine .bind (SameButTold.deed _) fun _ => ?_
  dsimp only
  split
  · refine .bind (SameButTold.used _ _ _ _) fun there => ?_
    split
    · exact .bind (SameButTold.moved _ _ _ _) fun _ => .pure i
    · exact .throw _
  · exact .bind (SameButTold.moved _ _ _ _) fun _ => .pure (i + 1)

theorem takeTurn_alike (dev : Bool) (diffContext : Int) (n run i : Nat) (o : Occurrence) (quiet : Bool) (p : Progress) :
    Match SameButTold (takeTurn call s n run i o p)
      (takeTurn call { s with dev, diffContext } n run i { o with patch := { o.patch with quiet } } p) :=
  .bind (tryPatch_alike dev diffContext quiet p) fun tried =>
    .bind (endTurn_alike n run i o quiet tried.2) fun next => .pure (next, tried.1)

/-- By induction on the fuel: at each place the same occurrence is tried, and the same is left for the next one. -/
theorem tryPatches_alike (dev : Bool) (diffContext : Int) (n run fuel i : Nat) (p : Progress) :
    Match SameButTold (tryPatches call s n run fuel i p)
      (tryPatches call { s with dev, diffContext } n run fuel i p) := by
  induction fuel generalizing i p with
  | zero => exact .throw _
  | succ fuel ih =>
      intro w w' alike
      rw [tryPatches, tryPatches]
      have seen (w : World κ) : (get : Run κ (World κ)) w = .ok w w := rfl
      rw [bind_of_ok (seen w), bind_of_ok (seen w')]
      rcases alike.at_place n i with ⟨none', none⟩ | ⟨o, quiet, some, some'⟩
      · simp only [none, none']
        exact Match.bind (SameButTold.ended n run) (fun _ => .pure p) w w' alike
      · simp only [some, some']
        exact Match.bind (takeTurn_alike dev diffContext n run i o quiet p)
          (fun next => ih next.1 next.2) w w' alike

theorem runPatches_alike (dev : Bool) (diffContext : Int) (n : Nat) (p : Progress) :
    Match SameButTold (runPatches call s n p) (runPatches call { s with dev, diffContext } n p) := by
  intro w w' alike
  have bound : (w.registry n).patches.length = (w'.registry n).patches.length := by
    have both := congrArg List.length (alike.patches n)
    rwa [List.length_map, List.length_map] at both
  have seen (w : World κ) : (get : Run κ (World κ)) w = .ok w w := rfl
  rw [runPatches, runPatches, bind_of_ok (seen w), bind_of_ok (seen w'), bound]
  exact Match.bind (SameButTold.began n) (fun run => tryPatches_alike dev diffContext n run _ 0 p) w w' alike

/-- Whatever texts, matches and widths there are: patching a module ends in the same way in development or not, with
any width of diffs, and with patches that warn or not; it leaves the same patches, and nothing but log records
differs. -/
theorem diagnostics_silent {w w' : World κ} (alike : SameButTold w w') (id factory : Value) (n : Nat)
    (listeners : List Value) (policy : Policy) (dev dev' : Bool) (diffContext diffContext' : Int) :
    EndAlike SameButTold
      ((applyPatches call id factory n listeners policy dev diffContext : Working call _).run w)
      ((applyPatches call id factory n listeners policy dev' diffContext' : Working call _).run w') := by
  refine Match.bind (Blind.same (m := showFactory call factory listeners)) (fun _ => ?_) w w' alike
  refine .bind (Blind.same (m := heap)) fun h => ?_
  dsimp only
  split
  · exact Blind.same
  · refine .bind (Blind.same (m := normalizedSource policy factory)) fun source => ?_
    cases source with
    | none => exact Blind.same
    | some code =>
        refine .bind (Blind.same (m := globalsOf factory)) fun globals => ?_
        exact .bind (runPatches_alike dev' diffContext' n ⟨factory, code, []⟩) fun p => .pure _

end

theorem silent_pure : silent.Pure :=
  fun _ _ => ⟨fun _ => .ok .none, fun _ => rfl⟩

/-- Patches a module with the two occurrences, which warn now, in development. -/
def patchLoudly : EStateM.Result Fault (World Unit) ModuleRecord :=
  (applyPatches silent (.str "m") (.ref plainFactoryPlace) 1 [] .standard true (-3) : Working silent _).run
    (registeredTwice []).loud

theorem diagnostics_silent_twice : SameButTold (registeredTwice []) (registeredTwice []).loud ∧
    ∃ record v v', patchTwice [] = .ok record v ∧ patchLoudly = .ok record v' ∧ v.numbers 1 = [1] ∧
      SameButTold v v' := by
  have alike : SameButTold (registeredTwice []) (registeredTwice []).loud := .loud _
  have ends : (match patchTwice [] with
      | .ok _ w' => w'.numbers 1
      | .error _ _ => []) = [1] := by decide +kernel
  have blind : silent.Blind SameButTold := silent_pure.blind
  have both : EndAlike SameButTold (patchTwice []) patchLoudly := diagnostics_silent alike _ _ 1 [] .standard _ _ _ _
  refine ⟨alike, ?_⟩
  rcases EndAlike.cases both with ⟨record, v, v', ran, ran', left⟩ | ⟨e, v, v', ran, -, -⟩
  · rw [patchTwice, ran] at ends
    exact ⟨record, v, v', ran, ran', ends, left⟩
  · rw [patchTwice, ran] at ends
    cases ends

end Patchwork
