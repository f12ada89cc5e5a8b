import Patchwork.Proofs.Trials

/-!
What a run leaves of the patches. If nothing that is called on the way changes them, all of them are tried, and those
that contributed are gone unless they stay for other modules.
-/

namespace Patchwork

open Run

variable {κ : Type} {call : Caller κ} {s : Setup} {n run i j : Nat} {p q : Progress} {u v w : World κ}

/-! ## Modules -/

section

variable {id factory : Value} {listeners : List Value} {policy : Policy} {dev : Bool} {diffContext : Int}

/-- A module comes to be patched: its factory has been shown, it closes over nothing, and its text has been read. -/
def Opens (call : Caller κ) (id factory : Value) (listeners : List Value) (policy : Policy) (dev : Bool)
    (diffContext : Int) (w : World κ) (s : Setup) (code : String) (u : World κ) : Prop :=
  ∃ w₁ w₂ globals,
    (showFactory call factory listeners : Working call _).run w = .ok () w₁ ∧ closedOver w₁.heap factory = [] ∧
    (normalizedSource policy factory : Working call _).run w₁ = .ok (some code) w₂ ∧
    (globalsOf factory : Working call _).run w₂ = .ok globals u ∧ s = ⟨id, globals, dev, diffContext⟩

theorem Opens.applyPatches {code : String}
    (h : Opens call id factory listeners policy dev diffContext w s code u) :
    (applyPatches call id factory n listeners policy dev diffContext : Working call _).run w =
      (runPatches call s n ⟨factory, code, []⟩ >>= fun p =>
        pure ⟨id, factory, p.current, some p.code, p.owners⟩) u := by
  obtain ⟨w₁, w₂, globals, shown, free, read, known, rfl⟩ := h
  have seen : (heap : Working call _).run w₁ = .ok w₁.heap w₁ := rfl
  refine (bind_of_ok shown).trans ?_
  refine (bind_of_ok seen).trans ?_
  simp only [free, List.isEmpty_nil, Bool.not_true, Bool.false_eq_true, ↓reduceIte]
  refine (bind_of_ok read).trans ?_
  exact bind_of_ok known

/-- Nothing is tried on a module that closes over variables. -/
theorem applyPatches_closed {w₁ : World κ}
    (shown : (showFactory call factory listeners : Working call _).run w = .ok () w₁)
    (closed : closedOver w₁.heap factory ≠ []) :
    ∃ w', (applyPatches call id factory n listeners policy dev diffContext : Working call _).run w =
      .ok ⟨id, factory, factory, none, []⟩ w' ∧ Quiet w₁ w' := by
  have seen : (heap : Working call _).run w₁ = .ok w₁.heap w₁ := rfl
  rw [applyPatches, Within.run_bind, bind_of_ok shown, Within.run_bind, bind_of_ok seen]
  cases free : closedOver w₁.heap factory with
  | nil => exact absurd free closed
  | cons name names => exact ⟨_, rfl, .refl _, rfl, rfl, rfl, rfl, rfl, rfl⟩

end

/-! ## Turns -/

/-- Whether a patch goes with its turn. -/
def PatchTrial.isUsed (t : PatchTrial κ) : Bool :=
  t.outcome && !t.subject.patch.applyToAll

/-- The patches that are left behind trials. -/
def unused (ts : List (PatchTrial κ)) : List Occurrence :=
  (ts.filter fun t => !t.isUsed).map (·.subject)

theorem unused_cons (t : PatchTrial κ) (ts : List (PatchTrial κ)) :
    unused (t :: ts) = (if t.isUsed then [] else [t.subject]) ++ unused ts := by
  cases used : t.isUsed <;> simp [unused, used]

theorem withoutPatch_patches (w : World κ) (n i : Nat) :
    ((w.withoutPatch n i).registry n).patches = (w.registry n).patches.eraseIdx i := by
  rw [World.withoutPatch, World.modifyRegistry_self w n rfl]

theorem usePatch_some {o : Occurrence} (occurrence : Nat) (h : (w.registry n).patches[i]? = some o) :
    usePatch n run occurrence i w = .ok true ((w.withoutPatch n i).noted (.used n run occurrence (some o.number))) := by
  have here : (w.numbers n)[i]? = some o.number := by rw [World.numbers, List.getElem?_map, h]; rfl
  rw [usePatch, modifyGet_run, here]
  rfl

/-- A turn ends with the patch at its place taken out, or behind it. -/
theorem endTurn_place (run : Nat) (o : Occurrence) {o' : Occurrence} (contributed : Bool)
    (here : (w.registry n).patches[i]? = some o') :
    ∃ v, endTurn n run i o contributed w = .ok (if contributed && !o.patch.applyToAll then i else i + 1) v ∧
      (v.registry n).patches = if contributed && !o.patch.applyToAll then (w.registry n).patches.eraseIdx i
        else (w.registry n).patches := by
  have tried : noteDeed (.tried n run o.number) w = .ok () (w.noted (.tried n run o.number)) := rfl
  have here : ((w.noted (.tried n run o.number)).registry n).patches[i]? = some o' := here
  rw [endTurn, bind_of_ok tried]
  cases contributed && !o.patch.applyToAll with
  | false => exact ⟨_, rfl, rfl⟩
  | true =>
      simp only [↓reduceIte]
      rw [bind_of_ok (usePatch_some o.number here)]
      exact ⟨_, rfl, withoutPatch_patches (w.noted (.tried n run o.number)) n i⟩

/-! ## Runs -/

/-- What is called while patches are tried leaves those of the registry as they are. -/
def Undisturbed (call : Caller κ) (s : Setup) (n run i : Nat) (p : Progress) (w : World κ) : Prop :=
  ∀ ts j q v o r c u, PatchTrials call s n run i p w ts j q v → (v.registry n).patches[j]? = some o →
    (tryPatch call s o.patch q : Calling call _).run v = .ok (r, c) u →
    (u.registry n).patches = (v.registry n).patches

theorem Undisturbed.next {o : Occurrence} {c : Bool} (h : Undisturbed call s n run i p w)
    (here : (w.registry n).patches[i]? = some o)
    (tried : (tryPatch call s o.patch p : Calling call _).run w = .ok (q, c) u)
    (ended : endTurn n run i o c u = .ok j v) : Undisturbed call s n run j q v :=
  fun _ _ _ _ _ _ _ _ trials => h _ _ _ _ _ _ _ _ (.cons here tried ended trials)

/-- The patches before the place of a run are those that stayed, and all behind it are those that were there. -/
theorem PatchTrials.place {ts : List (PatchTrial κ)} (h : PatchTrials call s n run i p w ts j q v)
    (undisturbed : Undisturbed call s n run i p w) : ∀ {done rest : List Occurrence},
    (w.registry n).patches = done ++ rest → done.length = i →
    ∃ left, rest = ts.map (·.subject) ++ left ∧ (v.registry n).patches = (done ++ unused ts) ++ left ∧
      (done ++ unused ts).length = j := by
  induction h with
  | nil =>
      intro done rest patches place
      exact ⟨rest, rfl, by simpa [unused] using patches, by simpa [unused] using place⟩
  | @cons i j k p q r w u v x o c ts here tried ended trials ih =>
      intro done rest patches place
      subst place
      have there := here
      rw [patches, List.getElem?_append_right (Nat.le_refl _), Nat.sub_self] at there
      obtain ⟨_, rest, rfl⟩ : ∃ o' rest', rest = o' :: rest' := by
        cases rest with
        | nil => cases there
        | cons o' rest => exact ⟨o', rest, rfl⟩
      cases there
      have same := undisturbed [] _ _ _ _ _ _ _ .nil here tried
      obtain ⟨v', ended', patches'⟩ := endTurn_place run o c (same ▸ here)
      rw [ended'] at ended
      cases ended
      rw [same, patches, List.eraseIdx_append_of_length_le (Nat.le_refl _), Nat.sub_self] at patches'
      have next := undisturbed.next here tried ended'
      have now : PatchTrial.isUsed ⟨o, p, w, c, q, u⟩ = (c && !o.patch.applyToAll) := rfl
      rw [unused_cons, now]
      rcases Bool.eq_false_or_eq_true (c && !o.patch.applyToAll) with used | used
      · simp only [used, ↓reduceIte, List.eraseIdx_cons_zero] at patches' next ih ⊢
        obtain ⟨left, rfl, after, place⟩ := ih next patches' rfl
        exact ⟨left, rfl, after, place⟩
      · simp only [used, Bool.false_eq_true, ↓reduceIte] at patches' next ih ⊢
        rw [List.append_cons] at patches'
        obtain ⟨left, rfl, after, place⟩ := ih next patches' (by rw [List.length_append, List.length_singleton])
        rw [← List.append_assoc done]
        exact ⟨left, rfl, after, place⟩

/-! ## Whole runs -/

theorem PatchTrials.mem {ts : List (PatchTrial κ)} (h : PatchTrials call s n run i p w ts j q v) {t : PatchTrial κ}
    (ht : t ∈ ts) :
    (tryPatch call s t.subject.patch t.before : Calling call _).run t.world = .ok (t.after, t.outcome) t.left := by
  induction h with
  | nil => cases ht
  | cons _ tried _ _ ih =>
      rcases List.mem_cons.mp ht with rfl | ht
      · exact tried
      · exact ih ht

/-- A run that nothing disturbs tries all patches, unless it fails in trying one of them. -/
theorem runPatches_undisturbed (undisturbed : Undisturbed call s n w.history.length 0 p (w.noted (.began n))) :
    ∃ ts j q v, Tries call s n p w ts j q v ∧
      ((ts.map (·.subject) = (w.registry n).patches ∧
          ∃ w', runPatches call s n p w = .ok q w' ∧ (w'.registry n).patches = unused ts) ∨
        ∃ o e w', ts.map (·.subject) ++ [o] <+: (w.registry n).patches ∧
          (tryPatch call s o.patch q : Calling call _).run v = .error e w' ∧
            runPatches call s n p w = .error e w') := by
  obtain ⟨ts, j, q, v, trials, stops⟩ := runPatches_trials call s n p w
  have patches : ((w.noted (.began n)).registry n).patches = [] ++ (w.registry n).patches := rfl
  obtain ⟨left, all, patches, place⟩ := trials.place undisturbed patches rfl
  refine ⟨ts, j, q, v, trials, ?_⟩
  have there : (v.registry n).patches[j]? = left[0]? := by
    rw [patches, ← place, List.getElem?_append_right (Nat.le_refl _), Nat.sub_self]
  generalize result : runPatches call s n p w = ended at stops
  cases stops with
  | ended _ none =>
      rw [there] at none
      obtain rfl : left = [] := List.eq_nil_iff_length_eq_zero.mpr (Nat.le_zero.mp (List.getElem?_eq_none_iff.mp none))
      refine .inl ⟨by rw [all, List.append_nil], _, rfl, ?_⟩
      rw [World.noted_registry, patches, List.append_nil, List.nil_append]
  | @failed o e w' _ here turn =>
      have first : ts.map (·.subject) ++ [o] <+: (w.registry n).patches := by
        rw [there] at here
        cases left with
        | nil => cases here
        | cons o' left =>
            cases here
            exact ⟨left, by rw [all, List.append_assoc]; rfl⟩
      rcases bind_error.mp turn with failed | ⟨⟨r, c⟩, u, tried, -⟩
      · exact .inr ⟨o, e, w', first, failed, rfl⟩
      · have same := undisturbed ts j q v o r c u trials here tried
        obtain ⟨x, ended, -⟩ := endTurn_place w.history.length o c (same ▸ here)
        rw [takeTurn_ok tried ended] at turn
        cases turn
  | exhausted none =>
      have few : ts.length ≤ (w.registry n).patches.length := by
        rw [all, List.length_append, List.length_map]
        exact Nat.le_add_right _ _
      rw [extraPatches] at none
      omega

section

variable {id factory : Value} {listeners : List Value} {policy : Policy} {dev : Bool} {diffContext : Int}
  {code : String}

end

/-! ## A patch that is registered twice -/

/-- Calls that do nothing and give nothing. -/
def silent : Caller Unit :=
  fun _ _ => pure .none

instance : Calls silent (Quiet (κ := Unit)) where
  called _ _ w := Lasting.refl w

theorem silent_undisturbed {w : World Unit} : Undisturbed silent s n run i p w := by
  intro ts j q v o r c u _ _ tried
  have reaches : Reaches silent v u :=
    after_ok tried ▸ (tryPatch silent s o.patch q : Calling silent _).within v
  exact (reaches.within (R := Quiet)).patches n

/-- The file that a module comes from. -/
def moduleFile : String :=
  "m"

/-- A factory in the first line of its file. -/
def plainFactory (captured : List (String × Address)) : Object :=
  .function
    { name := "a", qualifiedName := "a", code := ⟨⟨[], 0, none, [], none⟩, .value (.int 1), [], [], [], moduleFile, 1⟩
      globals := 0, captured, defaults := [], attrs := [] }

def plainFactoryPlace : Address :=
  (World.start [] ()).heap.size

/-- A patch with one rule, which finds something once. -/
def renumbering : Patch :=
  { owner := .str "p", find := .str "a", rules := [.rule ⟨.str "1", .str "2", .none, .int 0⟩], predicate := .none
    group := false, applyToAll := false, quiet := true }

/-- A world with one factory in it, and two registered occurrences of one patch. -/
def registeredTwice (captured : List (String × Address)) : World Unit :=
  let w := World.furnished [] () [plainFactory captured]
  { w with
    sources := [(moduleFile, ["def a(): 1\n".toList])]
    registries := #[.empty, { Registry.empty with
      patches := [⟨0, renumbering⟩, ⟨1, renumbering⟩] }, .empty] }

/-- The text of the factory. -/
def plainText : String :=
  "def a(): 1\n"

theorem plainText_block : Script.blockLength [plainText.toList] = .ok 1 := by
  have found : (Script.blockLength [plainText.toList]).toOption = some 1 := by decide +kernel
  cases length : Script.blockLength [plainText.toList] with
  | ok n =>
      rw [length] at found
      exact congrArg Except.ok (Option.some.inj found)
  | error o =>
      rw [length] at found
      cases found

/-- A world in which the factory stands at its place and its file is known. -/
structure HoldsPlain (call : Caller Unit) (captured : List (String × Address)) (w : World Unit) : Prop where
  there : w.heap[plainFactoryPlace]? = some (plainFactory captured)
  bare : (getAttr? (.ref plainFactoryPlace) "__wrapped__" : Working call _).run w = .ok .none w
  lines : (sourceLines moduleFile : Working call _).run w = .ok [plainText.toList] w

section

variable {call : Caller Unit} {captured : List (String × Address)} {w : World Unit}

theorem plainFactory_text (holds : HoldsPlain call captured w) :
    (sourceText (.ref plainFactoryPlace) : Working call _).run w = .ok plainText w := by
  have itself : (unwrapped 1000 (.ref plainFactoryPlace) : Working call _).run w =
      .ok (.ref plainFactoryPlace) w := by
    rw [unwrapped, Within.run_bind, bind_of_ok holds.bare]
    rfl
  have block : (blockAt [plainText.toList] 1 : Working call _) = pure plainText := by
    have first : Script.openingLine? [plainText.toList] 0 = some 0 := by decide +kernel
    simp [blockAt, first, plainText_block]
  have seen : (heap : Working call _).run w = .ok w.heap w := rfl
  rw [sourceText, Within.run_bind, bind_of_ok itself, Within.run_bind, bind_of_ok seen]
  simp only [holds.there, plainFactory]
  refine (bind_of_ok holds.lines).trans ?_
  dsimp only
  rw [block]
  rfl

theorem plainFactory_normalized (holds : HoldsPlain call captured w) :
    (normalizedSource .standard (.ref plainFactoryPlace) : Working call _).run w = .ok (some plainText) w := by
  have same : Policy.apply .standard plainText.toList = (plainText.toList, false) := by decide +kernel
  have normal : (Run.normalize .standard plainText : Working call _).run w = .ok plainText w := by
    rw [Run.normalize, same]
    rfl
  rw [normalizedSource, run_handle]
  refine handle_of_ok _ ?_
  rw [Within.run_bind, bind_of_ok (plainFactory_text holds), Within.run_bind, bind_of_ok normal]
  rfl

end

def plainSetup : Setup :=
  ⟨.str "m", some 0, false, 20⟩

theorem plainFactory_opens :
    Opens silent (.str "m") (.ref plainFactoryPlace) [] .standard false 20 (registeredTwice []) plainSetup plainText
      (registeredTwice []) :=
  ⟨_, _, some 0, rfl, by decide +kernel, plainFactory_normalized ⟨rfl, rfl, rfl⟩, rfl, rfl⟩

/-- Patches a module with the two occurrences. -/
def patchTwice (captured : List (String × Address)) : EStateM.Result Fault (World Unit) ModuleRecord :=
  (applyPatches silent (.str "m") (.ref plainFactoryPlace) 1 [] .standard false 20 : Working silent _).run
    (registeredTwice captured)

end Patchwork
