import Patchwork.Proofs.Draining
import Patchwork.Proofs.PlainWorlds

/-!
Patching two modules in either order. A patch that goes with the first one is missing when the second one is patched. If
it would have done nothing there, nothing is different without it: both modules come out alike, and the same patches are
left.
-/

namespace Patchwork

open Run Script

variable {κ : Type} {α β : Type} {G : Realm κ} {s : Setup} {u v w w' : World κ} {p p' q : Progress}

/-! ## Lists without marked items -/

/-- The items that are not marked. -/
def unmarked : List Bool → List α → List α
  | m :: marks, a :: as => if m then unmarked marks as else a :: unmarked marks as
  | _, _ => []

theorem unmarked_cons (m : Bool) (marks : List Bool) (a : α) (as : List α) :
    unmarked (m :: marks) (a :: as) = (if m then [] else [a]) ++ unmarked marks as := by
  cases m <;> rfl

theorem unmarked_none (as : List α) : unmarked (as.map fun _ => false) as = as := by
  induction as with
  | nil => rfl
  | cons a as ih => exact congrArg (a :: ·) ih

theorem map_unmarked (f : α → β) : (marks : List Bool) → (as : List α) → (unmarked marks as).map f = unmarked marks (as.map f)
  | [], as => by cases as <;> rfl
  | _ :: _, [] => rfl
  | m :: marks, a :: as => by
      rw [List.map_cons, unmarked_cons, unmarked_cons, List.map_append, map_unmarked f marks as]
      cases m <;> rfl

/-- Items are left out by one list of marks, and then by what some function says of the others. -/
theorem unmarked_unmarked (f : α → β → Bool) : (marks : List Bool) → (as : List α) → (bs : List β) →
    marks.length = as.length → bs.length = as.length →
    unmarked (List.zipWith f (unmarked marks as) (unmarked marks bs)) (unmarked marks as) =
      unmarked (List.zipWith (· || ·) marks (List.zipWith f as bs)) as
  | [], [], [], _, _ => rfl
  | m :: marks, a :: as, b :: bs, h, h' => by
      have rest := unmarked_unmarked f marks as bs (Nat.succ.inj h) (Nat.succ.inj h')
      cases m with
      | true => exact rest
      | false =>
          simp only [unmarked, List.zipWith_cons_cons, Bool.false_or, Bool.false_eq_true, ↓reduceIte, rest]

theorem zipWith_or_none : (marks : List Bool) → (as : List α) → marks.length = as.length →
    List.zipWith (· || ·) marks (as.map fun _ => false) = marks
  | [], [], _ => rfl
  | m :: marks, _ :: as, h => by
      rw [List.map_cons, List.zipWith_cons_cons, Bool.or_false, zipWith_or_none marks as (Nat.succ.inj h)]

/-- Marks for the patches that go with a module, given which ones contribute. -/
def goneWith (ps : List Occurrence) (cs : List Bool) : List Bool :=
  List.zipWith (fun o c => c && !o.patch.applyToAll) ps cs

theorem goneWith_none (ps : List Occurrence) : goneWith ps (ps.map fun _ => false) = ps.map fun _ => false := by
  rw [goneWith, List.zipWith_map_right, List.zipWith_self]
  rfl

theorem goneWith_trials (ts : List (PatchTrial κ)) :
    goneWith (ts.map (·.subject)) (ts.map (·.outcome)) = ts.map (·.isUsed) := by
  rw [goneWith, List.zipWith_map, List.zipWith_self]
  rfl

theorem unused_eq (ts : List (PatchTrial κ)) :
    unused ts = unmarked (goneWith (ts.map (·.subject)) (ts.map (·.outcome))) (ts.map (·.subject)) := by
  rw [goneWith_trials]
  induction ts with
  | nil => rfl
  | cons t ts ih => rw [unused_cons, List.map_cons, List.map_cons, unmarked_cons, ih]

/-! ## Runs over patches -/

namespace Realm

theorem Even.left (h : G.Even p w p' w') : G.Even p w p w :=
  ⟨.inl rfl, rfl, h.text, rfl, h.named⟩

/-- A turn at a place ends with the patch taken out there, or behind it. -/
theorem endTurn_splits {done rest : List Occurrence} {o : Occurrence} (run : Nat) (c : Bool) (follows : G.Follows w u)
    (patches : (w.registry G.registry).patches = done ++ o :: rest) :
    ∃ v, endTurn G.registry run done.length o c u =
        .ok (done ++ if c && !o.patch.applyToAll then [] else [o]).length v ∧
      (v.registry G.registry).patches = (done ++ if c && !o.patch.applyToAll then [] else [o]) ++ rest ∧ G.Later w v := by
  have here : (u.registry G.registry).patches[done.length]? = some o := by
    rw [follows.patches, patches, List.getElem?_append_right (Nat.le_refl _), Nat.sub_self]
    rfl
  obtain ⟨v, ended, left⟩ := endTurn_place run o c here
  have later := follows.toLater.trans (endTurn_later follows.comes ended)
  rw [follows.patches, patches] at left
  cases used : c && !o.patch.applyToAll with
  | true =>
      rw [used] at ended left
      refine ⟨v, by simpa using ended, ?_, later⟩
      simpa [List.eraseIdx_append_of_length_le] using left
  | false =>
      rw [used] at ended left
      exact ⟨v, by simpa using ended, by simpa using left, later⟩

variable {n k : Nat}

/-- All patches have their turns, one after the other. -/
theorem exists_trials (recompiles : G.Recompiles s) (run : Nat) : (rest : List Occurrence) →
    (∀ o ∈ rest, G.PurePatch o.patch) → ∀ {done : List Occurrence} {p : Progress} {w : World κ}, G.Even p w p w → G.comes w →
    (w.registry G.registry).patches = done ++ rest →
    ∃ ts q v, PatchTrials G.call s G.registry run done.length p w ts (done ++ unused ts).length q v ∧
      ts.map (·.subject) = rest ∧ (v.registry G.registry).patches = done ++ unused ts ∧ G.Even q v q v ∧ G.Later w v
  | [], _, done, p, w, even, comes, patches => by
      refine ⟨[], p, w, ?_, rfl, patches, even, .refl comes⟩
      rw [unused, List.filter_nil, List.map_nil, List.append_nil]
      exact .nil
  | o :: rest, pure, done, p, w, even, comes, patches => by
      obtain ⟨⟨q, c⟩, u, r, u', tried, -, follows, -, -, even'⟩ :=
        (pure o List.mem_cons_self).tryPatch_agree recompiles even comes comes
      obtain ⟨v, ended, left, later⟩ := endTurn_splits run c follows patches
      have ended' := endTurn_later follows.comes ended
      obtain ⟨ts, q', v', trials, subjects, left', even'', later'⟩ := exists_trials recompiles run rest
        (fun o ho => pure o (List.mem_cons_of_mem _ ho)) (even'.left.later ended' ended') later.comes left
      have here : (w.registry G.registry).patches[done.length]? = some o := by
        rw [patches, List.getElem?_append_right (Nat.le_refl _), Nat.sub_self]
        rfl
      have all : (done ++ if c && !o.patch.applyToAll then [] else [o]) ++ unused ts =
          done ++ unused (⟨o, p, w, c, q, u⟩ :: ts) := by rw [unused_cons, List.append_assoc]; rfl
      rw [all] at trials left'
      exact ⟨⟨o, p, w, c, q, u⟩ :: ts, q', v', .cons here tried ended trials, congrArg (o :: ·) subjects, left', even'',
        later.trans later'⟩

/-- Without patches that did nothing the others do what they did among them. -/
theorem trials_without (recompiles : G.Recompiles s) {k i j : Nat} {p q : Progress} {w v : World κ}
    {ts : List (PatchTrial κ)} (trials : PatchTrials G.call s G.registry k i p w ts j q v) (run : Nat) :
    (∀ t ∈ ts, G.PurePatch t.subject.patch) → ∀ {marks : List Bool} {done : List Occurrence} {p' : Progress} {w' : World κ},
    G.Even p w p' w' → G.comes w → G.comes w' → marks.length = ts.length →
    (∀ x ∈ ts.zip marks, x.2 = true → x.1.outcome = false) →
    (w'.registry G.registry).patches = done ++ unmarked marks (ts.map (·.subject)) →
    ∃ ts' q' v', PatchTrials G.call s G.registry run done.length p' w' ts' (done ++ unused ts').length q' v' ∧
      ts'.map (·.subject) = unmarked marks (ts.map (·.subject)) ∧
      ts'.map (·.outcome) = unmarked marks (ts.map (·.outcome)) ∧
      (v'.registry G.registry).patches = done ++ unused ts' ∧ G.Even q v q' v' ∧ G.Later w' v' := by
  induction trials with
  | nil =>
      intro _ marks done p' w' even _ second _ _ patches
      have none (α : Type) : unmarked marks ([] : List α) = [] := by cases marks <;> rfl
      rw [List.map_nil, none] at patches
      refine ⟨[], p', w', ?_, (none _).symm, (none _).symm, patches, even, .refl second⟩
      rw [unused, List.filter_nil, List.map_nil, List.append_nil]
      exact .nil
  | @cons i j k p q r w u v x o c ts here tried ended trials ih =>
      intro pure marks done p' w' even first second length idle patches
      obtain ⟨m, marks, rfl⟩ : ∃ m rest, marks = m :: rest := List.exists_cons_of_length_eq_add_one length
      have patch := pure _ List.mem_cons_self
      have others : ∀ t ∈ ts, G.PurePatch t.subject.patch := fun t ht => pure t (List.mem_cons_of_mem _ ht)
      have fewer : marks.length = ts.length := Nat.succ.inj length
      have idle' := fun x hx => idle x (List.mem_cons_of_mem _ hx)
      obtain ⟨⟨q₁, c₁⟩, u₁, ⟨q', c'⟩, u', tried₁, tried', follows, follows', same, even'⟩ :=
        patch.tryPatch_agree recompiles even first second
      have done₁ := tried₁.symm.trans tried
      cases done₁
      have later := follows.toLater.trans (endTurn_later follows.comes ended)
      rw [List.map_cons, unmarked_cons] at patches
      cases m with
      | true =>
          have stays : c = false := idle _ List.mem_cons_self rfl
          have still : q = p := by
            rcases tryPatch_ok tried with ⟨yes, -⟩ | ⟨-, still⟩
            · rw [stays] at yes
              cases yes
            · exact still
          subst still
          exact ih others (even.later later (.refl second)) later.comes second fewer idle' patches
      | false =>
          obtain rfl : c = c' := same
          obtain ⟨v', ended', left, later'⟩ := endTurn_splits run c follows' patches
          have now := even'.later (endTurn_later follows.comes ended) (endTurn_later follows'.comes ended')
          obtain ⟨ts', r', x', trials', subjects, outcomes, left', end', after⟩ :=
            ih others now later.comes later'.comes fewer idle' left
          have here' : (w'.registry G.registry).patches[done.length]? = some o := by
            rw [patches, List.getElem?_append_right (Nat.le_refl _), Nat.sub_self]
            rfl
          have all : (done ++ if c && !o.patch.applyToAll then [] else [o]) ++ unused ts' =
              done ++ unused (⟨o, p', w', c, q', u'⟩ :: ts') := by rw [unused_cons, List.append_assoc]; rfl
          rw [all] at trials' left'
          exact ⟨⟨o, p', w', c, q', u'⟩ :: ts', r', x', .cons here' tried' ended' trials', congrArg (o :: ·) subjects,
            congrArg (c :: ·) outcomes, left', end', later'.trans after⟩

end Realm

/-- A run that has come to the end of the list is over. -/
theorem runPatches_finished {call : Caller κ} {n j : Nat} {ts : List (PatchTrial κ)} (tries : Tries call s n p w ts j q v)
    (none : (v.registry n).patches[j]? = none) (few : ts.length ≤ (w.registry n).patches.length) :
    runPatches call s n p w = .ok q (v.noted (.ended n w.history.length (v.numbers n))) := by
  obtain ⟨more, fuel⟩ : ∃ more, (w.registry n).patches.length + extraPatches = ts.length + (more + 1) :=
    ⟨(w.registry n).patches.length - ts.length + (extraPatches - 1), by rw [extraPatches]; omega⟩
  rw [runPatches_eq, fuel, tries.resume]
  exact tryPatches_none none

/-! ## Modules -/

/-- A module that is to be patched. -/
structure Job where
  id : Value
  factory : Value
  listeners : List Value
  policy : Policy
  dev : Bool
  diffContext : Int

namespace Job

variable (m : Job) (call : Caller κ) (n : Nat)

/-- Patches the module with the patches of a registry. -/
def run : Run κ ModuleRecord :=
  (applyPatches call m.id m.factory n m.listeners m.policy m.dev m.diffContext : Working call _).run

/-- What comes before the patches: the factory is shown, and its text and globals are read. There is nothing to be patched
if it closes over variables or has no text. -/
def opening : Run κ (Option (String × Option Address)) :=
  (do
    showFactory call m.factory m.listeners
    let free := closedOver (← heap) m.factory
    if !free.isEmpty then
      let names := ", ".intercalate free
      log .debug s!"Module {← str m.id} closes over {names}, leaving it unpatched"
      pure none
    else
      match ← normalizedSource m.policy m.factory with
      | none =>
        log .debug s!"No source available for module {← str m.id}, leaving it unpatched"
        pure none
      | some code => do pure (some (code, ← globalsOf m.factory)) : Working call _).run

variable {m call n} {code : String} {globals : Option Address}

theorem opens_of_opening (h : m.opening call w = .ok (some (code, globals)) u) :
    Opens call m.id m.factory m.listeners m.policy m.dev m.diffContext w ⟨m.id, globals, m.dev, m.diffContext⟩ code u := by
  obtain ⟨_, w₁, shown, h⟩ := bind_ok.mp h
  have seen : (heap : Working call _).run w₁ = .ok w₁.heap w₁ := rfl
  rw [Within.run_bind, bind_of_ok seen] at h
  dsimp only at h
  split at h
  · obtain ⟨_, _, -, h⟩ := bind_ok.mp h
    obtain ⟨_, _, -, h⟩ := bind_ok.mp h
    cases h
  next free =>
  obtain ⟨text, w₂, read, h⟩ := bind_ok.mp h
  cases text with
  | none =>
      obtain ⟨_, _, -, h⟩ := bind_ok.mp h
      obtain ⟨_, _, -, h⟩ := bind_ok.mp h
      cases h
  | some code' =>
      obtain ⟨globals', w₃, known, h⟩ := bind_ok.mp h
      cases h
      have nothing : closedOver w₁.heap m.factory = [] := by simpa using free
      exact ⟨w₁, w₂, globals, shown, nothing, read, known, rfl⟩

theorem run_unopened (h : m.opening call w = .ok none u) :
    m.run call n w = .ok ⟨m.id, m.factory, m.factory, none, []⟩ u := by
  obtain ⟨_, w₁, shown, h⟩ := bind_ok.mp h
  have seen : (heap : Working call _).run w₁ = .ok w₁.heap w₁ := rfl
  rw [run, applyPatches, Within.run_bind, bind_of_ok shown, Within.run_bind, bind_of_ok seen]
  rw [Within.run_bind, bind_of_ok seen] at h
  dsimp only at h ⊢
  split at h
  next closed =>
    obtain ⟨_, _, named, h⟩ := bind_ok.mp h
    obtain ⟨_, _, told, h⟩ := bind_ok.mp h
    cases h
    rw [if_pos closed]
    exact (bind_of_ok named).trans (bind_of_ok told)
  next free =>
    rw [if_neg free]
    obtain ⟨text, w₂, read, h⟩ := bind_ok.mp h
    refine (bind_of_ok read).trans ?_
    cases text with
    | none =>
        obtain ⟨_, _, named, h⟩ := bind_ok.mp h
        obtain ⟨_, _, told, h⟩ := bind_ok.mp h
        cases h
        exact (bind_of_ok named).trans (bind_of_ok told)
    | some code' =>
        obtain ⟨_, _, -, h⟩ := bind_ok.mp h
        cases h

/-- A module has been patched when all patches have had their turns. -/
theorem run_opened {ts : List (PatchTrial κ)} (opening : m.opening call w = .ok (some (code, globals)) u)
    (tries : Tries call ⟨m.id, globals, m.dev, m.diffContext⟩ n ⟨m.factory, code, []⟩ u ts (unused ts).length q v)
    (subjects : ts.map (·.subject) = (u.registry n).patches) (patches : (v.registry n).patches = unused ts) :
    m.run call n w = .ok ⟨m.id, m.factory, q.current, some q.code, q.owners⟩
      (v.noted (.ended n u.history.length (v.numbers n))) := by
  have none : (v.registry n).patches[(unused ts).length]? = none := patches ▸ List.getElem?_eq_none (Nat.le_refl _)
  have few : ts.length = (u.registry n).patches.length := by rw [← subjects, List.length_map]
  rw [run, (opens_of_opening opening).applyPatches]
  exact bind_of_ok (runPatches_finished tries none (Nat.le_of_eq few))

end Job

/-- Which patches of a registry contribute to a module, one after the other: those that do so in their turns, or none if
the module is left alone. -/
inductive Contributions (call : Caller κ) (n : Nat) (m : Job) (w : World κ) : List Bool → Prop where
  | tried {s : Setup} {code : String} {u v : World κ} {ts : List (PatchTrial κ)} {j : Nat} {q : Progress} :
      Opens call m.id m.factory m.listeners m.policy m.dev m.diffContext w s code u →
      Tries call s n ⟨m.factory, code, []⟩ u ts j q v → ts.map (·.subject) = (w.registry n).patches →
      Contributions call n m w (ts.map (·.outcome))
  | untried {r : ModuleRecord} {v : World κ} : m.run call n w = .ok r v → r.source = none →
      Contributions call n m w ((w.registry n).patches.map fun _ => false)

theorem PatchTrials.unique {call : Caller κ} {n run i j : Nat} {ts : List (PatchTrial κ)}
    (h : PatchTrials call s n run i p w ts j q v) : ∀ {ts' : List (PatchTrial κ)} {j' : Nat} {q' : Progress} {v' : World κ},
    PatchTrials call s n run i p w ts' j' q' v' → ts.length = ts'.length → ts = ts' := by
  induction h with
  | nil =>
      intro ts' _ _ _ _ length
      exact (List.eq_nil_of_length_eq_zero length.symm).symm
  | cons here tried ended _ ih =>
      intro ts' _ _ _ h' length
      cases h' with
      | nil => cases length
      | cons here' tried' ended' rest' =>
          cases here.symm.trans here'
          cases tried.symm.trans tried'
          cases ended.symm.trans ended'
          rw [ih rest' (Nat.succ.inj length)]

theorem Opens.unique {call : Caller κ} {m : Job} {s s' : Setup} {code code' : String} {u u' : World κ}
    (h : Opens call m.id m.factory m.listeners m.policy m.dev m.diffContext w s code u)
    (h' : Opens call m.id m.factory m.listeners m.policy m.dev m.diffContext w s' code' u') : s = s' ∧ code = code' ∧ u = u' := by
  obtain ⟨w₁, w₂, globals, shown, -, read, known, rfl⟩ := h
  obtain ⟨w₁', w₂', globals', shown', -, read', known', rfl⟩ := h'
  cases shown.symm.trans shown'
  cases read.symm.trans read'
  cases known.symm.trans known'
  exact ⟨rfl, rfl, rfl⟩

/-- A module that is left alone is not opened. -/
theorem Opens.source {call : Caller κ} {n : Nat} {m : Job} {s : Setup} {code : String} {u : World κ} {r : ModuleRecord}
    (h : Opens call m.id m.factory m.listeners m.policy m.dev m.diffContext w s code u) (ran : m.run call n w = .ok r v) :
    r.source ≠ none := by
  rw [Job.run, h.applyPatches] at ran
  obtain ⟨p, _, -, same⟩ := bind_ok.mp ran
  cases same
  exact Option.some_ne_none _

/-- There is one answer to which patches contribute. -/
theorem Contributions.unique {call : Caller κ} {n : Nat} {m : Job} {cs cs' : List Bool} (h : Contributions call n m w cs)
    (h' : Contributions call n m w cs') : cs = cs' := by
  cases h with
  | tried opens tries subjects =>
      cases h' with
      | tried opens' tries' subjects' =>
          obtain ⟨rfl, rfl, rfl⟩ := opens.unique opens'
          have length := congrArg List.length (subjects.trans subjects'.symm)
          rw [List.length_map, List.length_map] at length
          rw [PatchTrials.unique tries tries' length]
      | untried ran none => exact absurd none (opens.source ran)
  | untried ran none =>
      cases h' with
      | tried opens' _ _ => exact absurd none (opens'.source ran)
      | untried _ _ => rfl

/-- Records of one module with the same text and the same owners. Their factories show the same. -/
structure RecordAlike (r : ModuleRecord) (w : World κ) (r' : ModuleRecord) (w' : World κ) : Prop where
  id : r.id = r'.id
  original : r.original = r'.original
  source : r.source = r'.source
  patchedBy : r.patchedBy = r'.patchedBy
  current : ShownAlike r.current w r'.current w'

theorem RecordAlike.symm {r r' : ModuleRecord} (h : RecordAlike r w r' w') : RecordAlike r' w' r w :=
  ⟨h.id.symm, h.original.symm, h.source.symm, h.patchedBy.symm,
    h.current.imp Eq.symm fun ⟨shown, here, there⟩ => ⟨shown, there, here⟩⟩

theorem RecordAlike.later {r r' : ModuleRecord} (h : RecordAlike r w r' w') {v v' : World κ} (first : G.Later w v)
    (second : G.Later w' v') : RecordAlike r v r' v' :=
  { h with current := h.current.later first second }

namespace Realm

/-- A module that begins in the same way wherever that is, and is recompiled by text and owners. -/
structure PureJob (G : Realm κ) (m : Job) : Prop where
  opening : ∃ opened, G.Settles (m.opening G.call) opened ∧ ∀ code globals, opened = some (code, globals) →
    G.texts code ∧ G.Recompiles ⟨m.id, globals, m.dev, m.diffContext⟩

/-- A module has been patched with all patches of the registry, and those that contributed have gone unless they stay. It
comes out alike in any other world that lacks only patches which do not contribute to it. -/
structure Patched (G : Realm κ) (m : Job) (ps : List Occurrence) (w : World κ) (cs : List Bool) (r : ModuleRecord)
    (v : World κ) : Prop where
  run : m.run G.call G.registry w = .ok r v
  contributions : Contributions G.call G.registry m w cs
  length : cs.length = ps.length
  patches : (v.registry G.registry).patches = unmarked (goneWith ps cs) ps
  later : G.Later w v
  elsewhere : ∀ marks w', G.comes w' → marks.length = ps.length → (∀ x ∈ cs.zip marks, x.2 = true → x.1 = false) →
    (w'.registry G.registry).patches = unmarked marks ps → ∃ r' v', m.run G.call G.registry w' = .ok r' v' ∧
      (v'.registry G.registry).patches = unmarked (List.zipWith (· || ·) marks (goneWith ps cs)) ps ∧ G.Later w' v' ∧
      RecordAlike r v r' v'

variable {m : Job} {ps : List Occurrence}

/-- A module that is left alone. -/
theorem PureJob.patched_unopened (settles : G.Settles (m.opening G.call) none) (comes : G.comes w)
    (patches : (w.registry G.registry).patches = ps) : ∃ cs r v, G.Patched m ps w cs r v := by
  subst patches
  obtain ⟨u, opening, follows⟩ := settles w comes
  have ran := Job.run_unopened (n := G.registry) opening
  refine ⟨_, _, u, ran, .untried ran rfl, List.length_map _, ?_, follows.toLater, ?_⟩
  · rw [follows.patches, goneWith_none, unmarked_none]
  · intro marks w' comes' length _ patches'
    obtain ⟨u', opening', follows'⟩ := settles w' comes'
    refine ⟨_, u', Job.run_unopened opening', ?_, follows'.toLater, rfl, rfl, rfl, rfl, .inl rfl⟩
    rw [follows'.patches, patches', goneWith_none, zipWith_or_none marks _ length]

/-- Where a module stands that has been opened. -/
theorem even_opened {code : String} (text : G.texts code) (u u' : World κ) :
    G.Even ⟨m.factory, code, []⟩ u ⟨m.factory, code, []⟩ u' :=
  ⟨.inl rfl, rfl, text, rfl, [], rfl, fun _ none => absurd none List.not_mem_nil⟩

theorem PureJob.patched_opened {code : String} {globals : Option Address}
    (settles : G.Settles (m.opening G.call) (some (code, globals))) (text : G.texts code)
    (recompiles : G.Recompiles ⟨m.id, globals, m.dev, m.diffContext⟩) (pure : ∀ o ∈ ps, G.PurePatch o.patch)
    (comes : G.comes w) (patches : (w.registry G.registry).patches = ps) : ∃ cs r v, G.Patched m ps w cs r v := by
  obtain ⟨u, opening, follows⟩ := settles w comes
  have began := Later.noted follows.comes (.began G.registry)
  have there : ((u.noted (.began G.registry)).registry G.registry).patches = [] ++ ps := follows.patches.trans patches
  obtain ⟨ts, q, v, trials, subjects, left, -, later⟩ := exists_trials recompiles u.history.length ps pure
    (even_opened text (u.noted (.began G.registry)) _) began.comes there
  rw [List.nil_append] at trials left
  have ran := Job.run_opened opening trials (subjects.trans there.symm) left
  have ended := Later.noted later.comes (.ended G.registry u.history.length (v.numbers G.registry))
  refine ⟨ts.map (·.outcome), _, _, ran, .tried (Job.opens_of_opening opening) trials (subjects.trans patches.symm), ?_, ?_,
    (follows.toLater.trans began).trans (later.trans ended), ?_⟩
  · rw [← subjects, List.length_map, List.length_map]
  · rw [World.noted_registry, left, unused_eq, subjects]
  · intro marks w' comes' length idle patches'
    obtain ⟨u', opening', follows'⟩ := settles w' comes'
    have began' := Later.noted follows'.comes (.began G.registry)
    have there' : ((u'.noted (.began G.registry)).registry G.registry).patches = [] ++ unmarked marks (ts.map (·.subject)) := by
      rw [subjects]
      exact follows'.patches.trans patches'
    have subject (t : PatchTrial κ) (ht : t ∈ ts) : G.PurePatch t.subject.patch :=
      pure _ (subjects ▸ List.mem_map_of_mem ht)
    have idle' : ∀ x ∈ ts.zip marks, x.2 = true → x.1.outcome = false := by
      intro x hx
      refine idle (x.1.outcome, x.2) ?_
      rw [List.zip_map_left]
      exact List.mem_map_of_mem hx
    have fewer : marks.length = ts.length := by rw [length, ← subjects, List.length_map]
    obtain ⟨ts', q', v', trials', subjects', outcomes, left', even, later'⟩ := trials_without recompiles trials
      u'.history.length subject (even_opened text _ (u'.noted (.began G.registry))) began.comes began'.comes fewer idle' there'
    rw [List.nil_append] at trials' left'
    have ran' := Job.run_opened opening' trials' (subjects'.trans there'.symm) left'
    have ended' := Later.noted later'.comes (.ended G.registry u'.history.length (v'.numbers G.registry))
    refine ⟨_, _, ran', ?_, (follows'.toLater.trans began').trans (later'.trans ended'), rfl, rfl, congrArg some even.code,
      even.owners, even.current.later ended ended'⟩
    rw [World.noted_registry, left', unused_eq, subjects', outcomes, ← subjects]
    refine unmarked_unmarked _ marks _ _ ?_ ?_
    · rw [fewer, List.length_map]
    · rw [List.length_map, List.length_map]

theorem PureJob.patched (h : G.PureJob m) (pure : ∀ o ∈ ps, G.PurePatch o.patch)
    (comes : G.comes w) (patches : (w.registry G.registry).patches = ps) : ∃ cs r v, G.Patched m ps w cs r v := by
  obtain ⟨opened, settles, opens⟩ := h.opening
  cases opened with
  | none => exact patched_unopened settles comes patches
  | some opened =>
      obtain ⟨text, recompiles⟩ := opens opened.1 opened.2 rfl
      exact patched_opened settles text recompiles pure comes patches

/-- Marks of which none stands where a patch contributes. -/
theorem idle_apart {cs cs' : List Bool}
    (apart : ∀ (i : Nat) (o : Occurrence), ps[i]? = some o → cs[i]? = some true → cs'[i]? = some true → o.patch.applyToAll = true) :
    ∀ x ∈ cs'.zip (goneWith ps cs), x.2 = true → x.1 = false := by
  intro x hx gone
  obtain ⟨i, there⟩ := List.mem_iff_getElem?.mp hx
  obtain ⟨here, marked⟩ := List.getElem?_zip_eq_some.mp there
  rw [goneWith, List.getElem?_zipWith_eq_some] at marked
  obtain ⟨o, c, patch, contributed, mark⟩ := marked
  rw [gone, Bool.and_eq_true, Bool.not_eq_true'] at mark
  obtain ⟨rfl, once⟩ := mark
  cases both : x.1 with
  | false => rfl
  | true =>
      rw [apart i o patch contributed (both ▸ here)] at once
      cases once

theorem goneWith_length {cs : List Bool} (length : cs.length = ps.length) : (goneWith ps cs).length = ps.length := by
  rw [goneWith, List.length_zipWith, length, Nat.min_self]

/-- Two modules are patched in either order. If no patch contributes to both that does not stay for all modules, both come
out alike, and the patches are left that contributed to neither or stay for all modules. -/
theorem patched_in_any_order {a b : Job} (first : G.PureJob a) (second : G.PureJob b)
    (pure : ∀ o ∈ (w.registry G.registry).patches, G.PurePatch o.patch) (comes : G.comes w) :
    let ps := (w.registry G.registry).patches
    ∃ cs cs', Contributions G.call G.registry a w cs ∧ Contributions G.call G.registry b w cs' ∧
      ((∀ (i : Nat) (o : Occurrence), ps[i]? = some o → cs[i]? = some true → cs'[i]? = some true →
          o.patch.applyToAll = true) →
        ∃ ra w₁ rb w₂ rb' v₁ ra' v₂,
          a.run G.call G.registry w = .ok ra w₁ ∧ b.run G.call G.registry w₁ = .ok rb w₂ ∧
          b.run G.call G.registry w = .ok rb' v₁ ∧ a.run G.call G.registry v₁ = .ok ra' v₂ ∧
          RecordAlike ra w₂ ra' v₂ ∧ RecordAlike rb w₂ rb' v₂ ∧
          (w₂.registry G.registry).patches = unmarked (List.zipWith (· || ·) (goneWith ps cs) (goneWith ps cs')) ps ∧
          (v₂.registry G.registry).patches = unmarked (List.zipWith (· || ·) (goneWith ps cs) (goneWith ps cs')) ps) := by
  intro ps
  obtain ⟨cs, ra, w₁, one⟩ := first.patched pure comes rfl
  obtain ⟨cs', rb', v₁, other⟩ := second.patched pure comes rfl
  refine ⟨cs, cs', one.contributions, other.contributions, fun apart => ?_⟩
  obtain ⟨rb, w₂, ran, left, later, alike⟩ := other.elsewhere (goneWith ps cs) w₁ one.later.comes
    (goneWith_length one.length) (idle_apart apart) one.patches
  obtain ⟨ra', v₂, ran', left', later', alike'⟩ := one.elsewhere (goneWith ps cs') v₁ other.later.comes
    (goneWith_length other.length)
    (idle_apart fun i o here there contributes => apart i o here contributes there) other.patches
  have either : List.zipWith (· || ·) (goneWith ps cs') (goneWith ps cs) =
      List.zipWith (· || ·) (goneWith ps cs) (goneWith ps cs') := List.zipWith_comm_of_comm Bool.or_comm
  rw [either] at left'
  exact ⟨ra, w₁, rb, w₂, rb', v₁, ra', v₂, one.run, ran, other.run, ran', alike'.later later (.refl later'.comes),
    (alike.later later' (.refl later.comes)).symm, left, left'⟩

end Realm

/-! ## Two modules in files of their own -/

/-- A plain module begins in the same way wherever the objects and the files of a site are. -/
theorem PlainSite.pureJob {P : PlainSite} {m : Job} {a : Address} {f : Function} {id text : String}
    (named : m.id = .str id) (inert : id.toList.all isInert = true) (place : m.factory = .ref a) (unheard : m.listeners = [])
    (held : (a, Object.function f) ∈ P.objects) (bare : f.attrs.get? "__wrapped__" = none) (free : f.captured = [])
    (first : f.code.row = 1) (told : f.globals = P.globals) (lines : (f.code.file, [text.toList]) ∈ P.files)
    (line : IsLine m.policy text) (known : text ∈ P.texts) : P.realm.PureJob m where
  opening := by
    refine ⟨some (text, some P.globals), fun w h => ⟨w, ?_, .refl h⟩, ?_⟩
    · have there : w.heap[a]? = some (.function f) := h.objects _ held
      have nothing : closedOver w.heap m.factory = [] := by
        rw [place, closedOver, at?_function there]
        · simp only [free, List.map_nil, List.mergeSort_nil]
        · exact fun _ _ => Value.noConfusion
      have read : (normalizedSource m.policy m.factory : Working silent _).run w = .ok (some text) w := by
        rw [place]
        exact normalizedSource_line line there bare first (h.files _ lines)
      have globals : (globalsOf m.factory : Working silent _).run w = .ok (some P.globals) w := by
        rw [place, ← told]
        exact globalsOf_function there
      have shown : (showFactory silent m.factory m.listeners : Working silent _).run w = .ok () w := by
        rw [unheard]
        rfl
      have seen : (heap : Working silent _).run w = .ok w.heap w := rfl
      refine (bind_of_ok shown).trans ((bind_of_ok seen).trans ?_)
      simp only [nothing, List.isEmpty_nil, Bool.not_true, Bool.false_eq_true, ↓reduceIte]
      exact (bind_of_ok read).trans (bind_of_ok globals)
    · intro code globals same
      cases same
      exact ⟨known, named ▸ P.recompiles inert m.dev m.diffContext⟩

/-- A function in the first line of its file that gives a number. -/
def lineFunction (name file : String) : Function :=
  { name, qualifiedName := name, code := .of ⟨[], 0, none, [], none⟩ (.block [.give (some (.int 1))]) file 1
    globals := plainFactoryPlace + 2, captured := [], defaults := [], attrs := [] }

def lineText (name n : String) : String :=
  "def " ++ name ++ "(): return " ++ n ++ "\n"

/-- Two functions in files of their own, and a dictionary of globals behind them. -/
def pairSite : PlainSite where
  globals := plainFactoryPlace + 2
  objects := [(plainFactoryPlace, .function (lineFunction "a" "m")), (plainFactoryPlace + 1, .function (lineFunction "b" "n"))]
  files := [("m", [(lineText "a" "1").toList]), ("n", [(lineText "b" "1").toList])]
  texts := [lineText "a" "1", lineText "b" "1", lineText "a" "2", lineText "b" "2", lineText "a" "3", lineText "b" "3"]
  puts := [("1", "2"), ("2", "3")]
  apart := by decide +kernel
  own f hf := ne_patchedFile ((by decide +kernel : ∀ f ∈ [("m", _), ("n", _)], f.1.length < 16) f hf)
  plain := by decide +kernel
  closed := by decide +kernel

/-- One patch for each module, and one that stays for both. -/
def pairWorld : World Unit :=
  { World.furnished [] () [.function (lineFunction "a" "m"), .function (lineFunction "b" "n"), .dict []] with
    sources := pairSite.files
    registries := #[.empty, { Registry.empty with
      patches := [⟨0, puttingPatch "p" "a()" [("1", "2")] false⟩, ⟨1, puttingPatch "q" "b()" [("1", "2")] false⟩,
        ⟨2, puttingPatch "r" "2" [("2", "3")] true⟩] }, .empty] }

def firstJob : Job :=
  ⟨.str "1", .ref plainFactoryPlace, [], .standard, false, 20⟩

def secondJob : Job :=
  ⟨.str "2", .ref (plainFactoryPlace + 1), [], .standard, false, 20⟩

theorem pairWorld_holds : pairSite.Holds pairWorld where
  globals := ⟨[], rfl⟩
  objects x hx := by
    rcases List.mem_cons.mp hx with rfl | hx
    · rfl
    · cases List.mem_singleton.mp hx
      rfl
  files f hf := by
    rcases List.mem_cons.mp hf with rfl | hf
    · rfl
    · cases List.mem_singleton.mp hf
      rfl
  rules _ h := absurd h List.not_mem_nil
  own a f there id n _ := PlainSite.own_of_short (by decide +kernel) a f there id n

theorem firstJob_pure : pairSite.realm.PureJob firstJob :=
  PlainSite.pureJob rfl (by decide +kernel) rfl rfl List.mem_cons_self rfl rfl rfl rfl List.mem_cons_self
    ⟨by decide +kernel, by decide +kernel, by decide +kernel⟩ (by decide +kernel)

theorem secondJob_pure : pairSite.realm.PureJob secondJob :=
  PlainSite.pureJob rfl (by decide +kernel) rfl rfl (List.mem_cons_of_mem _ List.mem_cons_self) rfl rfl rfl rfl
    (List.mem_cons_of_mem _ List.mem_cons_self) ⟨by decide +kernel, by decide +kernel, by decide +kernel⟩ (by decide +kernel)

theorem pairWorld_pure : ∀ o ∈ (pairWorld.registry 1).patches, pairSite.realm.PurePatch o.patch := by
  intro o ho
  rcases List.mem_cons.mp ho with rfl | ho
  · exact PlainSite.purePatch (by decide +kernel) "a()" (by decide) false
  rcases List.mem_cons.mp ho with rfl | ho
  · exact PlainSite.purePatch (by decide +kernel) "b()" (by decide) false
  · cases List.mem_singleton.mp ho
    exact PlainSite.purePatch (by decide +kernel) "2" (by decide) true

/-- Which of the patches there contribute is seen from the ones that are left. -/
theorem pair_contributions {m : Job} (h : pairSite.realm.PureJob m) {a b : Bool}
    (left : (((m.run silent 1).after pairWorld).registry 1).patches.map (·.number) =
      unmarked [a, b, false] [0, 1, 2]) {cs : List Bool} (contributions : Contributions silent 1 m pairWorld cs) :
    ∃ c, cs = [a, b, c] := by
  obtain ⟨cs', r, v, patched⟩ := h.patched pairWorld_pure pairWorld_holds rfl
  obtain rfl := contributions.unique patched.contributions
  have ran : m.run silent 1 pairWorld = .ok r v := patched.run
  rw [after_ok ran] at left
  have patches : (v.registry 1).patches = _ := patched.patches
  have three : cs.length = 3 := patched.length
  obtain ⟨x, y, z, rfl⟩ := List.length_eq_three.mp three
  rw [patches] at left
  refine ⟨z, ?_⟩
  revert left
  cases x <;> cases y <;> cases z <;> cases a <;> cases b <;> decide

/-- One patch goes with each module, and the third one stays. -/
theorem patched_in_any_order_pair : ∃ ra w₁ rb w₂ rb' v₁ ra' v₂,
    firstJob.run silent 1 pairWorld = .ok ra w₁ ∧ secondJob.run silent 1 w₁ = .ok rb w₂ ∧
      secondJob.run silent 1 pairWorld = .ok rb' v₁ ∧ firstJob.run silent 1 v₁ = .ok ra' v₂ ∧
      RecordAlike ra w₂ ra' v₂ ∧ RecordAlike rb w₂ rb' v₂ ∧ w₂.numbers 1 = [2] ∧ v₂.numbers 1 = [2] := by
  obtain ⟨cs, cs', one, other, orders⟩ :=
    Realm.patched_in_any_order firstJob_pure secondJob_pure pairWorld_pure pairWorld_holds
  obtain ⟨c, rfl⟩ := pair_contributions (a := true) (b := false) firstJob_pure (by decide +kernel) one
  obtain ⟨c', rfl⟩ := pair_contributions (a := false) (b := true) secondJob_pure (by decide +kernel) other
  have apart (i : Nat) (o : Occurrence) (here : (pairWorld.registry 1).patches[i]? = some o)
      (contributes : [true, false, c][i]? = some true) (contributes' : [false, true, c'][i]? = some true) :
      o.patch.applyToAll = true := by
    rcases i with _ | _ | _ | i
    · cases contributes'
    · cases contributes
    · cases here
      rfl
    · cases contributes
  obtain ⟨ra, w₁, rb, w₂, rb', v₁, ra', v₂, ran, ran', back, back', alike, alike', left, left'⟩ := orders apart
  have third : (unmarked (List.zipWith (· || ·) (goneWith (pairWorld.registry 1).patches [true, false, c])
      (goneWith (pairWorld.registry 1).patches [false, true, c'])) (pairWorld.registry 1).patches).map (·.number) = [2] := by
    cases c <;> cases c' <;> decide
  refine ⟨ra, w₁, rb, w₂, rb', v₁, ra', v₂, ran, ran', back, back', alike, alike', ?_, ?_⟩
  · exact (congrArg (List.map (·.number)) left).trans third
  · exact (congrArg (List.map (·.number)) left').trans third

end Patchwork
