import Patchwork.Proofs.Containment
import Patchwork.Proofs.SingleUse

/-!
What a run that fails leaves of the patches. It has taken out what contributed before the failure, and nothing puts it
back.
-/

namespace Patchwork

open Run

variable {κ : Type} {call : Caller κ} {s : Setup} {n run i j : Nat} {p q : Progress} {w w' : World κ}

/-! ## What is left of the patches -/

/-- The numbers of the occurrences that were taken out of a registry. -/
def taken (n : Nat) (deeds : List Deed) : List Nat :=
  (uses n deeds).filterMap (·.2)

theorem taken_append (new deeds : List Deed) : taken n (new ++ deeds) = taken n new ++ taken n deeds := by
  rw [taken, uses, List.filterMap_append, List.filterMap_append]
  rfl

theorem DoneBetween.taken_subset {kind : Deed → Prop} (h : DoneBetween kind w w') :
    taken n w.history ⊆ taken n w'.history := by
  obtain ⟨new, extended, -⟩ := h
  intro x hx
  rw [extended, taken_append]
  exact List.mem_append_right _ hx

theorem DoneBetween.taken_eq (h : DoneBetween (fun d => d.use? n = none) w w') :
    taken n w'.history = taken n w.history := by
  obtain ⟨new, extended, unused⟩ := h
  have none : uses n new = [] := List.filterMap_eq_nil_iff.mpr unused
  rw [extended, taken_append, taken, none]
  rfl

/-- The numbers of a registry tell its occurrences apart, also from those that are gone. -/
structure Numbered (n : Nat) (w : World κ) : Prop where
  distinct : (w.numbers n).Nodup
  made : ∀ x ∈ w.numbers n, x < w.history.length
  gone : ∀ x ∈ taken n w.history, x ∉ w.numbers n ∧ x < w.history.length

theorem Drained.numbered (h : Drained n w) : Numbered n w where
  distinct := h.sorted.imp Nat.ne_of_lt
  made := h.made
  gone x hx := by
    obtain ⟨u, hu, taken⟩ := List.mem_filterMap.mp hx
    exact h.gone u hu x taken

/-- Of the occurrences of a world, another one has those that were not taken out, in their order. -/
structure Retained (n : Nat) (w w' : World κ) : Prop where
  later : DoneBetween (fun _ => True) w w'
  left : (w'.registry n).patches.filter (·.number < w.history.length) =
    (w.registry n).patches.filter (·.number ∉ taken n w'.history)

theorem World.mem_numbers {o : Occurrence} (h : o ∈ (w.registry n).patches) : o.number ∈ w.numbers n :=
  List.mem_map_of_mem h

namespace Numbered

theorem old (h : Numbered n w) : (w.registry n).patches.filter (·.number < w.history.length) =
    (w.registry n).patches :=
  List.filter_eq_self.mpr fun _ ho => decide_eq_true (h.made _ (World.mem_numbers ho))

theorem untaken (h : Numbered n w) : (w.registry n).patches.filter (·.number ∉ taken n w.history) =
    (w.registry n).patches :=
  List.filter_eq_self.mpr fun _ ho => decide_eq_true fun there => (h.gone _ there).1 (World.mem_numbers ho)

theorem retained (h : Numbered n w) : Retained n w w :=
  ⟨.of_same rfl, h.old.trans h.untaken.symm⟩

end Numbered

theorem Retained.trans {u v : World κ} (first : Retained n u v) (second : Retained n v w) : Retained n u w := by
  refine ⟨first.later.trans second.later, ?_⟩
  have older : ∀ o : Occurrence, o.number < u.history.length → o.number < v.history.length :=
    fun _ old => Nat.lt_of_lt_of_le old first.later.longer
  have sooner : ∀ o : Occurrence, o.number ∉ taken n w.history → o.number ∉ taken n v.history :=
    fun _ untaken there => untaken (second.later.taken_subset there)
  calc (w.registry n).patches.filter (·.number < u.history.length)
      = ((w.registry n).patches.filter (·.number < v.history.length)).filter (·.number < u.history.length) := by
        rw [List.filter_filter]
        exact List.filter_congr fun o _ => by simpa using older o
    _ = ((v.registry n).patches.filter (·.number < u.history.length)).filter (·.number ∉ taken n w.history) := by
        rw [second.left, List.filter_filter, List.filter_filter]
        exact List.filter_congr fun o _ => Bool.and_comm _ _
    _ = (u.registry n).patches.filter (·.number ∉ taken n w.history) := by
        rw [first.left, List.filter_filter]
        exact List.filter_congr fun o _ => by simpa using sooner o

/-- Worlds with distinct numbers go over into such worlds, which have what was not taken out. -/
def Retains (n : Nat) (w w' : World κ) : Prop :=
  Numbered n w → Numbered n w' ∧ Retained n w w'

instance : Lasting (Retains (κ := κ) n) where
  refl _ := fun h => ⟨h, h.retained⟩
  trans first second := fun h => ⟨(second (first h).1).1, (first h).2.trans (second (first h).1).2⟩

/-- Where nothing is taken out and nothing comes in, everything is retained. -/
theorem untaken_retains (patches : (w'.registry n).patches = (w.registry n).patches)
    (untaken : DoneBetween (fun d => d.use? n = none) w w') : Retains n w w' := by
  intro hw
  have numbers : w'.numbers n = w.numbers n := by rw [World.numbers, World.numbers, patches]
  have longer := untaken.longer
  refine ⟨⟨numbers ▸ hw.distinct, fun x hx => ?_, fun x hx => ?_⟩, untaken.mono fun _ _ => trivial, ?_⟩
  · exact Nat.lt_of_lt_of_le (hw.made x (numbers ▸ hx)) longer
  · obtain ⟨gone, past⟩ := hw.gone x (untaken.taken_eq ▸ hx)
    exact ⟨numbers ▸ gone, Nat.lt_of_lt_of_le past longer⟩
  · rw [patches, untaken.taken_eq]
    exact hw.old.trans hw.untaken.symm

theorem Apart.retains (h : Apart n w w') : Retains n w w' :=
  untaken_retains h.patches (h.history.mono fun _ => Deed.use?_of_run)

theorem Deed.use?_of_isUse {d : Deed} (h : d.isUse = false) : d.use? n = none := by
  cases d with
  | used => cases h
  | _ => rfl

/-- In a list with distinct numbers, the place of an occurrence is told by its number. -/
theorem eraseIdx_eq_filter {l : List Occurrence} (distinct : (l.map (·.number)).Nodup) {o : Occurrence}
    (here : l[i]? = some o) : l.eraseIdx i = l.filter (·.number ≠ o.number) := by
  induction l generalizing i with
  | nil => cases here
  | cons o' l ih =>
      obtain ⟨apart, distinct⟩ := List.nodup_cons.mp distinct
      cases i with
      | zero =>
          cases here
          have others : ∀ x ∈ l, x.number ≠ o.number := fun x hx same => apart (List.mem_map.mpr ⟨x, hx, same⟩)
          rw [List.eraseIdx_cons_zero, List.filter_cons_of_neg (by simp)]
          exact (List.filter_eq_self.mpr fun x hx => decide_eq_true (others x hx)).symm
      | succ i =>
          have other : o'.number ≠ o.number := fun same =>
            apart (List.mem_map.mpr ⟨o, List.mem_of_getElem? here, same.symm⟩)
          rw [List.eraseIdx_cons_succ, List.filter_cons_of_pos (by simpa using other), ih distinct here]

/-- The end of a turn takes out the occurrence at its place, and no other one. -/
theorem used_retains (run o i : Nat) (w : World κ) :
    Retains n w ((w.withoutPatch n i).noted (.used n run o (w.numbers n)[i]?)) := by
  intro hw
  have patches : (((w.withoutPatch n i).noted (.used n run o (w.numbers n)[i]?)).registry n).patches =
      (w.registry n).patches.eraseIdx i := withoutPatch_patches w n i
  have numbers : ((w.withoutPatch n i).noted (.used n run o (w.numbers n)[i]?)).numbers n =
      (w.numbers n).eraseIdx i := withoutPatch_numbers w n i
  have gone : taken n ((w.withoutPatch n i).noted (.used n run o (w.numbers n)[i]?)).history =
      (w.numbers n)[i]?.toList ++ taken n w.history := by
    have use : Deed.use? n (.used n run o (w.numbers n)[i]?) = some (o, (w.numbers n)[i]?) := if_pos rfl
    rw [taken, World.noted_history, uses, List.filterMap_cons_some use]
    cases (w.numbers n)[i]? <;> rfl
  have stays : ∀ x ∈ (w.numbers n).eraseIdx i, x ∈ w.numbers n := fun x => List.mem_of_mem_eraseIdx
  refine ⟨⟨?_, fun x hx => Nat.lt_succ_of_lt (hw.made x (stays x (numbers ▸ hx))), ?_⟩,
    (DoneBetween.of_same rfl).noted trivial, ?_⟩
  · rw [numbers]
    exact hw.distinct.sublist (List.eraseIdx_sublist _ _)
  · rw [gone, numbers]
    intro x hx
    rcases List.mem_append.mp hx with now | before
    · have here : (w.numbers n)[i]? = some x := Option.mem_toList.mp now
      refine ⟨fun there => ?_, Nat.lt_succ_of_lt (hw.made x (List.mem_of_getElem? here))⟩
      obtain ⟨k, elsewhere, hk⟩ := List.mem_eraseIdx_iff_getElem?.mp there
      have bound := (List.getElem?_eq_some_iff.mp here).1
      exact elsewhere ((List.getElem?_inj bound hw.distinct).mp (here.trans hk.symm)).symm
    · obtain ⟨absent, past⟩ := hw.gone x before
      exact ⟨fun there => absent (stays x there), Nat.lt_succ_of_lt past⟩
  · rw [patches, gone]
    cases here : (w.registry n).patches[i]? with
    | none =>
        have none : (w.numbers n)[i]? = none := by rw [World.numbers, List.getElem?_map, here]; rfl
        rw [none, List.eraseIdx_of_length_le (List.getElem?_eq_none_iff.mp here)]
        exact hw.old.trans hw.untaken.symm
    | some o' =>
        have some : (w.numbers n)[i]? = some o'.number := by rw [World.numbers, List.getElem?_map, here]; rfl
        rw [some, eraseIdx_eq_filter hw.distinct here, List.filter_filter]
        refine List.filter_congr fun x hx => ?_
        have old := hw.made _ (World.mem_numbers hx)
        have untaken : x.number ∉ taken n w.history := fun there => (hw.gone _ there).1 (World.mem_numbers hx)
        simp [old, untaken]

theorem addOccurrence_retains (n : Nat) (p : Patch) (w : World κ) :
    Retains n w ((addOccurrence n p : Run κ Unit).after w) := by
  have untaken : DoneBetween (fun d => d.use? n = none) w ((addOccurrence n p : Run κ Unit).after w) :=
    (DoneBetween.of_same (v := w.modifyRegistry n _) rfl).noted rfl
  rcases w.modifyRegistry_registry n n fun r => { r with patches := r.patches ++ [⟨w.history.length, p⟩] } with
    same | ⟨-, more⟩
  · exact untaken_retains (congrArg (·.patches) same) untaken
  intro hw
  have patches : (((addOccurrence n p : Run κ Unit).after w).registry n).patches =
      (w.registry n).patches ++ [⟨w.history.length, p⟩] := congrArg (·.patches) more
  have numbers : ((addOccurrence n p : Run κ Unit).after w).numbers n = w.numbers n ++ [w.history.length] :=
    (congrArg (List.map Occurrence.number) patches).trans List.map_append
  refine ⟨⟨?_, fun x hx => ?_, fun x hx => ?_⟩, untaken.mono fun _ _ => trivial, ?_⟩
  · rw [numbers]
    refine List.nodup_append.mpr ⟨hw.distinct, List.pairwise_singleton _ _, fun x hx y hy => ?_⟩
    exact List.mem_singleton.mp hy ▸ Nat.ne_of_lt (hw.made x hx)
  · rcases List.mem_append.mp (numbers ▸ hx) with old | new
    · exact Nat.lt_succ_of_lt (hw.made x old)
    · exact List.mem_singleton.mp new ▸ Nat.lt_succ_self _
  · obtain ⟨absent, past⟩ := hw.gone x (untaken.taken_eq ▸ hx)
    refine ⟨fun there => ?_, Nat.lt_succ_of_lt past⟩
    rcases List.mem_append.mp (numbers ▸ there) with old | new
    · exact absent old
    · exact Nat.ne_of_lt past (List.mem_singleton.mp new)
  · rw [patches, untaken.taken_eq, List.filter_append, hw.old, hw.untaken, List.filter_cons_of_neg (by simp),
      List.filter_nil, List.append_nil]

theorem registerPatch_retains (m : Nat) (p : Patch) : ∀ w : World κ, Retains n w ((registerPatch m p).after w) := by
  refine bind_within (fun w => ?_) fun _ w =>
    (Quiet.beside ((reportRegistered p : Quietly κ Unit).within w)).patches_kept.apart.retains
  by_cases other : m ≠ n
  · exact Lasting.trans (Apart.modified w _ other).retains (Apart.noted _ rfl).retains
  · rw [ne_eq, Decidable.not_not] at other
    exact other ▸ addOccurrence_retains m p w

theorem runPatches_retains (hc : call.Keeps (Retains n)) (s : Setup) (m : Nat) (p : Progress) :
    ∀ w, Retains n w ((runPatches call s m p).after w) := by
  refine runPatches_within (fun h => h.patches_kept.apart.retains) hc (fun d _ _ _ hd w => ?_)
    (fun run o i w => ?_) s p
  · exact untaken_retains rfl (.single w (Deed.use?_of_isUse hd))
  · by_cases other : m ≠ n
    · refine Lasting.trans (Apart.modified w _ other).retains (Apart.noted _ ?_).retains
      exact Deed.run?_of_registry other
    · rw [ne_eq, Decidable.not_not] at other
      exact other ▸ used_retains run o i w

theorem retains_nests : Nests (Retains (κ := κ) n) := by
  intro call hc α o
  cases o with
  | register m p => exact registerPatch_retains m p
  | waitFor m filter callback => exact waitFor_keeps (fun h => h.apart.retains) hc m filter callback
  | fire m exports id => exact fireSubscriptions_keeps (fun h => h.apart.retains) hc m exports id
  | patch s m p => exact runPatches_retains hc s m p
  | announce m runtime =>
      exact runBeforeInit_within (fun h => h.patches_kept.apart.retains) hc
        (fun _ _ hd w => (Apart.noted w (Deed.run?_of_start hd)).retains) runtime

instance : Moves (Retains (κ := κ) n) where
  beside h := h.patches_kept.apart.retains

theorem World.Reached.numbered {outside : Surroundings κ} (h : w.Reached outside) : Numbered n w :=
  h.drained.numbered

/-- The list of patches is the same as before exactly if none was taken out and none came in. -/
theorem Retained.same_iff (h : Retained n w w') (before : Numbered n w) (after : Numbered n w') :
    (w'.registry n).patches = (w.registry n).patches ↔
      (∀ o ∈ (w.registry n).patches, o.number ∉ taken n w'.history) ∧
        ∀ o ∈ (w'.registry n).patches, o.number < w.history.length := by
  constructor
  · intro same
    refine ⟨fun o ho there => ?_, fun o ho => before.made _ (World.mem_numbers (same ▸ ho))⟩
    exact (after.gone _ there).1 (World.mem_numbers (same ▸ ho))
  · rintro ⟨untaken, old⟩
    have left := h.left
    rw [List.filter_eq_self.mpr fun o ho => decide_eq_true (old o ho),
      List.filter_eq_self.mpr fun o ho => decide_eq_true (untaken o ho)] at left
    exact left

/-! ## Runs that fail -/

/-- What is called while patches are tried leaves those of the registry as they are, also where it fails. -/
def Calm (call : Caller κ) (s : Setup) (n run i : Nat) (p : Progress) (w : World κ) : Prop :=
  ∀ ts j q v o, PatchTrials call s n run i p w ts j q v → (v.registry n).patches[j]? = some o →
    (((tryPatch call s o.patch q : Calling call _).run.after v).registry n).patches = (v.registry n).patches

theorem Calm.undisturbed (h : Calm call s n run i p w) : Undisturbed call s n run i p w := by
  intro ts j q v o r c u trials here tried
  have same := h ts j q v o trials here
  rwa [after_ok tried] at same

/-- Trials leave all patches exactly if each that contributed stays for other modules. -/
theorem unused_all_iff (ts : List (PatchTrial κ)) (rest : List Occurrence) :
    unused ts ++ rest = ts.map (·.subject) ++ rest ↔
      ∀ t ∈ ts, t.outcome = true → t.subject.patch.applyToAll = true := by
  have stays : ∀ t : PatchTrial κ, (!t.isUsed) = true ↔ (t.outcome = true → t.subject.patch.applyToAll = true) := by
    intro t
    rw [PatchTrial.isUsed]
    cases t.outcome <;> simp
  rw [List.append_left_inj, unused]
  constructor
  · intro same t ht
    have length := congrArg List.length same
    rw [List.length_map, List.length_map, List.length_filter_eq_length_iff] at length
    exact (stays t).mp (length t ht)
  · intro all
    rw [List.filter_eq_self.mpr fun t ht => (stays t).mpr (all t ht)]

/-- A run in which a patch fails has taken out those before it that contributed and stay for no other module. -/
theorem runPatches_failed {e : Fault} {z : World κ} (calm : Calm call s n w.history.length 0 p (w.noted (.began n)))
    (failed : runPatches call s n p w = .error e z) :
    ∃ ts o rest j q v, Tries call s n p w ts j q v ∧
      (tryPatch call s o.patch q : Calling call _).run v = .error e z ∧
      (w.registry n).patches = ts.map (·.subject) ++ o :: rest ∧
      (z.registry n).patches = unused ts ++ o :: rest := by
  obtain ⟨ts, j, q, v, trials, ⟨-, w', ended, -⟩ | ⟨o, e', w', ⟨rest, all⟩, tried, ended⟩⟩ :=
    runPatches_undisturbed calm.undisturbed
  · rw [failed] at ended
    cases ended
  · rw [failed] at ended
    cases ended
    rw [List.append_assoc, List.singleton_append] at all
    have start : ((w.noted (.began n)).registry n).patches = [] ++ (w.registry n).patches := rfl
    obtain ⟨left, all', patches, place⟩ := trials.place calm.undisturbed start rfl
    obtain rfl : left = o :: rest := List.append_cancel_left (all'.symm.trans all.symm)
    have here : (v.registry n).patches[j]? = some o := by
      rw [patches, ← place, List.getElem?_append_right (Nat.le_refl _), Nat.sub_self]
      rfl
    have same := calm ts j q v o trials here
    rw [after_error tried] at same
    exact ⟨ts, o, rest, j, q, v, trials, tried, all.symm, same.trans patches⟩

/-! ## Modules -/

section

variable {outside : Surroundings κ} {id factory : Value} {listeners : List Value} {policy : Policy} {dev : Bool}
  {diffContext : Int} {e : Fault} {z : World κ}

/-- However the patching of a module fails, and whatever is called on the way: of the patches that there were those are
left that were not taken out, so that the list is as before exactly if none was taken out and none came in. If nothing
that is called changes the list, those are taken out that contributed before the failure, unless they stay for all
modules. -/
theorem World.Reached.failed_retains_iff (h : w.Reached outside)
    (failed : (applyPatches (callValue outside) id factory n listeners policy dev diffContext :
      Working (callValue outside) _).run w = .error e z) :
    (z.registry n).patches.filter (·.number < w.history.length) =
        (w.registry n).patches.filter (·.number ∉ taken n z.history) ∧
      ((z.registry n).patches = (w.registry n).patches ↔
        (∀ o ∈ (w.registry n).patches, o.number ∉ taken n z.history) ∧
          ∀ o ∈ (z.registry n).patches, o.number < w.history.length) ∧
      ∀ s code u, Opens (callValue outside) id factory listeners policy dev diffContext w s code u →
        (u.registry n).patches = (w.registry n).patches →
        Calm (callValue outside) s n u.history.length 0 ⟨factory, code, []⟩ (u.noted (.began n)) →
        ∃ ts o rest j q v, Tries (callValue outside) s n ⟨factory, code, []⟩ u ts j q v ∧
          (tryPatch (callValue outside) s o.patch q : Calling (callValue outside) _).run v = .error e z ∧
          (w.registry n).patches = ts.map (·.subject) ++ o :: rest ∧
          (z.registry n).patches = unused ts ++ o :: rest ∧
          ((z.registry n).patches = (w.registry n).patches ↔
            ∀ t ∈ ts, t.outcome = true → t.subject.patch.applyToAll = true) := by
  have acts : Acts (callValue outside) w z := after_error failed ▸
    (applyPatches (callValue outside) id factory n listeners policy dev diffContext :
      Working (callValue outside) _).within w
  obtain ⟨numbered, retained⟩ : Numbered n z ∧ Retained n w z := acts.nested retains_nests h.numbered
  refine ⟨retained.left, retained.same_iff h.numbered numbered, fun s code u opens listened calm => ?_⟩
  rw [opens.applyPatches] at failed
  rcases bind_error.mp failed with stopped | ⟨q, v, -, after⟩
  · obtain ⟨ts, o, rest, j, q, v, trials, tried, before, left⟩ := runPatches_failed calm stopped
    refine ⟨ts, o, rest, j, q, v, trials, tried, listened ▸ before, left, ?_⟩
    rw [left, ← listened, before]
    exact unused_all_iff ts (o :: rest)
  · cases after

end

/-! ## A condition that fails -/

/-- A patch whose condition fails. -/
def unasked : Patch :=
  { renumbering with predicate := .ref conditionPlace }

/-- A world in which a module is to be patched by two patches. -/
def patchedBy (first second : Patch) : World Unit :=
  let w := World.furnished [] () [plainFactory [], .external 0 "condition"]
  { w with sources := [(moduleFile, [plainText.toList])] }
    |>.doing failing (.register 1 first)
    |>.doing failing (.register 1 second)

theorem patchedBy_reached (first second : Patch) : (patchedBy first second).Reached failing := by
  have sourced : World.Reached failing { World.furnished [] () [plainFactory [], .external 0 "condition"] with
      sources := [(moduleFile, [plainText.toList])] } := ⟨[], (), .beside ⟨fun _ => rfl, fun _ => rfl, rfl, rfl⟩⟩
  exact (sourced.doing _).doing _

/-- Patches the module there. -/
def patchBy (first second : Patch) : EStateM.Result Fault (World Unit) ModuleRecord :=
  (applyPatches (callValue failing) (.str "1") (.ref plainFactoryPlace) 1 [] .standard false 20 :
    Working (callValue failing) _).run (patchedBy first second)

/-- The patches that a run which fails leaves. -/
def leftByFailure : EStateM.Result Fault (World Unit) ModuleRecord → Option (List Nat)
  | .ok _ _ => none
  | .error _ z => some (z.numbers 1)

theorem unasked_opens : Opens (callValue failing) (.str "1") (.ref plainFactoryPlace) [] .standard false 20
    (patchedBy unasked renumbering) ⟨.str "1", some 0, false, 20⟩ plainText (patchedBy unasked renumbering) :=
  ⟨_, _, some 0, rfl, by decide +kernel, plainFactory_normalized ⟨rfl, rfl, rfl⟩, rfl, rfl⟩

theorem unasked_calm : Calm (callValue failing) ⟨.str "1", some 0, false, 20⟩ 1 2 0
    ⟨.ref plainFactoryPlace, plainText, []⟩ ((patchedBy unasked renumbering).noted (.began 1)) := by
  intro ts j q v o trials here
  cases trials with
  | nil =>
      cases here
      rfl
  | cons first tried _ _ =>
      cases first
      cases tried

theorem failed_retains_iff_unasked : ∃ e z, patchBy unasked renumbering = .error e z ∧
    (z.registry 1).patches = ((patchedBy unasked renumbering).registry 1).patches := by
  have ends : leftByFailure (patchBy unasked renumbering) = some [0, 1] := by decide +kernel
  cases failed : patchBy unasked renumbering with
  | ok r z =>
      rw [failed] at ends
      cases ends
  | error e z =>
      obtain ⟨-, -, trials⟩ := (patchedBy_reached unasked renumbering).failed_retains_iff failed
      obtain ⟨ts, o, rest, j, q, v, tries, -, -, -, same⟩ := trials _ _ _ unasked_opens rfl unasked_calm
      refine ⟨e, z, rfl, same.mpr ?_⟩
      cases tries with
      | nil => nofun
      | cons first tried _ _ =>
          cases first
          cases tried

/-- A patch that contributed is gone though the one behind it failed. -/
theorem patchBy_loses_first :
    (patchedBy renumbering unasked).numbers 1 = [0, 1] ∧ leftByFailure (patchBy renumbering unasked) = some [1] := by
  decide +kernel

end Patchwork
