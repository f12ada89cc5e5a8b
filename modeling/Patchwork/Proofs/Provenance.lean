import Patchwork.Proofs.Draining

/-!
Where a factory comes from. At every boundary between two patches the factory is the original, or it was recompiled from
the text as it stands, for the owners of the patches that have contributed by then.
-/

namespace Patchwork

open Run

variable {κ : Type} {call : Caller κ} {s : Setup} {patch : Patch} {n run i j : Nat} {p q start : Progress}
  {u v w : World κ} {names : List String} {name : String}

/-! ## Owners -/

/-- Names with one more, unless it is there. -/
def withName (names : List String) (name : String) : List String :=
  if name ∈ names then names else names ++ [name]

theorem withName_self : withName (withName names name) name = withName names name := by
  have there : name ∈ withName names name := by
    rw [withName]
    split
    · assumption
    · exact List.mem_append_right _ List.mem_cons_self
  rw [withName, if_pos there]

theorem eraseDups_concat : (names ++ [name]).eraseDups = withName names.eraseDups name := by
  rw [List.eraseDups_append, withName, List.removeAll]
  by_cases there : name ∈ names
  · rw [if_pos (List.mem_eraseDups.mpr there)]
    simp [there]
  · rw [if_neg fun twice => there (List.mem_eraseDups.mp twice)]
    simp [there, List.eraseDups_cons]

theorem Heap.same_str (h : Heap) (a b : String) : h.same (.str a) (.str b) = (a == b) :=
  rfl

theorem addOwner_str :
    (addOwner (names.map .str) (.str name) : Calling call _).run w = .ok ((withName names name).map .str) w := by
  have there : ((names.map Value.str).any fun o => w.heap.same o (.str name)) = decide (name ∈ names) := by
    rw [List.any_map, Bool.eq_iff_iff, List.any_eq_true, decide_eq_true_iff]
    simp [Heap.same_str]
  have added : (addOwner (names.map .str) (.str name) : Calling call _).run w =
      .ok (if (names.map Value.str).any fun o => w.heap.same o (.str name) then names.map .str
        else names.map .str ++ [.str name]) w := rfl
  rw [added, there, withName]
  by_cases known : name ∈ names <;> simp [known]

/-! ## Rules -/

/-- While the rules of a patch have their turns, its owner may count among those that contributed. -/
def Owns (names : List String) (name : String) (p : Progress) : Prop :=
  p.owners = names.map .str ∨ p.owners = (withName names name).map .str

theorem Owns.added {owners : List Value} {w' : World κ} (h : Owns names name p)
    (added : (addOwner p.owners (.str name) : Calling call _).run w = .ok owners w') :
    owners = (withName names name).map .str := by
  rcases h with h | h
  · rw [h, addOwner_str] at added
    cases added
    rfl
  · rw [h, addOwner_str, withName_self] at added
    cases added
    rfl

theorem Owns.leaves (h : Owns names name p) (owner : patch.owner = .str name) (leaves : Leaves call patch p q) :
    Owns names name q ∧ (p.owners = (withName names name).map .str → q.owners = (withName names name).map .str) := by
  obtain ⟨-, -, same | ⟨w, w', added⟩⟩ := leaves
  · exact ⟨by rwa [Owns, same], fun there => same.trans there⟩
  · have now := h.added (owner ▸ added)
    exact ⟨.inr now, fun _ => now⟩

theorem Rewrites.owners {r : Rule} (h : Rewrites call s patch r p w q v) (owner : patch.owner = .str name)
    (owns : Owns names name p) : q.owners = (withName names name).map .str := by
  obtain ⟨_, _, _, _, -, -, -, added, -⟩ := h
  exact owns.added (owner ▸ added)

/-- A factory is what a rule that had its turn was recompiled to, from a text and for some owners. -/
def Compiled (call : Caller κ) (s : Setup) (ts : List (RuleTrial κ)) (q : Progress) : Prop :=
  ∃ t ∈ ts, t.outcome.isApplied = true ∧ ∃ v, Reaches call t.world v ∧
    (recompile call q.code s.id q.owners s.globals : Calling call _).run v = .ok q.current t.left

theorem Compiled.mono {ts ts' : List (RuleTrial κ)} (h : Compiled call s ts q) (more : ts ⊆ ts') :
    Compiled call s ts' q := by
  obtain ⟨t, ht, compiled⟩ := h
  exact ⟨t, more ht, compiled⟩

theorem Reaches.of_ok {α : Type} {m : Calling call α} {a : α} (h : m.run w = .ok a v) : Reaches call w v :=
  after_ok h ▸ m.within w

theorem applyRule_compiled {item : RuleItem} {outcome : RuleOutcome}
    (h : (applyRule call s patch item p : Calling call _).run w = .ok (q, outcome) v)
    (applied : outcome.isApplied = true) : Compiled call s [⟨item, p, w, outcome, q, v⟩] q := by
  obtain ⟨r, -, ⟨rfl, -⟩ | ⟨u, turned, -, rewrites, -⟩⟩ := applyRule_ok h
  · cases applied
  · have done : outcome = .applied := by cases outcome <;> first | rfl | cases applied
    obtain ⟨ready, w₁, w₂, w₃, canonical, rewritten, -, owned, recompiled⟩ := rewrites done
    refine ⟨_, List.mem_singleton_self _, applied, w₃, ?_, recompiled⟩
    exact Lasting.trans (.of_ok turned) (Lasting.trans (.of_ok canonical)
      (Lasting.trans (.of_ok rewritten) (.of_ok owned)))

theorem applyRule_owners {item : RuleItem} {outcome : RuleOutcome}
    (h : (applyRule call s patch item p : Calling call _).run w = .ok (q, outcome) v)
    (owner : patch.owner = .str name) (owns : Owns names name p) :
    Owns names name q ∧ (p.owners = (withName names name).map .str → q.owners = (withName names name).map .str) ∧
      (outcome.isApplied = true → q.owners = (withName names name).map .str) := by
  cases applied : outcome.isApplied with
  | false =>
      obtain ⟨owns, stays⟩ := owns.leaves owner (applyRule_leaves h applied)
      exact ⟨owns, stays, nofun⟩
  | true =>
      obtain ⟨r, -, ⟨rfl, -⟩ | ⟨u, -, -, rewrites, -⟩⟩ := applyRule_ok h
      · cases applied
      · have done : outcome = .applied := by cases outcome <;> first | rfl | cases applied
        have now := (rewrites done).owners owner owns
        exact ⟨.inr now, fun _ => now, fun _ => now⟩

/-- The rules of a patch keep factory, text and owners as they are as long as none rewrites the text; after one that
does, the factory is recompiled from the text for the owners with that of the patch among them. -/
theorem RuleTrials.in_step {items rest : List RuleItem} {ts : List (RuleTrial κ)}
    (h : RuleTrials call s patch items p w ts rest q v) (owner : patch.owner = .str name) (owns : Owns names name p) :
    Owns names name q ∧ (p.owners = (withName names name).map .str → q.owners = (withName names name).map .str) ∧
      (ts.any (·.outcome.isApplied) = true →
        q.owners = (withName names name).map .str ∧ Compiled call s ts q) := by
  induction h with
  | nil => exact ⟨owns, id, nofun⟩
  | @cons item items rest p q r w u v outcome ts one kept trials ih =>
      obtain ⟨owns', stays, applied⟩ := applyRule_owners one owner owns
      obtain ⟨owns'', stays', later⟩ := ih owns'
      refine ⟨owns'', stays' ∘ stays, fun some => ?_⟩
      cases more : ts.any (·.outcome.isApplied) with
      | true =>
          obtain ⟨now, compiled⟩ := later more
          exact ⟨now, compiled.mono (List.subset_cons_self _ _)⟩
      | false =>
          rw [List.any_cons, more, Bool.or_false] at some
          obtain ⟨current, code⟩ := trials.leaves more
          have now := applied some
          have now' := stays' now
          refine ⟨now', ?_⟩
          obtain ⟨t, ht, there, x, reaches, recompiled⟩ := applyRule_compiled one some
          refine ⟨t, List.mem_cons.mpr (.inl (List.mem_singleton.mp ht)), there, x, reaches, ?_⟩
          rw [current, code, now', ← now]
          exact recompiled

/-! ## Patches -/

/-- The owners of the patches that contributed, each as often as that happened. -/
def contributors (ts : List (PatchTrial κ)) : List Value :=
  (ts.filter (·.outcome)).map (·.subject.patch.owner)

/-- A factory is what a rule of a patch that contributed was recompiled to, from a text and for some owners. -/
def CompiledBy (call : Caller κ) (s : Setup) (t : PatchTrial κ) (q : Progress) : Prop :=
  ∃ u rs, RuleTrials call s t.subject.patch t.subject.patch.rules t.before u rs [] t.after t.left ∧ Compiled call s rs q

/-- Factory, text and owners belong together: nothing has happened yet, or the factory was recompiled from the text, for
those who contributed, in the order in which they first did. -/
structure InStep (call : Caller κ) (s : Setup) (start : Progress) (ts : List (PatchTrial κ)) (q : Progress) : Prop where
  factory : ((∀ t ∈ ts, t.outcome = false) ∧ q = start) ∨ ∃ t ∈ ts, t.outcome = true ∧ CompiledBy call s t q
  owners : ∃ names : List String, contributors ts = names.map .str ∧ q.owners = names.eraseDups.map .str

theorem InStep.next {ts : List (PatchTrial κ)} {o : Occurrence} {c : Bool} (h : InStep call s start ts p)
    (tried : (tryPatch call s o.patch p : Calling call _).run w = .ok (q, c) u) (owner : o.patch.owner = .str name) :
    InStep call s start (ts ++ [⟨o, p, w, c, q, u⟩]) q := by
  obtain ⟨names, contributed, owners⟩ := h.owners
  rcases tryPatch_ok tried with ⟨rfl, x, rs, selects, trials, applied⟩ | ⟨rfl, rfl⟩
  · obtain ⟨-, -, after⟩ := trials.in_step owner (.inl owners)
    obtain ⟨now, compiled⟩ := after (List.any_eq_true.mpr applied)
    refine ⟨.inr ⟨_, List.mem_append_right _ (List.mem_singleton_self _), rfl, x, rs, trials, compiled⟩, ?_⟩
    refine ⟨names ++ [name], ?_, by rw [now, eraseDups_concat]⟩
    rw [contributors, List.filter_append, List.map_append, List.map_append, ← contributed, contributors]
    simp [owner]
  · refine ⟨h.factory.imp ?_ ?_, names, ?_, owners⟩
    · rintro ⟨none, same⟩
      refine ⟨fun t ht => ?_, same⟩
      rcases List.mem_append.mp ht with ht | ht
      · exact none t ht
      · rw [List.mem_singleton.mp ht]
    · rintro ⟨t, ht, compiled⟩
      exact ⟨t, List.mem_append_left _ ht, compiled⟩
    · rw [← contributed, contributors, contributors, List.filter_append, List.map_append]
      simp

/-- Patches whose owners are texts. -/
def Named (ts : List (PatchTrial κ)) : Prop :=
  ∀ t ∈ ts, ∃ name, t.subject.patch.owner = .str name

theorem PatchTrials.in_step {ts : List (PatchTrial κ)} (h : PatchTrials call s n run i p w ts j q v)
    (named : Named ts) : ∀ {before : List (PatchTrial κ)}, InStep call s start before p →
      InStep call s start (before ++ ts) q := by
  induction h with
  | nil =>
      intro before standing
      rwa [List.append_nil]
  | cons here tried ended trials ih =>
      intro before standing
      obtain ⟨name, owner⟩ := named _ List.mem_cons_self
      rw [List.append_cons]
      exact ih (fun t ht => named t (List.mem_cons_of_mem _ ht)) (standing.next tried owner)

section

variable {id factory : Value} {listeners : List Value} {policy : Policy} {dev : Bool} {diffContext : Int}
  {code : String}

/-- Whatever the patches do: wherever a run stands, the factory belongs to the text and the owners; and the record that
it returns is where it stood when no patch was left. -/
theorem applyPatches_in_step (opens : Opens call id factory listeners policy dev diffContext w s code u) :
    (∀ ts j q v, Tries call s n ⟨factory, code, []⟩ u ts j q v → Named ts →
      InStep call s ⟨factory, code, []⟩ ts q) ∧
    ∀ record w', (applyPatches call id factory n listeners policy dev diffContext : Working call _).run w =
        .ok record w' →
      ∃ ts j q v, Tries call s n ⟨factory, code, []⟩ u ts j q v ∧ (v.registry n).patches[j]? = none ∧
        record = ⟨id, factory, q.current, some q.code, q.owners⟩ := by
  constructor
  · intro ts j q v trials named
    have fresh : InStep call s ⟨factory, code, []⟩ [] ⟨factory, code, []⟩ :=
      ⟨.inl ⟨nofun, rfl⟩, [], rfl, rfl⟩
    exact trials.in_step named fresh
  · intro record w' done
    rw [opens.applyPatches] at done
    obtain ⟨p, x, ran, done⟩ := bind_ok.mp done
    cases done
    obtain ⟨ts, j, q, v, trials, stops⟩ := runPatches_trials call s n ⟨factory, code, []⟩ u
    rw [ran] at stops
    cases stops with
    | ended _ none => exact ⟨ts, j, _, v, trials, none, rfl⟩

end

theorem registeredTwice_named {ts : List (PatchTrial Unit)} {v : World Unit}
    (trials : Tries silent plainSetup 1 p (registeredTwice []) ts j q v) : Named ts := by
  have patches : ((registeredTwice []).registry 1).patches = [] ++ ((registeredTwice []).registry 1).patches := rfl
  obtain ⟨left, all, -, -⟩ := trials.place silent_undisturbed patches rfl
  intro t ht
  have there : t.subject ∈ ((registeredTwice []).registry 1).patches :=
    all ▸ List.mem_append_left _ (List.mem_map_of_mem ht)
  rcases List.mem_cons.mp there with same | there
  · exact ⟨"p", by rw [same]; rfl⟩
  · exact ⟨"p", by rw [List.mem_singleton.mp there]; rfl⟩

theorem applyPatches_in_step_twice :
    ∃ ts j q v w', Tries silent plainSetup 1 ⟨.ref plainFactoryPlace, plainText, []⟩ (registeredTwice []) ts j q v ∧
      InStep silent plainSetup ⟨.ref plainFactoryPlace, plainText, []⟩ ts q ∧
      patchTwice [] = .ok ⟨.str "m", .ref plainFactoryPlace, q.current, some q.code, q.owners⟩ w' ∧
      q.code = "def a(): 2\n" := by
  have ends : (match patchTwice [] with
      | .ok record _ => record.source
      | .error _ _ => none) = some "def a(): 2\n" := by decide +kernel
  cases done : patchTwice [] with
  | error e w' =>
      rw [done] at ends
      cases ends
  | ok record w' =>
      obtain ⟨in_step, returned⟩ := applyPatches_in_step (n := 1) plainFactory_opens
      obtain ⟨ts, j, q, v, trials, -, rfl⟩ := returned record w' done
      rw [done] at ends
      exact ⟨ts, j, q, v, w', trials, in_step ts j q v trials (registeredTwice_named trials), rfl, Option.some.inj ends⟩

end Patchwork
