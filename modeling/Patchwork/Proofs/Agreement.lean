import Patchwork.Proofs.Sparing

/-!
Computations whose outcome depends on nothing but what they are given. From any two of the worlds that come up they give
results that are alike, or they fail in both. What is put together from such computations is one itself.
-/

namespace Patchwork

open Run Script

variable {κ : Type} {α β γ δ : Type} {u v w u' v' w' z : World κ}

/-- What a recompiled factory shows: the text that it stands in, line by line, the row where it begins there, and the
owners that it is tagged with. -/
def World.shown? (w : World κ) (f : Value) : Option (List (List Char) × Nat × Value) :=
  match f with
  | .ref a =>
    match w.heap[a]? with
    | some (.function f) =>
      (f.attrs.get? ownersAttr).map fun owners => (w.linesOf f.code.file, f.code.row, owners)
    | _ => none
  | _ => none

/-- Two factories are the same one, or they show the same text and the same owners. -/
def ShownAlike (f : Value) (w : World κ) (f' : Value) (w' : World κ) : Prop :=
  f = f' ∨ ∃ shown, w.shown? f = some shown ∧ w'.shown? f' = some shown

/-- The worlds, the texts and the owners that come up while modules are patched. The engine leaves such worlds when it logs, makes
matches, remembers rules, notes what it has done, and takes out patches. Of equal rules the one that is seen first
counts, so equal rules that come up are to replace alike and as often. -/
structure Realm (κ : Type) where
  call : Caller κ
  registry : Nat
  rules : List Rule
  texts : String → Prop
  names : String → Prop
  comes : World κ → Prop
  logged : ∀ {w : World κ} (trace : List Event), comes w → comes { w with trace }
  matched : ∀ {w : World κ} (groups : List (Option String)) (names : List (String × Nat)), comes w →
    comes { w with heap := w.heap.push (.found groups names) }
  remembered : ∀ {w : World κ} {r : Rule}, comes w → r ∈ rules → comes { w with rules := r :: w.rules }
  noted : ∀ {w : World κ} (d : Deed), comes w → comes (w.noted d)
  usedUp : ∀ {w : World κ} (i : Nat), comes w → comes (w.withoutPatch registry i)
  agreed : ∀ {w : World κ} {r known : Rule}, comes w → r ∈ rules → known ∈ w.rules → r.same known = true →
    known.replace = r.replace ∧ known.count.integer? = r.count.integer?

namespace Realm

variable {G : Realm κ}

/-! ## Worlds behind others -/

/-- A world that comes up after another one; recompiled factories still show what they did. -/
structure Later (G : Realm κ) (w v : World κ) : Prop where
  comes : G.comes v
  shown : ∀ f shown, w.shown? f = some shown → v.shown? f = some shown

/-- A later world in which the same patches are registered. -/
structure Follows (G : Realm κ) (w v : World κ) : Prop extends G.Later w v where
  patches : (v.registry G.registry).patches = (w.registry G.registry).patches

theorem Later.refl (h : G.comes w) : G.Later w w :=
  ⟨h, fun _ _ h => h⟩

theorem Later.trans (first : G.Later u v) (second : G.Later v w) : G.Later u w :=
  ⟨second.comes, fun f shown h => second.shown f shown (first.shown f shown h)⟩

theorem Later.noted (h : G.comes w) (d : Deed) : G.Later w (w.noted d) :=
  ⟨G.noted d h, fun _ _ h => h⟩

theorem Later.usedUp (h : G.comes w) (i : Nat) : G.Later w (w.withoutPatch G.registry i) :=
  ⟨G.usedUp i h, fun _ _ h => h⟩

namespace Follows

theorem refl (h : G.comes w) : G.Follows w w :=
  ⟨.refl h, rfl⟩

theorem trans (first : G.Follows u v) (second : G.Follows v w) : G.Follows u w :=
  ⟨first.toLater.trans second.toLater, second.patches.trans first.patches⟩

theorem logged (h : G.comes w) (trace : List Event) : G.Follows w { w with trace } :=
  ⟨⟨G.logged trace h, fun _ _ h => h⟩, rfl⟩

theorem remembered {r : Rule} (h : G.comes w) (listed : r ∈ G.rules) : G.Follows w { w with rules := r :: w.rules } :=
  ⟨⟨G.remembered h listed, fun _ _ h => h⟩, rfl⟩

theorem matched (h : G.comes w) (groups : List (Option String)) (names : List (String × Nat)) :
    G.Follows w { w with heap := w.heap.push (.found groups names) } := by
  refine ⟨⟨G.matched groups names h, fun f shown there => ?_⟩, rfl⟩
  cases f with
  | ref a =>
      simp only [World.shown?] at there ⊢
      split at there
      · next f found =>
          simp only [(Grows.push w _).heap a _ found]
          exact there
      · cases there
  | _ => cases there

end Follows

end Realm

theorem ShownAlike.later {G : Realm κ} {f f' : Value} (h : ShownAlike f w f' w') (first : G.Later w v)
    (second : G.Later w' v') : ShownAlike f v f' v' :=
  h.imp_right fun ⟨shown, here, there⟩ => ⟨shown, first.shown f shown here, second.shown f' shown there⟩

namespace Realm

variable {G : Realm κ}

/-! ## Two computations -/

/-- Results that are equal, in whatever worlds. -/
def Equal (a : α) (_ : World κ) (b : α) (_ : World κ) : Prop :=
  a = b

/-- Two computations, each from a world of its own, give results that are alike. -/
def GiveAt (G : Realm κ) (same : α → World κ → β → World κ → Prop) (m : Run κ α) (m' : Run κ β)
    (w w' : World κ) : Prop :=
  ∃ a v b v', m w = .ok a v ∧ m' w' = .ok b v' ∧ G.Follows w v ∧ G.Follows w' v' ∧ same a v b v'

/-- Both fail in a way that can be handled. -/
def FailAt (G : Realm κ) (m : Run κ α) (m' : Run κ β) (w w' : World κ) : Prop :=
  ∃ c v c' v', m w = .error (.failed c) v ∧ m' w' = .error (.failed c') v' ∧ c.kind.isFatal = false ∧
    c'.kind.isFatal = false ∧ G.Follows w v ∧ G.Follows w' v'

/-- Both give results that are alike, or both fail. -/
def AgreeAt (G : Realm κ) (same : α → World κ → β → World κ → Prop) (m : Run κ α) (m' : Run κ β)
    (w w' : World κ) : Prop :=
  G.GiveAt same m m' w w' ∨ G.FailAt m m' w w'

/-- A computation gives the same result wherever it begins. -/
def Settles (G : Realm κ) (m : Run κ α) (a : α) : Prop :=
  ∀ w, G.comes w → ∃ v, m w = .ok a v ∧ G.Follows w v

section

variable {same : α → World κ → β → World κ → Prop} {same' : γ → World κ → δ → World κ → Prop} {m : Run κ α}
  {m' : Run κ β} {f : α → Run κ γ} {f' : β → Run κ δ}

theorem giveAt_pure {a : α} {b : β} (first : G.comes w) (second : G.comes w') (alike : same a w b w') :
    G.GiveAt same (pure a) (pure b) w w' :=
  ⟨a, w, b, w', rfl, rfl, .refl first, .refl second, alike⟩

theorem Settles.giveAt {m : Run κ α} {a : α} (h : G.Settles m a) (first : G.comes w) (second : G.comes w') :
    G.GiveAt Equal m m w w' := by
  obtain ⟨v, ran, follows⟩ := h w first
  obtain ⟨v', ran', follows'⟩ := h w' second
  exact ⟨a, v, a, v', ran, ran', follows, follows', rfl⟩

theorem GiveAt.mono {same' : α → World κ → β → World κ → Prop} (h : G.GiveAt same m m' w w')
    (imp : ∀ a v b v', same a v b v' → same' a v b v') : G.GiveAt same' m m' w w' := by
  obtain ⟨a, v, b, v', ran, ran', follows, follows', alike⟩ := h
  exact ⟨a, v, b, v', ran, ran', follows, follows', imp a v b v' alike⟩

theorem GiveAt.bind (h : G.GiveAt same m m' w w')
    (rest : ∀ a v b v', G.Follows w v → G.Follows w' v' → same a v b v' → G.GiveAt same' (f a) (f' b) v v') :
    G.GiveAt same' (m >>= f) (m' >>= f') w w' := by
  obtain ⟨a, v, b, v', ran, ran', first, first', alike⟩ := h
  obtain ⟨c, z, d, z', done, done', second, second', alike'⟩ := rest a v b v' first first' alike
  exact ⟨c, z, d, z', (bind_of_ok ran).trans done, (bind_of_ok ran').trans done', first.trans second,
    first'.trans second', alike'⟩

/-- What follows agrees in whatever worlds the first parts leave. -/
theorem AgreeAt.bind (h : G.AgreeAt same m m' w w')
    (rest : ∀ a v b v', G.Follows w v → G.Follows w' v' → same a v b v' → G.AgreeAt same' (f a) (f' b) v v') :
    G.AgreeAt same' (m >>= f) (m' >>= f') w w' := by
  rcases h with ⟨a, v, b, v', ran, ran', first, first', alike⟩ | ⟨c, v, c', v', ran, ran', mild, mild', first, first'⟩
  · rcases rest a v b v' first first' alike with
      ⟨r, z, r', z', done, done', second, second', alike'⟩ | ⟨c, z, c', z', done, done', mild, mild', second, second'⟩
    · exact .inl ⟨r, z, r', z', (bind_of_ok ran).trans done, (bind_of_ok ran').trans done', first.trans second,
        first'.trans second', alike'⟩
    · exact .inr ⟨c, z, c', z', (bind_of_ok ran).trans done, (bind_of_ok ran').trans done', mild, mild',
        first.trans second, first'.trans second'⟩
  · exact .inr ⟨c, v, c', v', bind_of_error ran, bind_of_error ran', mild, mild', first, first'⟩

/-- Results that are alike, and how they came about. -/
theorem AgreeAt.ran (h : G.AgreeAt same m m' w w') :
    G.AgreeAt (fun a v b v' => same a v b v' ∧ m w = .ok a v ∧ m' w' = .ok b v') m m' w w' := by
  refine h.imp_left ?_
  rintro ⟨a, v, b, v', ran, ran', follows, follows', alike⟩
  exact ⟨a, v, b, v', ran, ran', follows, follows', alike, ran, ran'⟩

theorem AgreeAt.of_ok {a : α} (h : G.AgreeAt same m m' w w') (ran : m w = .ok a v) :
    ∃ b v', m' w' = .ok b v' ∧ G.Follows w v ∧ G.Follows w' v' ∧ same a v b v' := by
  rcases h with ⟨a, v, b, v', done, done', follows, follows', alike⟩ | ⟨c, v, c', v', failed, -⟩
  · rw [ran] at done
    cases done
    exact ⟨b, v', done', follows, follows', alike⟩
  · rw [ran] at failed
    cases failed

/-- A part of the world that is only looked at. -/
theorem AgreeAt.seen {a : α} {b : β} (ran : m w = .ok a w) (ran' : m' w' = .ok b w')
    (h : G.AgreeAt same' (f a) (f' b) w w') : G.AgreeAt same' (m >>= f) (m' >>= f') w w' := by
  simpa only [AgreeAt, GiveAt, FailAt, bind_of_ok ran, bind_of_ok ran'] using h

/-- Failures are handled alike. -/
theorem AgreeAt.handle {f : Cause → Run κ α} {f' : Cause → Run κ β} (h : G.AgreeAt same m m' w w')
    (rest : ∀ c v c' v', G.Follows w v → G.Follows w' v' → G.GiveAt same (f c) (f' c') v v') :
    G.GiveAt same (handle m f) (handle m' f') w w' := by
  rcases h with ⟨a, v, b, v', ran, ran', first, first', alike⟩ | ⟨c, v, c', v', ran, ran', mild, mild', first, first'⟩
  · exact ⟨a, v, b, v', handle_of_ok f ran, handle_of_ok f' ran', first, first', alike⟩
  · obtain ⟨r, z, r', z', done, done', second, second', alike'⟩ := rest c v c' v' first first'
    exact ⟨r, z, r', z', (handle_of_failed ran mild).trans done, (handle_of_failed ran' mild').trans done',
      first.trans second, first'.trans second', alike'⟩

/-- A failure that leaves the world as it is. -/
theorem agreeAt_failed {c c' : Cause} (first : G.comes w) (second : G.comes w')
    (ran : m w = .error (.failed c) w) (ran' : m' w' = .error (.failed c') w') (mild : c.kind.isFatal = false)
    (mild' : c'.kind.isFatal = false) : G.AgreeAt same m m' w w' :=
  .inr ⟨c, w, c', w', ran, ran', mild, mild', .refl first, .refl second⟩

/-- A result that leaves the world as it is. -/
theorem agreeAt_given {a : α} {b : β} (first : G.comes w) (second : G.comes w')
    (ran : m w = .ok a w) (ran' : m' w' = .ok b w') (alike : same a w b w') : G.AgreeAt same m m' w w' :=
  .inl ⟨a, w, b, w', ran, ran', .refl first, .refl second, alike⟩

end

/-- Items are worked off alike, one after the other. -/
theorem agreeAt_mapM {R R' : World κ → World κ → Prop} [Lasting R] [Lasting R'] {f : α → Within R β}
    {f' : α → Within R' β} : (as : List α) → (∀ a ∈ as, ∀ w w', G.comes w → G.comes w' →
      G.AgreeAt Equal (f a).run (f' a).run w w') → ∀ w w', G.comes w → G.comes w' →
    G.AgreeAt Equal (as.mapM f).run (as.mapM f').run w w'
  | [], _ => fun _ _ first second => .inl (giveAt_pure first second rfl)
  | a :: as, each => fun w w' first second => by
      rw [List.mapM_cons, List.mapM_cons]
      refine (each a List.mem_cons_self w w' first second).bind ?_
      rintro b v _ v' follows follows' rfl
      have rest := agreeAt_mapM as fun a ha => each a (List.mem_cons_of_mem _ ha)
      refine (rest v v' follows.comes follows'.comes).bind ?_
      rintro bs z _ z' follows follows' rfl
      exact .inl (giveAt_pure follows.comes follows'.comes rfl)

end Realm

end Patchwork
