import Patchwork.Proofs.Growth

/-!
Texts that spare the factory they are made for. The names that a text binds at its top level are its own, but the text
runs over the globals of that factory. It leaves these alone if what it evaluates on its way does, and if it declares no
name as global.
-/

namespace Patchwork

open Run Script

variable {κ : Type} {α β : Type} {u v w z : World κ}

/-! ## What is kept -/

namespace Run

variable {P : World κ → Prop} {m : Run κ α} {f : α → Run κ β}

theorem after_bind (first : P (m.after w)) (rest : ∀ a v, m w = .ok a v → P v → P ((f a).after v)) :
    P ((m >>= f).after w) := by
  cases ran : m w with
  | ok a v =>
      rw [after_ok ran] at first
      rw [after_bind_ok ran]
      exact rest a v ran first
  | error e v =>
      rw [after_error ran] at first
      rw [after_bind_error ran]
      exact first

theorem after_handle {h : Cause → Run κ α} (first : P (m.after w)) (rest : ∀ c v, P v → P ((h c).after v)) :
    P ((handle m h).after w) := by
  cases ran : m w with
  | ok a v =>
      rw [after_ok ran] at first
      rw [after_ok (handle_of_ok h ran)]
      exact first
  | error e v =>
      rw [after_error ran] at first
      cases e with
      | exhausted =>
          rw [after_error (handle_of_exhausted h ran)]
          exact first
      | failed c =>
          cases fatal : c.kind.isFatal with
          | true =>
              rw [after_error (handle_of_fatal h ran fatal)]
              exact first
          | false =>
              rw [after, handle_of_failed ran fatal]
              exact rest c v first

theorem ends_of_ok {done : α → World κ → Prop} (h : P (m.after w))
    (ok : ∀ a v, m w = .ok a v → P v → done a v) : m.Ends w done P := by
  rw [Ends]
  cases ran : m w with
  | ok a v =>
      rw [after_ok ran] at h
      exact ok a v ran h
  | error e v =>
      rw [after_error ran] at h
      exact h

theorem Ends.left {done : α → World κ → Prop} (h : m.Ends w done P)
    (imp : ∀ a v, done a v → P v) : P (m.after w) := by
  rw [Ends] at h
  rw [Run.after]
  split at h
  · exact imp _ _ h
  · exact h

theorem Ends.mono {done done' : α → World κ → Prop} {failed failed' : World κ → Prop} (h : m.Ends w done failed)
    (ok : ∀ a v, done a v → done' a v) (error : ∀ v, failed v → failed' v) : m.Ends w done' failed' := by
  rw [Ends] at h ⊢
  split at h
  · exact ok _ _ h
  · exact error _ h

/-- What holds behind a computation, and how it came about. -/
theorem Ends.ran {done : α → World κ → Prop} {failed : World κ → Prop}
    (h : m.Ends w done failed) : m.Ends w (fun a v => done a v ∧ m w = .ok a v) failed := by
  rw [Ends] at h ⊢
  cases ran : m w with
  | ok a v =>
      rw [ran] at h
      exact ⟨h, rfl⟩
  | error e v =>
      rw [ran] at h
      exact h

theorem Ends.of_eq {m' : Run κ α} {done : α → World κ → Prop} {failed : World κ → Prop}
    (h : m'.Ends v done failed) (same : m w = m' v) : m.Ends w done failed := by
  rw [Ends] at h ⊢
  rw [same]
  exact h

end Run

/-- The lines of a source text. -/
def World.linesOf (w : World κ) (file : String) : List (List Char) :=
  ((w.sources.find? (·.1 == file)).map (·.2)).getD []

/-- The engine, its surroundings and the source texts are the same, but for what has been done, for patches that are
used up, and for the texts of recompilations since then. -/
structure UsesUp (w w' : World κ) : Prop where
  heap : w.heap.Stays w'.heap
  environment : w'.environment = w.environment
  hooks : w'.hooks = w.hooks
  frames : w'.frames = w.frames
  host : w'.host = w.host
  size : w'.registries.size = w.registries.size
  registries : ∀ n, ∃ ps, ps.Sublist (w.registry n).patches ∧ w'.registry n = { w.registry n with patches := ps }
  recompiled : w.recompiled ≤ w'.recompiled
  sources : ∀ file, (∀ id n, w.recompiled ≤ n → file ≠ patchedFile id n) → w'.linesOf file = w.linesOf file

theorem Quiet.usesUp (h : Quiet v w) (recompiled : v.recompiled ≤ w.recompiled)
    (sources : ∀ file, (∀ id n, v.recompiled ≤ n → file ≠ patchedFile id n) → w.linesOf file = v.linesOf file) :
    UsesUp v w where
  heap := h.heap
  environment := h.environment
  hooks := h.hooks
  frames := h.frames
  host := h.host
  size := by rw [h.registries]
  registries n := ⟨_, .refl _, by rw [World.registry, h.registries]; rfl⟩
  recompiled := recompiled
  sources := sources

theorem Grows.usesUp (h : Grows v w) : UsesUp v w :=
  h.quiet.usesUp h.recompiled fun file _ => by rw [World.linesOf, h.sources]; rfl

/-- The world in which a text is registered. -/
def World.registered (w : World κ) (file text : String) : World κ :=
  { w with sources := (file, Text.wideLines text.toList) :: w.sources.filter fun s => s.1 != file }

/-- The text of a recompilation stands under a name that none had before. -/
theorem Grows.registered (h : Grows v w) (id : String) {n : Nat} (new : v.recompiled ≤ n) (text : String) :
    UsesUp v (w.registered (patchedFile id n) text) := by
  have quiet : Quiet v (w.registered (patchedFile id n) text) :=
    Lasting.trans h.quiet ⟨.refl _, rfl, rfl, rfl, rfl, rfl, rfl⟩
  refine quiet.usesUp h.recompiled fun file other => ?_
  have away : (patchedFile id n == file) = false := beq_eq_false_iff_ne.mpr (other id n new).symm
  have same : ((w.sources.filter fun s => s.1 != patchedFile id n).find? (·.1 == file)) =
      w.sources.find? (·.1 == file) := by
    rw [List.find?_filter]
    congr 1
    funext s
    by_cases here : s.1 = file
    · simp [here, Ne.symm (other id n new).symm]
    · simp [here]
  rw [World.linesOf, World.linesOf, World.registered, List.find?_cons, away, same, h.sources]

/-- What a dictionary of globals binds, but for the built-in names, which stand there too once a text has run over
it. -/
def bindings (es : List (Value × Value)) : List (Value × Value) :=
  es.filter fun e => !Value.sameKey e.1 (.str "__builtins__")

/-- A factory and its globals, the computations and worlds that come up around it, and what these keep. -/
structure Guard (κ : Type) where
  call : Caller κ
  /-- Where the factory stands, and what it is. -/
  place : Address
  object : Object
  /-- Where its globals stand, and what they bind. -/
  globals : Address
  bound : List (Value × Value)
  /-- The globals that the factory tells of. -/
  told : Option Address
  admits : World κ → Prop
  told_globals : ∀ a, told = some a → a = globals
  apart : globals ≠ place
  factory_kept : ∀ {w}, admits w → w.heap[place]? = some object
  globals_kept : ∀ {w}, admits w → ∃ es, w.heap[globals]? = some (.dict es) ∧ bindings es = bound
  usesUp : ∀ {w w'}, admits w → UsesUp w w' → w'.heap[place]? = some object →
    (∃ es, w'.heap[globals]? = some (.dict es) ∧ bindings es = bound) → admits w'

/-- The world in which an object is filled anew. -/
def World.filledAt (w : World κ) (a : Address) (c : Content) : World κ :=
  { w with heap := w.heap.modify a fun o => o.filled c }

theorem World.filledAt_usesUp {a : Address} {c : Content} : UsesUp w (w.filledAt a c) :=
  ((write a c : Quietly κ Unit).within w).usesUp (Nat.le_refl _) fun _ _ => rfl

theorem World.filledAt_other {a b : Address} {c : Content} (other : a ≠ b) :
    (w.filledAt a c).heap[b]? = w.heap[b]? := by
  rw [filledAt, Array.getElem?_modify, if_neg other]

theorem World.filledAt_here {a : Address} {c : Content} :
    (w.filledAt a c).heap[a]? = w.heap[a]?.map (·.filled c) := by
  rw [filledAt, Array.getElem?_modify, if_pos rfl]

namespace Guard

variable {G : Guard κ}

/-- The factory is what it was, and its globals bind what they bound. -/
structure Intact (G : Guard κ) (w : World κ) : Prop where
  factory : w.heap[G.place]? = some G.object
  globals : ∃ es, w.heap[G.globals]? = some (.dict es) ∧ bindings es = G.bound

theorem intact (h : G.admits w) : G.Intact w :=
  ⟨G.factory_kept h, G.globals_kept h⟩

theorem grows (h : G.admits v) (more : Grows v w) : G.admits w := by
  obtain ⟨es, found, same⟩ := G.globals_kept h
  exact G.usesUp h more.usesUp (more.heap _ _ (G.factory_kept h)) ⟨es, more.heap _ _ found, same⟩

theorem registered (h : G.admits v) (more : Grows v w) (id : String) {n : Nat} (new : v.recompiled ≤ n)
    (text : String) : G.admits (w.registered (patchedFile id n) text) := by
  obtain ⟨es, found, same⟩ := G.globals_kept h
  exact G.usesUp h (more.registered id new text) (more.heap _ _ (G.factory_kept h)) ⟨es, more.heap _ _ found, same⟩

/-- A computation leaves an admitted world behind, whether it fails or not. -/
def Keeps (G : Guard κ) (m : Run κ α) : Prop :=
  ∀ w, G.admits w → G.admits (m.after w)

theorem keeps_pure (a : α) : G.Keeps (pure a) :=
  fun _ h => h

theorem Keeps.bind {m : Run κ α} {f : α → Run κ β} (hm : G.Keeps m) (hf : ∀ a, G.Keeps (f a)) : G.Keeps (m >>= f) :=
  fun w h => after_bind (hm w h) fun a v _ h => hf a v h

theorem keeps_grows {m : Run κ α} (h : ∀ w, Grows w (m.after w)) : G.Keeps m :=
  fun w admitted => grows admitted (h w)

theorem keeps_forM {f : α → Run κ Unit} : (as : List α) → (∀ a ∈ as, G.Keeps (f a)) → G.Keeps (as.forM f)
  | [], _ => keeps_pure ()
  | a :: as, hf => (hf a List.mem_cons_self).bind fun _ => keeps_forM as fun b hb => hf b (List.mem_cons_of_mem _ hb)

/-- An object is filled that is neither the factory nor its globals. -/
theorem filled {a : Address} {c : Content} (h : G.admits w) (factory : a ≠ G.place) (globals : a ≠ G.globals) :
    G.admits (w.filledAt a c) := by
  refine G.usesUp h w.filledAt_usesUp ?_ ?_
  · rw [World.filledAt_other factory]
    exact G.factory_kept h
  · rw [World.filledAt_other globals]
    exact G.globals_kept h

theorem keeps_write {R : World κ → World κ → Prop} [Still R] {a : Address} {c : Content} (factory : a ≠ G.place)
    (globals : a ≠ G.globals) : G.Keeps (write a c : Within R Unit).run :=
  fun _ h => filled h factory globals

/-- A new object stands at a place of its own. -/
theorem fresh (h : G.admits w) : w.heap.size ≠ G.place ∧ w.heap.size ≠ G.globals := by
  obtain ⟨es, found, -⟩ := G.globals_kept h
  exact ⟨Nat.ne_of_gt (Array.getElem?_eq_some_iff.mp (G.factory_kept h)).1,
    Nat.ne_of_gt (Array.getElem?_eq_some_iff.mp found).1⟩

/-! ## Built-in names -/

theorem bindings_insert {es : List (Value × Value)} (v : Value) (lacks : Value.hasKey es (.str "__builtins__") = false) :
    bindings (Value.insert es (.str "__builtins__") v) = bindings es := by
  induction es with
  | nil => rfl
  | cons e es ih =>
      rw [Value.hasKey, List.any_cons, Bool.or_eq_false_iff] at lacks
      have kept (es : List (Value × Value)) : bindings (e :: es) = e :: bindings es :=
        List.filter_cons_of_pos (by simp [lacks.1])
      rw [Value.insert, if_neg (by simp [lacks.1]), kept, kept, ih lacks.2]

end Guard

/-- The world in which a dictionary of globals has the built-in names. -/
def World.withBuiltins (w : World κ) (a : Address) : World κ :=
  if Value.hasKey (w.entriesAt a) (.str "__builtins__") then w
  else w.filledAt a (.entries (Value.insert (w.entriesAt a) (.str "__builtins__") (.ref builtinsDict)))

theorem addBuiltins_run {R : World κ → World κ → Prop} [Still R] (a : Address) (w : World κ) :
    (addBuiltins a : Within R Unit).run w = .ok () (w.withBuiltins a) := by
  rw [addBuiltins, Within.run_bind, bind_of_ok (entries_run a w), World.withBuiltins]
  cases Value.hasKey (w.entriesAt a) (.str "__builtins__") <;> rfl

theorem World.withBuiltins_other {a b : Address} (other : a ≠ b) : (w.withBuiltins a).heap[b]? = w.heap[b]? := by
  rw [withBuiltins]
  split
  · rfl
  · exact filledAt_other other

namespace Guard

variable {G : Guard κ} {R : World κ → World κ → Prop} [Still R]

/-- The globals get the built-in names and keep what they bind. -/
theorem admits_withBuiltins {a : Address} (h : G.admits w) (factory : a ≠ G.place) : G.admits (w.withBuiltins a) := by
  rw [World.withBuiltins]
  split
  · exact h
  next lacks =>
  rw [Bool.not_eq_true] at lacks
  by_cases here : a = G.globals
  · subst here
    obtain ⟨es, found, same⟩ := G.globals_kept h
    have there : w.entriesAt G.globals = es := by rw [World.entriesAt, found]
    rw [there] at lacks ⊢
    refine G.usesUp h w.filledAt_usesUp ?_ ⟨_, ?_, (bindings_insert (.ref builtinsDict) lacks).trans same⟩
    · rw [World.filledAt_other factory]
      exact G.factory_kept h
    · rw [World.filledAt_here, found]
      rfl
  · exact filled h factory here

/-! ## The top level of a text -/

/-- A text runs in a frame whose names stand in a dictionary of its own, over the globals that the factory tells of. -/
structure Outermost (G : Guard κ) (declared : List String) (f : Frame) : Prop where
  own : ∃ d, f.locals = some d ∧ d ≠ G.place ∧ d ≠ G.globals
  globals : ∀ a, G.told = some a → f.globals = a
  declared : f.declared = declared
  cells : f.cells = []

/-- A part of a statement leaves admitted worlds behind, wherever it runs at the top level. -/
def Spares (G : Guard κ) (declared : List String) (m : Frame → Calling G.call α) : Prop :=
  ∀ f, G.Outermost declared f → G.Keeps (m f).run

/-- A part of a statement can give a result at the top level. -/
def Gives (G : Guard κ) (declared : List String) (m : Frame → Calling G.call α) (a : α) : Prop :=
  ∃ f w v, G.Outermost declared f ∧ G.admits w ∧ (m f).run w = .ok a v

variable {declared : List String} {f : Frame}

theorem keeps_store {name : String} (top : G.Outermost declared f) (own : name ∉ declared) (v : Value) :
    G.Keeps (store f name v : Within R Unit).run := by
  obtain ⟨d, locals, factory, globals⟩ := top.own
  have undeclared : f.declared.contains name = false := by simpa [top.declared] using own
  intro w h
  simp only [store, undeclared, locals, Bool.false_eq_true, if_false]
  rw [storeIn, Within.run_bind, after_bind_ok (entries_run d w)]
  exact keeps_write factory globals w h

theorem keeps_remove {name : String} (top : G.Outermost declared f) (own : name ∉ declared) :
    G.Keeps (remove f name : Within R Unit).run := by
  obtain ⟨d, locals, factory, globals⟩ := top.own
  have undeclared : f.declared.contains name = false := by simpa [top.declared] using own
  intro w h
  simp only [remove, undeclared, locals, Bool.false_eq_true, if_false]
  rw [removeFrom, Within.run_bind, after_bind_ok (entries_run d w)]
  split
  · exact keeps_write factory globals w h
  · exact h

/-- Storing a value in a target: under a name that is not global, or in a place that has nothing to do with the
factory. -/
def Stores (G : Guard κ) (declared : List String) (target : Expr) (v : Value) : Prop :=
  (∃ name, target = .name name ∧ name ∉ declared) ∨ G.Spares declared fun f => assign G.call f target v

def Removes (G : Guard κ) (declared : List String) (target : Expr) : Prop :=
  (∃ name, target = .name name ∧ name ∉ declared) ∨ G.Spares declared fun f => deleteTarget G.call f target

theorem Stores.keeps {target : Expr} {v : Value} (h : G.Stores declared target v) (top : G.Outermost declared f) :
    G.Keeps (assign G.call f target v : Calling G.call _).run := by
  rcases h with ⟨name, rfl, own⟩ | spares
  · exact keeps_store top own v
  · exact spares f top

theorem Removes.keeps {target : Expr} (h : G.Removes declared target) (top : G.Outermost declared f) :
    G.Keeps (deleteTarget G.call f target : Calling G.call _).run := by
  rcases h with ⟨name, rfl, own⟩ | spares
  · rw [deleteTarget]
    exact keeps_remove top own
  · exact spares f top

end Guard

/-- The value that an augmented assignment gives to a name. -/
def Script.augmentedName (call : Caller κ) (name : String) (op : BinaryOp) (e : Expr) (f : Frame) :
    Calling call Value := do
  let old ← eval call f (.name name)
  augmented call op old (← eval call f e)

/-- The function that a definition makes, with its decorators called. -/
def Script.defined (call : Caller κ) (shown : String) (ps : Params) (defaults : List (String × Expr))
    (decorators : List Expr) (body : List Stmt) (row : Nat) (f : Frame) : Calling call Value := do
  let ds ← evalItems call f decorators
  let defaults ← evalDefaults call f defaults
  let v ← makeFunction f shown (Code.of ps (.block body) f.file row) defaults
  decorate call v ds

theorem Script.exec_define {call : Caller κ} (f : Frame) (name shown : String) (ps : Params)
    (defaults : List (String × Expr)) (decorators : List Expr) (body : List Stmt) (row : Nat) :
    (exec call f (.define name shown ps defaults decorators body row) : Calling call Flow) = (do
      let v ← defined call shown ps defaults decorators body row f
      store f name v
      pure .next) := by
  rw [exec, defined]
  simp only [bind_assoc]

namespace Guard

variable {G : Guard κ} {R : World κ → World κ → Prop} [Still R] {declared : List String} {f : Frame}

mutual

/-- What a statement evaluates at the top level of a text spares the factory, and no name that it binds is global. -/
def Tame (G : Guard κ) (declared : List String) : Stmt → Prop
  | .expr e => G.Spares declared (eval G.call · e)
  | .assign targets e => G.Spares declared (eval G.call · e) ∧
      ∀ v, G.Gives declared (eval G.call · e) v → ∀ t ∈ targets, G.Stores declared t v
  | .augment (.name name) op e => name ∉ declared ∧
      G.Spares declared (augmentedName G.call name op e)
  | .augment target op e => G.Spares declared (exec G.call · (.augment target op e))
  | .annotate _ none => True
  | .annotate target (some e) => G.Spares declared (eval G.call · e) ∧
      ∀ v, G.Gives declared (eval G.call · e) v → G.Stores declared target v
  | .give none => True
  | .give (some e) => G.Spares declared (eval G.call · e)
  | .raise none => True
  | .raise (some e) => G.Spares declared fun f => do raiseValue G.call (← eval G.call f e)
  | .assert test message => (G.Spares declared fun f => do truth G.call (← eval G.call f test)) ∧
      ∀ e, message = some e → G.Spares declared (eval G.call · e)
  | .delete targets => ∀ t ∈ targets, G.Removes declared t
  | .global _ | .nonlocal _ | .pass | .stop | .skip => True
  | .imports modules => ∀ m ∈ modules, importedName m.1 m.2 ∉ declared
  | .importFrom _ names => ∀ n ∈ names, n.2.getD n.1 ∉ declared
  | .choose test yes no => (G.Spares declared fun f => do truth G.call (← eval G.call f test)) ∧
      TameAll G declared yes ∧ TameAll G declared no
  | .loop test body otherwise => (G.Spares declared fun f => do truth G.call (← eval G.call f test)) ∧
      TameAll G declared body ∧ TameAll G declared otherwise
  | .each target e body otherwise => (G.Spares declared fun f => do items G.call (← eval G.call f e)) ∧
      (∀ vs, G.Gives declared (fun f => do items G.call (← eval G.call f e)) vs →
        ∀ v ∈ vs, G.Stores declared target v) ∧
      TameAll G declared body ∧ TameAll G declared otherwise
  | .define name shown ps defaults decorators body row => name ∉ declared ∧
      G.Spares declared (defined G.call shown ps defaults decorators body row)
  | .describe name shown args decorators body _ => name ∉ declared ∧
      G.Spares declared (evalItems G.call · decorators) ∧
      (G.Spares declared fun f => evalArgs G.call f (.native (.function "__build_class__")) ⟨[], []⟩ args) ∧
      TameAll G (stmtsNames body).globals body ∧
      ∀ ds given d, G.Gives declared (evalItems G.call · decorators) ds →
        G.Gives declared (fun f => evalArgs G.call f (.native (.function "__build_class__")) ⟨[], []⟩ args) given →
        G.Keeps (do decorate G.call (← makeClass G.call shown given.positional given.named d) ds : Calling G.call _).run

def TameAll (G : Guard κ) (declared : List String) : List Stmt → Prop
  | [] => True
  | s :: r => Tame G declared s ∧ TameAll G declared r

end

/-! ## Running -/

theorem keeps_rounds {test : Calling G.call Bool} {body otherwise : Calling G.call Flow} (ht : G.Keeps test.run)
    (hb : G.Keeps body.run) (ho : G.Keeps otherwise.run) :
    (fuel : Nat) → G.Keeps (rounds test body otherwise fuel).run
  | 0 => fun _ h => h
  | fuel + 1 => by
      refine Keeps.bind ht fun holds => ?_
      cases holds with
      | false => exact ho
      | true =>
          refine Keeps.bind hb fun flow => ?_
          cases flow with
          | stop => exact keeps_pure _
          | give v => exact keeps_pure _
          | next => exact keeps_rounds ht hb ho fuel
          | skip => exact keeps_rounds ht hb ho fuel

theorem keeps_overItems {store : Value → Calling G.call Unit} {body otherwise : Calling G.call Flow}
    (hb : G.Keeps body.run) (ho : G.Keeps otherwise.run) :
    (vs : List Value) → (∀ v ∈ vs, G.Keeps (store v).run) → G.Keeps (overItems store body otherwise vs).run
  | [], _ => ho
  | v :: vs, hs => by
      refine (hs v List.mem_cons_self).bind fun _ => Keeps.bind hb fun flow => ?_
      have rest := keeps_overItems hb ho vs fun v hv => hs v (List.mem_cons_of_mem _ hv)
      cases flow with
      | stop => exact keeps_pure _
      | give v => exact keeps_pure _
      | next => exact rest
      | skip => exact rest

theorem Spares.bind {m : Frame → Calling G.call α} {k : α → Calling G.call β} (h : G.Spares declared m)
    (top : G.Outermost declared f) (hk : ∀ a, G.Gives declared m a → G.Keeps (k a).run) :
    G.Keeps (m f >>= k).run :=
  fun w admitted => after_bind (h f top w admitted) fun a v ran admitted' =>
    hk a ⟨f, w, v, top, admitted, ran⟩ v admitted'

mutual

/-- A tame statement leaves an admitted world behind, however it ends. -/
theorem Tame.keeps {declared : List String} {f : Frame} (top : G.Outermost declared f) :
    (s : Stmt) → Tame G declared s → G.Keeps (exec G.call f s : Calling G.call Flow).run
  | .expr e, h => by
      rw [Tame] at h
      rw [exec]
      exact h.bind top fun _ _ => keeps_pure _
  | .assign targets e, h => by
      rw [Tame] at h
      rw [exec]
      refine h.1.bind top fun v given => Keeps.bind ?_ fun _ => keeps_pure _
      rw [Within.run_forM]
      exact keeps_forM targets fun t ht => (h.2 v given t ht).keeps top
  | .augment target op e, h => by
      cases target with
      | name name =>
          rw [Tame] at h
          have same : (exec G.call f (.augment (.name name) op e) : Calling G.call Flow) = (do
              let v ← augmentedName G.call name op e f
              assign G.call f (.name name) v
              pure .next) := by
            rw [exec, augmentedName]
            · simp only [bind_assoc]
            · nofun
            · nofun
          rw [same]
          refine h.2.bind top fun v _ => ?_
          exact (Stores.keeps (.inl ⟨name, rfl, h.1⟩) top).bind fun _ => keeps_pure _
      | _ => exact h f top
  | .annotate target none, h => by
      rw [exec]
      exact keeps_pure _
  | .annotate target (some e), h => by
      rw [Tame] at h
      rw [exec]
      exact h.1.bind top fun v given => ((h.2 v given).keeps top).bind fun _ => keeps_pure _
  | .give none, _ => by
      rw [exec]
      exact keeps_pure _
  | .give (some e), h => by
      rw [Tame] at h
      rw [exec]
      exact h.bind top fun _ _ => keeps_pure _
  | .raise none, _ => by
      rw [exec]
      exact fun _ h => h
  | .raise (some e), h => by
      rw [Tame] at h
      rw [exec]
      exact h f top
  | .assert test message, h => by
      rw [Tame] at h
      cases message with
      | none =>
          rw [exec, ← bind_assoc]
          refine h.1.bind top fun holds _ => ?_
          cases holds with
          | true => exact keeps_pure _
          | false => exact fun _ h => h
      | some e =>
          rw [exec, ← bind_assoc]
          refine h.1.bind top fun holds _ => ?_
          cases holds with
          | true => exact keeps_pure _
          | false => exact (h.2 e rfl).bind top fun v _ _ h => h
  | .delete targets, h => by
      rw [Tame] at h
      rw [exec]
      refine Keeps.bind ?_ fun _ => keeps_pure _
      rw [Within.run_forM]
      exact keeps_forM targets fun t ht => (h t ht).keeps top
  | .global _, _ | .nonlocal _, _ | .pass, _ | .stop, _ | .skip, _ => by
      rw [exec.eq_def]
      exact keeps_pure _
  | .imports modules, h => by
      rw [Tame] at h
      rw [exec]
      refine Keeps.bind ?_ fun _ => keeps_pure _
      rw [Within.run_forM]
      exact keeps_forM modules fun m hm =>
        (keeps_grows (importModule_grows m.1)).bind fun v => keeps_store top (h m hm) v
  | .importFrom module names, h => by
      rw [Tame] at h
      rw [exec]
      refine (keeps_grows (importModule_grows module)).bind fun v => Keeps.bind ?_ fun _ => keeps_pure _
      rw [Within.run_forM]
      refine keeps_forM names fun n hn => (keeps_grows (getAttr?_grows v n.1)).bind fun found => ?_
      cases found with
      | none => exact fun _ h => h
      | some v => exact keeps_store top (h n hn) v
  | .choose test yes no, h => by
      rw [Tame] at h
      rw [exec, ← bind_assoc]
      refine h.1.bind top fun holds _ => ?_
      cases holds with
      | true => exact TameAll.keeps top yes h.2.1
      | false => exact TameAll.keeps top no h.2.2
  | .loop test body otherwise, h => by
      rw [Tame] at h
      rw [exec]
      exact keeps_rounds (h.1 f top) (TameAll.keeps top body h.2.1) (TameAll.keeps top otherwise h.2.2) _
  | .each target e body otherwise, h => by
      rw [Tame] at h
      rw [exec, ← bind_assoc]
      refine h.1.bind top fun vs given => ?_
      exact keeps_overItems (TameAll.keeps top body h.2.2.1) (TameAll.keeps top otherwise h.2.2.2) vs
        fun v hv => (h.2.1 vs given v hv).keeps top
  | .define name shown ps defaults decorators body row, h => by
      rw [Tame] at h
      rw [exec_define]
      exact h.2.bind top fun v _ => (keeps_store top h.1 v).bind fun _ => keeps_pure _
  | .describe name shown args decorators body _, h => by
      rw [Tame] at h
      rw [exec.eq_def]
      refine h.2.1.bind top fun ds decorated => ?_
      refine h.2.2.1.bind top fun given passed => ?_
      refine (keeps_grows (loadGlobal_grows f.globals "__name__")).bind fun module w admitted => ?_
      refine after_bind (grows admitted (Grows.push w _)) fun d v made admitted' => ?_
      cases made
      -- the names of the class stand in a dictionary of their own as well
      have inside : G.Outermost (stmtsNames body).globals
          { f with
            locals := some w.heap.size, cells := f.visible (stmtsNames body).freeInClass, own := []
            declared := (stmtsNames body).globals
            path := [if f.declared.contains name then shown else f.qualify shown] } :=
        ⟨⟨_, rfl, fresh admitted⟩, top.globals, rfl, by rw [Frame.visible, top.cells]; rfl⟩
      refine after_bind (TameAll.keeps inside body h.2.2.2.1 _ admitted') fun _ u _ admitted'' => ?_
      have made := (h.2.2.2.2 ds given w.heap.size decorated passed).bind fun v =>
        (keeps_store (R := Reaches G.call) top h.1 v).bind fun _ => keeps_pure Flow.next
      rw [Within.run_bind, bind_assoc] at made
      exact made u admitted''

theorem TameAll.keeps {declared : List String} {f : Frame} (top : G.Outermost declared f) :
    (body : List Stmt) → TameAll G declared body → G.Keeps (execAll G.call f body : Calling G.call Flow).run
  | [], _ => by
      rw [execAll]
      exact keeps_pure _
  | s :: r, h => by
      rw [TameAll] at h
      rw [execAll]
      refine (Tame.keeps top s h.1).bind fun flow => ?_
      cases flow with
      | next => exact TameAll.keeps top r h.2
      | _ => exact keeps_pure _

end

/-! ## Making a text executable -/

/-- The first function among the names that a text binds is not the factory. -/
def PicksOther (G : Guard κ) (body : List Stmt) : Prop :=
  ∀ f d w flow z v, G.Outermost (stmtsNames body).globals f → f.locals = some d → G.admits w →
    w.heap[d]? = some (.dict []) → (execAll G.call f body : Calling G.call _).run w = .ok flow z →
    ((z.entriesAt d).map (·.2)).find? z.heap.isFunction = some v →
      ∃ a o, v = .ref a ∧ a ≠ G.place ∧ z.heap[a]? = some o ∧ ∀ cls attrs core, o ≠ .instance cls attrs core

/-- A text spares the factory if what it evaluates at its top level does, and if it defines another one. -/
def TameText (G : Guard κ) (text : String) : Prop :=
  ∀ body, compile? text.toList = some body → G.TameAll (stmtsNames body).globals body ∧ G.PicksOther body

/-- A text as it is compiled: under a line that names the module and the owners. -/
def Labelled (G : Guard κ) (id : Value) (owners : List Value) (code text : String) : Prop :=
  ∃ u v names v', G.admits u ∧ G.admits v ∧ (Run.joined ", " owners : Calling G.call _).run v = .ok names v' ∧
    text = labelLine (u.heap.str id) names ++ "\n" ++ code ++ "\n"

theorem at?_plain {h : Heap} {a : Address} {o : Object} (found : h[a]? = some o)
    (plain : ∀ cls attrs core, o ≠ .instance cls attrs core) : h.at? (.ref a) = some o := by
  have itself : h.core (.ref a) = .ref a := by
    rw [Heap.core, found]
    cases o with
    | «instance» cls attrs core => exact absurd rfl (plain cls attrs core)
    | _ => rfl
  rw [Heap.at?, itself]
  exact found

/-- What is noted on a function that is not the factory is not noted on the factory. -/
theorem admits_tagged {a : Address} {o : Object} (h : G.admits w) (other : a ≠ G.place) (found : w.heap[a]? = some o)
    (plain : ∀ cls attrs core, o ≠ .instance cls attrs core) (function : w.heap.isFunction (.ref a) = true)
    (name : String) (value : Value) : G.admits ((setAttr G.call (.ref a) name value : Calling G.call Unit).run.after w) := by
  have seen : (heap : Calling G.call _).run w = .ok w.heap w := rfl
  rw [Heap.isFunction, at?_plain found plain] at function
  have apart : a ≠ G.globals := by
    rintro rfl
    obtain ⟨es, there, -⟩ := G.globals_kept h
    rw [found] at there
    cases there
    cases function
  have wrote (c : Content) : G.admits ((write a c : Calling G.call Unit).run.after w) := keeps_write other apart w h
  rw [setAttr, Within.run_bind, after_bind_ok seen]
  cases o with
  | function f =>
      simp only [found]
      split <;> exact wrote _
  | helper f attrs =>
      simp only [found]
      exact wrote _
  | wrapper f =>
      simp only [found]
      exact wrote _
  | _ => cases function

/-- A text runs over globals that the factory tells of, or over new ones, and what it defines is labelled. -/
theorem admits_running {body : List Stmt} {a : Address} {file : String} (h : G.admits w)
    (tame : G.TameAll (stmtsNames body).globals body) (picks : G.PicksOther body) (there : a < w.heap.size)
    (factory : a ≠ G.place) (told : ∀ b, G.told = some b → a = b) (label : String) (owners : List Value) :
    G.admits ((do
      let defined ← alloc (.dict [])
      runText G.call body file a defined
      let h ← heap
      match ((← entries defined).map (·.2)).find? h.isFunction with
      | some f =>
        setAttr G.call f ownersAttr (.tuple owners)
        pure f
      | none => fail (.noFunction label) : Calling G.call Value).run.after w) := by
  refine after_bind (grows h (Grows.push w _)) fun d v made h₁ => ?_
  cases made
  have top : G.Outermost (stmtsNames body).globals
      ⟨some w.heap.size, [], [], a, (stmtsNames body).globals, file, []⟩ :=
    ⟨⟨_, rfl, fresh h⟩, told, rfl, rfl⟩
  have empty : ({ w with heap := w.heap.push (.dict []) } : World κ).heap[w.heap.size]? = some (.dict []) :=
    Array.getElem?_push_size
  generalize { w with heap := w.heap.push (.dict []) } = v at h₁ empty
  dsimp only
  rw [runText, Within.run_bind, Within.run_bind, bind_assoc, after_bind_ok (addBuiltins_run a v), Within.run_bind,
    bind_assoc]
  have h₂ := admits_withBuiltins h₁ factory
  rw [← World.withBuiltins_other (Nat.ne_of_lt there)] at empty
  refine after_bind (TameAll.keeps top body tame _ h₂) fun flow z ran h₃ => ?_
  have done : (pure () : Calling G.call Unit).run z = .ok () z := rfl
  have seen : (heap : Calling G.call _).run z = .ok z.heap z := rfl
  rw [Within.run_bind, after_bind_ok done, after_bind_ok seen, Within.run_bind, after_bind_ok (entries_run w.heap.size z)]
  split
  · next v first =>
      obtain ⟨b, o, rfl, other, found, plain⟩ := picks _ _ _ _ _ _ top rfl h₂ empty ran first
      exact after_bind (admits_tagged h₃ other found plain (List.find?_some first) _ _) fun _ _ _ h => h
  · exact h₃

/-- Making a text executable leaves an admitted world behind. -/
theorem keeps_recompile {id : Value} {owners : List Value} {code : String}
    (tame : ∀ text, G.Labelled id owners code text → G.TameText text) :
    G.Keeps (recompile G.call code id owners G.told : Calling G.call Value).run := by
  intro w h
  have seen : (str id : Calling G.call _).run w = .ok (w.heap.str id) w := rfl
  rw [recompile, Within.run_bind, after_bind_ok seen]
  refine after_bind (grows h (countRecompiled_grows w)) fun n w₁ counted h₁ => ?_
  refine after_bind (grows h₁ (joined_grows _ _ w₁)) fun names w₂ joined h₂ => ?_
  have tame := tame _ ⟨w, w₁, names, w₂, h, h₁, joined, rfl⟩
  dsimp only
  split
  · exact h₂
  split
  · exact h₂
  next body compiled =>
  obtain ⟨top, picks⟩ := tame body compiled
  have more : Grows w w₂ := Lasting.trans (after_ok counted ▸ countRecompiled_grows (R := Reaches G.call) w)
    (after_ok joined ▸ joined_grows (R := Reaches G.call) ", " owners w₁)
  have h₃ := registered h more (w.heap.str id) (Nat.le_of_eq (by cases counted; rfl) : w.recompiled ≤ n)
    (labelLine (w.heap.str id) names ++ "\n" ++ code ++ "\n")
  refine after_bind h₃ fun _ w₃ _ h₃ => ?_
  cases told : G.told with
  | some a =>
      cases G.told_globals a told
      have there : G.globals < w₃.heap.size := by
        obtain ⟨es, found, -⟩ := G.globals_kept h₃
        exact (Array.getElem?_eq_some_iff.mp found).1
      refine admits_running h₃ top picks there G.apart (fun b same => ?_) _ owners
      rw [told] at same
      exact Option.some.inj same
  | none =>
      refine after_bind (grows h₃ (Grows.push w₃ _)) fun a w₄ made h₄ => ?_
      cases made
      refine admits_running h₄ top picks ?_ (fresh h₃).1 (fun b same => ?_) _ owners
      · exact Nat.lt_of_lt_of_eq (Nat.lt_succ_self _) (Array.size_push _).symm
      · rw [told] at same
        cases same

end Guard

end Patchwork
