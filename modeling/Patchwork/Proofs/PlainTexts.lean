import Patchwork.Proofs.Keys
import Patchwork.Proofs.Sparing

/-!
Texts that do nothing at their top level but define functions and give names to constants. They spare the factory that
they are made for, whatever the functions do when they are called.
-/

namespace Patchwork

open Run

namespace Script

/-- An expression that stands for itself. -/
def Expr.isConstant : Expr → Bool
  | .none | .ellipsis | .bool _ | .int _ | .float _ | .imaginary _ | .str _ | .bytes _ => true
  | _ => false

def Expr.isName : Expr → Bool
  | .name _ => true
  | _ => false

/-- A function without decorators, with constants and names for defaults; names given to a constant; an expression
without effect. -/
def Stmt.isPlain : Stmt → Bool
  | .define _ _ _ defaults decorators _ _ => decorators.isEmpty && defaults.all fun d => d.2.isConstant || d.2.isName
  | .assign targets e => targets.all Expr.isName && e.isConstant
  | .expr e => e.isConstant || e.isName
  | .pass => true
  | _ => false

/-! ## Names -/

theorem Names.append_globals (a b : Names) : (a ++ b).globals = a.globals ++ b.globals :=
  rfl

mutual

/-- No expression declares a name as global. -/
theorem exprNames_globals : (e : Expr) → (exprNames e).globals = []
  | .name _ | .none | .ellipsis | .bool _ | .int _ | .float _ | .imaginary _ | .str _ | .bytes _ => rfl
  | .list items | .tuple items | .set items => exprsNames_globals items
  | .dict entries => entriesNames_globals entries
  | .starred e | .attr e _ | .unary _ e => exprNames_globals e
  | .call f args => by rw [exprNames, Names.append_globals, exprNames_globals f, argsNames_globals args, List.append_nil]
  | .index a b | .binary _ a b | .both a b | .either a b => by
      rw [exprNames, Names.append_globals, exprNames_globals a, exprNames_globals b, List.append_nil]
  | .slice a b c => by
      rw [exprNames, Names.append_globals, Names.append_globals, optNames_globals a, optNames_globals b,
        optNames_globals c, List.append_nil, List.append_nil]
  | .compare e rest => by
      rw [exprNames, Names.append_globals, exprNames_globals e, comparedNames_globals rest, List.append_nil]
  | .choose a b c => by
      rw [exprNames, Names.append_globals, Names.append_globals, exprNames_globals a, exprNames_globals b,
        exprNames_globals c, List.append_nil, List.append_nil]
  | .lambda _ defaults _ _ => by
      rw [exprNames, Names.append_globals, defaultsNames_globals defaults]
      rfl
  | .bind _ e => by
      rw [exprNames, Names.append_globals, exprNames_globals e]
      rfl
  | .build _ _ _ clauses => by
      rw [exprNames]
      exact (Names.append_globals _ _).trans (by rw [firstItems_globals clauses]; rfl)

theorem optNames_globals : (e : Option Expr) → (optNames e).globals = []
  | none => rfl
  | some e => exprNames_globals e

theorem exprsNames_globals : (es : List Expr) → (exprsNames es).globals = []
  | [] => rfl
  | e :: r => by rw [exprsNames, Names.append_globals, exprNames_globals e, exprsNames_globals r, List.append_nil]

theorem argsNames_globals : (args : List (ArgKind × Expr)) → (argsNames args).globals = []
  | [] => rfl
  | (_, e) :: r => by rw [argsNames, Names.append_globals, exprNames_globals e, argsNames_globals r, List.append_nil]

theorem comparedNames_globals : (rest : List (Comparison × Expr)) → (comparedNames rest).globals = []
  | [] => rfl
  | (_, e) :: r => by
      rw [comparedNames, Names.append_globals, exprNames_globals e, comparedNames_globals r, List.append_nil]

theorem defaultsNames_globals : (defaults : List (String × Expr)) → (defaultsNames defaults).globals = []
  | [] => rfl
  | (_, e) :: r => by
      rw [defaultsNames, Names.append_globals, exprNames_globals e, defaultsNames_globals r, List.append_nil]

theorem entriesNames_globals : (es : List (Option Expr × Expr)) → (entriesNames es).globals = []
  | [] => rfl
  | (k, e) :: r => by
      rw [entriesNames, Names.append_globals, Names.append_globals, optNames_globals k, exprNames_globals e,
        entriesNames_globals r, List.append_nil, List.append_nil]

theorem firstItems_globals : (clauses : List (Expr × Expr × List Expr)) → (firstItems clauses).globals = []
  | [] => rfl
  | (_, e, _) :: _ => exprNames_globals e

end

theorem targetsNames_globals : (targets : List Expr) → (targetsNames targets).globals = []
  | [] => rfl
  | t :: r => by
      rw [targetsNames, Names.append_globals, targetsNames_globals r, List.append_nil]
      exact exprNames_globals t

/-- A definition declares no name as global in the scope that it stands in, whatever its body does. -/
theorem stmtNames_define (name shown : String) (ps : Params) (defaults : List (String × Expr)) (decorators : List Expr)
    (body : List Stmt) (row : Nat) : (stmtNames (.define name shown ps defaults decorators body row)).globals = [] := by
  rw [stmtNames, Names.append_globals, Names.append_globals, Names.append_globals, defaultsNames_globals defaults,
    exprsNames_globals decorators]
  rfl

/-- Plain statements declare no name as global. -/
theorem stmtNames_plain {s : Stmt} (h : s.isPlain = true) : (stmtNames s).globals = [] := by
  cases s with
  | define name shown ps defaults decorators body row => exact stmtNames_define ..
  | assign targets e =>
      rw [stmtNames, Names.append_globals, targetsNames_globals targets, List.append_nil]
      exact exprNames_globals e
  | expr e => exact exprNames_globals e
  | pass => rfl
  | _ => cases h

theorem stmtsNames_plain : (body : List Stmt) → body.all Stmt.isPlain = true → (stmtsNames body).globals = []
  | [], _ => rfl
  | s :: r, h => by
      rw [List.all_cons, Bool.and_eq_true] at h
      rw [stmtsNames, Names.append_globals, stmtNames_plain h.1, stmtsNames_plain r h.2, List.append_nil]

end Script

/-! ## Values -/

open Script

variable {κ : Type} {R : World κ → World κ → Prop} [Still R] {call : Caller κ} [Calls call R] {f : Frame}
  {w v z : World κ}

/-- A constant is no object of the heap. -/
theorem eval_constant {e : Expr} (h : e.isConstant = true) :
    ∃ v, (eval call f e : Within R Value) = pure v ∧ ∀ a, v ≠ .ref a := by
  cases e with
  | none | ellipsis | bool | int | float | imaginary | str | bytes =>
      exact ⟨_, rfl, nofun⟩
  | _ => cases h

theorem loadCell_grows (name : String) (w : World κ) :
    Grows w ((loadCell f name : Within R _).run.after w) := by
  rw [loadCell]
  split
  · next a _ =>
      have seen : (objectAt? a : Within R _).run w = .ok w.heap[a]? w := rfl
      rw [Within.run_bind, after_bind_ok seen]
      repeat' split
      all_goals exact Lasting.refl w
  · exact Lasting.refl w

theorem load_grows (name : String) (w : World κ) : Grows w ((load f name : Within R Value).run.after w) := by
  have outside {otherwise : Option Value → Within R Value} (found : ∀ v, otherwise (some v) = pure v)
      (missing : otherwise none = loadGlobal f.globals name) :
      Grows w ((loadCell f name >>= otherwise).run.after w) := by
    refine bind_within (loadCell_grows name) (fun cell w => ?_) w
    cases cell with
    | some v =>
        rw [found]
        exact Lasting.refl w
    | none =>
        rw [missing]
        exact loadGlobal_grows f.globals name w
  rw [load]
  split
  · exact loadGlobal_grows f.globals name w
  · cases f.locals with
    | none => exact outside (fun _ => rfl) rfl
    | some d =>
        rw [Within.run_bind, after_bind_ok (entries_run d w), pure_bind]
        dsimp only
        split
        · exact Lasting.refl w
        · exact outside (fun _ => rfl) rfl

theorem eval_plain {e : Expr} (h : (e.isConstant || e.isName) = true) (w : World κ) :
    Grows w ((eval call f e : Within R Value).run.after w) := by
  cases constant : e.isConstant with
  | true =>
      obtain ⟨v, same, -⟩ : ∃ v, (eval call f e : Within R Value) = pure v ∧ ∀ a, v ≠ .ref a :=
        eval_constant constant
      rw [same]
      exact Lasting.refl w
  | false =>
      rw [constant, Bool.false_or] at h
      cases e with
      | name id => exact load_grows id w
      | _ => cases h

theorem evalDefaults_plain : (defaults : List (String × Expr)) →
    (defaults.all fun d => d.2.isConstant || d.2.isName) = true → ∀ w : World κ,
    Grows w ((evalDefaults call f defaults : Within R _).run.after w)
  | [], _ => fun w => by
      rw [evalDefaults]
      exact Lasting.refl w
  | (n, e) :: r, h => by
      rw [List.all_cons, Bool.and_eq_true] at h
      rw [evalDefaults]
      exact bind_within (eval_plain h.1) fun v =>
        bind_within (evalDefaults_plain r h.2) fun vs w => Lasting.refl w

/-- A definition without decorators makes a function that was not there before. -/
theorem defined_plain {shown : String} {ps : Params} {defaults : List (String × Expr)} {body : List Stmt} {row : Nat}
    (h : (defaults.all fun d => d.2.isConstant || d.2.isName) = true) (w : World κ) :
    (defined call shown ps defaults [] body row f).run.Ends w
      (fun v z => Grows w z ∧ ∃ (a : Nat) (g : Function), v = .ref a ∧ w.heap.size ≤ a ∧ z.heap[a]? = some (.function g))
      (Grows w) := by
  rw [defined, evalItems, pure_bind]
  refine Ends.bind (ends_of_after (evalDefaults_plain defaults h w) (fun _ _ h => h) fun _ h => h) fun vs v more => ?_
  exact ⟨Lasting.trans more (Grows.push v _), v.heap.size, _, rfl, more.room, Array.getElem?_push_size⟩

/-! ## Texts -/

namespace Guard

variable {G : Guard κ}

/-- A value is no object of the heap, or a function other than the factory. -/
def OwnValue (G : Guard κ) (w : World κ) (v : Value) : Prop :=
  (∀ a, v ≠ .ref a) ∨ ∃ (a : Nat) (g : Function), v = .ref a ∧ a ≠ G.place ∧ w.heap[a]? = some (.function g)

/-- A dictionary holds such values only. -/
def OwnNames (G : Guard κ) (d : Address) (w : World κ) : Prop :=
  ∃ es, w.heap[d]? = some (.dict es) ∧ ∀ e ∈ es, G.OwnValue w e.2

theorem OwnValue.grows {v : Value} (h : G.OwnValue w v) (more : Grows w z) : G.OwnValue z v := by
  rcases h with none | ⟨a, g, rfl, other, found⟩
  · exact .inl none
  · exact .inr ⟨a, g, rfl, other, more.heap a _ found⟩

theorem OwnNames.grows {d : Address} (h : G.OwnNames d w) (more : Grows w z) : G.OwnNames d z := by
  obtain ⟨es, found, own⟩ := h
  exact ⟨es, more.heap d _ found, fun e he => (own e he).grows more⟩

/-- The dictionary with one more name. -/
theorem OwnNames.stored {d : Address} {name : String} {v : Value} (h : G.OwnNames d w) (own : G.OwnValue w v) :
    G.OwnNames d (w.filledAt d (.entries (Value.insert (w.entriesAt d) (.str name) v))) := by
  obtain ⟨es, found, owns⟩ := h
  have there : w.entriesAt d = es := by rw [World.entriesAt, found]
  rw [there]
  have kept {u : Value} (own : G.OwnValue w u) :
      G.OwnValue (w.filledAt d (.entries (Value.insert es (.str name) v))) u := by
    rcases own with none | ⟨a, g, rfl, other, function⟩
    · exact .inl none
    · refine .inr ⟨a, g, rfl, other, ?_⟩
      rw [World.filledAt_other]
      · exact function
      · rintro rfl
        rw [found] at function
        cases function
  refine ⟨_, by rw [World.filledAt_here, found]; rfl, fun e he => ?_⟩
  rcases Value.mem_insert he with old | same
  · exact kept (owns e old)
  · rw [same]
    exact kept own

theorem OwnNames.isFunction {d : Address} {v : Value} (h : G.OwnNames d w)
    (first : ((w.entriesAt d).map (·.2)).find? w.heap.isFunction = some v) :
    ∃ a o, v = .ref a ∧ a ≠ G.place ∧ w.heap[a]? = some o ∧ ∀ cls attrs core, o ≠ .instance cls attrs core := by
  obtain ⟨es, found, own⟩ := h
  rw [World.entriesAt, found] at first
  obtain ⟨e, he, rfl⟩ := List.mem_map.mp (List.mem_of_find?_eq_some first)
  rcases own e he with none | ⟨a, g, same, other, function⟩
  · have no : w.heap.isFunction e.2 = false := by
      rw [Heap.isFunction, Heap.at?]
      cases value : e.2 with
      | ref a => exact absurd value (none a)
      | _ => rfl
    rw [List.find?_some first] at no
    cases no
  · exact ⟨a, _, same, other, function, fun _ _ _ same => by cases same⟩

section

variable {f : Frame} {d : Address} (top : G.Outermost [] f) (locals : f.locals = some d)
include top locals

theorem store_own (name : String) {v : Value} (h : G.OwnNames d w) (own : G.OwnValue w v) :
    (store f name v : Calling G.call Unit).run.Ends w (fun _ z => G.OwnNames d z) fun _ => True := by
  have undeclared : f.declared.contains name = false := by rw [top.declared]; rfl
  rw [Ends]
  simp only [store, undeclared, locals, Bool.false_eq_true, if_false]
  rw [storeIn, Within.run_bind, bind_of_ok (entries_run d w)]
  exact h.stored own

/-- Names may be given to a value one after the other. -/
theorem assign_own {v : Value} (none : ∀ a, v ≠ .ref a) : (targets : List Expr) → targets.all Expr.isName = true →
    ∀ w, G.OwnNames d w →
      (targets.forM fun t => assign G.call f t v : Calling G.call Unit).run.Ends w (fun _ z => G.OwnNames d z)
        fun _ => True
  | [], _ => fun w h => h
  | t :: r, h => fun w own => by
      rw [List.all_cons, Bool.and_eq_true] at h
      cases t with
      | name id =>
          refine Ends.bind (store_own top locals id own (.inl none)) fun _ z own' => ?_
          exact assign_own none r h.2 z own'
      | _ => cases h.1

theorem exec_own {s : Stmt} (plain : s.isPlain = true) (admitted : G.admits w) (own : G.OwnNames d w) :
    (exec G.call f s : Calling G.call Flow).run.Ends w (fun _ z => G.OwnNames d z) fun _ => True := by
  have kept {α : Type} {m : Run κ α} (h : Grows w (m.after w)) :
      m.Ends w (fun _ z => G.OwnNames d z) fun _ => True :=
    ends_of_after h (fun _ _ more => own.grows more) fun _ _ => trivial
  cases s with
  | define name shown ps defaults decorators body row =>
      rw [Stmt.isPlain, Bool.and_eq_true, List.isEmpty_iff] at plain
      obtain ⟨rfl, plain⟩ := plain
      rw [exec_define]
      refine Ends.bind ((defined_plain plain w).mono (fun _ _ made => made) fun _ _ => trivial) ?_
      rintro v z ⟨more, a, g, same, new, found⟩
      have old : G.place < w.heap.size := (Array.getElem?_eq_some_iff.mp (G.factory_kept admitted)).1
      have made : G.OwnValue z v := .inr ⟨a, g, same, Nat.ne_of_gt (Nat.lt_of_lt_of_le old new), found⟩
      exact Ends.bind (store_own top locals name (own.grows more) made) fun _ x own' => own'
  | assign targets e =>
      rw [Stmt.isPlain, Bool.and_eq_true] at plain
      obtain ⟨v, same, none⟩ : ∃ v, (eval G.call f e : Calling G.call Value) = pure v ∧ ∀ a, v ≠ .ref a :=
        eval_constant plain.2
      rw [exec, same, pure_bind]
      exact Ends.bind (assign_own top locals none targets plain.1 w own) fun _ z own' => own'
  | expr e =>
      rw [exec]
      exact kept (bind_within (eval_plain plain) (fun _ w => Lasting.refl w) w)
  | pass =>
      rw [exec]
      exact own
  | _ => cases plain

end

/-! ## Texts that spare the factory -/

theorem tame_plain {s : Stmt} (plain : s.isPlain = true) : G.Tame [] s := by
  cases s with
  | define name shown ps defaults decorators body row =>
      rw [Stmt.isPlain, Bool.and_eq_true, List.isEmpty_iff] at plain
      obtain ⟨rfl, plain⟩ := plain
      rw [Tame]
      refine ⟨List.not_mem_nil, fun f _ w admitted => ?_⟩
      exact grows admitted ((defined_plain plain w).left fun _ _ made => made.1)
  | assign targets e =>
      rw [Stmt.isPlain, Bool.and_eq_true, List.all_eq_true] at plain
      rw [Tame]
      refine ⟨fun f _ => keeps_grows (eval_plain (by rw [plain.2, Bool.true_or])), fun v _ t ht => ?_⟩
      have name := plain.1 t ht
      cases t with
      | name id => exact .inl ⟨id, rfl, List.not_mem_nil⟩
      | _ => cases name
  | expr e =>
      rw [Tame]
      exact fun f _ => keeps_grows (eval_plain plain)
  | pass =>
      rw [Tame]
      trivial
  | _ => cases plain

theorem tameAll_plain : (body : List Stmt) → body.all Stmt.isPlain = true → G.TameAll [] body
  | [], _ => by
      rw [TameAll]
      trivial
  | s :: r, h => by
      rw [List.all_cons, Bool.and_eq_true] at h
      rw [TameAll]
      exact ⟨tame_plain h.1, tameAll_plain r h.2⟩

theorem execAll_own {f : Frame} {d : Address} (top : G.Outermost [] f) (locals : f.locals = some d) :
    (body : List Stmt) → body.all Stmt.isPlain = true → ∀ w, G.admits w → G.OwnNames d w →
      (execAll G.call f body : Calling G.call Flow).run.Ends w (fun _ z => G.OwnNames d z) fun _ => True
  | [], _ => fun w _ own => by
      rw [execAll]
      exact own
  | s :: r, h => fun w admitted own => by
      rw [List.all_cons, Bool.and_eq_true] at h
      rw [execAll]
      refine Ends.bind (exec_own top locals h.1 admitted own).ran fun flow z ⟨own', ran⟩ => ?_
      have admitted' : G.admits z := after_ok ran ▸ Tame.keeps top s (tame_plain h.1) w admitted
      cases flow with
      | next => exact execAll_own top locals r h.2 z admitted' own'
      | _ => exact own'

/-- A text with plain statements only spares the factory. -/
theorem tameText_plain {text : String} (plain : ((compile? text.toList).all fun body => body.all Stmt.isPlain) = true) :
    G.TameText text := by
  intro body compiled
  rw [compiled, Option.all_some] at plain
  rw [PicksOther, stmtsNames_plain body plain]
  refine ⟨tameAll_plain body plain, fun f d w flow z v top locals admitted empty ran first => ?_⟩
  have own : G.OwnNames d w := ⟨[], empty, nofun⟩
  have left := execAll_own top locals body plain w admitted own
  rw [Ends, ran] at left
  exact left.isFunction first

end Guard

end Patchwork
