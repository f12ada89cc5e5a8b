import Patchwork.Proofs.Unplaced
import Patchwork.Script.Parser

/-!
What is read from words does not depend on their rows: these only go into the functions and classes that are read.
-/

namespace Patchwork.Script

open Reader

/-- A word without rows. -/
def Word.bare (w : Word) : Word :=
  { w with literal := w.literal.unplaced, row := 0 }

def Reading.bare (s : Reading) : Reading :=
  { s with words := s.words.map Word.bare }

variable {α β : Type} {f : α → α} {g : β → β} {r r' q q' : Reader α}

/-- Two readers that read the same but for rows, the second one from words without them. -/
def Reads (f : α → α) (r r' : Reader α) : Prop :=
  ∀ s : Reading, r' s.bare = (r s).map fun x => (f x.1, x.2.bare)

namespace Reads

theorem pure {a a' : α} (same : f a = a') : Reads f (pure a) (pure a') :=
  fun _ => same ▸ rfl

theorem refuse : Reads f refuse refuse :=
  fun _ => rfl

theorem bind {k k' : α → Reader β} (h : Reads f r r') (rest : ∀ a, Reads g (k a) (k' (f a))) :
    Reads g (r >>= k) (r' >>= k') := by
  intro s
  change (r' s.bare).bind (fun x => k' x.1 x.2) = ((r s).bind fun x => k x.1 x.2).map _
  rw [h s]
  cases r s with
  | none => rfl
  | some x => exact rest x.1 x.2

theorem refused {k k' : α → Reader β} : Reads g (Reader.refuse >>= k) (Reader.refuse >>= k') :=
  fun _ => rfl

theorem ite {c : Prop} [Decidable c] (yes : Reads f r r') (no : Reads f q q') :
    Reads f (if c then r else q) (if c then r' else q') := by
  split
  · exact yes
  · exact no

end Reads

/-! ## Words -/

theorem reads_peek : Reads Word.bare peek peek := by
  rintro ⟨words, owner⟩
  cases words <;> rfl

theorem reads_peekSecond : Reads Word.bare peekSecond peekSecond := by
  rintro ⟨words, owner⟩
  rcases words with _ | ⟨a, _ | ⟨b, words⟩⟩ <;> rfl

theorem reads_advance : Reads id advance advance := by
  rintro ⟨words, owner⟩
  cases words <;> rfl

theorem reads_at? (text : String) : Reads id (at? text) (at? text) :=
  reads_peek.bind fun _ => .pure rfl

theorem reads_accept (text : String) : Reads id (accept text) (accept text) :=
  (reads_at? text).bind fun _ => .ite (reads_advance.bind fun _ => .pure rfl) (.pure rfl)

theorem reads_expect (text : String) : Reads id (expect text) (expect text) :=
  (reads_accept text).bind fun _ => .ite .refuse (.pure rfl)

theorem reads_ofKind (kind : WordKind) : Reads Word.bare (ofKind kind) (ofKind kind) :=
  reads_peek.bind fun _ => .ite (reads_advance.bind fun _ => .pure rfl) .refuse

theorem reads_shownName : Reads id shownName shownName :=
  (reads_ofKind .name).bind fun _ => .pure rfl

theorem reads_owned (name : String) : Reads id (owned name) (owned name) :=
  fun _ => rfl

theorem reads_name : Reads id name name :=
  reads_shownName.bind fun n => reads_owned n

theorem reads_nameBefore? (sign : String) : Reads id (nameBefore? sign) (nameBefore? sign) :=
  reads_peek.bind fun _ => .ite (reads_peekSecond.bind fun _ => .pure rfl) (.pure rfl)

theorem reads_get : Reads Reading.bare get get :=
  fun _ => rfl

theorem reads_modify {k k' : Reading → Reading} (h : ∀ s, k' s.bare = (k s).bare) : Reads id (modify k) (modify k') :=
  fun s => congrArg (fun t => some ((), t)) (h s)

theorem reads_inClass (owner : String) (h : Reads f r r') : Reads f (inClass owner r) (inClass owner r') :=
  reads_get.bind fun s => by
    refine .bind (f := id) (reads_modify fun _ => rfl) fun _ => h.bind fun _ => ?_
    exact .bind (f := id) (reads_modify fun _ => rfl) fun _ => .pure rfl

/-! ## Expressions -/

theorem reads_comparison? : Reads id comparison? comparison? := by
  refine reads_peek.bind fun w => ?_
  refine .ite ?_ ?_
  · dsimp only
    exact .ite (reads_advance.bind fun _ => .pure rfl) (.pure rfl)
  · refine (reads_accept _).bind fun _ => .ite (.pure rfl) ((reads_at? _).bind fun _ => .ite ?_ ?_)
    · exact reads_advance.bind fun _ => (reads_expect _).bind fun _ => .pure rfl
    · exact (reads_accept _).bind fun _ => .ite ((reads_accept _).bind fun _ => .ite (.pure rfl) (.pure rfl)) (.pure rfl)

theorem isText_unplaced (e : Expr) : isText e.unplaced = isText e := by
  cases e <;> rfl

theorem joinText?_unplaced (a b : Expr) : joinText? a.unplaced b.unplaced = (joinText? a b).map Expr.unplaced := by
  cases a <;> cases b <;> rfl

theorem reads_joinedText (fuel : Nat) (first : Expr) :
    Reads Expr.unplaced (joinedText fuel first) (joinedText fuel first.unplaced) := by
  induction fuel generalizing first with
  | zero => exact .refuse
  | succ fuel ih =>
      refine reads_peek.bind fun w => ?_
      have text : isText w.bare.literal = isText w.literal := isText_unplaced w.literal
      have joined : joinText? first.unplaced w.bare.literal = (joinText? first w.literal).map Expr.unplaced :=
        joinText?_unplaced first w.literal
      rw [text, joined]
      refine .ite (reads_advance.bind fun _ => ?_) (.pure rfl)
      cases joinText? first w.literal with
      | none => exact .refuse
      | some e => exact ih e

theorem reads_endsList : Reads id endsList endsList :=
  reads_peek.bind fun _ => .ite (.pure rfl) (.pure rfl)

/-- Parameters whose defaults are without rows. -/
def ParamList.unplaced (ps : ParamList) : ParamList :=
  { ps with defaults := defaultsUnplaced ps.defaults }

/-- What is read with some fuel as part of an expression does not depend on rows. -/
structure ReadsExprs (fuel : Nat) : Prop where
  bindingExpr : Reads Expr.unplaced (bindingExpr fuel) (bindingExpr fuel)
  expression : Reads Expr.unplaced (expression fuel) (expression fuel)
  lambdaExpr : Reads Expr.unplaced (lambdaExpr fuel) (lambdaExpr fuel)
  disjunction : Reads Expr.unplaced (disjunction fuel) (disjunction fuel)
  conjunction : Reads Expr.unplaced (conjunction fuel) (conjunction fuel)
  inversion : Reads Expr.unplaced (inversion fuel) (inversion fuel)
  comparisons : Reads comparedUnplaced (comparisons fuel) (comparisons fuel)
  operand (level : Nat) : Reads Expr.unplaced (operand fuel level) (operand fuel level)
  operandTail (level : Nat) (a : Expr) : Reads Expr.unplaced (operandTail fuel level a) (operandTail fuel level a.unplaced)
  factor : Reads Expr.unplaced (factor fuel) (factor fuel)
  trailers (e : Expr) : Reads Expr.unplaced (trailers fuel e) (trailers fuel e.unplaced)
  arguments : Reads argsUnplaced (arguments fuel) (arguments fuel)
  argument : Reads (fun a => (a.1, a.2.unplaced)) (argument fuel) (argument fuel)
  subscript : Reads Expr.unplaced (subscript fuel) (subscript fuel)
  subscriptItems : Reads exprsUnplaced (subscriptItems fuel) (subscriptItems fuel)
  subscriptItem : Reads Expr.unplaced (subscriptItem fuel) (subscriptItem fuel)
  item : Reads Expr.unplaced (item fuel) (item fuel)
  itemsUpTo (close : String) : Reads exprsUnplaced (itemsUpTo fuel close) (itemsUpTo fuel close)
  clauses : Reads clausesUnplaced (clauses fuel) (clauses fuel)
  conditions : Reads exprsUnplaced (conditions fuel) (conditions fuel)
  targetList : Reads Expr.unplaced (targetList fuel) (targetList fuel)
  moreTargets : Reads exprsUnplaced (moreTargets fuel) (moreTargets fuel)
  target : Reads Expr.unplaced (target fuel) (target fuel)
  atom : Reads Expr.unplaced (atom fuel) (atom fuel)
  parenthesized : Reads Expr.unplaced (parenthesized fuel) (parenthesized fuel)
  listDisplay : Reads Expr.unplaced (listDisplay fuel) (listDisplay fuel)
  braceDisplay : Reads Expr.unplaced (braceDisplay fuel) (braceDisplay fuel)
  dictEntries : Reads entriesUnplaced (dictEntries fuel) (dictEntries fuel)
  parameters (annotated : Bool) (close : String) (ps : ParamList) :
    Reads ParamList.unplaced (parameters fuel annotated close ps) (parameters fuel annotated close ps.unplaced)
  parameterName (annotated : Bool) : Reads id (parameterName fuel annotated) (parameterName fuel annotated)

theorem isStarred_unplaced (e : Expr) : isStarred e.unplaced = isStarred e := by
  cases e <;> rfl

theorem isTarget_unplaced (e : Expr) : isTarget e.unplaced = isTarget e := by
  cases e <;> rfl

mutual

theorem isPattern_unplaced : (e : Expr) → isPattern e.unplaced = isPattern e
  | .starred e => by simp only [Expr.unplaced, isPattern, isPattern_unplaced e]
  | .tuple items | .list items => by simp only [Expr.unplaced, isPattern, arePatterns_unplaced items]
  | .none | .ellipsis | .bool _ | .int _ | .float _ | .imaginary _ | .str _ | .bytes _ | .name _ | .set _ | .dict _
  | .call .. | .attr .. | .index .. | .slice .. | .unary .. | .binary .. | .both .. | .either .. | .compare .. | .choose ..
  | .lambda .. | .bind .. | .build .. => by simp only [Expr.unplaced, isPattern]

theorem arePatterns_unplaced : (es : List Expr) → arePatterns (exprsUnplaced es) = arePatterns es
  | [] => rfl
  | e :: r => by simp only [exprsUnplaced, arePatterns, isPattern_unplaced e, arePatterns_unplaced r]

end

mutual

theorem isDeletable_unplaced : (e : Expr) → isDeletable e.unplaced = isDeletable e
  | .tuple items | .list items => by simp only [Expr.unplaced, isDeletable, areDeletable_unplaced items]
  | .starred _ | .none | .ellipsis | .bool _ | .int _ | .float _ | .imaginary _ | .str _ | .bytes _ | .name _ | .set _ | .dict _
  | .call .. | .attr .. | .index .. | .slice .. | .unary .. | .binary .. | .both .. | .either .. | .compare .. | .choose ..
  | .lambda .. | .bind .. | .build .. => by simp only [Expr.unplaced, isDeletable]

theorem areDeletable_unplaced : (es : List Expr) → areDeletable (exprsUnplaced es) = areDeletable es
  | [] => rfl
  | e :: r => by simp only [exprsUnplaced, areDeletable, isDeletable_unplaced e, areDeletable_unplaced r]

end

theorem starred_unplaced (es : List Expr) :
    ((exprsUnplaced es).filter isStarred).length = (es.filter isStarred).length := by
  induction es with
  | nil => rfl
  | cons e r ih =>
      rw [exprsUnplaced, List.filter_cons, List.filter_cons, isStarred_unplaced]
      split <;> simp [ih]

theorem isAssignable_unplaced (e : Expr) : isAssignable e.unplaced = isAssignable e := by
  rw [isAssignable.eq_def, isAssignable.eq_def, isPattern_unplaced, isStarred_unplaced]
  cases e with
  | tuple items | list items => simp only [Expr.unplaced, starred_unplaced]
  | _ => rfl

theorem comparedUnplaced_isEmpty (es : List (Comparison × Expr)) : (comparedUnplaced es).isEmpty = es.isEmpty := by
  cases es <;> rfl

theorem clausesUnplaced_isEmpty (cs : List (Expr × Expr × List Expr)) : (clausesUnplaced cs).isEmpty = cs.isEmpty := by
  cases cs <;> rfl

theorem defaultsUnplaced_append (a b : List (String × Expr)) :
    defaultsUnplaced (a ++ b) = defaultsUnplaced a ++ defaultsUnplaced b := by
  induction a with
  | nil => rfl
  | cons d r ih => rw [List.cons_append, defaultsUnplaced, ih]; rfl

theorem withDefault_unplaced (defaults : List (String × Expr)) (n : String) (value : Option Expr) :
    defaultsUnplaced (defaults ++ (value.map (n, ·)).toList) =
      defaultsUnplaced defaults ++ ((optUnplaced value).map (n, ·)).toList := by
  rw [defaultsUnplaced_append]
  cases value <;> rfl

namespace ParamList

variable (ps : ParamList) (n : String) (value : Option Expr)

/-- With one more parameter that must be named. -/
def named : ParamList :=
  { ps with
    params := { ps.params with namedOnly := ps.params.namedOnly ++ [n] }
    defaults := ps.defaults ++ (value.map (n, ·)).toList }

/-- With one more parameter that has a place. -/
def placed : ParamList :=
  { ps with
    params := { ps.params with plain := ps.params.plain ++ [n] }
    defaults := ps.defaults ++ (value.map (n, ·)).toList }

end ParamList

/-- The parameters behind one that is read. -/
def behindParameter (fuel : Nat) (annotated : Bool) (close : String) (ps : ParamList) : Reader ParamList := do
  if ← accept "," then parameters fuel annotated close ps
  else if ← closes close then parameters fuel annotated close ps
  else Reader.refuse

/-- One more parameter, and those behind it. -/
def withParameter (fuel : Nat) (annotated : Bool) (close : String) (ps : ParamList) (n : String) (value : Option Expr) :
    Reader ParamList :=
  if ps.star then behindParameter fuel annotated close (ps.named n value)
  else if value.isNone && !ps.defaults.isEmpty then Reader.refuse
  else behindParameter fuel annotated close (ps.placed n value)

section

variable {fuel : Nat} (ih : ReadsExprs fuel)

include ih

theorem reads_bindingExpr : Reads Expr.unplaced (bindingExpr (fuel + 1)) (bindingExpr (fuel + 1)) := by
  rw [bindingExpr]
  refine (reads_nameBefore? _).bind fun _ => .ite ?_ ih.expression
  exact reads_name.bind fun _ => reads_advance.bind fun _ => ih.expression.bind fun _ => .pure rfl

theorem reads_expression : Reads Expr.unplaced (expression (fuel + 1)) (expression (fuel + 1)) := by
  rw [expression]
  refine (reads_at? _).bind fun _ => .ite ih.lambdaExpr (ih.disjunction.bind fun _ => ?_)
  refine (reads_accept _).bind fun _ => .ite (ih.disjunction.bind fun _ => ?_) (.pure rfl)
  exact (reads_expect _).bind fun _ => ih.expression.bind fun _ => .pure rfl

theorem reads_lambdaExpr : Reads Expr.unplaced (lambdaExpr (fuel + 1)) (lambdaExpr (fuel + 1)) := by
  rw [lambdaExpr]
  refine reads_peek.bind fun _ => reads_advance.bind fun _ => (ih.parameters _ _ _).bind fun _ => ?_
  exact (reads_expect _).bind fun _ => ih.expression.bind fun _ => .pure rfl

theorem reads_disjunction : Reads Expr.unplaced (disjunction (fuel + 1)) (disjunction (fuel + 1)) := by
  rw [disjunction]
  refine ih.conjunction.bind fun _ => (reads_accept _).bind fun _ => .ite ?_ (.pure rfl)
  exact ih.disjunction.bind fun _ => .pure rfl

theorem reads_conjunction : Reads Expr.unplaced (conjunction (fuel + 1)) (conjunction (fuel + 1)) := by
  rw [conjunction]
  refine ih.inversion.bind fun _ => (reads_accept _).bind fun _ => .ite ?_ (.pure rfl)
  exact ih.conjunction.bind fun _ => .pure rfl

theorem reads_inversion : Reads Expr.unplaced (inversion (fuel + 1)) (inversion (fuel + 1)) := by
  rw [inversion]
  refine (reads_accept _).bind fun _ => .ite (ih.inversion.bind fun _ => .pure rfl) ?_
  refine (ih.operand 0).bind fun a => ih.comparisons.bind fun rest => .pure ?_
  rw [comparedUnplaced_isEmpty]
  split <;> rfl

theorem reads_comparisons : Reads comparedUnplaced (comparisons (fuel + 1)) (comparisons (fuel + 1)) := by
  rw [comparisons]
  refine reads_comparison?.bind fun op => ?_
  cases op with
  | none => exact .pure rfl
  | some op => exact (ih.operand 0).bind fun _ => ih.comparisons.bind fun _ => .pure rfl

theorem reads_operand (level : Nat) : Reads Expr.unplaced (operand (fuel + 1) level) (operand (fuel + 1) level) := by
  rw [operand]
  exact .ite ih.factor ((ih.operand _).bind fun a => ih.operandTail level a)

theorem reads_operandTail (level : Nat) (a : Expr) :
    Reads Expr.unplaced (operandTail (fuel + 1) level a) (operandTail (fuel + 1) level a.unplaced) := by
  rw [operandTail, operandTail]
  refine reads_peek.bind fun w => ?_
  dsimp only [Word.bare]
  cases (if w.kind = .sign then (binaryLevel level).find? (·.1 == w.text) else none) with
  | none => exact .pure rfl
  | some op => exact reads_advance.bind fun _ => (ih.operand _).bind fun b => ih.operandTail level (.binary op.2 a b)

theorem reads_factor : Reads Expr.unplaced (factor (fuel + 1)) (factor (fuel + 1)) := by
  rw [factor]
  have signed (op : UnaryOp) :
      Reads Expr.unplaced (do pure (.unary op (← factor fuel))) (do pure (.unary op (← factor fuel))) :=
    ih.factor.bind fun _ => .pure rfl
  refine (reads_accept _).bind fun _ => .ite (signed _) ((reads_accept _).bind fun _ => .ite (signed _) ?_)
  refine (reads_accept _).bind fun _ => .ite (signed _) (ih.atom.bind fun base => (ih.trailers base).bind fun _ => ?_)
  exact (reads_accept _).bind fun _ => .ite (ih.factor.bind fun _ => .pure rfl) (.pure rfl)

theorem reads_trailers (e : Expr) : Reads Expr.unplaced (trailers (fuel + 1) e) (trailers (fuel + 1) e.unplaced) := by
  rw [trailers, trailers]
  refine (reads_accept _).bind fun _ => .ite (reads_name.bind fun n => ih.trailers (.attr e n)) ?_
  refine (reads_accept _).bind fun _ => .ite ?_ ((reads_accept _).bind fun _ => .ite ?_ (.pure rfl))
  · exact ih.arguments.bind fun args => (reads_expect _).bind fun _ => ih.trailers (.call e args)
  · exact ih.subscript.bind fun key => (reads_expect _).bind fun _ => ih.trailers (.index e key)

theorem reads_arguments : Reads argsUnplaced (arguments (fuel + 1)) (arguments (fuel + 1)) := by
  rw [arguments]
  refine (reads_at? _).bind fun _ => .ite (.pure rfl) (ih.argument.bind fun arg => ?_)
  refine (reads_accept _).bind fun _ => .ite (ih.arguments.bind fun _ => .pure rfl) ?_
  refine (reads_at? _).bind fun _ => .ite (.pure rfl) (.ite (ih.clauses.bind fun clauses => ?_) .refuse)
  rw [clausesUnplaced_isEmpty]
  exact .ite .refused ((reads_at? _).bind fun _ => .ite (.pure rfl) .refuse)

theorem reads_argument : Reads (fun a => (a.1, a.2.unplaced)) (argument (fuel + 1)) (argument (fuel + 1)) := by
  rw [argument]
  refine (reads_accept _).bind fun _ => .ite (ih.expression.bind fun _ => .pure rfl) ?_
  refine (reads_accept _).bind fun _ => .ite (ih.expression.bind fun _ => .pure rfl) ?_
  refine (reads_nameBefore? _).bind fun _ => .ite ?_ (ih.bindingExpr.bind fun _ => .pure rfl)
  exact reads_shownName.bind fun _ => reads_advance.bind fun _ => ih.expression.bind fun _ => .pure rfl

theorem reads_subscript : Reads Expr.unplaced (subscript (fuel + 1)) (subscript (fuel + 1)) := by
  rw [subscript]
  refine ih.subscriptItem.bind fun first => (reads_at? _).bind fun _ => ?_
  rw [isStarred_unplaced]
  exact .ite (ih.subscriptItems.bind fun _ => .pure rfl) (.ite (.pure rfl) (.pure rfl))

theorem reads_subscriptItems : Reads exprsUnplaced (subscriptItems (fuel + 1)) (subscriptItems (fuel + 1)) := by
  rw [subscriptItems]
  refine (reads_accept _).bind fun _ => .ite ?_ (.pure rfl)
  refine (reads_at? _).bind fun _ => .ite (.pure rfl) ?_
  exact ih.subscriptItem.bind fun _ => ih.subscriptItems.bind fun _ => .pure rfl

theorem reads_item : Reads Expr.unplaced (item (fuel + 1)) (item (fuel + 1)) := by
  rw [item]
  exact (reads_accept _).bind fun _ => .ite ((ih.operand 0).bind fun _ => .pure rfl) ih.bindingExpr

theorem reads_itemsUpTo (close : String) :
    Reads exprsUnplaced (itemsUpTo (fuel + 1) close) (itemsUpTo (fuel + 1) close) := by
  rw [itemsUpTo]
  refine (reads_at? _).bind fun _ => .ite (.pure rfl) (ih.item.bind fun _ => ?_)
  refine (reads_accept _).bind fun _ => .ite ((ih.itemsUpTo close).bind fun _ => .pure rfl) ?_
  exact (reads_at? _).bind fun _ => .ite (.pure rfl) .refuse

theorem reads_clauses : Reads clausesUnplaced (clauses (fuel + 1)) (clauses (fuel + 1)) := by
  rw [clauses]
  refine (reads_accept _).bind fun _ => .ite (ih.targetList.bind fun target => ?_) (.pure rfl)
  rw [isAssignable_unplaced]
  refine .ite .refused ((reads_expect _).bind fun _ => ih.disjunction.bind fun _ => ?_)
  exact ih.conditions.bind fun _ => ih.clauses.bind fun _ => .pure rfl

theorem reads_conditions : Reads exprsUnplaced (conditions (fuel + 1)) (conditions (fuel + 1)) := by
  rw [conditions]
  refine (reads_accept _).bind fun _ => .ite ?_ (.pure rfl)
  exact ih.disjunction.bind fun _ => ih.conditions.bind fun _ => .pure rfl

theorem reads_targetList : Reads Expr.unplaced (targetList (fuel + 1)) (targetList (fuel + 1)) := by
  rw [targetList]
  refine ih.target.bind fun _ => (reads_at? _).bind fun _ => .ite ?_ (.pure rfl)
  exact ih.moreTargets.bind fun _ => .pure rfl

theorem reads_moreTargets : Reads exprsUnplaced (moreTargets (fuel + 1)) (moreTargets (fuel + 1)) := by
  rw [moreTargets]
  refine (reads_accept _).bind fun _ => .ite ?_ (.pure rfl)
  refine (reads_at? _).bind fun _ => .ite (.pure rfl) ?_
  exact ih.target.bind fun _ => ih.moreTargets.bind fun _ => .pure rfl

theorem reads_target : Reads Expr.unplaced (target (fuel + 1)) (target (fuel + 1)) := by
  rw [target]
  exact (reads_accept _).bind fun _ => .ite ((ih.operand 0).bind fun _ => .pure rfl) (ih.operand 0)

theorem reads_parenthesized : Reads Expr.unplaced (parenthesized (fuel + 1)) (parenthesized (fuel + 1)) := by
  rw [parenthesized]
  refine (reads_accept _).bind fun _ => .ite (.pure rfl) (ih.item.bind fun first => ?_)
  rw [isStarred_unplaced]
  refine (reads_accept _).bind fun _ => .ite ?_ ((reads_accept _).bind fun _ => .ite (.ite .refused (.pure rfl)) ?_)
  · exact (ih.itemsUpTo _).bind fun _ => (reads_expect _).bind fun _ => .pure rfl
  · refine ih.clauses.bind fun clauses => (reads_expect _).bind fun _ => ?_
    rw [clausesUnplaced_isEmpty]
    exact .ite .refused (.pure rfl)

theorem reads_listDisplay : Reads Expr.unplaced (listDisplay (fuel + 1)) (listDisplay (fuel + 1)) := by
  rw [listDisplay]
  refine (reads_accept _).bind fun _ => .ite (.pure rfl) (ih.item.bind fun first => ?_)
  rw [isStarred_unplaced]
  refine (reads_accept _).bind fun _ => .ite ?_ ((reads_accept _).bind fun _ => .ite (.pure rfl) ?_)
  · exact (ih.itemsUpTo _).bind fun _ => (reads_expect _).bind fun _ => .pure rfl
  · refine ih.clauses.bind fun clauses => (reads_expect _).bind fun _ => ?_
    rw [clausesUnplaced_isEmpty]
    exact .ite .refused (.pure rfl)

theorem reads_dictEntries : Reads entriesUnplaced (dictEntries (fuel + 1)) (dictEntries (fuel + 1)) := by
  rw [dictEntries]
  refine (reads_at? _).bind fun _ => .ite (.pure rfl) ((reads_accept _).bind fun _ => ?_)
  have rest (entry : Option Expr × Expr) : Reads entriesUnplaced
      (do
        if ← accept "," then pure (entry :: (← dictEntries fuel))
        else if ← closes "\x7d" then pure [entry]
        else Reader.refuse)
      (do
        if ← accept "," then pure ((optUnplaced entry.1, entry.2.unplaced) :: (← dictEntries fuel))
        else if ← closes "\x7d" then pure [(optUnplaced entry.1, entry.2.unplaced)]
        else Reader.refuse) := by
    refine (reads_accept _).bind fun _ => .ite (ih.dictEntries.bind fun _ => .pure rfl) ?_
    exact (reads_at? _).bind fun _ => .ite (.pure rfl) .refuse
  refine .ite ((ih.operand 0).bind fun e => rest (none, e)) ?_
  exact ih.expression.bind fun key => (reads_expect _).bind fun _ => ih.expression.bind fun e => rest (some key, e)

/-- The rest of a slice behind what it starts and stops at. -/
theorem reads_step (start stop : Option Expr) : Reads Expr.unplaced
    (do
      if ← accept ":" then
        let step ← if (← at? "]") || (← at? ",") then pure none else pure (some (← expression fuel))
        pure (.slice start stop step)
      else pure (.slice start stop none))
    (do
      if ← accept ":" then
        let step ← if (← at? "]") || (← at? ",") then pure none else pure (some (← expression fuel))
        pure (.slice (optUnplaced start) (optUnplaced stop) step)
      else pure (.slice (optUnplaced start) (optUnplaced stop) none)) := by
  refine (reads_accept _).bind fun _ => .ite ((reads_at? _).bind fun _ => (reads_at? _).bind fun _ => ?_) (.pure rfl)
  exact .ite (.pure rfl) (ih.expression.bind fun _ => .pure rfl)

theorem reads_subscriptItem : Reads Expr.unplaced (subscriptItem (fuel + 1)) (subscriptItem (fuel + 1)) := by
  rw [subscriptItem]
  refine (reads_accept _).bind fun _ => .ite ((ih.operand 0).bind fun _ => .pure rfl) ((reads_at? _).bind fun _ => ?_)
  have rest (start : Option Expr) {alone alone' : Reader Expr} (single : Reads Expr.unplaced alone alone') :
      Reads Expr.unplaced
      (do
        if ← accept ":" then
          let stop ← if (← at? ":") || (← at? "]") || (← at? ",") then pure none else pure (some (← expression fuel))
          if ← accept ":" then
            let step ← if (← at? "]") || (← at? ",") then pure none else pure (some (← expression fuel))
            pure (.slice start stop step)
          else pure (.slice start stop none)
        else alone)
      (do
        if ← accept ":" then
          let stop ← if (← at? ":") || (← at? "]") || (← at? ",") then pure none else pure (some (← expression fuel))
          if ← accept ":" then
            let step ← if (← at? "]") || (← at? ",") then pure none else pure (some (← expression fuel))
            pure (.slice (optUnplaced start) stop step)
          else pure (.slice (optUnplaced start) stop none)
        else alone') := by
    refine (reads_accept _).bind fun _ => .ite ?_ single
    refine (reads_at? _).bind fun _ => (reads_at? _).bind fun _ => (reads_at? _).bind fun _ => ?_
    exact .ite (reads_step ih start none) (ih.expression.bind fun e => reads_step ih start (some e))
  exact .ite (rest none .refuse) (ih.bindingExpr.bind fun e => rest (some e) (.pure rfl))

theorem reads_braceDisplay : Reads Expr.unplaced (braceDisplay (fuel + 1)) (braceDisplay (fuel + 1)) := by
  rw [braceDisplay]
  refine (reads_accept _).bind fun _ => .ite (.pure rfl) ((reads_at? _).bind fun _ => .ite ?_ (ih.item.bind fun first => ?_))
  · exact ih.dictEntries.bind fun _ => (reads_expect _).bind fun _ => .pure rfl
  rw [isStarred_unplaced]
  refine (reads_accept _).bind fun _ => .ite (.ite .refused (ih.expression.bind fun value => ?_)) ?_
  · refine (reads_accept _).bind fun _ => .ite ?_ ((reads_accept _).bind fun _ => .ite (.pure rfl) ?_)
    · exact ih.dictEntries.bind fun _ => (reads_expect _).bind fun _ => .pure rfl
    · refine ih.clauses.bind fun clauses => (reads_expect _).bind fun _ => ?_
      rw [clausesUnplaced_isEmpty]
      exact .ite .refused (.pure rfl)
  · refine (reads_accept _).bind fun _ => .ite ?_ ((reads_accept _).bind fun _ => .ite (.pure rfl) ?_)
    · exact (ih.itemsUpTo _).bind fun _ => (reads_expect _).bind fun _ => .pure rfl
    · refine ih.clauses.bind fun clauses => (reads_expect _).bind fun _ => ?_
      rw [clausesUnplaced_isEmpty]
      exact .ite .refused (.pure rfl)

theorem reads_atom : Reads Expr.unplaced (atom (fuel + 1)) (atom (fuel + 1)) := by
  rw [atom]
  refine reads_peek.bind fun w => ?_
  have text : isText w.bare.literal = isText w.literal := isText_unplaced w.literal
  rw [text]
  dsimp only [Word.bare]
  cases w.kind with
  | name => exact reads_name.bind fun _ => .pure rfl
  | literal => exact reads_advance.bind fun _ => .ite (reads_joinedText _ _) (.pure rfl)
  | keyword =>
      refine reads_advance.bind fun _ => ?_
      split
      · exact .pure rfl
      · exact .pure rfl
      · exact .pure rfl
      · exact .refuse
  | sign =>
      refine reads_advance.bind fun _ => ?_
      split
      · exact .pure rfl
      · exact ih.parenthesized
      · exact ih.listDisplay
      · exact ih.braceDisplay
      · exact .refuse
  | _ => exact .refuse

theorem reads_parameterName (annotated : Bool) :
    Reads id (parameterName (fuel + 1) annotated) (parameterName (fuel + 1) annotated) := by
  rw [parameterName]
  refine reads_name.bind fun _ => .ite ?_ (.pure rfl)
  exact (reads_accept _).bind fun _ => .ite (ih.expression.bind fun _ => .pure rfl) (.pure rfl)

theorem reads_behindParameter (annotated : Bool) (close : String) (ps : ParamList) : Reads ParamList.unplaced
    (behindParameter fuel annotated close ps) (behindParameter fuel annotated close ps.unplaced) := by
  refine (reads_accept _).bind fun _ => .ite (ih.parameters _ _ ps) ?_
  exact (reads_at? _).bind fun _ => .ite (ih.parameters _ _ ps) .refuse

theorem reads_withParameter (annotated : Bool) (close : String) (ps : ParamList) (n : String) (value : Option Expr) :
    Reads ParamList.unplaced (withParameter fuel annotated close ps n value)
      (withParameter fuel annotated close ps.unplaced n (optUnplaced value)) := by
  have missing : ((optUnplaced value).isNone && !ps.unplaced.defaults.isEmpty) = (value.isNone && !ps.defaults.isEmpty) := by
    rw [ParamList.unplaced]
    cases value <;> cases ps.defaults <;> rfl
  rw [withParameter, withParameter, missing]
  refine .ite ?_ (.ite .refuse ?_)
  · have same : (ps.named n value).unplaced = ps.unplaced.named n (optUnplaced value) := by
      rw [ParamList.named, ParamList.unplaced, withDefault_unplaced]
      rfl
    exact same ▸ reads_behindParameter ih annotated close _
  · have same : (ps.placed n value).unplaced = ps.unplaced.placed n (optUnplaced value) := by
      rw [ParamList.placed, ParamList.unplaced, withDefault_unplaced]
      rfl
    exact same ▸ reads_behindParameter ih annotated close _

theorem reads_parameters (annotated : Bool) (close : String) (ps : ParamList) : Reads ParamList.unplaced
    (parameters (fuel + 1) annotated close ps) (parameters (fuel + 1) annotated close ps.unplaced) := by
  rw [parameters, parameters]
  refine (reads_at? _).bind fun _ => .ite (.ite .refused (.pure rfl)) (.ite .refuse ?_)
  refine (reads_accept _).bind fun _ => (reads_accept _).bind fun _ => (reads_accept _).bind fun _ => ?_
  have rest := reads_behindParameter ih annotated close
  refine .ite (.ite .refused ?_) (.ite (.ite .refused ?_) (.ite (.ite .refused ?_) ?_))
  · refine (reads_at? _).bind fun _ => .ite (rest { ps with star := true }) ?_
    exact (ih.parameterName _).bind fun n =>
      rest { ps with star := true, params := { ps.params with rest := some n } }
  · exact (ih.parameterName _).bind fun n => rest { ps with params := { ps.params with namedRest := some n } }
  · exact rest { ps with slash := true, params := { ps.params with plainOnly := ps.params.plain.length } }
  · refine (ih.parameterName _).bind fun n => (reads_accept _).bind fun _ => ?_
    have valued := reads_withParameter ih annotated close ps n
    exact .ite (ih.expression.bind fun e => valued (some e)) (valued none)

end

theorem readsExprs (fuel : Nat) : ReadsExprs fuel := by
  induction fuel with
  | zero =>
      constructor
      all_goals intros; exact .refuse
  | succ fuel ih =>
      exact {
        bindingExpr := reads_bindingExpr ih
        expression := reads_expression ih
        lambdaExpr := reads_lambdaExpr ih
        disjunction := reads_disjunction ih
        conjunction := reads_conjunction ih
        inversion := reads_inversion ih
        comparisons := reads_comparisons ih
        operand := reads_operand ih
        operandTail := reads_operandTail ih
        factor := reads_factor ih
        trailers := reads_trailers ih
        arguments := reads_arguments ih
        argument := reads_argument ih
        subscript := reads_subscript ih
        subscriptItems := reads_subscriptItems ih
        subscriptItem := reads_subscriptItem ih
        item := reads_item ih
        itemsUpTo := reads_itemsUpTo ih
        clauses := reads_clauses ih
        conditions := reads_conditions ih
        targetList := reads_targetList ih
        moreTargets := reads_moreTargets ih
        target := reads_target ih
        atom := reads_atom ih
        parenthesized := reads_parenthesized ih
        listDisplay := reads_listDisplay ih
        braceDisplay := reads_braceDisplay ih
        dictEntries := reads_dictEntries ih
        parameters := reads_parameters ih
        parameterName := reads_parameterName ih }

/-! ## Statements -/

theorem reads_starExpr (fuel : Nat) : Reads Expr.unplaced (expressionList.starExpr fuel) (expressionList.starExpr fuel) :=
  (reads_accept _).bind fun _ => .ite (((readsExprs fuel).operand 0).bind fun _ => .pure rfl) (readsExprs fuel).expression

theorem reads_moreExpressions (fuel : Nat) :
    Reads exprsUnplaced (expressionList.moreExpressions fuel) (expressionList.moreExpressions fuel) := by
  induction fuel with
  | zero => exact .refuse
  | succ fuel ih =>
      refine (reads_accept _).bind fun _ => .ite ?_ (.pure rfl)
      refine reads_endsList.bind fun _ => .ite (.pure rfl) ?_
      exact (reads_starExpr fuel).bind fun _ => ih.bind fun _ => .pure rfl

theorem reads_expressionList (fuel : Nat) : Reads Expr.unplaced (expressionList fuel) (expressionList fuel) := by
  refine (reads_starExpr fuel).bind fun _ => (reads_at? _).bind fun _ => .ite ?_ (.pure rfl)
  exact (reads_moreExpressions fuel).bind fun _ => .pure rfl

theorem reads_nameList (fuel : Nat) : Reads id (nameList fuel) (nameList fuel) := by
  induction fuel with
  | zero => exact .refuse
  | succ fuel ih =>
      exact reads_name.bind fun _ => (reads_accept _).bind fun _ => .ite (ih.bind fun _ => .pure rfl) (.pure rfl)

theorem reads_dottedName (fuel : Nat) : Reads id (dottedName fuel) (dottedName fuel) := by
  induction fuel with
  | zero => exact .refuse
  | succ fuel ih =>
      exact reads_name.bind fun _ => (reads_accept _).bind fun _ => .ite (ih.bind fun _ => .pure rfl) (.pure rfl)

theorem reads_importedAs : Reads id importedAs importedAs :=
  (reads_accept _).bind fun _ => .ite (reads_name.bind fun _ => .pure rfl) (.pure rfl)

theorem reads_importList (fuel : Nat) : Reads id (importList fuel) (importList fuel) := by
  induction fuel with
  | zero => exact .refuse
  | succ fuel ih =>
      refine (reads_dottedName fuel).bind fun _ => reads_importedAs.bind fun _ => (reads_accept _).bind fun _ => ?_
      exact .ite (ih.bind fun _ => .pure rfl) (.pure rfl)

theorem reads_importedNames (fuel : Nat) : Reads id (importedNames fuel) (importedNames fuel) := by
  induction fuel with
  | zero => exact .refuse
  | succ fuel ih =>
      refine reads_name.bind fun _ => reads_importedAs.bind fun _ => (reads_accept _).bind fun _ => .ite ?_ (.pure rfl)
      exact (reads_at? _).bind fun _ => .ite (.pure rfl) (ih.bind fun _ => .pure rfl)

theorem reads_assignments (fuel : Nat) (found : List Expr) :
    Reads exprsUnplaced (assignments fuel found) (assignments fuel (exprsUnplaced found)) := by
  induction fuel generalizing found with
  | zero => exact .refuse
  | succ fuel ih =>
      exact (reads_accept _).bind fun _ => .ite ((reads_expressionList fuel).bind fun e => ih (e :: found)) (.pure rfl)

theorem reads_unspread (e : Expr) : Reads Expr.unplaced (unspread e) (unspread e.unplaced) := by
  rw [unspread, unspread, isStarred_unplaced]
  exact .ite .refuse (.pure rfl)

theorem areAssignable_unplaced (es : List Expr) : (exprsUnplaced es).all isAssignable = es.all isAssignable := by
  induction es with
  | nil => rfl
  | cons e r ih => rw [exprsUnplaced, List.all_cons, List.all_cons, isAssignable_unplaced, ih]

theorem exprsUnplaced_append (a b : List Expr) : exprsUnplaced (a ++ b) = exprsUnplaced a ++ exprsUnplaced b := by
  induction a with
  | nil => rfl
  | cons e r ih => rw [List.cons_append, exprsUnplaced, ih]; rfl

theorem exprsUnplaced_reverse (es : List Expr) : exprsUnplaced es.reverse = (exprsUnplaced es).reverse := by
  induction es with
  | nil => rfl
  | cons e r ih =>
      rw [List.reverse_cons, exprsUnplaced_append, ih]
      exact List.reverse_cons.symm

theorem reads_expressionStatement (fuel : Nat) :
    Reads Stmt.unplaced (simpleStatement.expressionStatement fuel) (simpleStatement.expressionStatement fuel) := by
  rw [simpleStatement.expressionStatement]
  have listed := reads_expressionList fuel
  refine listed.bind fun first => reads_peek.bind fun w => ?_
  have alone : Reads Stmt.unplaced (do pure (.expr (← unspread first))) (do pure (.expr (← unspread first.unplaced))) :=
    (reads_unspread first).bind fun _ => .pure rfl
  have value : Reads Expr.unplaced (do unspread (← expressionList fuel)) (do unspread (← expressionList fuel)) :=
    listed.bind fun e => reads_unspread e
  dsimp only [Word.bare]
  rw [isTarget_unplaced]
  refine .ite (.ite ?_ ?_) alone
  · refine (reads_assignments fuel [first]).bind fun found => ?_
    cases found with
    | nil => exact .refuse
    | cons value targets =>
        dsimp only [exprsUnplaced]
        rw [areAssignable_unplaced]
        refine .ite ((reads_unspread value).bind fun _ => .pure ?_) .refuse
        rw [Stmt.unplaced, exprsUnplaced_reverse]
  · cases augmentOp? w.text with
    | some op =>
        refine reads_advance.bind fun _ => .ite .refused ?_
        exact listed.bind fun e => (reads_unspread e).bind fun _ => .pure rfl
    | none =>
        refine .ite (reads_advance.bind fun _ => (readsExprs fuel).expression.bind fun _ => ?_) alone
        refine (reads_accept _).bind fun _ => .ite ?_ (.pure rfl)
        exact listed.bind fun e => (reads_unspread e).bind fun _ => .pure rfl

theorem reads_simpleStatement (fuel : Nat) : Reads Stmt.unplaced (simpleStatement fuel) (simpleStatement fuel) := by
  rw [simpleStatement]
  have expressed := (readsExprs fuel).expression
  have listed := reads_expressionList fuel
  refine reads_peek.bind fun w => ?_
  dsimp only [Word.bare]
  refine .ite ?_ (reads_expressionStatement fuel)
  split
  · exact reads_advance.bind fun _ => .pure rfl
  · exact reads_advance.bind fun _ => .pure rfl
  · exact reads_advance.bind fun _ => .pure rfl
  · refine reads_advance.bind fun _ => reads_endsList.bind fun _ => .ite (.pure rfl) ?_
    exact listed.bind fun e => (reads_unspread e).bind fun _ => .pure rfl
  · refine reads_advance.bind fun _ => reads_endsList.bind fun _ => .ite (.pure rfl) (expressed.bind fun _ => ?_)
    exact (reads_accept _).bind fun _ => .ite (expressed.bind fun _ => .pure rfl) (.pure rfl)
  · refine reads_advance.bind fun _ => expressed.bind fun _ => (reads_accept _).bind fun _ => ?_
    exact .ite (expressed.bind fun _ => .pure rfl) (.pure rfl)
  · refine reads_advance.bind fun _ => listed.bind fun e => ?_
    cases e with
    | tuple items =>
        dsimp only [Expr.unplaced]
        rw [areDeletable_unplaced]
        exact .ite (.pure rfl) .refuse
    | list items =>
        have deletable := isDeletable_unplaced (.list items)
        rw [Expr.unplaced] at deletable ⊢
        dsimp only
        rw [deletable]
        exact .ite (.pure rfl) .refuse
    | _ => exact .ite (.pure rfl) .refuse
  · exact reads_advance.bind fun _ => (reads_nameList fuel).bind fun _ => .pure rfl
  · exact reads_advance.bind fun _ => (reads_nameList fuel).bind fun _ => .pure rfl
  · exact reads_advance.bind fun _ => (reads_importList fuel).bind fun _ => .pure rfl
  · refine reads_advance.bind fun _ => (reads_dottedName fuel).bind fun _ => (reads_expect _).bind fun _ => ?_
    refine (reads_accept _).bind fun _ => .ite (.pure rfl) ((reads_accept _).bind fun _ => .ite ?_ ?_)
    · exact (reads_importedNames fuel).bind fun _ => (reads_expect _).bind fun _ => .pure rfl
    · exact (reads_importedNames fuel).bind fun _ => .pure rfl
  · exact reads_expressionStatement fuel

theorem reads_simpleLine (fuel : Nat) : Reads stmtsUnplaced (simpleLine fuel) (simpleLine fuel) := by
  induction fuel with
  | zero => exact .refuse
  | succ fuel ih =>
      refine (reads_simpleStatement fuel).bind fun _ => (reads_accept _).bind fun _ => .ite ?_ ?_
      · exact reads_peek.bind fun _ => .ite (reads_advance.bind fun _ => .pure rfl) (ih.bind fun _ => .pure rfl)
      · exact (reads_ofKind _).bind fun _ => .pure rfl

/-- What is read with some fuel as part of a statement depends on rows only in the rows that it has. -/
structure ReadsStmts (fuel : Nat) : Prop where
  statement : Reads stmtsUnplaced (statement fuel) (statement fuel)
  ifRest : Reads Stmt.unplaced (ifRest fuel) (ifRest fuel)
  otherwise : Reads stmtsUnplaced (otherwise fuel) (otherwise fuel)
  decorators : Reads exprsUnplaced (decorators fuel) (decorators fuel)
  definition (ds : List Expr) (row : Nat) :
    Reads Stmt.unplaced (definition fuel ds row) (definition fuel (exprsUnplaced ds) 0)
  classDefinition (ds : List Expr) (row : Nat) :
    Reads Stmt.unplaced (classDefinition fuel ds row) (classDefinition fuel (exprsUnplaced ds) 0)
  suite : Reads stmtsUnplaced (suite fuel) (suite fuel)
  block : Reads stmtsUnplaced (block fuel) (block fuel)

theorem stmtsUnplaced_append (a b : List Stmt) : stmtsUnplaced (a ++ b) = stmtsUnplaced a ++ stmtsUnplaced b := by
  induction a with
  | nil => rfl
  | cons s r ih => rw [List.cons_append, stmtsUnplaced, ih]; rfl

section

variable {fuel : Nat} (ih : ReadsStmts fuel)

include ih

theorem reads_statement : Reads stmtsUnplaced (statement (fuel + 1)) (statement (fuel + 1)) := by
  rw [statement]
  refine reads_peek.bind fun w => ?_
  dsimp only [Word.bare]
  refine .ite ?_ (.ite (ih.decorators.bind fun ds => ?_) (reads_simpleLine fuel))
  · split
    · exact reads_advance.bind fun _ => ih.ifRest.bind fun _ => .pure rfl
    · refine reads_advance.bind fun _ => (readsExprs fuel).bindingExpr.bind fun _ => ih.suite.bind fun _ => ?_
      exact ih.otherwise.bind fun _ => .pure rfl
    · refine reads_advance.bind fun _ => (readsExprs fuel).targetList.bind fun target => ?_
      rw [isAssignable_unplaced]
      refine .ite .refused ((reads_expect _).bind fun _ => (reads_expressionList fuel).bind fun items => ?_)
      exact ih.suite.bind fun _ => (reads_unspread items).bind fun _ => ih.otherwise.bind fun _ => .pure rfl
    · exact (ih.definition [] _).bind fun _ => .pure rfl
    · exact (ih.classDefinition [] _).bind fun _ => .pure rfl
    · exact reads_simpleLine fuel
  · refine (reads_at? _).bind fun _ => .ite ((ih.definition ds _).bind fun _ => .pure rfl) ?_
    exact (reads_at? _).bind fun _ => .ite ((ih.classDefinition ds _).bind fun _ => .pure rfl) .refuse

theorem reads_ifRest : Reads Stmt.unplaced (ifRest (fuel + 1)) (ifRest (fuel + 1)) := by
  rw [ifRest]
  refine (readsExprs fuel).bindingExpr.bind fun _ => ih.suite.bind fun _ => (reads_accept _).bind fun _ => ?_
  exact .ite (ih.ifRest.bind fun _ => .pure rfl) (ih.otherwise.bind fun _ => .pure rfl)

theorem reads_otherwise : Reads stmtsUnplaced (otherwise (fuel + 1)) (otherwise (fuel + 1)) := by
  rw [otherwise]
  exact (reads_accept _).bind fun _ => .ite ih.suite (.pure rfl)

theorem reads_decorators : Reads exprsUnplaced (decorators (fuel + 1)) (decorators (fuel + 1)) := by
  rw [decorators]
  refine (reads_accept _).bind fun _ => .ite ((readsExprs fuel).bindingExpr.bind fun _ => ?_) (.pure rfl)
  exact (reads_ofKind _).bind fun _ => ih.decorators.bind fun _ => .pure rfl

theorem reads_definition (ds : List Expr) (row : Nat) :
    Reads Stmt.unplaced (definition (fuel + 1) ds row) (definition (fuel + 1) (exprsUnplaced ds) 0) := by
  rw [definition, definition]
  refine (reads_expect _).bind fun _ => reads_shownName.bind fun n => (reads_expect _).bind fun _ => ?_
  refine ((readsExprs fuel).parameters _ _ .empty).bind fun ps => (reads_expect _).bind fun _ => ?_
  refine (reads_accept _).bind fun _ => ?_
  have rest : Reads Stmt.unplaced
      (do pure (.define (← owned n) n ps.params ps.defaults ds (← suite fuel) row))
      (do pure (.define (← owned n) n ps.params ps.unplaced.defaults (exprsUnplaced ds) (← suite fuel) 0)) :=
    (reads_owned n).bind fun _ => ih.suite.bind fun _ => .pure rfl
  exact .ite ((readsExprs fuel).expression.bind fun _ => rest) rest

theorem reads_classDefinition (ds : List Expr) (row : Nat) :
    Reads Stmt.unplaced (classDefinition (fuel + 1) ds row) (classDefinition (fuel + 1) (exprsUnplaced ds) 0) := by
  rw [classDefinition, classDefinition]
  refine (reads_expect _).bind fun _ => reads_shownName.bind fun n => (reads_accept _).bind fun _ => ?_
  have rest (args : List (ArgKind × Expr)) : Reads Stmt.unplaced
      (do pure (.describe (← owned n) n args ds (← inClass n (suite fuel)) row))
      (do pure (.describe (← owned n) n (argsUnplaced args) (exprsUnplaced ds) (← inClass n (suite fuel)) 0)) :=
    (reads_owned n).bind fun _ => (reads_inClass n ih.suite).bind fun _ => .pure rfl
  exact .ite ((readsExprs fuel).arguments.bind fun args => (reads_expect _).bind fun _ => rest args) (rest [])

theorem reads_suite : Reads stmtsUnplaced (suite (fuel + 1)) (suite (fuel + 1)) := by
  rw [suite]
  refine (reads_expect _).bind fun _ => reads_peek.bind fun _ => .ite ?_ (reads_simpleLine fuel)
  refine reads_advance.bind fun _ => (reads_ofKind _).bind fun _ => ih.statement.bind fun _ => ih.block.bind fun _ => ?_
  exact .pure (stmtsUnplaced_append _ _)

theorem reads_block : Reads stmtsUnplaced (block (fuel + 1)) (block (fuel + 1)) := by
  rw [block]
  refine reads_peek.bind fun _ => .ite (reads_advance.bind fun _ => .pure rfl) ?_
  exact ih.statement.bind fun _ => ih.block.bind fun _ => .pure (stmtsUnplaced_append _ _)

end

theorem readsStmts (fuel : Nat) : ReadsStmts fuel := by
  induction fuel with
  | zero =>
      constructor
      all_goals intros; exact .refuse
  | succ fuel ih =>
      exact {
        statement := reads_statement ih
        ifRest := reads_ifRest ih
        otherwise := reads_otherwise ih
        decorators := reads_decorators ih
        definition := reads_definition ih
        classDefinition := reads_classDefinition ih
        suite := reads_suite ih
        block := reads_block ih }

theorem reads_statements (count fuel : Nat) : Reads stmtsUnplaced (statements count fuel) (statements count fuel) := by
  induction count with
  | zero => exact .refuse
  | succ count ih =>
      rw [statements]
      refine reads_peek.bind fun w => ?_
      dsimp only [Word.bare]
      have rest : Reads stmtsUnplaced (do pure ((← statement fuel) ++ (← statements count fuel)))
          (do pure ((← statement fuel) ++ (← statements count fuel))) :=
        (readsStmts fuel).statement.bind fun _ => ih.bind fun _ => .pure (stmtsUnplaced_append _ _)
      cases w.kind with
      | finish => exact .pure rfl
      | newline => exact reads_advance.bind fun _ => ih
      | _ => exact rest

/-! ## Texts -/

/-- The statements that some words are. -/
def parseWords? (ws : List Word) : Option (List Stmt) :=
  ((statements (ws.length + 1) (20 * ws.length + 40)).run ⟨ws, none⟩).map (·.1)

theorem parse?_eq (text : List Char) : parse? text = (words? text).bind parseWords? := by
  rw [parse?]
  refine congrArg (words? text).bind (funext fun ws => ?_)
  rw [parseWords?]
  cases (statements (ws.length + 1) (20 * ws.length + 40)).run ⟨ws, none⟩ <;> rfl

theorem parseWords?_bare (ws : List Word) : (parseWords? ws).map stmtsUnplaced = parseWords? (ws.map Word.bare) := by
  have same := reads_statements (ws.length + 1) (20 * ws.length + 40) ⟨ws, none⟩
  rw [parseWords?, parseWords?, List.length_map, Option.map_map]
  refine Eq.trans ?_ (congrArg (Option.map (·.1)) same).symm
  rw [Option.map_map]
  rfl

/-- A text that can be read obeys the rules or does not, whatever its rows. -/
theorem compile?_eq (text : List Char) : (compile? text).map stmtsUnplaced = ((parse? text).map stmtsUnplaced).bind fun body =>
    if declaredFirst [] body && stmtsOk ⟨false, 0, []⟩ body then some body else none := by
  rw [compile?]
  cases parse? text with
  | none => rfl
  | some body =>
      rw [Option.map_some, Option.bind_some, declaredFirst_unplaced, stmtsOk_unplaced]
      change Option.map stmtsUnplaced (if _ then some body else none) = _
      split <;> rfl

/-- Texts with the same words in different rows are compiled as the same statements, but for the rows of functions and
classes. -/
theorem compile?_words {a b : List Char} (same : (words? a).map (·.map Word.bare) = (words? b).map (·.map Word.bare)) :
    (compile? a).map stmtsUnplaced = (compile? b).map stmtsUnplaced := by
  have parsed (text : List Char) : (parse? text).map stmtsUnplaced = ((words? text).map (·.map Word.bare)).bind parseWords? := by
    rw [parse?_eq]
    cases words? text with
    | none => rfl
    | some ws => exact parseWords?_bare ws
  rw [compile?_eq, compile?_eq, parsed, parsed, same]

end Patchwork.Script
