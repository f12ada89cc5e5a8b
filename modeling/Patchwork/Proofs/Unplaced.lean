import Patchwork.Script.Check

/-!
Syntax trees without the rows of their functions and classes. Whether a tree obeys the rules, and which names it binds, does
not depend on rows.
-/

namespace Patchwork.Script

mutual

/-- An expression without rows. -/
def Expr.unplaced : Expr → Expr
  | .list items => .list (exprsUnplaced items)
  | .tuple items => .tuple (exprsUnplaced items)
  | .set items => .set (exprsUnplaced items)
  | .dict entries => .dict (entriesUnplaced entries)
  | .starred e => .starred e.unplaced
  | .call f args => .call f.unplaced (argsUnplaced args)
  | .attr e name => .attr e.unplaced name
  | .index e key => .index e.unplaced key.unplaced
  | .slice start stop step => .slice (optUnplaced start) (optUnplaced stop) (optUnplaced step)
  | .unary op e => .unary op e.unplaced
  | .binary op a b => .binary op a.unplaced b.unplaced
  | .both a b => .both a.unplaced b.unplaced
  | .either a b => .either a.unplaced b.unplaced
  | .compare first rest => .compare first.unplaced (comparedUnplaced rest)
  | .choose test yes no => .choose test.unplaced yes.unplaced no.unplaced
  | .lambda ps defaults body _ => .lambda ps (defaultsUnplaced defaults) body.unplaced 0
  | .bind name value => .bind name value.unplaced
  | .build kind item value clauses => .build kind item.unplaced (optUnplaced value) (clausesUnplaced clauses)
  | e => e

def optUnplaced : Option Expr → Option Expr
  | none => none
  | some e => some e.unplaced

def exprsUnplaced : List Expr → List Expr
  | [] => []
  | e :: r => e.unplaced :: exprsUnplaced r

def argsUnplaced : List (ArgKind × Expr) → List (ArgKind × Expr)
  | [] => []
  | (kind, e) :: r => (kind, e.unplaced) :: argsUnplaced r

def comparedUnplaced : List (Comparison × Expr) → List (Comparison × Expr)
  | [] => []
  | (op, e) :: r => (op, e.unplaced) :: comparedUnplaced r

def defaultsUnplaced : List (String × Expr) → List (String × Expr)
  | [] => []
  | (name, e) :: r => (name, e.unplaced) :: defaultsUnplaced r

def entriesUnplaced : List (Option Expr × Expr) → List (Option Expr × Expr)
  | [] => []
  | (key, e) :: r => (optUnplaced key, e.unplaced) :: entriesUnplaced r

def clausesUnplaced : List (Expr × Expr × List Expr) → List (Expr × Expr × List Expr)
  | [] => []
  | (target, items, tests) :: r => (target.unplaced, items.unplaced, exprsUnplaced tests) :: clausesUnplaced r

end

mutual

/-- A statement without rows. -/
def Stmt.unplaced : Stmt → Stmt
  | .expr e => .expr e.unplaced
  | .assign targets value => .assign (exprsUnplaced targets) value.unplaced
  | .augment target op value => .augment target.unplaced op value.unplaced
  | .annotate target value => .annotate target.unplaced (optUnplaced value)
  | .give value => .give (optUnplaced value)
  | .raise value => .raise (optUnplaced value)
  | .assert test message => .assert test.unplaced (optUnplaced message)
  | .delete targets => .delete (exprsUnplaced targets)
  | .choose test yes no => .choose test.unplaced (stmtsUnplaced yes) (stmtsUnplaced no)
  | .loop test body otherwise => .loop test.unplaced (stmtsUnplaced body) (stmtsUnplaced otherwise)
  | .each target items body otherwise =>
    .each target.unplaced items.unplaced (stmtsUnplaced body) (stmtsUnplaced otherwise)
  | .define name shown ps defaults decorators body _ =>
    .define name shown ps (defaultsUnplaced defaults) (exprsUnplaced decorators) (stmtsUnplaced body) 0
  | .describe name shown args decorators body _ =>
    .describe name shown (argsUnplaced args) (exprsUnplaced decorators) (stmtsUnplaced body) 0
  | s => s

def stmtsUnplaced : List Stmt → List Stmt
  | [] => []
  | s :: r => s.unplaced :: stmtsUnplaced r

end

/-! ## Names -/

mutual

theorem targetBinds_unplaced : (e : Expr) → targetBinds e.unplaced = targetBinds e
  | .tuple items => by simp only [Expr.unplaced, targetBinds, targetsBind_unplaced items]
  | .list items => by simp only [Expr.unplaced, targetBinds, targetsBind_unplaced items]
  | .starred e => by simp only [Expr.unplaced, targetBinds, targetBinds_unplaced e]
  | .none | .ellipsis | .bool _ | .int _ | .float _ | .imaginary _ | .str _ | .bytes _ | .name _ | .set _ | .dict _
  | .call .. | .attr .. | .index .. | .slice .. | .unary .. | .binary .. | .both .. | .either .. | .compare .. | .choose ..
  | .lambda .. | .bind .. | .build .. => by simp only [Expr.unplaced, targetBinds]

theorem targetsBind_unplaced : (es : List Expr) → targetsBind (exprsUnplaced es) = targetsBind es
  | [] => rfl
  | e :: r => by simp only [exprsUnplaced, targetsBind, targetBinds_unplaced e, targetsBind_unplaced r]

end

theorem clauseTargets_unplaced (cs : List (Expr × Expr × List Expr)) :
    clauseTargets (clausesUnplaced cs) = clauseTargets cs := by
  induction cs with
  | nil => rfl
  | cons c r ih => simp only [clausesUnplaced, clauseTargets, targetBinds_unplaced, ih]

mutual

theorem exprNames_unplaced : (e : Expr) → exprNames e.unplaced = exprNames e
  | .none | .ellipsis | .bool _ | .int _ | .float _ | .imaginary _ | .str _ | .bytes _ | .name _ => rfl
  | .list items | .tuple items | .set items => by simp only [Expr.unplaced, exprNames, exprsNames_unplaced items]
  | .dict entries => by simp only [Expr.unplaced, exprNames, entriesNames_unplaced entries]
  | .starred e | .attr e _ | .unary _ e | .bind _ e => by simp only [Expr.unplaced, exprNames, exprNames_unplaced e]
  | .call f args => by simp only [Expr.unplaced, exprNames, exprNames_unplaced f, argsNames_unplaced args]
  | .index a b | .binary _ a b | .both a b | .either a b => by
      simp only [Expr.unplaced, exprNames, exprNames_unplaced a, exprNames_unplaced b]
  | .slice a b c => by
      simp only [Expr.unplaced, exprNames, optNames_unplaced a, optNames_unplaced b, optNames_unplaced c]
  | .compare e rest => by simp only [Expr.unplaced, exprNames, exprNames_unplaced e, comparedNames_unplaced rest]
  | .choose t y n => by simp only [Expr.unplaced, exprNames, exprNames_unplaced t, exprNames_unplaced y, exprNames_unplaced n]
  | .lambda _ defaults body _ => by
      simp only [Expr.unplaced, exprNames, defaultsNames_unplaced defaults, exprNames_unplaced body]
  | .build _ item value clauses => by
      simp only [Expr.unplaced, exprNames, exprNames_unplaced item, optNames_unplaced value, clausesNames_unplaced clauses,
        firstItems_unplaced clauses, clauseTargets_unplaced]

theorem optNames_unplaced : (e : Option Expr) → optNames (optUnplaced e) = optNames e
  | none => rfl
  | some e => by simp only [optUnplaced, optNames, exprNames_unplaced e]

theorem exprsNames_unplaced : (es : List Expr) → exprsNames (exprsUnplaced es) = exprsNames es
  | [] => rfl
  | e :: r => by simp only [exprsUnplaced, exprsNames, exprNames_unplaced e, exprsNames_unplaced r]

theorem argsNames_unplaced : (es : List (ArgKind × Expr)) → argsNames (argsUnplaced es) = argsNames es
  | [] => rfl
  | (_, e) :: r => by simp only [argsUnplaced, argsNames, exprNames_unplaced e, argsNames_unplaced r]

theorem comparedNames_unplaced : (es : List (Comparison × Expr)) → comparedNames (comparedUnplaced es) = comparedNames es
  | [] => rfl
  | (_, e) :: r => by simp only [comparedUnplaced, comparedNames, exprNames_unplaced e, comparedNames_unplaced r]

theorem defaultsNames_unplaced : (es : List (String × Expr)) → defaultsNames (defaultsUnplaced es) = defaultsNames es
  | [] => rfl
  | (_, e) :: r => by simp only [defaultsUnplaced, defaultsNames, exprNames_unplaced e, defaultsNames_unplaced r]

theorem entriesNames_unplaced : (es : List (Option Expr × Expr)) → entriesNames (entriesUnplaced es) = entriesNames es
  | [] => rfl
  | (k, e) :: r => by
      simp only [entriesUnplaced, entriesNames, optNames_unplaced k, exprNames_unplaced e, entriesNames_unplaced r]

theorem clausesNames_unplaced :
    (cs : List (Expr × Expr × List Expr)) → clausesNames (clausesUnplaced cs) = clausesNames cs
  | [] => rfl
  | (t, i, es) :: r => by
      simp only [clausesUnplaced, clausesNames, exprNames_unplaced t, exprNames_unplaced i, exprsNames_unplaced es,
        clausesNames_unplaced r]

theorem firstItems_unplaced : (cs : List (Expr × Expr × List Expr)) → firstItems (clausesUnplaced cs) = firstItems cs
  | [] => rfl
  | (_, i, _) :: _ => by simp only [clausesUnplaced, firstItems, exprNames_unplaced i]

end

theorem targetNames_unplaced (e : Expr) : targetNames e.unplaced = targetNames e := by
  rw [targetNames, targetNames, targetBinds_unplaced, exprNames_unplaced]

theorem targetsNames_unplaced (es : List Expr) : targetsNames (exprsUnplaced es) = targetsNames es := by
  induction es with
  | nil => rfl
  | cons e r ih => rw [exprsUnplaced, targetsNames, targetsNames, targetNames_unplaced, ih]

mutual

theorem stmtNames_unplaced : (s : Stmt) → stmtNames s.unplaced = stmtNames s
  | .global _ | .nonlocal _ | .imports _ | .importFrom .. | .pass | .stop | .skip => rfl
  | .expr e => by simp only [Stmt.unplaced, stmtNames, exprNames_unplaced]
  | .give value | .raise value => by simp only [Stmt.unplaced, stmtNames, optNames_unplaced]
  | .assign .. | .delete _ => by simp only [Stmt.unplaced, stmtNames, exprNames_unplaced, targetsNames_unplaced]
  | .augment .. | .annotate .. => by
      simp only [Stmt.unplaced, stmtNames, targetNames_unplaced, exprNames_unplaced, optNames_unplaced]
  | .assert .. => by simp only [Stmt.unplaced, stmtNames, exprNames_unplaced, optNames_unplaced]
  | .choose _ yes no => by
      simp only [Stmt.unplaced, stmtNames, exprNames_unplaced, stmtsNames_unplaced yes, stmtsNames_unplaced no]
  | .loop _ body otherwise | .each _ _ body otherwise => by
      simp only [Stmt.unplaced, stmtNames, targetNames_unplaced, exprNames_unplaced, stmtsNames_unplaced body,
        stmtsNames_unplaced otherwise]
  | .define _ _ _ _ _ body _ => by
      simp only [Stmt.unplaced, stmtNames, defaultsNames_unplaced, exprsNames_unplaced, stmtsNames_unplaced body]
  | .describe _ _ _ _ body _ => by
      simp only [Stmt.unplaced, stmtNames, argsNames_unplaced, exprsNames_unplaced, stmtsNames_unplaced body]

theorem stmtsNames_unplaced : (ss : List Stmt) → stmtsNames (stmtsUnplaced ss) = stmtsNames ss
  | [] => rfl
  | s :: r => by simp only [stmtsUnplaced, stmtsNames, stmtNames_unplaced s, stmtsNames_unplaced r]

end

/-! ## Rules -/

theorem ordered_unplaced (seen spread : Bool) (args : List (ArgKind × Expr)) :
    argsInOrder.ordered seen spread (argsUnplaced args) = argsInOrder.ordered seen spread args := by
  induction args generalizing seen spread with
  | nil => rfl
  | cons a r ih =>
      obtain ⟨kind, e⟩ := a
      cases kind <;> simp only [argsUnplaced, argsInOrder.ordered, ih]

theorem argsInOrder_unplaced (args : List (ArgKind × Expr)) : argsInOrder (argsUnplaced args) = argsInOrder args := by
  rw [argsInOrder, argsInOrder, ordered_unplaced]
  refine congrArg (distinct · && _) ?_
  induction args with
  | nil => rfl
  | cons a r ih => rw [argsUnplaced, List.filterMap_cons, List.filterMap_cons, ih]

mutual

theorem exprOk_unplaced : (e : Expr) → exprOk e.unplaced = exprOk e
  | .none | .ellipsis | .bool _ | .int _ | .float _ | .imaginary _ | .str _ | .bytes _ | .name _ => rfl
  | .list items | .tuple items | .set items => by simp only [Expr.unplaced, exprOk, exprsOk_unplaced items]
  | .dict entries => by simp only [Expr.unplaced, exprOk, entriesOk_unplaced entries]
  | .starred e | .attr e _ | .unary _ e | .bind _ e => by simp only [Expr.unplaced, exprOk, exprOk_unplaced e]
  | .call f args => by
      simp only [Expr.unplaced, exprOk, exprOk_unplaced f, argsInOrder_unplaced, argsOk_unplaced args]
  | .index a b | .binary _ a b | .both a b | .either a b => by
      simp only [Expr.unplaced, exprOk, exprOk_unplaced a, exprOk_unplaced b]
  | .slice a b c => by simp only [Expr.unplaced, exprOk, optOk_unplaced a, optOk_unplaced b, optOk_unplaced c]
  | .compare e rest => by simp only [Expr.unplaced, exprOk, exprOk_unplaced e, comparedOk_unplaced rest]
  | .choose t y n => by simp only [Expr.unplaced, exprOk, exprOk_unplaced t, exprOk_unplaced y, exprOk_unplaced n]
  | .lambda _ defaults body _ => by
      simp only [Expr.unplaced, exprOk, defaultsOk_unplaced defaults, exprOk_unplaced body]
  | .build _ item value clauses => by
      simp only [Expr.unplaced, exprOk, exprOk_unplaced item, optOk_unplaced value, clausesOk_unplaced clauses]

theorem optOk_unplaced : (e : Option Expr) → optOk (optUnplaced e) = optOk e
  | none => rfl
  | some e => by simp only [optUnplaced, optOk, exprOk_unplaced e]

theorem exprsOk_unplaced : (es : List Expr) → exprsOk (exprsUnplaced es) = exprsOk es
  | [] => rfl
  | e :: r => by simp only [exprsUnplaced, exprsOk, exprOk_unplaced e, exprsOk_unplaced r]

theorem argsOk_unplaced : (es : List (ArgKind × Expr)) → argsOk (argsUnplaced es) = argsOk es
  | [] => rfl
  | (_, e) :: r => by simp only [argsUnplaced, argsOk, exprOk_unplaced e, argsOk_unplaced r]

theorem comparedOk_unplaced : (es : List (Comparison × Expr)) → comparedOk (comparedUnplaced es) = comparedOk es
  | [] => rfl
  | (_, e) :: r => by simp only [comparedUnplaced, comparedOk, exprOk_unplaced e, comparedOk_unplaced r]

theorem defaultsOk_unplaced : (es : List (String × Expr)) → defaultsOk (defaultsUnplaced es) = defaultsOk es
  | [] => rfl
  | (_, e) :: r => by simp only [defaultsUnplaced, defaultsOk, exprOk_unplaced e, defaultsOk_unplaced r]

theorem entriesOk_unplaced : (es : List (Option Expr × Expr)) → entriesOk (entriesUnplaced es) = entriesOk es
  | [] => rfl
  | (k, e) :: r => by
      simp only [entriesUnplaced, entriesOk, optOk_unplaced k, exprOk_unplaced e, entriesOk_unplaced r]

theorem clausesOk_unplaced : (cs : List (Expr × Expr × List Expr)) → clausesOk (clausesUnplaced cs) = clausesOk cs
  | [] => rfl
  | (t, i, es) :: r => by
      simp only [clausesUnplaced, clausesOk, exprOk_unplaced t, exprOk_unplaced i, exprsOk_unplaced es,
        clausesOk_unplaced r]

end

theorem declaredFirst_unplaced (seen : List String) (ss : List Stmt) :
    declaredFirst seen (stmtsUnplaced ss) = declaredFirst seen ss := by
  induction ss generalizing seen with
  | nil => rfl
  | cons s r ih =>
      have names := stmtNames_unplaced s
      cases s <;> simp only [Stmt.unplaced] at names <;> simp only [stmtsUnplaced, Stmt.unplaced, declaredFirst, ih, names]

mutual

theorem stmtOk_unplaced : (standing : Standing) → (s : Stmt) → stmtOk standing s.unplaced = stmtOk standing s
  | _, .global _ | _, .nonlocal _ | _, .imports _ | _, .importFrom .. | _, .pass | _, .stop | _, .skip => rfl
  | _, .expr _ | _, .assign .. | _, .augment .. | _, .annotate .. | _, .give _ | _, .raise _ | _, .assert .. | _, .delete _ => by
      simp only [Stmt.unplaced, stmtOk, exprOk_unplaced, exprsOk_unplaced, optOk_unplaced]
  | standing, .choose _ yes no => by
      simp only [Stmt.unplaced, stmtOk, exprOk_unplaced, stmtsOk_unplaced standing yes, stmtsOk_unplaced standing no]
  | standing, .loop _ body otherwise | standing, .each _ _ body otherwise => by
      simp only [Stmt.unplaced, stmtOk, exprOk_unplaced, stmtsOk_unplaced _ body, stmtsOk_unplaced standing otherwise]
  | standing, .define _ _ _ _ _ body _ => by
      simp only [Stmt.unplaced, stmtOk, defaultsOk_unplaced, exprsOk_unplaced, stmtsNames_unplaced, declaredFirst_unplaced,
        stmtsOk_unplaced _ body]
  | standing, .describe _ _ _ _ body _ => by
      simp only [Stmt.unplaced, stmtOk, argsInOrder_unplaced, argsOk_unplaced, exprsOk_unplaced, declaredFirst_unplaced,
        stmtsOk_unplaced _ body]

theorem stmtsOk_unplaced : (standing : Standing) → (ss : List Stmt) →
    stmtsOk standing (stmtsUnplaced ss) = stmtsOk standing ss
  | _, [] => rfl
  | standing, s :: r => by simp only [stmtsUnplaced, stmtsOk, stmtOk_unplaced standing s, stmtsOk_unplaced standing r]

end

end Patchwork.Script
