import Patchwork.Script.Scope
import Patchwork.Script.Parser

/-!
What a script must obey beyond its grammar: statements in their place, parameters and arguments without
repetition, and names declared before they are used.
-/

namespace Patchwork.Script

def distinct (names : List String) : Bool :=
  names.eraseDups.length == names.length

/-- Arguments by name come behind those without, and each name once. -/
def argsInOrder (args : List (ArgKind × Expr)) : Bool :=
  let named := args.filterMap fun a => match a.1 with
    | .named n => some n
    | _ => none
  distinct named && ordered false false args
where
  ordered (seen spread : Bool) : List (ArgKind × Expr) → Bool
    | [] => true
    | (.positional, _) :: r => !seen && !spread && ordered seen spread r
    | (.spread, _) :: r => !spread && ordered seen spread r
    | (.named _, _) :: r => ordered true spread r
    | (.namedSpread, _) :: r => ordered seen true r

mutual

def exprOk : Expr → Bool
  | .list items => exprsOk items
  | .tuple items => exprsOk items
  | .set items => exprsOk items
  | .dict entries => entriesOk entries
  | .starred e => exprOk e
  | .call f args => exprOk f && argsInOrder args && argsOk args
  | .attr e _ => exprOk e
  | .index e key => exprOk e && exprOk key
  | .slice a b c => optOk a && optOk b && optOk c
  | .unary _ e => exprOk e
  | .binary _ a b => exprOk a && exprOk b
  | .both a b => exprOk a && exprOk b
  | .either a b => exprOk a && exprOk b
  | .compare e rest => exprOk e && comparedOk rest
  | .choose t y n => exprOk t && exprOk y && exprOk n
  | .lambda ps defaults body _ => distinct ps.all && defaultsOk defaults && exprOk body
  | .bind _ e => exprOk e
  | .build _ item value clauses => exprOk item && optOk value && clausesOk clauses
  | _ => true

def optOk : Option Expr → Bool
  | none => true
  | some e => exprOk e

def exprsOk : List Expr → Bool
  | [] => true
  | e :: r => exprOk e && exprsOk r

def argsOk : List (ArgKind × Expr) → Bool
  | [] => true
  | (_, e) :: r => exprOk e && argsOk r

def comparedOk : List (Comparison × Expr) → Bool
  | [] => true
  | (_, e) :: r => exprOk e && comparedOk r

def defaultsOk : List (String × Expr) → Bool
  | [] => true
  | (_, e) :: r => exprOk e && defaultsOk r

def entriesOk : List (Option Expr × Expr) → Bool
  | [] => true
  | (k, e) :: r => optOk k && exprOk e && entriesOk r

def clausesOk : List (Expr × Expr × List Expr) → Bool
  | [] => true
  | (t, i, cs) :: r => exprOk t && exprOk i && exprsOk cs && clausesOk r

end

/-- Where a statement stands. -/
structure Standing where
  inFunction : Bool
  /-- How many loops are around it. -/
  loops : Nat
  /-- Names of the functions around, which an inner one may share. -/
  around : List String

/-- How many loops may stand in each other. -/
def loopDepth : Nat := 20

mutual

def stmtOk (at_ : Standing) : Stmt → Bool
  | .expr e => exprOk e
  | .assign targets value => exprsOk targets && exprOk value
  | .augment target _ value => exprOk target && exprOk value
  | .annotate target value => exprOk target && optOk value
  | .give value => at_.inFunction && optOk value
  | .raise value => optOk value
  | .assert test message => exprOk test && optOk message
  | .delete targets => exprsOk targets
  | .global _ => true
  | .nonlocal names => at_.inFunction && names.all at_.around.contains
  | .imports _ => true
  | .importFrom _ names => !(at_.inFunction && names.any (·.1 == "*"))
  | .pass => true
  | .stop => at_.loops ≠ 0
  | .skip => at_.loops ≠ 0
  | .choose test yes no => exprOk test && stmtsOk at_ yes && stmtsOk at_ no
  | .loop test body otherwise =>
    at_.loops < loopDepth && exprOk test && stmtsOk { at_ with loops := at_.loops + 1 } body &&
      stmtsOk at_ otherwise
  | .each target items body otherwise =>
    at_.loops < loopDepth && exprOk target && exprOk items &&
      stmtsOk { at_ with loops := at_.loops + 1 } body && stmtsOk at_ otherwise
  | .define _ _ ps defaults decorators body _ =>
    let names := stmtsNames body ++ { Names.empty with bound := ps.all }
    let own := names.locals
    distinct ps.all && defaultsOk defaults && exprsOk decorators &&
      names.globals.all (fun n => !ps.all.contains n) && names.outer.all (fun n => !ps.all.contains n) &&
      names.outer.all (fun n => !names.globals.contains n) && declaredFirst [] body &&
      stmtsOk ⟨true, 0, at_.around ++ own⟩ body
  | .describe _ _ args decorators body _ =>
    argsInOrder args && argsOk args && exprsOk decorators && declaredFirst [] body &&
      stmtsOk ⟨false, 0, at_.around⟩ body

def stmtsOk (at_ : Standing) : List Stmt → Bool
  | [] => true
  | s :: r => stmtOk at_ s && stmtsOk at_ r

/-- No name is declared global or shared behind its first appearance; `seen` holds those so far. -/
def declaredFirst (seen : List String) : List Stmt → Bool
  | [] => true
  | .global names :: r => names.all (fun n => !seen.contains n) && declaredFirst seen r
  | .nonlocal names :: r => names.all (fun n => !seen.contains n) && declaredFirst seen r
  | s :: r =>
    let n := stmtNames s
    declaredFirst (seen ++ n.bound ++ n.used) r

end

/-- The statements of a text that compiles. -/
def compile? (text : List Char) : Option (List Stmt) := do
  let body ← parse? text
  if declaredFirst [] body && stmtsOk ⟨false, 0, []⟩ body then some body else none

end Patchwork.Script
