import Patchwork.Script.Syntax

/-!
Which names a piece of a script binds and which it takes from around it. Functions, lambdas, classes and
comprehensions open scopes of their own.
-/

namespace Patchwork.Script

/-- The names in one scope: bound in it, used in it, wanted by scopes inside it, and declared as global or
as belonging to a scope around it. -/
structure Names where
  bound : List String
  used : List String
  inner : List String
  globals : List String
  outer : List String

namespace Names

def empty : Names := ⟨[], [], [], [], []⟩

def append (a b : Names) : Names :=
  ⟨a.bound ++ b.bound, a.used ++ b.used, a.inner ++ b.inner, a.globals ++ b.globals, a.outer ++ b.outer⟩

instance : Append Names := ⟨append⟩

def use (n : String) : Names := { empty with used := [n] }

def bind (n : String) : Names := { empty with bound := [n] }

def want (ns : List String) : Names := { empty with inner := ns }

/-- Names that belong to the scope itself. -/
def locals (n : Names) : List String :=
  (n.bound.filter fun x => !n.globals.contains x && !n.outer.contains x).eraseDups

/-- Names that a function scope takes from around it. -/
def free (n : Names) : List String :=
  ((n.used ++ n.inner ++ n.outer).filter fun x => !n.locals.contains x && !n.globals.contains x).eraseDups

/-- Names that a class scope takes from the functions around it; its own names are not seen by the
functions in it. -/
def freeInClass (n : Names) : List String :=
  (n.inner ++ n.outer ++ n.used.filter fun x => !n.locals.contains x && !n.globals.contains x).eraseDups

end Names

open Names

mutual

def exprNames : Expr → Names
  | .name id => use id
  | .list items => exprsNames items
  | .tuple items => exprsNames items
  | .set items => exprsNames items
  | .dict entries => entriesNames entries
  | .starred e => exprNames e
  | .call f args => exprNames f ++ argsNames args
  | .attr e _ => exprNames e
  | .index e key => exprNames e ++ exprNames key
  | .slice a b c => optNames a ++ optNames b ++ optNames c
  | .unary _ e => exprNames e
  | .binary _ a b => exprNames a ++ exprNames b
  | .both a b => exprNames a ++ exprNames b
  | .either a b => exprNames a ++ exprNames b
  | .compare e rest => exprNames e ++ comparedNames rest
  | .choose t y n => exprNames t ++ exprNames y ++ exprNames n
  | .lambda ps defaults body _ =>
    defaultsNames defaults ++ want (free (exprNames body ++ { empty with bound := ps.all }))
  | .bind n e => Names.bind n ++ exprNames e
  | .build _ item value clauses =>
    -- the first list of items belongs to the scope around
    let inside := exprNames item ++ optNames value ++ clausesNames clauses
    firstItems clauses ++ want ((inside.used ++ inside.inner).filter fun x => !(clauseTargets clauses).contains x)
  | _ => empty

def optNames : Option Expr → Names
  | none => empty
  | some e => exprNames e

def exprsNames : List Expr → Names
  | [] => empty
  | e :: r => exprNames e ++ exprsNames r

def argsNames : List (ArgKind × Expr) → Names
  | [] => empty
  | (_, e) :: r => exprNames e ++ argsNames r

def comparedNames : List (Comparison × Expr) → Names
  | [] => empty
  | (_, e) :: r => exprNames e ++ comparedNames r

def defaultsNames : List (String × Expr) → Names
  | [] => empty
  | (_, e) :: r => exprNames e ++ defaultsNames r

def entriesNames : List (Option Expr × Expr) → Names
  | [] => empty
  | (k, e) :: r => optNames k ++ exprNames e ++ entriesNames r

def clausesNames : List (Expr × Expr × List Expr) → Names
  | [] => empty
  | (t, i, cs) :: r => exprNames t ++ exprNames i ++ exprsNames cs ++ clausesNames r

def firstItems : List (Expr × Expr × List Expr) → Names
  | [] => empty
  | (_, i, _) :: _ => exprNames i

/-- The names that the targets of a comprehension bind. -/
def clauseTargets : List (Expr × Expr × List Expr) → List String
  | [] => []
  | (t, _, _) :: r => targetBinds t ++ clauseTargets r

/-- The names that a target binds. -/
def targetBinds : Expr → List String
  | .name id => [id]
  | .tuple items => targetsBind items
  | .list items => targetsBind items
  | .starred e => targetBinds e
  | _ => []

def targetsBind : List Expr → List String
  | [] => []
  | e :: r => targetBinds e ++ targetsBind r

end

/-- The names of an assignment target: what it binds and what it uses. -/
def targetNames (e : Expr) : Names :=
  let bound := targetBinds e
  let n := exprNames e
  { n with bound := n.bound ++ bound, used := n.used.filter fun x => !bound.contains x }

def targetsNames : List Expr → Names
  | [] => empty
  | e :: r => targetNames e ++ targetsNames r

/-- The name that an import binds: the first part of a dotted one. -/
def importedName (module : String) (shortName : Option String) : String :=
  shortName.getD (String.ofList (module.toList.takeWhile (· != '.')))

mutual

def stmtNames : Stmt → Names
  | .expr e => exprNames e
  | .assign targets value => exprNames value ++ targetsNames targets
  | .augment target _ value => targetNames target ++ exprNames target ++ exprNames value
  | .annotate target value => targetNames target ++ optNames value
  | .give value => optNames value
  | .raise value => optNames value
  | .assert test message => exprNames test ++ optNames message
  | .delete targets => targetsNames targets
  | .global names => { empty with globals := names }
  | .nonlocal names => { empty with outer := names }
  | .imports modules => { empty with bound := modules.map fun m => importedName m.1 m.2 }
  | .importFrom _ names => { empty with bound := names.map fun n => n.2.getD n.1 }
  | .pass | .stop | .skip => empty
  | .choose test yes no => exprNames test ++ stmtsNames yes ++ stmtsNames no
  | .loop test body otherwise => exprNames test ++ stmtsNames body ++ stmtsNames otherwise
  | .each target items body otherwise =>
    targetNames target ++ exprNames items ++ stmtsNames body ++ stmtsNames otherwise
  | .define name _ ps defaults decorators body _ =>
    Names.bind name ++ defaultsNames defaults ++ exprsNames decorators ++
      want (free (stmtsNames body ++ { empty with bound := ps.all }))
  | .describe name _ args decorators body _ =>
    Names.bind name ++ argsNames args ++ exprsNames decorators ++ want (freeInClass (stmtsNames body))

def stmtsNames : List Stmt → Names
  | [] => empty
  | s :: r => stmtNames s ++ stmtsNames r

end

/-- What a function runs: statements, or one expression. -/
inductive Body where
  | block (body : List Stmt)
  | value (e : Expr)

def Body.names : Body → Names
  | block body => stmtsNames body
  | value e => exprNames e

/-- A function's parameters and body, the names it owns and those it takes from around it, and where it
stands. -/
structure Code where
  params : Params
  body : Body
  locals : List String
  free : List String
  globals : List String
  file : String
  row : Nat

def Code.of (params : Params) (body : Body) (file : String) (row : Nat) : Code :=
  let names := { empty with bound := params.all } ++ body.names
  ⟨params, body, names.locals, names.free, names.globals, file, row⟩

end Patchwork.Script
