import Patchwork.Number.Binary64

/-!
The syntax trees of scripts.
-/

namespace Patchwork.Script

inductive UnaryOp where
  | plus
  | minus
  | invert
  | not
  deriving DecidableEq

inductive BinaryOp where
  | add
  | subtract
  | multiply
  | matrix
  | divide
  | floorDivide
  | modulo
  | power
  | shiftLeft
  | shiftRight
  | bitAnd
  | bitOr
  | bitXor
  deriving DecidableEq

inductive Comparison where
  | equal
  | unequal
  | less
  | atMost
  | greater
  | atLeast
  | identical
  | distinct
  | member
  | absent
  deriving DecidableEq

/-- How an argument is passed. -/
inductive ArgKind where
  | positional
  | spread
  | named (name : String)
  | namedSpread
  deriving DecidableEq

/-- What a comprehension builds. -/
inductive Building where
  | list
  | set
  | dict
  | lazily
  deriving DecidableEq

/-- The parameters of a function; those before `plainOnly` cannot be named. -/
structure Params where
  plain : List String
  plainOnly : Nat
  rest : Option String
  namedOnly : List String
  namedRest : Option String
  deriving DecidableEq

namespace Params

def all (p : Params) : List String :=
  p.plain ++ p.namedOnly ++ p.rest.toList ++ p.namedRest.toList

end Params

inductive Expr where
  | none
  | ellipsis
  | bool (b : Bool)
  | int (n : Nat)
  | float (x : Number.Binary64)
  | imaginary (x : Number.Binary64)
  | str (s : String)
  | bytes (data : List UInt8)
  | name (id : String)
  | list (items : List Expr)
  | tuple (items : List Expr)
  | set (items : List Expr)
  | dict (entries : List (Option Expr × Expr))
  | starred (e : Expr)
  | call (f : Expr) (args : List (ArgKind × Expr))
  | attr (e : Expr) (name : String)
  | index (e : Expr) (key : Expr)
  | slice (start stop step : Option Expr)
  | unary (op : UnaryOp) (e : Expr)
  | binary (op : BinaryOp) (a b : Expr)
  | both (a b : Expr)
  | either (a b : Expr)
  | compare (first : Expr) (rest : List (Comparison × Expr))
  | choose (test yes no : Expr)
  | lambda (params : Params) (defaults : List (String × Expr)) (body : Expr) (row : Nat)
  | bind (name : String) (value : Expr)
  | build (kind : Building) (item : Expr) (value : Option Expr)
      (clauses : List (Expr × Expr × List Expr))
  deriving Inhabited

inductive Stmt where
  | expr (e : Expr)
  | assign (targets : List Expr) (value : Expr)
  | augment (target : Expr) (op : BinaryOp) (value : Expr)
  | annotate (target : Expr) (value : Option Expr)
  | give (value : Option Expr)
  | raise (value : Option Expr)
  | assert (test : Expr) (message : Option Expr)
  | delete (targets : List Expr)
  | global (names : List String)
  | nonlocal (names : List String)
  | imports (modules : List (String × Option String))
  | importFrom (module : String) (names : List (String × Option String))
  | pass
  | stop
  | skip
  | choose (test : Expr) (yes no : List Stmt)
  | loop (test : Expr) (body otherwise : List Stmt)
  | each (target : Expr) (items : Expr) (body otherwise : List Stmt)
  /-- A function: the name that it is bound to, and the one that it shows. -/
  | define (name shown : String) (params : Params) (defaults : List (String × Expr))
      (decorators : List Expr) (body : List Stmt) (row : Nat)
  /-- A class: the name that it is bound to, and the one that it shows. -/
  | describe (name shown : String) (args : List (ArgKind × Expr)) (decorators : List Expr)
      (body : List Stmt) (row : Nat)
  deriving Inhabited

end Patchwork.Script
