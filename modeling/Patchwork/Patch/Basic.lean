import Patchwork.Value.Basic

/-!
Patches: which modules a rule set is for, and the replacements it makes.
-/

namespace Patchwork

/-- One find-and-replace rule. A count of zero rewrites all occurrences. -/
structure Rule where
  find : Value
  replace : Value
  predicate : Value
  count : Value
  deriving Inhabited

/-- A place in a patch's list of rules; what is no rule fails when its turn comes. -/
inductive RuleItem where
  | rule (r : Rule)
  | other (v : Value)

/-- An owner's declaration of a target and of the rules to apply to it in order. -/
structure Patch where
  owner : Value
  find : Value
  rules : List RuleItem
  predicate : Value
  /-- All rules apply, or none do. -/
  group : Bool
  /-- Stays registered behind the first module that it patches. -/
  applyToAll : Bool
  /-- Says nothing about rules without effect. -/
  quiet : Bool

/-- A patch that has been registered; the number tells apart occurrences of the same one. -/
structure Occurrence where
  number : Nat
  patch : Patch

/-- The outcome of patching one module: its factories, its text, and who contributed. -/
structure ModuleRecord where
  id : Value
  original : Value
  current : Value
  source : Option String
  patchedBy : List Value

/-- Whether a module runs another factory than its original one. -/
def ModuleRecord.isPatched (r : ModuleRecord) : Bool :=
  r.current ≠ r.original

/-- Rules are equal if all their parts are equal as keys. -/
def Rule.same (a b : Rule) : Bool :=
  Value.sameKey a.find b.find && Value.sameKey a.replace b.replace &&
    Value.sameKey a.predicate b.predicate && Value.sameKey a.count b.count

end Patchwork
