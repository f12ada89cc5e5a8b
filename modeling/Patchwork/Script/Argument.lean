import Patchwork.Script.Eval

/-!
What built-in functions and methods ask of their arguments.
-/

namespace Patchwork.Script

open Run

variable {κ : Type} {R : World κ → World κ → Prop} [Still R]

/-- Between `least` and `most` positional arguments. -/
def checkCount (function : String) (least most : Nat) (args : Arguments) : Within R Unit := do
  let n := args.positional.length
  if !args.named.isEmpty then fail (.noNamed function)
  if n < least then
    let bound := if least = most then "" else "at least "
    mistyped s!"{function} expected {bound}{least} argument{Cause.plural least}, got {n}"
  if most < n then
    let bound := if least = most then "" else "at most "
    mistyped s!"{function} expected {bound}{most} argument{Cause.plural most}, got {n}"

/-- The one argument of a function that takes exactly one. -/
def onlyArgument (function : String) (args : Arguments) : Within R Value := do
  if !args.named.isEmpty then fail (.noNamed function)
  match args.positional with
  | [v] => pure v
  | vs => fail (.exactlyOne function vs.length)

def noArguments (function : String) (args : Arguments) : Within R Unit := do
  if !args.named.isEmpty then fail (.noNamed function)
  if !args.positional.isEmpty then fail (.takesNone function args.positional.length)

/-- A whole number as an argument. -/
def wholeArgument (v : Value) : Within R Int := do
  match ((← heap).core v).integer? with
  | some n => pure n
  | none => do fail (.needsInteger (← kindOf v))

/-- A whole number that a machine word of a sort holds. -/
def wordArgument (bits : Nat) (sort : String) (v : Value) : Within R Int := do
  let n ← wholeArgument v
  if n < -(Int.pow 2 (bits - 1)) ∨ Int.pow 2 (bits - 1) ≤ n then
    fail (.raised .overflow [.str s!"Python int too large to convert to C {sort}"])
  pure n

/-- A place or a size as an argument. -/
def sizeArgument (v : Value) : Within R Int :=
  wordArgument 64 "ssize_t" v

/-- A small number as an argument. -/
def smallArgument (v : Value) : Within R Int :=
  wordArgument 32 "int" v

end Patchwork.Script
