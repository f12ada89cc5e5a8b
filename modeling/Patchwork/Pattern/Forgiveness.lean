import Patchwork.Pattern.Bracket

/-!
Fuzzy constraints in braces: which slips a match may have, how many of each and at what cost.
-/

namespace Patchwork.Pattern

open Patchwork.Text Patchwork.Number Reader

/-- What constraints say so far: bounds by their letter, and a cost equation. -/
structure Constraints where
  bounds : List (Char × Bounds) := []
  prices : Option (List (Char × Nat) × Nat) := none
  stray : Option (CharSet × Casing) := none

namespace Constraints

def bounds? (c : Constraints) (letter : Char) : Option Bounds :=
  (c.bounds.find? (·.1 == letter)).map (·.2)

def price (c : Constraints) (letter : Char) : Nat :=
  match c.prices with
  | some (prices, _) => ((prices.find? (·.1 == letter)).map (·.2)).getD 0
  | none => 1

/-- The bounds of one kind of slip. A kind that is only priced is free; if any kind is named or priced, the
others are ruled out. -/
def boundsOf (c : Constraints) (letter : Char) : Bounds :=
  let priced (l : Char) := c.prices.any fun (prices, _) => prices.any (·.1 == l)
  let named (l : Char) := (c.bounds? l).isSome || priced l
  match c.bounds? letter with
  | some b => b
  | none =>
    if priced letter then ⟨0, none⟩
    else if ['d', 'i', 's'].any named then ⟨0, some 0⟩
    else ⟨0, none⟩

/-- Without a cost equation every slip costs one and the bound on all slips is the greatest cost. -/
def limits (c : Constraints) : Limits where
  substitutions := c.boundsOf 's'
  insertions := c.boundsOf 'i'
  deletions := c.boundsOf 'd'
  total := (c.bounds? 'e').getD ⟨0, none⟩
  price := ⟨c.price 's', c.price 'i', c.price 'd'⟩
  most := match c.prices with
    | some (_, most) => some most
    | none => (c.bounds? 'e').bind (·.high)
  stray := c.stray

end Constraints

/-- A reader that may find no such form. -/
abbrev Attempt := OptionT Reader

/-- One way to read, or another one from the same place. -/
def Attempt.orFromHere {α : Type} (m n : Attempt α) : Attempt α := do
  let saved ← get
  m <|> (do set saved; n)

/-- How two numbers are compared: whether equality is allowed. -/
def comparison : Attempt Bool := do
  if ← accept "<=" then pure true
  else if ← accept "<" then pure false
  else failure

def digits : Reader (Option Nat) := do
  pure (natOf? (← takeRun Char.isDigit))

/-- A number of slips. -/
def costLimit : Reader Nat := do
  let start ← place
  match ← digits with
  | some n => pure n
  | none => failAt .badCost start

/-- The letter of a kind of slip that no constraint has named yet. -/
def slipLetter (c : Constraints) : Attempt Char := do
  match ← OptionT.lift (next false) with
  | some l => if ['d', 'e', 'i', 's'].contains l && (c.bounds? l).isNone then pure l else failure
  | none => failure

/-- A kind of slip with its greatest number, if one is given. -/
def upperBound (c : Constraints) : Attempt Constraints := do
  let l ← slipLetter c
  let bound (high : Option Nat) : Constraints := { c with bounds := c.bounds ++ [(l, ⟨0, high⟩)] }
  match ← OptionT.lift comparison.run with
  | none => pure (bound none)
  | some closed =>
    let start ← place
    let n ← costLimit
    if closed then pure (bound (some n))
    else if n = 0 then failAt .badCost start
    else pure (bound (some (n - 1)))

/-- A kind of slip between its least and its greatest number. -/
def bothBounds (c : Constraints) : Attempt Constraints := do
  let low ← costLimit
  let lowClosed ← comparison
  let l ← slipLetter c
  let highClosed ← comparison
  let start ← place
  let high ← costLimit
  let low := if lowClosed then low else low + 1
  let high := if highClosed then high + 1 else high
  if high ≤ low then failAt .badCost start
  else pure { c with bounds := c.bounds ++ [(l, ⟨low, some (high - 1)⟩)] }

/-- One constraint, which starts with its letter or with its least number. -/
def bound (c : Constraints) : Attempt Constraints := do
  match (← rest).head? with
  | some l => if l.isDigit then bothBounds c else upperBound c
  | none => failure

/-- The terms of a cost equation; the fuel bounds their number. -/
def costTerms : Nat → List (Char × Nat) → Attempt (List (Char × Nat))
  | 0, _ => failure
  | fuel + 1, prices => do
    let factor ← OptionT.lift digits
    match ← OptionT.lift (next false) with
    | some l =>
      if !(['d', 'i', 's'].contains l) then failure
      else if prices.any (·.1 == l) then fail .repeatedCost
      else
        let prices := prices ++ [(l, factor.getD 1)]
        if ← accept "+" then costTerms fuel prices else pure prices
    | none => failure

/-- A sum of priced kinds of slip and its bound. -/
def costEquation (c : Constraints) : Attempt Constraints := do
  if c.prices.isSome then fail .secondCost
  let prices ← costTerms 8 []
  let closed ← comparison
  match ← OptionT.lift digits with
  | none => failure
  | some most =>
    if most = 0 ∧ !closed then fail .badCost
    else pure { c with prices := some (prices, if closed then most else most - 1) }

/-- Constraints apart by commas; the fuel bounds their number. -/
def constraintList : Nat → Constraints → Attempt Constraints
  | 0, _ => failure
  | fuel + 1, c => do
    let c ← (bound c).orFromHere (costEquation c)
    if ← accept "," then constraintList fuel c else pure c

/-- Which characters may stray: a character, an escape or a set. -/
def straySet : Reader (CharSet × Casing) := do
  let start ← place
  match ← next false with
  | some '\\' => ofNode start (← escape)
  | some '[' => ofNode start (← characterSet)
  | some '.' =>
    if ← has .dotAll then pure (.complement (.tables []), .exact)
    else pure (.complement (.single '\n'), .exact)
  | some c => if ")|?*+^$(\x7b".toList.contains c then failAt .noStraySet start else pure (.single c, ← casing)
  | none => failAt .noStraySet start
where
  ofNode (start : Nat) : Node → Reader (CharSet × Casing)
    | .char c casing => pure (.single c, casing)
    | .set s casing => pure (s, casing)
    | _ => failAt .noStraySet start

/-- Fuzzy constraints behind their opening brace; `none`, and nothing taken, if there are none. -/
def constraints : Reader (Option Limits) := do
  let saved ← get
  match ← (constraintList 16 {}).run with
  | none => set saved; pure none
  | some c =>
    let c ← if ← accept ":" then do pure { c with stray := some (← straySet) } else pure c
    if !(← accept "\x7d") then fail .openConstraint
    pure (some c.limits)

end Patchwork.Pattern
