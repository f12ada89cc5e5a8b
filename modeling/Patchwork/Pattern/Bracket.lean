import Patchwork.Pattern.Escape

/-!
Character sets in brackets. By the newer rules sets nest and have operators.
-/

namespace Patchwork.Pattern

open Patchwork.Text Reader

/-- The operators between sets. -/
def setOperators : List String :=
  ["||", "~~", "&&", "--"]

/-- Whether an operator comes next; it is not taken. -/
def atOperator : Reader Bool := do
  let s ← get
  pure (setOperators.any fun op => (behind? s.verbose op.toList s.rest).isSome)

/-- Whether some text comes next; it is not taken. -/
def sees (w : String) : Reader Bool := do
  let s ← get
  pure (behind? s.verbose w.toList s.rest).isSome

/-- A class in colons. -/
def bracketClass : Reader (Option CharSet) := do
  let saved ← rest
  if !(← accept "[:") then pure none
  else
    let negated ← accept "^"
    let (name, value) ← propertyName
    if ← accept ":]" then some <$> propertyNamed name value true negated
    else setRest saved; pure none

mutual

/-- A union of sets with operators; the fuel bounds the nesting and the number of parts. -/
def setUnion : Nat → Reader CharSet
  | 0 => fail .openSet
  | fuel + 1 => do
    let s ← setSymmDiff fuel
    if ← accept "||" then pure (.union s (← setUnion fuel)) else pure s

def setSymmDiff : Nat → Reader CharSet
  | 0 => fail .openSet
  | fuel + 1 => do moreSymmDiff fuel (← setInter fuel)

def moreSymmDiff : Nat → CharSet → Reader CharSet
  | 0, _ => fail .openSet
  | fuel + 1, s => do
    if ← accept "~~" then moreSymmDiff fuel (.symmDiff s (← setInter fuel)) else pure s

def setInter : Nat → Reader CharSet
  | 0 => fail .openSet
  | fuel + 1 => do
    let s ← setDiff fuel
    if ← accept "&&" then pure (.inter s (← setInter fuel)) else pure s

def setDiff : Nat → Reader CharSet
  | 0 => fail .openSet
  | fuel + 1 => do moreDiff fuel (← setMembers fuel)

def moreDiff : Nat → CharSet → Reader CharSet
  | 0, _ => fail .openSet
  | fuel + 1, s => do
    if ← accept "--" then moreDiff fuel (.diff s (← setMembers fuel)) else pure s

/-- The members up to the closing bracket or an operator, which stay unread. -/
def setMembers : Nat → Reader CharSet
  | 0 => fail .openSet
  | fuel + 1 => do
    let s ← setMember fuel
    if ← sees "]" then pure s
    else if (← isNewer) && (← atOperator) then pure s
    else pure (.union s (← setMembers fuel))

/-- One member of a set: a character, a class, a set, or a range. A dash before the closing bracket or next
to a class stands for itself. -/
def setMember : Nat → Reader CharSet
  | 0 => fail .openSet
  | fuel + 1 => do
    let start ← setItem fuel
    match start with
    | .single low =>
      let saved ← rest
      if !(← accept "-") then pure start
      else if (← isNewer) && (← accept "-") then setRest saved; pure start
      else if ← sees "]" then pure (.union start (.single '-'))
      else
        match ← setItem fuel with
        | .single high => if high < low then fail .badRange else pure (.range low high)
        | stop => pure (.unionOf start [.single '-', stop])
    | s => pure s

def setItem : Nat → Reader CharSet
  | 0 => fail .openSet
  | fuel + 1 => do
    if ← accept "\\" then setEscape
    else
      match ← bracketClass with
      | some s => pure s
      | none =>
        if (← isNewer) && (← accept "[") then
          let negated ← accept "^"
          let s ← setUnion fuel
          expect "]"
          pure (if negated then .complement s else s)
        else
          match ← next false with
          | some c => pure (.single c)
          | none => fail .openSet

end

/-- The letters in a set that fold to several, as words of their own. -/
def foldedWords (s : CharSet) : List Node :=
  foldExpansions.toList.filterMap fun (n, letters) =>
    if s.holds (Char.ofNat n) then some (.word (letters.map Char.ofNat)) else none

/-- A set behind its opening bracket. White space counts in it. -/
def characterSet : Reader Node := do
  let saved := (← get).verbose
  modify fun s => { s with verbose := false }
  let negated ← accept "^"
  let fuel := 8 * (← rest).length + 8
  let s ← if ← isNewer then setUnion fuel else setMembers fuel
  expect "]"
  modify fun s => { s with verbose := saved }
  let casing ← casing
  if negated then pure (.set (.complement s) casing)
  else if casing = .full then pure ((foldedWords s).foldl .alt (.set s casing))
  else pure (.set s casing)

end Patchwork.Pattern
