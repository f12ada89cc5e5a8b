import Patchwork.Patch.Recompile
import Patchwork.Pattern.Template

/-!
Rules on text. A literal rule replaces its text as it stands; the template of a pattern rule may refer to
groups. A function as replacement is asked anew for each match.
-/

namespace Patchwork

open Run Script

variable {κ : Type} {R : World κ → World κ → Prop} [Still R]

/-- What a rule looks for. -/
inductive Matcher where
  | literal (text : String)
  | pattern (p : Pattern)

namespace Matcher

/-- The canonical form of what is looked for: text, or a pattern in the extended dialect with the kept flags
only. -/
def of (v : Value) : Within R Matcher := do
  checkKey v
  match v with
  | .str s => pure (literal s)
  | .pattern p =>
    match p.canonical with
    | .ok p => pure (pattern p)
    | .error f => fail (.pattern f p.source.toList)
  | v => do fail (.notPattern ((← heap).typeName false v))

/-- The pattern of a matcher. -/
def toPattern : Matcher → Pattern
  | literal text => .ofLiteral text
  | pattern p => p

def program : Matcher → Pattern.Program
  | literal text => Pattern.literalProgram text
  | pattern p => p.program

def isIn (m : Matcher) (source : List Char) : Bool :=
  match m with
  | literal text => Text.contains text.toList source
  | pattern p => (p.search? source).isSome

end Matcher

/-- What stands in for a match. -/
inductive Replacement where
  /-- Text as it is. -/
  | literal (text : String)
  /-- A template or a function. -/
  | value (v : Value)

/-- A rule ready to be applied. -/
structure ReadyRule where
  matcher : Matcher
  replacement : Replacement
  count : Value

/-- A rule in its canonical form. Of equal rules the one seen first counts. -/
def Rule.ready (r : Rule) : Within R ReadyRule := do
  [r.find, r.replace, r.predicate, r.count].forM checkKey
  let w ← world
  let known := w.rules.find? r.same
  let r' := known.getD r
  let matcher ← Matcher.of r'.find
  if known.isNone then setRules (r :: w.rules)
  let replacement : Replacement :=
    match matcher, r'.replace with
    | .literal _, .str s => .literal s
    | _, v => .value v
  pure ⟨matcher, replacement, r'.count⟩

/-- How many matches a count allows; `none` for all of them. Counts below zero allow none. -/
def limitOf (count : Value) : Within R (Option Nat) := do
  match count.integer? with
  | none => do fail (.needsInteger (← kindOf count))
  | some n =>
    if n < -(Int.pow 2 63) ∨ Int.pow 2 63 ≤ n then fail .integerTooLarge
    else if n = 0 then pure none
    else pure (some n.toNat)

/-- The match as a function is given it. -/
def foundValue (p : Pattern.Program) (text : Array Char) (m : Pattern.Match) : Within R Value :=
  new (.found ((List.range (p.groups + 1)).map fun n => (m.group? text n).map String.ofList) p.names)

/-- The text that a value given for a match stands for: nothing stands for the empty text. -/
def replacementText (v : Value) : Within R (List Char) := do
  match v with
  | .none => pure []
  | .str s => pure s.toList
  | v => do fail (.expectedText (← kindOf v))

/-- The pieces of a template. -/
def templatePieces (p : Pattern.Program) (template : Value) : Within R (List Pattern.Piece) := do
  match template with
  | .str s =>
    match Pattern.Template.pieces p s.toList with
    | .ok pieces => pure pieces
    | .error .unknownName => fail .unknownGroup
    | .error (.fault f) => fail (.pattern f s.toList)
  | .bytes _ => do fail (.expectedText (← kindOf template))
  | v => noAttribute v "decode"

/-- What stands in for one match. -/
def filledTemplate (p : Pattern.Program) (text : Array Char) (pieces : List Pattern.Piece)
    (m : Pattern.Match) : Within R (List Char) :=
  match Pattern.fill? p text m pieces with
  | some s => pure s
  | none => fail (.pattern ⟨.badGroup, none⟩ [])

/-- The matches of a ready rule, in the order of the search, each with what stands in for it. -/
def ReadyRule.changes (call : Caller κ) [Calls call R] (r : ReadyRule) (p : Pattern.Program) (source : List Char)
    (limit : Option Nat) : Within R (List (Pattern.Match × List Char)) := do
  let text := source.toArray
  let found := p.occurrences source limit
  match r.replacement with
  | .literal s => pure (found.map fun m => (m, s.toList))
  | .value v =>
    if isCallable (← heap) v then
      found.mapM fun m => do pure (m, ← replacementText (← ask call v (.of [← foundValue p text m])))
    else do
      let pieces ← templatePieces p v
      found.mapM fun m => do pure (m, ← filledTemplate p text pieces m)

/-- The text that a ready rule makes of another; text too short for any match stays as it is. -/
def ReadyRule.apply (call : Caller κ) [Calls call R] (r : ReadyRule) (source : String) : Within R String := do
  let limit ← limitOf r.count
  let p := r.matcher.program
  let cs := source.toList
  if cs.length < p.root.width then pure source
  else
    let changes ← r.changes call p cs limit
    pure (String.ofList (Pattern.splice cs 0 (if p.backward then changes.reverse else changes)))

end Patchwork
