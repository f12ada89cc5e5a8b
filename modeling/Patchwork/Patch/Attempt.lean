import Patchwork.Diff.Context
import Patchwork.Diff.Words
import Patchwork.Patch.Rewrite
import Patchwork.Source.Normalize

/-!
Trying one patch on a module: its rules are applied in order, each to the text that the ones before it left. A
group contributes as a whole or not at all.
-/

namespace Patchwork

open Run Script

variable {κ : Type} {R : World κ → World κ → Prop} [Still R]

/-- Where the patching of a module stands: its factory, its text, and the owners that contributed. -/
structure Progress where
  current : Value
  code : String
  owners : List Value

/-- What all rules of one run are applied with. -/
structure Setup where
  id : Value
  globals : Option Address
  dev : Bool
  diffContext : Int

/-- How a rule ended. -/
inductive RuleOutcome where
  | skipped
  | applied
  | noEffect
  | failed (c : Cause)

namespace RuleItem

/-- The condition of a rule; what is no rule has none to ask. -/
def condition : RuleItem → Within R Value
  | rule r => pure r.predicate
  | other v => noAttribute v "predicate"

end RuleItem

/-- Whether a condition holds; one that is absent does. -/
def holdsNow (call : Caller κ) [Calls call R] (condition : Value) : Within R Bool := do
  match condition with
  | .none => pure true
  | v => do truth call (← ask call v (.of []))

/-- Shows the surroundings of a failed rewrite. -/
def logDiff (before : String) (after : Option String) (p : Pattern.Program) (width : Int) : Within R Unit := do
  let old := before.toList
  let new := (after.getD before).toList
  let place := (p.search? old).map fun m => ⟨m.start, m.stop⟩
  let (oldPart, newPart) := Diff.context old new place width
  log .error ("Before:\n" ++ String.ofList oldPart)
  log .error ("After:\n" ++ String.ofList newPart)
  log .error ("Diff:\n" ++ String.ofList (Diff.wordDiff oldPart newPart))

/-- Adds an owner unless an equal one is there. -/
def addOwner (owners : List Value) (owner : Value) : Within R (List Value) := do
  let h ← heap
  pure (if owners.any fun o => h.same o owner then owners else owners ++ [owner])

/-- Rewrites and recompiles by one rule. The progress keeps what was reached before a failure, which comes
with the canonical pattern and the rewritten text as far as they were known. -/
def attempt (call : Caller κ) [Calls call R] (s : Setup) (patch : Patch) (r : Rule) (p : Progress) :
    Within R (Progress × RuleOutcome × Option Pattern.Program × Option String) :=
  handle (do
    let ready ← r.ready
    let program := ready.matcher.program
    handle (do
      let code ← ready.apply call p.code
      if code = p.code then pure (p, .noEffect, some program, some code)
      else
        handle (do
          let owners ← addOwner p.owners patch.owner
          handle (do
            let current ← recompile call code s.id owners s.globals
            pure (⟨current, code, owners⟩, .applied, some program, some code))
            fun c => pure ({ p with owners }, .failed c, some program, some code))
          fun c => pure (p, .failed c, some program, some code))
      fun c => pure (p, .failed c, some program, none))
    fun c => pure (p, .failed c, none, none)

/-- Reports how a rule ended. -/
def report (s : Setup) (patch : Patch) (r : Rule) (before : String)
    (outcome : RuleOutcome) (program : Option Pattern.Program) (after : Option String) : Within R Unit := do
  let owner ← str patch.owner
  let id ← str s.id
  let rule ← str r.find
  match outcome with
  | .noEffect =>
    if !patch.quiet then
      log .warning s!"Patch by {owner} had no effect (module id is {id}): {rule}"
      if s.dev then log .debug ("Function source:\n" ++ before)
    if patch.group then
      log .warning
        s!"Undoing patch group {← str patch.find} by {owner} because replacement {rule} had no effect"
  | .failed c =>
    logFailure s!"Patch by {owner} errored (module id is {id}): {rule}" c
    match s.dev, program with
    | true, some p => logDiff before after p s.diffContext
    | _, _ => pure ()
    if patch.group then
      log .warning
        s!"Undoing patch group {← str patch.find} by {owner} because replacement {rule} errored"
  | _ => pure ()

/-- Applies one rule. -/
def applyRule (call : Caller κ) [Calls call R] (s : Setup) (patch : Patch) (item : RuleItem) (p : Progress) :
    Within R (Progress × RuleOutcome) := do
  if !(← holdsNow call (← item.condition)) then pure (p, .skipped)
  else
    match item with
    | .rule r =>
      let (p', outcome, program, after) ← attempt call s patch r p
      report s patch r p.code outcome program after
      pure (p', outcome)
    | .other _ => pure (p, .skipped)

/-- Applies rules in order and says whether they contributed. In a group the first rule without effect or
with an error takes back all of them, back to `start`. -/
def applyRules (call : Caller κ) [Calls call R] (s : Setup) (patch : Patch) (start : Progress)
    (contributed : Bool) (p : Progress) : List RuleItem → Within R (Progress × Bool)
  | [] => pure (p, contributed)
  | item :: rest => do
    let (p, outcome) ← applyRule call s patch item p
    match outcome, patch.group with
    | .skipped, _ => applyRules call s patch start contributed p rest
    | .applied, _ => applyRules call s patch start true p rest
    | _, true => pure (start, false)
    | _, false => applyRules call s patch start contributed p rest

/-- Tries one patch on a module, and says whether it contributed. -/
def tryPatch (call : Caller κ) [Calls call R] (s : Setup) (patch : Patch) (p : Progress) :
    Within R (Progress × Bool) := do
  if !(← holdsNow call patch.predicate) then pure (p, false)
  else if !(← Matcher.of patch.find).isIn p.code.toList then pure (p, false)
  else
    let (p', contributed) ← applyRules call s patch p false p patch.rules
    pure (if contributed then p' else { p' with owners := p.owners }, contributed)

end Patchwork
