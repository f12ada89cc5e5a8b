import Patchwork.Scenario.Callback
import Patchwork.Scenario.Task
import Patchwork.Source.Normalize

/-!
Answers about texts: their continued lines, their policies, their differences, and what matches in them.
-/

namespace Patchwork.Scenario

open Run Script

/-- The rows of comments and the joined text. -/
def joinReport (source : String) : Act Snapshot := do
  let rows : Snapshot := match Source.commentRows? source.toList with
    | some rows => .list (rows.map fun (n : Nat) => .int n)
    | none => .null
  let text ← joinContinuations source
  pure (.fields [("rows", rows), ("text", .str text), ("trace", ← traceSnapshot)])

def normalizeReport (source : String) (policy : Policy) : Act Snapshot := do
  let text ← normalize policy source
  pure (.fields [("text", .str text), ("trace", ← traceSnapshot)])

/-- The policies that versions choose among the registered ones. -/
def selectReport (entries : List (String × Policy)) (versions : List ValueSpec) (default : Policy) :
    Act Snapshot := do
  let table ← entries.foldlM (fun (t : PolicyTable) (e : String × Policy) =>
    match t.register e.1 e.2 with
    | .ok t => pure t
    | .error text => fail (.versionCondition text)) ⟨default, []⟩
  let names ← versions.mapM fun v => do
    pure (Snapshot.str (← choosePolicy table (← build callHost v)).name)
  pure (.fields [("names", .list names), ("trace", ← traceSnapshot)])

def flagNames (p : Pattern) : Snapshot :=
  .list (p.keptFlags.map fun f => .str f.2)

/-- The canonical form of what a rule looks for. -/
def patternReport (m : MatchSpec) : Act Snapshot := do
  match ← Matcher.of (← buildMatch callHost m) with
  | .literal text => pure (.fields [("literal", .str text)])
  | .pattern p => pure (.fields [("pattern", .str p.source), ("flags", flagNames p)])

def findReport (m : MatchSpec) (sources : List String) : Act Snapshot := do
  let v ← buildMatch callHost m
  let isPattern := match v with
    | .pattern _ => true
    | _ => false
  let matcher ← Matcher.of v
  pure (.fields [("is_pattern", .bool isPattern),
    ("found", .list (sources.map fun s => .bool (matcher.isIn s.toList)))])

/-- The canonical form of a rule, and what it makes of texts. -/
def substituteReport (r : RuleSpec Step) (sources : List String) : Act Snapshot := do
  match ← buildRule callHost r with
  | .other v => noAttribute v "match"
  | .rule r =>
    let ready ← r.ready
    let p := ready.matcher.toPattern
    let replacement ← match ready.replacement with
      | .literal _ => pure (Snapshot.str "function")
      | .value v => do
        if isCallable (← heap) v then pure (.str "function") else snapshot v
    let count ← snapshot ready.count
    let results ← sources.mapM fun s => orFailure do pure (.str (← ready.apply callHost s))
    pure (.fields [("pattern", .str p.source), ("flags", flagNames p), ("count", count),
      ("repl", replacement), ("results", .list results)])

/-- Where texts start their host. -/
def startCallsReport (texts : List String) : Snapshot :=
  .fields [("spans", .list (texts.map fun s =>
    match startPattern.search? s.toList with
    | some m => .list [.int m.start, .int m.stop]
    | none => .null))]

def diffReport (before after : String) : Snapshot :=
  .fields [("diff", .str (String.ofList (Diff.wordDiff before.toList after.toList)))]

/-- How many characters a diff shows on each side of a match. -/
def standardWidth : Int := 200

def contextReport (before : String) (after : Option String) (m : MatchSpec) (width : Option Int) :
    Act Snapshot := do
  match ← buildMatch callHost m with
  | .pattern p =>
    let old := before.toList
    let new := (after.getD before).toList
    let place := (p.search? old).map fun m => ⟨m.start, m.stop⟩
    let (oldPart, newPart) := Diff.context old new place (width.getD standardWidth)
    pure (.fields [("before", .str (String.ofList oldPart)), ("after", .str (String.ofList newPart)),
      ("diff", .str (String.ofList (Diff.wordDiff oldPart newPart)))])
  | v => noAttribute v "search"

/-- A setting, or whether it is set, or the names of those that are. -/
def settingReport (e : Environment) : SettingQuery → Act Snapshot
  | .names => do
    pure (.list ((Setting.all.map Setting.key).mergeSort (fun a b => a ≤ b) |>.map .str))
  | .isSet name =>
    match Setting.ofKey? name with
    | some s => pure (.bool (e.isSet s.key))
    | none => fail (.noModuleAttribute "hostpatch.envs" name)
  | .value name =>
    match Setting.ofKey? name with
    | none => fail (.noModuleAttribute "hostpatch.envs" name)
    | some s =>
      match s.read e with
      | .ok .none => pure .null
      | .ok (.bool b) => pure (.bool b)
      | .ok (.int n) => pure (.int n)
      | .ok (.text t) => pure (.str t)
      | .error text => fail (.notInteger text)

def settingsReport (queries : List SettingQuery) : Act Snapshot := do
  let e := (← world).environment
  pure (.fields [("values", .list (← queries.mapM fun q => orFailure (settingReport e q)))])

end Patchwork.Scenario
