import Patchwork.Log.Record
import Patchwork.Scenario.Spec

/-!
What can be asked of the engine: each part of it on its own, or a whole scenario.
-/

namespace Patchwork.Scenario

/-- A question about a setting. -/
inductive SettingQuery where
  | value (name : String)
  | isSet (name : String)
  | names

/-- A described log record. -/
structure RecordSpec where
  severity : Log.Severity
  message : ValueSpec
  args : List ValueSpec
  logger : String
  path : String
  line : ValueSpec
  created : ValueSpec

/-- A factory to patch, and how. -/
structure PatchJob where
  id : ValueSpec
  factory : FactorySpec
  patches : List (PatchSpec Step)
  /-- Development mode; by the environment if absent. -/
  dev : Option Bool
  /-- The width of diffs; by the environment if absent. -/
  diffContext : Option Int
  policy : Policy
  listeners : List (ListenerSpec Step)
  /-- Whether the factories run afterwards. -/
  run : Bool

/-- A text to make executable. -/
structure CompileJob where
  source : String
  id : ValueSpec
  owners : ValueSpec
  /-- The globals; fresh ones if absent. -/
  names : Option (List (String × ValueSpec))
  run : Bool

/-- An error of the engine itself. -/
inductive EngineError where
  | plain (text : String)
  | notCompiled (id : ValueSpec) (text : String)

inductive Task where
  | join (source : String)
  | normalize (source : String) (policy : Policy)
  | select (entries : List (String × Policy)) (versions : List ValueSpec) (default : Policy)
  | pattern (m : MatchSpec)
  | find (m : MatchSpec) (sources : List String)
  | substitute (r : RuleSpec Step) (sources : List String)
  | startCalls (texts : List String)
  | diff (before after : String)
  | context (before : String) (after : Option String) (pattern : MatchSpec) (width : Option Int)
  | moduleIds (keys : List ValueSpec)
  | exports (v : ValueSpec)
  | serialize (f : FactorySpec)
  | compile (job : CompileJob)
  | patch (job : PatchJob)
  | table (entries : List (ValueSpec × ValueSpec)) (patcher : String) (steps : List TableCommand)
  | settings (queries : List SettingQuery)
  | error (e : EngineError)
  | layout (format dateFormat : Option String) (mark : String) (records : List RecordSpec)
  | logging (config : Option String) (records : List RecordSpec)
  | session (shared : Bool) (steps : List Step)

end Patchwork.Scenario
