import Patchwork.Scenario.Factory
import Patchwork.Scenario.Logging
import Patchwork.Scenario.Text

/-!
The answer to a task, in a world of its own.
-/

namespace Patchwork.Scenario

/-- The report of a task. -/
def Task.report : Task → Act Snapshot
  | join source => joinReport source
  | normalize source policy => normalizeReport source policy
  | select entries versions default => selectReport entries versions default
  | pattern m => patternReport m
  | find m sources => findReport m sources
  | substitute r sources => substituteReport r sources
  | startCalls texts => pure (startCallsReport texts)
  | diff before after => pure (diffReport before after)
  | context before after m width => contextReport before after m width
  | moduleIds keys => moduleIdsReport keys
  | exports v => exportsReport v
  | serialize f => serializeReport f
  | compile job => compileReport job
  | patch job => patchReport job
  | table entries patcher steps => tableReport entries patcher steps
  | settings queries => settingsReport queries
  | error e => errorReport e
  | layout format dateFormat mark records => layoutReport format dateFormat mark records
  | logging config records => loggingReport config records
  | session _ steps => sessionReport steps

/-- The registry that a task uses. -/
def Task.registry : Task → Nat
  | session true _ => sharedRegistry
  | _ => ownRegistry

/-- The answer to a task in an environment. -/
def Task.answer (environment : Environment) (t : Task) : Snapshot :=
  outcome environment t.registry t.report

end Patchwork.Scenario
