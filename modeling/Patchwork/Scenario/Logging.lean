import Patchwork.Log.Setup
import Patchwork.Scenario.Callback
import Patchwork.Scenario.Task

/-!
Answers about log records: the lines that layouts make of them, and what a setup writes.
-/

namespace Patchwork.Scenario

open Run

def buildRecord (r : RecordSpec) : Act Log.Record := do
  let message ← build callHost r.message
  let args ← buildAll callHost r.args
  let line ← build callHost r.line
  let created ← build callHost r.created
  pure { severity := r.severity, message, args, logger := r.logger, path := r.path, line,
         created := (Script.double? created).getD (.ofInt 0) }

/-- The lines of records in a layout; the first fault is reported in place of all of them. -/
def recordLines (l : Log.Layout) : List RecordSpec → Act (List Snapshot ⊕ Snapshot)
  | [] => pure (.inl [])
  | r :: rest => do
    let record ← buildRecord r
    let message ← messageText record.message record.args
    match l.text (← heap) record message with
    | .error f => pure (.inr (.failure f.kind.name f.message))
    | .ok line =>
      match ← recordLines l rest with
      | .inl lines => pure (.inl (.str line :: lines))
      | fault => pure fault

def layoutReport (format dateFormat : Option String) (mark : String) (records : List RecordSpec) :
    Act Snapshot := do
  match Log.Layout.make format dateFormat mark true with
  | .error f => pure (.failure f.kind.name f.message)
  | .ok l =>
    match ← recordLines l records with
    | .inl lines => pure (.fields [("lines", .list lines)])
    | .inr fault => pure fault

def handlerSnapshot (h : Log.Handler) : Snapshot :=
  .list [.str h.kind.name, .str h.severity.name,
    .str ((h.layout.map Log.layoutName).getD "NoneType")]

/-- The file that holds a given configuration. -/
def configPath : String := "logging.json"

/-- What loggers write of records, up to the first fault. -/
def writtenBy (s : Log.Loggers) : List RecordSpec → Act (Except Log.LayoutFault String)
  | [] => pure (.ok "")
  | r :: rest => do
    let record ← buildRecord r
    let message ← handle (do pure (some (← messageText record.message record.args))) fun _ => pure none
    match s.output (← heap) record message with
    | .error f => pure (.error f)
    | .ok text => do pure ((← writtenBy s rest).map (text ++ ·))

/-- The engine's logger after its setup, and what it writes of records. A given configuration stands in a
file that the environment names. -/
def loggingReport (config : Option String) (records : List RecordSpec) : Act Snapshot := do
  let e := (← world).environment
  let e := if config.isSome then e.set Setting.loggingConfigPath.key configPath else e
  match Log.loggersFor e config with
  | .error f => pure (.failure f.kind f.message)
  | .ok s =>
    let lead := (Log.settingText e .loggingPrefix).getD ""
    match ← writtenBy s records with
    | .error f => pure (.failure f.kind.name f.message)
    | .ok written => pure (.fields [("level", .str s.own.severity.name), ("propagate", .ofJson s.own.propagate),
      ("handlers", .list (s.own.handlers.map handlerSnapshot)),
      ("default_format", .str (Log.standardFormat lead)), ("output", .str written)])

end Patchwork.Scenario
