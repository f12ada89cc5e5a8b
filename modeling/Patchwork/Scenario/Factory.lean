import Patchwork.Scenario.Callback
import Patchwork.Scenario.Task

/-!
Answers about exports, factories and tables.
-/

namespace Patchwork.Scenario

open Run Script

def moduleIdsReport (keys : List ValueSpec) : Act Snapshot := do
  let keys ← buildAll callHost keys
  pure (.fields [("ids", .list (keys.map fun k => .bool (isModuleId k)))])

def exportsReport (v : ValueSpec) : Act Snapshot := do
  let e ← exportsOf callHost (← build callHost v)
  pure (.fields [("kind", .str e.kind.name), ("exports", ← snapshot e.value),
    ("default", ← snapshot e.default), ("candidates", .list (← snapshots e.candidates))])

def serializeReport (f : FactorySpec) : Act Snapshot := do
  pure (.fields [("text", .str (← sourceText (← buildFactory callHost f)))])

/-- The runs of factories, under their names, with the events in them. -/
def runMembers (wanted : Bool) (id : Value) (factories : List (String × Value)) : Act (List (String × Snapshot)) := do
  if wanted then
    clearTrace
    let ended ← factories.mapM fun (name, f) => do pure (name, ← runFactory callHost id f .none)
    pure (ended ++ [("run_trace", ← traceSnapshot)])
  else pure []

/-- The file that the code of a function comes from. -/
def fileOf (h : Heap) (v : Value) : Option String :=
  match h.at? v with
  | some (.function f) => some f.code.file
  | _ => none

/-- A recompiled text: its function, what was registered, and the globals that it left. -/
def compileReport (job : CompileJob) : Act Snapshot := do
  let id ← build callHost job.id
  let owners ← Script.items callHost (← build callHost job.owners)
  let globals ← match job.names with
    | some names => do
      let es ← buildNamed callHost names
      pure (some (← alloc (.dict (es.foldl (fun d e => Value.insert d (.str e.1) e.2) []))))
    | none => pure none
  let f ← recompile callHost job.source id owners globals
  let file := (fileOf (← heap) f).getD ""
  let name ← attrOrNull callHost f "__name__"
  let tag ← attrOrNull callHost f ownersAttr
  let text ← sourceText f
  let registered := String.ofList (← sourceLines file).flatten
  let names ← match globals with
    | some a => do
      let keys := (← entries a).map (·.1)
      pure [("ns", .list (← snapshots (keys.filter fun k => !Value.sameKey k (.str "__builtins__"))))]
    | none => pure []
  let ended ← runMembers job.run id [("run", f)]
  pure (.fields ([("name", name), ("tag", tag), ("text", .str text), ("file", .str file),
    ("registered", .str registered)] ++ names ++ ended))

/-- The registry whose patches one factory is patched with. -/
def spareRegistry : Nat := 2

/-- A factory after patching, or why patching failed; with the patches that are left. -/
def patchReport (job : PatchJob) : Act Snapshot := do
  let id ← build callHost job.id
  let factory ← buildFactory callHost job.factory
  let patches ← job.patches.mapM (buildPatch callHost)
  let listeners ← job.listeners.mapM buildListener
  patches.forM fun p => carryOut callHost (.register spareRegistry p)
  clearTrace
  let patched : Act (ModuleRecord ⊕ List (String × Snapshot)) := tryCatch (do
    let e := (← world).environment
    let width ← match job.diffContext with
      | some n => pure n
      | none => diffWidth
    let r ← applyPatches callHost id factory spareRegistry listeners job.policy (job.dev.getD e.isDev) width
    pure (.inl r)) fun
      | .failed c => do
        let (kind, message) ← describe c
        pure (.inr [("error", .str kind), ("message", .str message)])
      | .exhausted => throw .exhausted
  let ended ← patched
  let trace ← traceSnapshot
  let remaining : Snapshot :=
    .list (← snapshots ((← registry spareRegistry).patches.map (·.patch.owner)))
  match ended with
  | .inr failure => pure (.fields (failure ++ [("trace", trace), ("remaining", remaining)]))
  | .inl r =>
    let current := Snapshot.fields [("name", ← attrOrNull callHost r.current "__name__"),
      ("tag", ← attrOrNull callHost r.current ownersAttr), ("text", ← sourceOrNull r.current)]
    let record ← recordSnapshot r
    let runs ← runMembers job.run id [("run", r.current), ("run_original", r.original)]
    pure (.fields ([("record", record), ("current", current), ("trace", trace), ("remaining", remaining)] ++ runs))

/-- Commands on a table whose factories a stand-in patches. -/
def tableReport (es : List (ValueSpec × ValueSpec)) (patcher : String) (steps : List TableCommand) :
    Act Snapshot := do
  let es ← buildEntries callHost [] es
  let f ← newFunction (.patcher patcher) "<function patcher>"
  let table ← new (.table (Table.of es f))
  let reports ← steps.mapM fun c => stepReport (runCommand callHost table c)
  pure (.fields [("steps", .list reports)])

/-- The steps of a scenario. -/
def sessionReport (steps : List Step) : Act Snapshot := do
  let reports ← steps.mapM fun s => stepReport (perform callHost s)
  pure (.fields [("steps", .list reports)])

def errorReport : EngineError → Act Snapshot
  | .plain text => pure (.fields [("text", .str text), ("is_base", .bool true), ("module_id", .null)])
  | .notCompiled id text => do
    let id ← build callHost id
    pure (.fields [("text", .str ("Module " ++ (← str id) ++ ": " ++ text)), ("is_base", .bool true),
      ("module_id", ← snapshot id)])

end Patchwork.Scenario
