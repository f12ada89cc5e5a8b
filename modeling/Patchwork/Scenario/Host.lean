import Patchwork.Machine
import Patchwork.Scenario.Spec

/-!
The described host at work: what it keeps, and how its values come to be.
-/

namespace Patchwork.Scenario

open Run Script

/-- A function of the host. -/
inductive External where
  | condition (name : Option String) (answers : List ValueSpec) (actions : List Step) (error : Option String)
  | replacer (r : ReplaceSpec)
  | listener (l : ListenerSpec Step)
  | filter (f : FilterSpec Step)
  /-- Stands in for the patching of a table's factories. -/
  | patcher (mode : String)
  deriving Inhabited

/-- What the host keeps by name, and its functions with the number of calls so far. -/
structure Host where
  functions : Array (External × Nat)
  chunks : Nat
  filters : List (String × Value)
  saved : List (String × Value)
  patches : List (String × Patch)
  classes : List (String × Address)
  runtimes : List (String × Value)
  registry : Nat

def Host.start (registry : Nat) : Host :=
  ⟨#[], 0, [], [], [], [], [], registry⟩

/-- The registry of the process. -/
def sharedRegistry : Nat := 0

/-- The registry of one scenario. -/
def ownRegistry : Nat := 1

variable {R : World Host → World Host → Prop} [Moves R]

def host : Within R Host := do
  pure (← world).host

/-- Makes a function of the host with a printed form. -/
def newFunction (f : External) (text : String) : Within R Value := do
  let n := (← host).functions.size
  modifyHost fun h => { h with functions := h.functions.push (f, 0) }
  new (.external n text)

/-- Counts a call of a function and returns its number, the first being one. -/
def countCall (n : Nat) : Within R Nat := do
  match (← host).functions[n]? with
  | some (f, k) =>
    modifyHost fun h => { h with functions := h.functions.setIfInBounds n (f, k + 1) }
    pure (k + 1)
  | none => pure 0

def runtimeNamed (name : String) : Within R Value := do
  match Attributes.get? (← host).runtimes name with
  | some v => pure v
  | none => fail (.noKey (.str name))

def classNamed (name : String) : Within R Address := do
  match (← host).classes.find? (·.1 == name) with
  | some (_, a) => pure a
  | none => fail (.noKey (.str name))

def savedNamed (name : String) : Within R Value := do
  match Attributes.get? (← host).saved name with
  | some v => pure v
  | none => fail (.noKey (.str name))

/-- A name of the globals, then attributes of attributes. -/
def picked (call : Caller Host) [Calls call R] (globals : Address) : List String → Within R Value
  | [] => pure .none
  | name :: path => do
    match Value.lookup? (← entries globals) (.str name) with
    | some v => path.foldlM (fun v n => readAttr call v n) v
    | none => fail (.noKey (.str name))

/-- Runs a text as a module of the host and picks a value out of it. -/
def runChunk (call : Caller Host) [Calls call R] (source : String) (names : List (Value × Value))
    (pick : List String) (hidden : Bool) : Within R Value := do
  let n := (← host).chunks
  modifyHost fun h => { h with chunks := n + 1 }
  let file := s!"<host chunk {n}>"
  if !hidden then registerSource file source
  if source.toList.contains '\x00' then fail .nullBytes
  match compile? source.toList with
  | none => fail .syntaxFault
  | some body =>
    let all := names.foldl (fun d e => Value.insert d e.1 e.2) [(.str "__name__", .str "host_chunk")]
    let globals ← alloc (.dict all)
    runText call body file globals globals
    picked call globals pick

mutual

/-- Makes a described value. -/
def build (call : Caller Host) [Calls call R] : ValueSpec → Within R Value
  | .none => pure .none
  | .bool b => pure (.bool b)
  | .int n => pure (.int n)
  | .float x => if x.isNan then freshNan else pure (.float x)
  | .str s => pure (.str s)
  | .bytes data => pure (.bytes data)
  | .list items => do new (.list (← buildAll call items))
  | .dict es => do new (.dict (← buildEntries call [] es))
  | .proxy es => do new (.proxy (← buildEntries call [] es))
  | .plain attrs => do new (.plain (← buildNamed call attrs))
  | .helper name =>
    match Helper.all.find? (·.name == name) with
    | some f => pure (.ref f.address)
    | none => fail (.noKey (.str name))
  | .builtinsModule => pure (.ref Patchwork.builtinsModule)
  | .builtinsDict => pure (.ref Patchwork.builtinsDict)
  | .token text => new (.token text)
  | .factory f => buildFactory call f
  | .runtime name => runtimeNamed name
  | .saved name => savedNamed name

def buildAll (call : Caller Host) [Calls call R] : List ValueSpec → Within R (List Value)
  | [] => pure []
  | v :: r => do
    let v ← build call v
    pure (v :: (← buildAll call r))

def buildEntries (call : Caller Host) [Calls call R] (done : List (Value × Value)) :
    List (ValueSpec × ValueSpec) → Within R (List (Value × Value))
  | [] => pure done
  | (k, v) :: r => do
    let k ← build call k
    let v ← build call v
    checkKey k
    buildEntries call (Value.insert done k v) r

def buildNamed (call : Caller Host) [Calls call R] :
    List (String × ValueSpec) → Within R (List (String × Value))
  | [] => pure []
  | (n, v) :: r => do
    let v ← build call v
    pure ((n, v) :: (← buildNamed call r))

/-- Makes a described function. -/
def buildFactory (call : Caller Host) [Calls call R] : FactorySpec → Within R Value
  | .builtin name =>
    match Value.lookup? builtinEntries (.str name) with
    | some v => pure v
    | none => fail (.noModuleAttribute "builtins" name)
  | .defined source names pick hidden => do
    let names ← buildNamed call names
    runChunk call source (names.map fun e => (.str e.1, e.2)) pick hidden

end

def patternOf (p : Except Pattern.Fault Pattern) (text : String) : Within R Value :=
  match p with
  | .ok p => pure (.pattern p)
  | .error f => fail (.pattern f text.toList)

def buildMatch (call : Caller Host) [Calls call R] : MatchSpec → Within R Value
  | .literal text => pure (.str text)
  | .plain source flags => patternOf (Pattern.compile .plain source flags) source
  | .extended source flags => patternOf (Pattern.compile .extended source flags) source
  | .shorthand source flags => patternOf (Pattern.compileShorthand source flags) (Pattern.expand source)
  | .raw v => build call v

def buildReplace (call : Caller Host) [Calls call R] : ReplaceSpec → Within R Value
  | .value v => build call v
  | r => newFunction (.replacer r) "<function replace>"

def buildCondition : ConditionSpec Step → Within R Value
  | .always => pure .none
  | .answer v => newFunction (.condition none [v] [] none) "<function predicate>"
  | .scripted name answers actions error =>
    newFunction (.condition name answers actions error) "<function predicate>"

def buildRule (call : Caller Host) [Calls call R] : RuleSpec Step → Within R RuleItem
  | .rule find replace count condition => do
    let find ← buildMatch call find
    let replace ← buildReplace call replace
    let condition ← buildCondition condition
    pure (.rule ⟨find, replace, condition, ← build call count⟩)
  | .other v => do pure (.other (← build call v))

def buildRules (call : Caller Host) [Calls call R] : RulesSpec Step → Within R (List RuleItem)
  | .many rules => rules.mapM (buildRule call)
  | .other v => do pure ((← Script.items call (← build call v)).map RuleItem.other)

def buildPatch (call : Caller Host) [Calls call R] : PatchSpec Step → Within R Patch
  | .saved name => do
    match (← host).patches.find? (·.1 == name) with
    | some (_, p) => pure p
    | none => fail (.noKey (.str name))
  | .described owner find rules condition group applyToAll quiet save => do
    let owner ← build call owner
    let find ← buildMatch call find
    let rules ← buildRules call rules
    let condition ← buildCondition condition
    let p : Patch := ⟨owner, find, rules, condition, group, applyToAll, quiet⟩
    match save with
    | some name => modifyHost fun h => { h with patches := (name, p) :: h.patches }
    | none => pure ()
    pure p

def buildListener (l : ListenerSpec Step) : Within R Value :=
  newFunction (.listener l) s!"<{l.kind.name} {l.name}>"

/-- The filter of a name, made at its first use. -/
def buildFilter (f : FilterSpec Step) : Within R Value := do
  match Attributes.get? (← host).filters f.name with
  | some v => pure v
  | none =>
    let v ← newFunction (.filter f) s!"<filter {f.name}>"
    modifyHost fun h => { h with filters := (f.name, v) :: h.filters }
    pure v

end Patchwork.Scenario
