import Patchwork.Pattern.Flags
import Patchwork.Settings
import Patchwork.Source.Policy
import Patchwork.Store.World

/-!
Descriptions of a host: its values, its module factories, the patches and observers that are registered, and
the steps that it goes through.
-/

namespace Patchwork.Scenario

mutual

/-- A described value. -/
inductive ValueSpec where
  | none
  | bool (b : Bool)
  | int (n : Int)
  | float (x : Number.Binary64)
  | str (s : String)
  | bytes (data : List UInt8)
  | list (items : List ValueSpec)
  | dict (entries : List (ValueSpec × ValueSpec))
  | proxy (entries : List (ValueSpec × ValueSpec))
  | plain (attrs : List (String × ValueSpec))
  | helper (name : String)
  | builtinsModule
  | builtinsDict
  | token (text : String)
  | factory (f : FactorySpec)
  | runtime (name : String)
  | saved (name : String)
  deriving Inhabited

/-- A described function: one that a text defines under a dotted name, or a built-in one. -/
inductive FactorySpec where
  | defined (source : String) (names : List (String × ValueSpec)) (pick : List String) (hidden : Bool)
  | builtin (name : String)
  deriving Inhabited

end

/-- What a rule looks for; patterns in the plain or the extended dialect, or with the identifier
shorthand. -/
inductive MatchSpec where
  | literal (text : String)
  | plain (source : String) (flags : Pattern.Flags)
  | extended (source : String) (flags : Pattern.Flags)
  | shorthand (source : String) (flags : Pattern.Flags)
  | raw (v : ValueSpec)
  deriving Inhabited

inductive ReplaceSpec where
  | value (v : ValueSpec)
  | upper
  | group (index : ValueSpec)
  | wrapped (left right : String)
  | counted
  | constant (v : ValueSpec)
  | raising (message : String)
  deriving Inhabited

/-- A condition that is asked: a fixed answer, or a script of answers with steps to perform first. -/
inductive ConditionSpec (σ : Type) where
  | always
  | answer (v : ValueSpec)
  | scripted (name : Option String) (answers : List ValueSpec) (actions : List σ) (error : Option String)
  deriving Inhabited

inductive RuleSpec (σ : Type) where
  | rule (find : MatchSpec) (replace : ReplaceSpec) (count : ValueSpec) (condition : ConditionSpec σ)
  | other (v : ValueSpec)
  deriving Inhabited

/-- The rules of a patch: one, several, or a value in their place. -/
inductive RulesSpec (σ : Type) where
  | many (rules : List (RuleSpec σ))
  | other (v : ValueSpec)
  deriving Inhabited

inductive PatchSpec (σ : Type) where
  | described (owner : ValueSpec) (find : MatchSpec) (rules : RulesSpec σ) (condition : ConditionSpec σ)
      (group applyToAll quiet : Bool) (save : Option String)
  | saved (name : String)
  deriving Inhabited

/-- What kind of observer a listener is. -/
inductive ListenerKind where
  | beforeInit
  | factory
  | module
  | subscription
  deriving DecidableEq, Inhabited

def ListenerKind.name : ListenerKind → String
  | beforeInit => "before_init"
  | factory => "factory"
  | module => "module"
  | subscription => "subscription"

/-- A described observer: it changes its first argument, performs steps, and then may fail. -/
structure ListenerSpec (σ : Type) where
  kind : ListenerKind
  name : String
  entries : List (String × ValueSpec)
  actions : List σ
  error : Option String
  deriving Inhabited

/-- What an export filter accepts. -/
inductive FilterTest where
  | all
  | raising (message : String)
  | has (key : ValueSpec)
  | item (key value : ValueSpec)
  | entry (key value : ValueSpec)
  | equal (value : ValueSpec)
  | typeNamed (name : String)
  | nth (n : Nat)
  | constant (b : Bool)
  deriving Inhabited

structure FilterSpec (σ : Type) where
  name : String
  actions : List σ
  test : FilterTest
  deriving Inhabited

/-- Where an assignment is made from: a file and a function in it. -/
structure Origin where
  file : String
  function : String
  deriving Inhabited

/-- A command on a table. -/
structure TableCommand where
  name : String
  args : List ValueSpec
  deriving Inhabited

/-- A table: the one of the registry, or an attribute of a runtime. -/
inductive TablePlace where
  | registered
  | onRuntime (name attr : String)
  deriving Inhabited

inductive Step where
  | env (set : List (String × String)) (unset : List String)
  | makeClass (name : String) (base : Option String) (attrs : List (String × ValueSpec))
  | makeRuntime (name cls tableAttr : String) (cache : Bool)
  | install (base : String) (matcher : RuntimeMatcher) (tableAttr chunksAttr : String) (shared : Bool)
  | uninstall
  | assign (runtime attr : String) (value : ValueSpec) (origin : Option Origin) (save : Option String)
  | setClass (cls attr : String) (value : ValueSpec)
  | getClass (cls attr : String)
  | getAttr (runtime attr : String)
  | deleteAttr (runtime attr : String)
  | saved (name : String)
  | source (runtime attr : String)
  | chunks (runtime attr : String) (args : List ValueSpec) (callback : Option ValueSpec) (keyword : Bool)
      (named : List (String × ValueSpec)) (origin : Option Origin)
  | require (runtime : String) (id : ValueSpec)
  | makeTable (entries : List (ValueSpec × ValueSpec)) (require : Bool)
  | loaded (cache : List (ValueSpec × ValueSpec)) (table : Bool)
  | patch (p : PatchSpec Step) (shared : Bool)
  | listener (l : ListenerSpec Step) (shared : Bool)
  | waitFor (filter : FilterSpec Step) (callback : ListenerSpec Step) (shared : Bool)
  | find (filter : FilterSpec Step)
  | policy (range : String) (policy : Policy)
  | initRuntime (runtime : String)
  | runBeforeInit (value : ValueSpec)
  | notify (exports id : ValueSpec)
  | fire (exports id : ValueSpec)
  | table (command : TableCommand) (place : TablePlace)
  | run (id : ValueSpec) (place : TablePlace)
  | introspect (id : ValueSpec) (place : TablePlace)
  | logOnce (warning : Bool) (message : ValueSpec) (args : List ValueSpec) (logger : String)
  | raise (kind : ErrorKind) (message : String)
  | state
  deriving Inhabited

/-- The name of a step in reports. -/
def Step.name : Step → String
  | env _ _ => "env"
  | makeClass _ _ _ => "class"
  | makeRuntime _ _ _ _ => "runtime"
  | install _ _ _ _ _ => "install"
  | uninstall => "uninstall"
  | assign _ _ _ _ _ => "assign"
  | setClass _ _ _ => "setclass"
  | getClass _ _ => "getclass"
  | getAttr _ _ => "getattr"
  | deleteAttr _ _ => "delattr"
  | saved _ => "saved"
  | source _ _ => "source"
  | chunks _ _ _ _ _ _ _ => "chunks"
  | require _ _ => "require"
  | makeTable _ _ => "make_table"
  | loaded _ _ => "loaded"
  | patch _ _ => "patch"
  | listener _ _ => "listener"
  | waitFor _ _ _ => "wait_for"
  | find _ => "find"
  | policy _ _ => "policy"
  | initRuntime _ => "init_runtime"
  | runBeforeInit _ => "run_before_init"
  | notify _ _ => "notify"
  | fire _ _ => "fire"
  | table _ _ => "table"
  | run _ _ => "run"
  | introspect _ _ => "introspect"
  | logOnce _ _ _ _ => "log_once"
  | raise _ _ => "raise"
  | state => "state"

end Patchwork.Scenario
