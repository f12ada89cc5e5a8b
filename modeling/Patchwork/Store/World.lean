import Patchwork.Store.Cause
import Patchwork.Registry.Basic
import Patchwork.Registry.History
import Patchwork.Settings

/-!
The state that all operations share, and the computations on it.
-/

namespace Patchwork

/-- How serious a message is. -/
inductive Level where
  | debug
  | info
  | warning
  | error
  | critical
  deriving DecidableEq

def Level.name : Level → String
  | debug => "DEBUG"
  | info => "INFO"
  | warning => "WARNING"
  | error => "ERROR"
  | critical => "CRITICAL"

/-- A view of a value at one moment. -/
inductive Snapshot where
  | null
  | bool (b : Bool)
  | int (n : Int)
  | float (text : String)
  | number (x : Number.Binary64)
  | str (s : String)
  | bytes (data : List UInt8)
  | list (items : List Snapshot)
  | dict (entries : List (Snapshot × Snapshot))
  | builtins
  | table (text : String)
  | descriptor (key value : Snapshot) (enumerable writable configurable : Bool)
  | function (name : String)
  | plain (attrs : List (String × Snapshot))
  | token (text : String)
  | runtime (name : String)
  | other (type : String)
  | failure (kind message : String)
  | fields (members : List (String × Snapshot))
  deriving Inhabited

/-- What happened, as seen from outside: a log record, or something the surroundings noted. -/
inductive Event where
  | log (level : Level) (message : String) (failure : Option (String × String))
  | noted (what : List Snapshot)

/-- A message that was logged once: its level, text and arguments. -/
structure OnceKey where
  logger : String
  message : Value
  args : List Value

/-- The messages that each of the two once-only levels remembers, the latest first. -/
structure OnceMemory where
  info : List OnceKey
  warning : List OnceKey

/-- All state; `host` is what the surroundings keep for themselves. -/
structure World (κ : Type) where
  heap : Heap
  environment : Environment
  /-- The lines of registered source texts by file name. -/
  sources : List (String × List (List Char))
  /-- How many texts have been recompiled. -/
  recompiled : Nat
  /-- Rules in the form in which they were first seen. -/
  rules : List Rule
  once : OnceMemory
  registries : Array Registry
  hooks : Option HookSet
  /-- The frames that assignments come from, innermost last. -/
  frames : List String
  /-- What happened, the latest first. -/
  trace : List Event
  /-- What the engine has done, the latest first. -/
  history : List Deed
  host : κ

namespace World

variable {κ : Type}

/-- The registry at a place. -/
def registry (w : World κ) (n : Nat) : Registry :=
  w.registries.getD n Registry.empty

def modifyRegistry (w : World κ) (n : Nat) (f : Registry → Registry) : World κ :=
  { w with registries := w.registries.modify n f }

/-- The world in which something has been done. -/
def noted (w : World κ) (d : Deed) : World κ :=
  { w with history := d :: w.history }

@[simp] theorem noted_registry (w : World κ) (d : Deed) : (w.noted d).registry = w.registry :=
  rfl

@[simp] theorem noted_history (w : World κ) (d : Deed) : (w.noted d).history = d :: w.history :=
  rfl

/-- A changed registry; there is none to change at a place that does not exist. -/
theorem modifyRegistry_registry (w : World κ) (n m : Nat) (f : Registry → Registry) :
    (w.modifyRegistry n f).registry m = w.registry m ∨
      n = m ∧ (w.modifyRegistry n f).registry m = f (w.registry m) := by
  simp only [modifyRegistry, registry, Array.getD_eq_getD_getElem?, Array.getElem?_modify]
  by_cases same : n = m
  · rw [if_pos same]
    cases w.registries[m]? with
    | none => exact .inl rfl
    | some r => exact .inr ⟨same, rfl⟩
  · rw [if_neg same]
    exact .inl rfl

theorem modifyRegistry_other (w : World κ) {n m : Nat} (f : Registry → Registry) (h : n ≠ m) :
    (w.modifyRegistry n f).registry m = w.registry m := by
  rcases w.modifyRegistry_registry n m f with same | ⟨here, _⟩
  · exact same
  · exact absurd here h

@[simp] theorem modifyRegistry_size (w : World κ) (n : Nat) (f : Registry → Registry) :
    (w.modifyRegistry n f).registries.size = w.registries.size :=
  Array.size_modify

/-- A change that an empty registry does not show is seen at every place. -/
theorem modifyRegistry_self (w : World κ) (n : Nat) {f : Registry → Registry} (h : f .empty = .empty) :
    (w.modifyRegistry n f).registry n = f (w.registry n) := by
  simp only [modifyRegistry, registry, Array.getD_eq_getD_getElem?, Array.getElem?_modify]
  cases w.registries[n]? with
  | none => exact h.symm
  | some r => rfl

theorem modifyRegistry_here (w : World κ) {n : Nat} (f : Registry → Registry) (here : n < w.registries.size) :
    (w.modifyRegistry n f).registry n = f (w.registry n) := by
  simp only [modifyRegistry, registry, Array.getD_eq_getD_getElem?, Array.getElem?_modify, if_pos]
  rw [Array.getElem?_eq_getElem here]
  rfl

end World

/-- A computation that changes the world and may fail; what it changed before stays. -/
abbrev Run (κ : Type) := EStateM Fault (World κ)

/-- What runs a call. -/
abbrev Caller (κ : Type) := Value → Arguments → Run κ Value

end Patchwork
