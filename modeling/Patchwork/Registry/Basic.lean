import Patchwork.Patch.Basic
import Patchwork.Source.Policy

/-!
What has been registered: patches, listeners and subscriptions, with the runtime and the module table once
they are known.
-/

namespace Patchwork

/-- A callback that waits for an export, with the number of the request that it belongs to. -/
structure Subscription where
  callback : Value
  request : Nat

structure Registry where
  patches : List Occurrence
  beforeInit : List Value
  factoryListeners : List Value
  moduleListeners : List Value
  /-- Export filters with their callbacks, one for each filter. -/
  subscriptions : List (Value × Subscription)
  policies : PolicyTable
  /-- The live runtime, once the host is about to start. -/
  require : Value
  /-- The module table, once it has been captured. -/
  modules : Value
  /-- Whether the use before initialization has been reported. -/
  uninitializedLogged : Bool

def Registry.empty : Registry :=
  ⟨[], [], [], [], [], PolicyTable.standard, .none, .none, false⟩

end Patchwork
