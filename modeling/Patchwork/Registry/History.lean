import Patchwork.Value.Basic

/-!
What the engine has done with patches, with subscriptions, and before the host starts. No operation reads it. The
number of deeds so far also tells apart what else would look the same: occurrences of a patch, runs over the patches
of a registry, and requests for an export.
-/

namespace Patchwork

inductive Deed where
  /-- An occurrence of a patch joined the list; its number is that of the deeds before. -/
  | registered (registry : Nat)
  /-- A run over the patches began, for one module; its number is that of the deeds before. -/
  | began (registry : Nat)
  | tried (registry run occurrence : Nat)
  /-- An occurrence contributed for the only time, and `taken` was removed from its place. -/
  | used (registry run occurrence : Nat) (taken : Option Nat)
  /-- A run went on to its next place, with `skipped` before that place though their turn had not come. -/
  | moved (registry run : Nat) (skipped : List Nat)
  /-- A run came to the end of the list. -/
  | ended (registry run : Nat) (present : List Nat)
  /-- A request for an export was made; its number is that of the deeds before. -/
  | asked (registry : Nat) (filter callback : Value)
  /-- A request began to wait, in the place of request `displaced` if there was one. -/
  | subscribed (registry request : Nat) (displaced : Option Nat)
  /-- The callback of a request was called, and the subscription of request `ended` was over with that; `none`
  if there was none yet. -/
  | answered (registry request : Nat) (ended : Option Nat)
  /-- The before-init listeners of a registry, as they were then, began to be told of a runtime. -/
  | started (registry : Nat) (runtime : Value) (listeners : List Value)
  | told (registry : Nat) (listener runtime : Value)
  /-- All of these listeners have been told. -/
  | announced (registry : Nat) (listeners : List Value)
  deriving DecidableEq

end Patchwork
