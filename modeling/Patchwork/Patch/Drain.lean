import Patchwork.Patch.Attempt
import Patchwork.Store.Beside

/-!
Runs over the patches of a registry for one module. Each patch is tried in order on what the ones before it left.
One that contributed leaves the registry unless it stays for all modules. The list may change while patches are
tried, since what they call may register patches and patch other modules.
-/

namespace Patchwork

open Run

variable {κ : Type}

namespace World

/-- The numbers of the occurrences in a registry, in order. -/
def numbers (w : World κ) (n : Nat) : List Nat :=
  (w.registry n).patches.map (·.number)

/-- The world without the patch at a place. -/
def withoutPatch (w : World κ) (n i : Nat) : World κ :=
  w.modifyRegistry n fun r => { r with patches := r.patches.eraseIdx i }

end World

def noteDeed (d : Deed) : Run κ Unit :=
  modify fun w => w.noted d

/-- Begins a run over the patches of a registry, and gives its number. -/
def beginRun (n : Nat) : Run κ Nat :=
  modifyGet fun w => (w.history.length, w.noted (.began n))

/-- Removes the patch at a place for an occurrence that contributed; says whether there was one. -/
def usePatch (n run occurrence i : Nat) : Run κ Bool :=
  modifyGet fun w =>
    let taken := (w.numbers n)[i]?
    (taken.isSome, (w.withoutPatch n i).noted (.used n run occurrence taken))

/-- Notes that a run goes on from a place, and which occurrences behind the last one stand before that place. -/
def noteMove (n run occurrence i : Nat) : Run κ Unit :=
  modify fun w => w.noted (.moved n run (((w.numbers n).take i).filter (occurrence < ·)))

/-- Removes the occurrence that was tried at a place if it contributed and stays for no other module. Gives the
place to go on from. -/
def endTurn (n run i : Nat) (o : Occurrence) (contributed : Bool) : Run κ Nat := do
  noteDeed (.tried n run o.number)
  if contributed && !o.patch.applyToAll then
    if ← usePatch n run o.number i then
      noteMove n run o.number i
      pure i
    else fail (.outOfRange "list assignment index")
  else
    noteMove n run o.number (i + 1)
    pure (i + 1)

/-- Tries the occurrence at a place. -/
def takeTurn (call : Caller κ) (s : Setup) (n run i : Nat) (o : Occurrence) (p : Progress) :
    Run κ (Nat × Progress) := do
  let (p, contributed) ← (tryPatch call s o.patch p : Calling call _)
  let next ← endTurn n run i o contributed
  pure (next, p)

/-- Notes that a run has come to the end of the list. -/
def endRun (n run : Nat) : Run κ Unit :=
  modify fun w => w.noted (.ended n run (w.numbers n))

/-- Tries the patches of a registry from a place on. The list may change while they are tried; the fuel
bounds their number. -/
def tryPatches (call : Caller κ) (s : Setup) (n run : Nat) : Nat → Nat → Progress → Run κ Progress
  | 0, _, _ => throw .exhausted
  | fuel + 1, i, p => do
    match ((← get).registry n).patches[i]? with
    | none =>
      endRun n run
      pure p
    | some o =>
      let (i, p) ← takeTurn call s n run i o p
      tryPatches call s n run fuel i p

/-- How many more patches than there are at the start a run may come to. -/
def extraPatches : Nat := 1000000

/-- Tries the patches of a registry on a module. -/
def runPatches (call : Caller κ) (s : Setup) (n : Nat) (p : Progress) : Run κ Progress := do
  let bound := ((← get).registry n).patches.length + extraPatches
  let run ← beginRun n
  tryPatches call s n run bound 0 p

end Patchwork
