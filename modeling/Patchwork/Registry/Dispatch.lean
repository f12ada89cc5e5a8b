import Patchwork.Registry.Exports
import Patchwork.Script.Eval
import Patchwork.Store.Beside

/-!
Telling listeners and subscribers. Each is called on its own: a failure is reported and the next one gets
its turn.
-/

namespace Patchwork

variable {κ : Type} {R : World κ → World κ → Prop}

/-- The world without the subscriptions of a filter. -/
def World.unsubscribed (w : World κ) (n : Nat) (filter : Value) : World κ :=
  w.modifyRegistry n fun r => { r with subscriptions := Value.erase r.subscriptions filter }

/-- The world with a subscription under a filter. -/
def World.subscribed (w : World κ) (n : Nat) (filter : Value) (s : Subscription) : World κ :=
  w.modifyRegistry n fun r => { r with subscriptions := Value.insert r.subscriptions filter s }

namespace Run

/-! ## Single changes -/

/-- Puts an occurrence of a patch behind the others. -/
def addOccurrence (n : Nat) (p : Patch) : Run κ Unit :=
  modify fun w =>
    (w.modifyRegistry n fun r => { r with patches := r.patches ++ [⟨w.history.length, p⟩] }).noted (.registered n)

/-- Notes a request for an export, and gives its number. -/
def addRequest (n : Nat) (filter callback : Value) : Run κ Nat :=
  modifyGet fun w => (w.history.length, w.noted (.asked n filter callback))

/-- Lets a callback wait for what a filter accepts; an equal filter gives its place to it. -/
def subscribe (n : Nat) (filter : Value) (s : Subscription) : Run κ Unit :=
  modify fun w =>
    let displaced := Value.lookup? (w.registry n).subscriptions filter
    (w.subscribed n filter s).noted (.subscribed n s.request (displaced.map (·.request)))

/-- Notes that the callback of a request is called at once. -/
def answerAtOnce (n request : Nat) : Run κ Unit :=
  modify fun w => w.noted (.answered n request none)

/-- Ends the subscription of a filter for the sake of a request; says whether there was one. -/
def answer (n : Nat) (filter : Value) (request : Nat) : Run κ Bool :=
  modifyGet fun w =>
    match Value.lookup? (w.registry n).subscriptions filter with
    | some s => (true, (w.unsubscribed n filter).noted (.answered n request (some s.request)))
    | none => (false, w)

/-! ## Patches and runtimes -/

def reportRegistered [Still R] (p : Patch) : Within R Unit := do
  log .debug s!"Registered patch by {← str p.owner}: {← str p.find}"

/-- Adds a patch behind the others. -/
def registerPatch (n : Nat) (p : Patch) : Run κ Unit := do
  addOccurrence n p
  (reportRegistered p : Quietly κ Unit)

/-- Makes a runtime the live one unless there is one. -/
def initRuntime [Moves R] (n : Nat) (runtime : Value) : Within R Bool := do
  match (← registry n).require with
  | .none =>
    setRuntime n runtime
    pure true
  | _ => pure false

/-! ## Listeners -/

section

variable [Still R]

def reportListener (what : String) (listener : Value) (c : Cause) : Within R Unit := do
  logFailure s!"Error in {what} listener {← repr listener}" c

/-- Calls a listener; `what` says in reports what sort of listener it is. -/
def tellListener (call : Caller κ) [Calls call R] (what : String) (args : List Value) (listener : Value) :
    Within R Unit :=
  handle (do let _ ← ask call listener (.of args)) (reportListener what listener)

def notifyModule (call : Caller κ) [Calls call R] (n : Nat) (exports id : Value) : Within R Unit := do
  (← registry n).moduleListeners.forM (tellListener call "module" [exports, id])

def reportSubscription (filter : Value) (c : Cause) : Within R Unit := do
  logFailure s!"Error while firing callback for export subscription {← repr filter}" c

/-- The first candidate that a filter accepts. -/
def firstAccepted (call : Caller κ) [Calls call R] (filter : Value) :
    List Value → Within R (Option Value)
  | [] => pure none
  | v :: r => do
    if ← truth call (← ask call filter (.of [v])) then pure (some v) else firstAccepted call filter r

/-- The entries of a runtime's cache of modules, if it has a cache that is not empty. -/
def cachedModules (call : Caller κ) [Calls call R] (runtime : Value) :
    Within R (List (Value × Value)) := do
  match ← readAttr? call runtime "cache" with
  | none => pure []
  | some cache =>
    if !(← truth call cache) then pure []
    else
      (← Script.items call (← ask call (← readAttr call cache "items") (.of []))).mapM fun e => do
        match ← Script.unpacked call e with
        | [k, v] => pure (k, v)
        | vs => if vs.length < 2 then fail (.unpackFew 2 vs.length) else fail (.unpackMany 2)

/-- Whether the module table hides an id. -/
def isHiddenIn (modules id : Value) : Within R Bool := do
  match ← object? modules with
  | some (.table t) =>
    checkKey id
    pure (t.isHidden id)
  | _ => pure false

/-- The first of some modules that ran already with an export that a filter accepts. -/
def searchIn (call : Caller κ) [Calls call R] (filter modules : Value) :
    List (Value × Value) → Within R (Option (Value × Value))
  | [] => pure none
  | (id, module) :: rest => do
    if ← isHiddenIn modules id then searchIn call filter modules rest
    else
      match (← readAttr? call module "exports").getD .none with
      | .none => searchIn call filter modules rest
      | exports =>
        let found ← handle (do firstAccepted call filter (← exportsOf call exports).candidates) fun c => do
          logFailure s!"Error while testing module {← str id} against export filter {← repr filter}" c
          pure none
        match found with
        | some v => pure (some (id, v))
        | none => searchIn call filter modules rest

/-- The id and the export of the first module that a filter accepts. -/
def searchExports (call : Caller κ) [Calls call R] (n : Nat) (filter : Value) :
    Within R (Option (Value × Value)) := do
  let cached ← cachedModules call (← registry n).require
  searchIn call filter (← registry n).modules cached

def findExport (call : Caller κ) [Calls call R] (n : Nat) (filter : Value) : Within R Value := do
  pure (((← searchExports call n filter).map (·.2)).getD .none)

end

/-! ## The start of the host -/

/-- Notes that the before-init listeners are told of a runtime from now on, and gives them. -/
def beginStart (n : Nat) (runtime : Value) : Run κ (List Value) :=
  modifyGet fun w =>
    ((w.registry n).beforeInit, w.noted (.started n runtime (w.registry n).beforeInit))

/-- Tells a before-init listener of a runtime. -/
def tellStart (call : Caller κ) (n : Nat) (runtime listener : Value) : Run κ Unit := do
  modify fun w => w.noted (.told n listener runtime)
  (tellListener call "before-init" [runtime] listener : Calling call Unit)

/-- Tells the before-init listeners that there are now of a runtime. -/
def runBeforeInit (call : Caller κ) (n : Nat) (runtime : Value) : Run κ Unit := do
  let listeners ← beginStart n runtime
  listeners.forM (tellStart call n runtime)
  modify fun w => w.noted (.announced n listeners)

/-! ## Subscriptions -/

/-- Fires a subscription of some request if its filter accepts a candidate. It ends before the callback
runs. -/
def fireOne (call : Caller κ) (n : Nat) (candidates : List Value) (id filter : Value) (s : Subscription) :
    Run κ Unit := do
  match ← (firstAccepted call filter candidates : Calling call _) with
  | none => pure ()
  | some v =>
    if ← answer n filter s.request then
      let _ ← call s.callback (.of [v, id])
    else fail (.noKey filter)

/-- The turn of a subscription in a pass; one that ended meanwhile is passed over. -/
def fireEntry (call : Caller κ) (n : Nat) (candidates : List Value) (id : Value) (e : Value × Subscription) :
    Run κ Unit := do
  if Value.hasKey ((← get).registry n).subscriptions e.1 then
    handle (fireOne call n candidates id e.1 e.2) fun c => (reportSubscription e.1 c : Quietly κ Unit)

/-- A pass over the subscriptions that there are now. -/
def firePass (call : Caller κ) (n : Nat) (candidates : List Value) (id : Value) : Run κ Unit := do
  ((← get).registry n).subscriptions.forM (fireEntry call n candidates id)

/-- Tests the subscriptions on the exports of a module. -/
def fireSubscriptions (call : Caller κ) (n : Nat) (exports id : Value) : Run κ Unit := do
  let e ← (exportsOf call exports : Calling call _)
  firePass call n e.candidates id

/-- Calls back for a module that ran already, or begins to wait for one. -/
def serve (call : Caller κ) (n : Nat) (filter callback : Value) (request : Nat) : Run κ Unit := do
  match ← (searchExports call n filter : Calling call _) with
  | some (id, v) =>
    answerAtOnce n request
    handle (do let _ ← call callback (.of [v, id])) fun c =>
      (reportSubscription filter c : Quietly κ Unit)
  | none =>
    (checkKey filter : Quietly κ Unit)
    subscribe n filter ⟨callback, request⟩

/-- Calls back for the first module that a filter accepts: one that ran already, or the next one. -/
def waitFor (call : Caller κ) (n : Nat) (filter callback : Value) : Run κ Unit := do
  serve call n filter callback (← addRequest n filter callback)

end Run

end Patchwork
