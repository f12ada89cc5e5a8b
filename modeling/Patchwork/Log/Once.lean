import Patchwork.Store.Calling

/-!
Messages with arguments, and messages that are logged only once. Each of the two once-only levels remembers
a bounded number of messages, the latest used ones.
-/

namespace Patchwork.Run

variable {κ : Type} {R : World κ → World κ → Prop} [Still R]

/-- A message with its arguments put in; without arguments it stays as it is. A single mapping gives its
entries by name. -/
def messageText (message : Value) (args : List Value) : Within R String := do
  let h ← heap
  let text := h.str message
  match args with
  | [] => pure text
  | args =>
    let written :=
      match args with
      | [one] =>
        match h.at? one with
        | some (.dict (_ :: _)) => Percent.applied h text.toList one
        | some (.proxy (_ :: _)) => Percent.applied h text.toList one
        | _ => Percent.written h text.toList args
      | args => Percent.written h text.toList args
    match written with
    | .ok cs => pure (String.ofList cs)
    | .error f => fail (.format f)

/-- The levels that can log once. -/
inductive OnceLevel where
  | info
  | warning
  deriving DecidableEq

def OnceLevel.level : OnceLevel → Level
  | info => .info
  | warning => .warning

/-- How many messages a level remembers. -/
def onceLimit : Nat := 128

def OnceKey.same (a b : OnceKey) : Bool :=
  a.logger == b.logger && Value.sameKey a.message b.message && Value.sameKeys a.args b.args

/-- Moves a message to the front of those remembered; says whether it was among them. -/
def remember (known : List OnceKey) (key : OnceKey) : Bool × List OnceKey :=
  if known.any (OnceKey.same key) then (true, key :: known.filter fun k => !OnceKey.same key k)
  else (false, (key :: known).take onceLimit)

/-- Logs a message unless its level remembers it. -/
def logOnce (level : OnceLevel) (logger : String) (message : Value) (args : List Value) : Within R Unit := do
  checkKey message
  args.forM checkKey
  let w ← world
  let known := match level with
    | .info => w.once.info
    | .warning => w.once.warning
  let (seen, known) := remember known ⟨logger, message, args⟩
  if !seen then log level.level (← messageText message args)
  let once := (← world).once
  setOnce <| match level with
    | .info => { once with info := known }
    | .warning => { once with warning := known }

end Patchwork.Run
