import Patchwork.Script.Operate

/-!
Running scripts. Names of a function live in cells, names of a class or of the top level in a dictionary.
Calls go through the `call` that the evaluator is given, so that it ends with the syntax.
-/

namespace Patchwork.Script

open Run

variable {κ : Type} {R : World κ → World κ → Prop} [Still R]

/-- Where names are looked up. `own` are the names of the function itself; the other cells belong to the
functions around it. -/
structure Frame where
  locals : Option Address
  cells : List (String × Address)
  own : List String
  globals : Address
  declared : List String
  file : String
  path : List String

/-- How a statement ends. -/
inductive Flow where
  | next
  | give (v : Value)
  | stop
  | skip

def entries (a : Address) : Within R (List (Value × Value)) := do
  match ← objectAt? a with
  | some (.dict entries) => pure entries
  | _ => pure []

/-- A name at the top level or among the built-in ones. -/
def loadGlobal (globals : Address) (name : String) : Within R Value := do
  match Value.lookup? (← entries globals) (.str name) with
  | some v => pure v
  | none =>
    match Value.lookup? (← entries builtinsDict) (.str name) with
    | some v => pure v
    | none => fail (.unknownName name)

def Frame.cell? (f : Frame) (name : String) : Option Address :=
  (f.cells.find? (·.1 == name)).map (·.2)

/-- A name in a cell, if there is a cell for it. -/
def loadCell (f : Frame) (name : String) : Within R (Option Value) := do
  match f.cell? name with
  | some a =>
    match ← objectAt? a with
    | some (.cell (some v)) => pure (some v)
    | _ => if f.own.contains name then fail (.unsetLocal name) else fail (.unsetFree name)
  | none => pure none

def load (f : Frame) (name : String) : Within R Value := do
  if f.declared.contains name then loadGlobal f.globals name
  else
    let inDict ← match f.locals with
      | some d => do pure (Value.lookup? (← entries d) (.str name))
      | none => pure none
    match inDict with
    | some v => pure v
    | none =>
      match ← loadCell f name with
      | some v => pure v
      | none => loadGlobal f.globals name

def storeIn (a : Address) (name : String) (v : Value) : Within R Unit := do
  write a (.entries (Value.insert (← entries a) (.str name) v))

def store (f : Frame) (name : String) (v : Value) : Within R Unit := do
  if f.declared.contains name then storeIn f.globals name v
  else
    match f.locals with
    | some d => storeIn d name v
    | none =>
      match f.cell? name with
      | some a => write a (.cell (some v))
      | none => storeIn f.globals name v

def removeFrom (a : Address) (name : String) : Within R Unit := do
  let es ← entries a
  if Value.hasKey es (.str name) then write a (.entries (Value.erase es (.str name)))
  else fail (.unknownName name)

def remove (f : Frame) (name : String) : Within R Unit := do
  if f.declared.contains name then removeFrom f.globals name
  else
    match f.locals with
    | some d => removeFrom d name
    | none =>
      match f.cell? name with
      | some a =>
        let _ ← loadCell f name
        write a (.cell none)
      | none => removeFrom f.globals name

/-- The names of a frame with their values. -/
def ownNames (f : Frame) : Within R Value := do
  match f.locals with
  | some d => pure (.ref d)
  | none =>
    let h ← heap
    new (.dict (f.own.filterMap fun name =>
      match (f.cell? name).bind fun a => h[a]? with
      | some (.cell (some v)) => some (.str name, v)
      | _ => none))

/-- The cells of a frame that some code takes from around it. -/
def Frame.visible (f : Frame) (free : List String) : List (String × Address) :=
  f.cells.filter fun c => free.contains c.1

/-- The name of a definition with the names of the definitions around it. -/
def Frame.qualify (f : Frame) (name : String) : String :=
  ".".intercalate (f.path ++ [name])

def makeFunction (f : Frame) (name : String) (code : Code) (defaults : List (String × Value)) :
    Within R Value :=
  let path := if code.globals.contains name then name else f.qualify name
  new (.function ⟨name, path, code, f.globals, f.visible code.free, defaults, []⟩)

/-- A function as messages about its arguments name it. -/
def calledText (call : Caller κ) [Calls call R] (g : Value) : Within R String := do
  match ← readAttr? call g "__qualname__" with
  | some (.str s) =>
    match ← readAttr? call g "__module__" with
    | some (.str module) => pure (if module = "builtins" then s ++ "()" else module ++ "." ++ s ++ "()")
    | _ => pure (s ++ "()")
  | _ => textOf call g

/-- The named arguments that a mapping holds. -/
def namedFrom (call : Caller κ) [Calls call R] (g v : Value) : Within R (List (String × Value)) := do
  match ← mappingEntries? call v with
  | some es =>
    es.mapM fun e => do
      match (← heap).core e.1 with
      | .str s => do pure (s, ← e.2)
      | _ => fail (.raised .type [.str "keywords must be strings"])
  | none => do fail (.spreadType (← calledText call g) (← kindOf v))

/-- The positional arguments that a value gives one by one. -/
def positionalFrom (call : Caller κ) [Calls call R] (g v : Value) : Within R (List Value) :=
  handle (items call v) fun c => do
    match c with
    | .noIteration type => fail (.spreadItems (← calledText call g) type)
    | c => fail c

/-- Splits values over targets, one of which may take the rest. -/
def spreadOver (values : List Value) (targets : List Expr) : Within R (List Value) := do
  let before := targets.takeWhile fun
    | .starred _ => false
    | _ => true
  if before.length = targets.length then
    if values.length < targets.length then fail (.unpackFew targets.length values.length)
    else if targets.length < values.length then fail (.unpackMany targets.length)
    else pure values
  else
    let behind := targets.length - before.length - 1
    if values.length < before.length + behind then
      fail (.raised .value [.str s!"not enough values to unpack (expected at least {before.length + behind}, got {values.length})"])
    else
      let middle ← new (.list ((values.drop before.length).take (values.length - before.length - behind)))
      pure (values.take before.length ++ middle :: values.drop (values.length - behind))

/-- The values that an assignment to several targets takes apart. -/
def unpacked (call : Caller κ) [Calls call R] (v : Value) : Within R (List Value) :=
  handle (items call v) fun c => do
    match c with
    | .noIteration type => fail (.raised .type [.str s!"cannot unpack non-iterable {type} object"])
    | c => fail c

mutual

def eval (call : Caller κ) [Calls call R] (f : Frame) : Expr → Within R Value
  | .none => pure .none
  | .ellipsis => pure (.native (.function "Ellipsis"))
  | .bool b => pure (.bool b)
  | .int n => pure (.int n)
  | .float x => pure (.float x)
  | .imaginary x => pure (.complex ⟨.ofInt 0, x⟩)
  | .str s => pure (.str s)
  | .bytes data => pure (.bytes data)
  | .name id => load f id
  | .list es => do new (.list (← evalItems call f es))
  | .tuple es => do pure (.tuple (← evalItems call f es))
  | .set es => do
    let vs ← evalItems call f es
    vs.forM checkKey
    new (.set (vs.foldl Table.addKey []))
  | .dict es => do new (.dict (← evalEntries call f [] es))
  | .starred e => eval call f e
  | .call g args => do
    let g ← eval call f g
    let args ← evalArgs call f g ⟨[], []⟩ args
    match g, args with
    | .native (.function "vars"), ⟨[], []⟩ | .native (.function "locals"), ⟨[], []⟩ => ownNames f
    | .native (.function "globals"), ⟨[], []⟩ => pure (.ref f.globals)
    | g, args => ask call g args
  | .attr e name => do readAttr call (← eval call f e) name
  | .index e key => do
    let v ← eval call f e
    getItem call v (← eval call f key)
  | .slice a b c => do
    let a ← evalOpt call f a
    let b ← evalOpt call f b
    let c ← evalOpt call f c
    pure (sliceKey (a.getD .none) (b.getD .none) (c.getD .none))
  | .unary op e => do unary call op (← eval call f e)
  | .binary op a b => do
    let a ← eval call f a
    binary call op a (← eval call f b)
  | .both a b => do
    let a ← eval call f a
    if ← truth call a then eval call f b else pure a
  | .either a b => do
    let a ← eval call f a
    if ← truth call a then pure a else eval call f b
  | .compare e rest => do evalCompared call f (← eval call f e) rest
  | .choose test yes no => do
    if ← truth call (← eval call f test) then eval call f yes else eval call f no
  | .lambda ps defaults body row => do
    let defaults ← evalDefaults call f defaults
    makeFunction f "<lambda>" (Code.of ps (.value body) f.file row) defaults
  | .bind name e => do
    let v ← eval call f e
    store f name v
    pure v
  | .build kind item value clauses => do
    let first ← evalFirst call f clauses
    let targets := (clauseTargets clauses).eraseDups
    let cells ← targets.mapM fun t => do pure (t, ← alloc (.cell none))
    let inside : Frame :=
      { f with
        locals := none
        cells := cells ++ f.cells.filter fun c => !targets.contains c.1
        own := targets
        declared := [] }
    let finish := do
      let v ← eval call inside item
      let w ← evalOpt call inside value
      pure (v, w.getD .none)
    let found ← evalClauses call inside finish (some first) [] clauses
    match kind with
    | .list => new (.list (found.map (·.1)).reverse)
    | .lazily => new (.view (.stream "generator") (found.map (·.1)).reverse)
    | .set => new (.set ((found.map (·.1)).reverse.foldl Table.addKey []))
    | .dict => new (.dict (found.reverse.foldl (fun d e => Value.insert d e.1 e.2) []))

def evalOpt (call : Caller κ) [Calls call R] (f : Frame) : Option Expr → Within R (Option Value)
  | none => pure none
  | some e => do pure (some (← eval call f e))

/-- The items of a display; a spread gives all of its own. -/
def evalItems (call : Caller κ) [Calls call R] (f : Frame) : List Expr → Within R (List Value)
  | [] => pure []
  | .starred e :: r => do
    let v ← eval call f e
    let vs ← handle (items call v) fun c => do
      match c with
      | .noIteration type => fail (.raised .type [.str s!"Value after * must be an iterable, not {type}"])
      | c => fail c
    pure (vs ++ (← evalItems call f r))
  | e :: r => do
    let v ← eval call f e
    pure (v :: (← evalItems call f r))

def evalArgs (call : Caller κ) [Calls call R] (f : Frame) (g : Value) (done : Arguments) :
    List (ArgKind × Expr) → Within R Arguments
  | [] => pure done
  | (.positional, e) :: r => do
    let v ← eval call f e
    evalArgs call f g { done with positional := done.positional ++ [v] } r
  | (.spread, e) :: r => do
    let vs ← positionalFrom call g (← eval call f e)
    evalArgs call f g { done with positional := done.positional ++ vs } r
  | (.named n, e) :: r => do
    let v ← eval call f e
    evalArgs call f g { done with named := done.named ++ [(n, v)] } r
  | (.namedSpread, e) :: r => do
    let more ← namedFrom call g (← eval call f e)
    match more.find? fun m => done.named.any (·.1 == m.1) with
    | some (n, _) => do fail (.repeatedSpread (← calledText call g) n)
    | none => evalArgs call f g { done with named := done.named ++ more } r

def evalCompared (call : Caller κ) [Calls call R] (f : Frame) (v : Value) :
    List (Comparison × Expr) → Within R Value
  | [] => pure v
  | (op, e) :: r => do
    let w ← eval call f e
    let b ← compareValues call op v w
    if r.isEmpty then pure b
    else if ← truth call b then evalCompared call f w r
    else pure b

def evalDefaults (call : Caller κ) [Calls call R] (f : Frame) :
    List (String × Expr) → Within R (List (String × Value))
  | [] => pure []
  | (n, e) :: r => do
    let v ← eval call f e
    pure ((n, v) :: (← evalDefaults call f r))

def evalEntries (call : Caller κ) [Calls call R] (f : Frame) (done : List (Value × Value)) :
    List (Option Expr × Expr) → Within R (List (Value × Value))
  | [] => pure done
  | (some k, e) :: r => do
    let k ← eval call f k
    let v ← eval call f e
    checkKey k
    evalEntries call f (Value.insert done k v) r
  | (none, e) :: r => do
    let v ← eval call f e
    match ← mappingEntries? call v with
    | some es =>
      let es ← es.mapM fun e => do pure (e.1, ← e.2)
      evalEntries call f (es.foldl (fun d e => Value.insert d e.1 e.2) done) r
    | none => fail (.raised .type [.str s!"'{← kindOf v}' object is not a mapping"])

/-- The items of the first clause of a comprehension. -/
def evalFirst (call : Caller κ) [Calls call R] (f : Frame) :
    List (Expr × Expr × List Expr) → Within R (List Value)
  | [] => pure []
  | (_, e, _) :: _ => do items call (← eval call f e)

/-- The results of a comprehension, newest first; `finish` makes one, and `first` are the items of the
first clause. -/
def evalClauses (call : Caller κ) [Calls call R] (f : Frame) (finish : Within R (Value × Value))
    (first : Option (List Value)) (done : List (Value × Value)) :
    List (Expr × Expr × List Expr) → Within R (List (Value × Value))
  | [] => do pure ((← finish) :: done)
  | (target, e, tests) :: r => do
    let vs ← match first with
      | some vs => pure vs
      | none => do items call (← eval call f e)
    vs.foldlM (fun done v => do
      assign call f target v
      if ← evalTests call f tests then evalClauses call f finish none done r else pure done) done

def evalTests (call : Caller κ) [Calls call R] (f : Frame) : List Expr → Within R Bool
  | [] => pure true
  | e :: r => do
    if ← truth call (← eval call f e) then evalTests call f r else pure false

/-- Stores a value in a target. -/
def assign (call : Caller κ) [Calls call R] (f : Frame) : Expr → Value → Within R Unit
  | .name id, v => store f id v
  | .attr e name, v => do setAttr call (← eval call f e) name v
  | .index e key, v => do
    let c ← eval call f e
    setItem call c (← eval call f key) v
  | .starred e, v => assign call f e v
  | .tuple targets, v => do assignAll call f targets (← spreadOver (← unpacked call v) targets)
  | .list targets, v => do assignAll call f targets (← spreadOver (← unpacked call v) targets)
  | _, _ => fail .syntaxFault

def assignAll (call : Caller κ) [Calls call R] (f : Frame) : List Expr → List Value → Within R Unit
  | t :: ts, v :: vs => do
    assign call f t v
    assignAll call f ts vs
  | _, _ => pure ()

end
end Patchwork.Script
