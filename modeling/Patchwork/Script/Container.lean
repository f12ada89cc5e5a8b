import Patchwork.Script.Argument
import Patchwork.Script.TextMethod

/-!
The methods of tuples, lists, sets and dictionaries, and reading entries out of mappings.
-/

namespace Patchwork.Script

open Run

variable {κ : Type} {R : World κ → World κ → Prop} [Still R]

/-! ## Items in the order of their keys -/

/-- The first of the items that come before all others in an order by their keys. -/
def extreme (call : Caller κ) [Calls call R] (order : Comparison) (best : Value × Value) :
    List (Value × Value) → Within R Value
  | [] => pure best.1
  | v :: r => do
    if ← compares call order v.2 best.2 then extreme call order v r else extreme call order best r

/-- Puts an item behind those whose keys are not greater. -/
def insertSorted (call : Caller κ) [Calls call R] (v : Value × Value) :
    List (Value × Value) → Within R (List (Value × Value))
  | [] => pure [v]
  | w :: r => do
    if ← compares call .less v.2 w.2 then pure (v :: w :: r) else pure (w :: (← insertSorted call v r))

/-- Items in the order of their keys, in which equal ones keep their order. -/
def sortedItems (call : Caller κ) [Calls call R] (reversed : Bool) (vs : List (Value × Value)) :
    Within R (List Value) := do
  let vs := if reversed then vs.reverse else vs
  let sorted ← vs.foldlM (fun done v => insertSorted call v done) []
  let items := sorted.map (·.1)
  pure (if reversed then items.reverse else items)

/-- Items with their keys: what a function says of them, or they themselves. -/
def keyed (call : Caller κ) [Calls call R] (key : Option Value) (vs : List Value) :
    Within R (List (Value × Value)) :=
  vs.mapM fun v => do
    match key with
    | none | some .none => pure (v, v)
    | some f => pure (v, ← ask call f (.of [v]))

/-- Items in the order that the named arguments `key` and `reverse` ask for. -/
def sortedBy (call : Caller κ) [Calls call R] (named : Attributes) (vs : List Value) :
    Within R (List Value) := do
  match named.find? fun e => !(["key", "reverse"].contains e.1) with
  | some (n, _) => mistyped s!"{Text.quoted n} is an invalid keyword argument for sort()"
  | none => pure ()
  let reversed ← match Attributes.get? named "reverse" with
    | some r => do pure ((← smallArgument r) != 0)
    | none => pure false
  sortedItems call reversed (← keyed call (Attributes.get? named "key") vs)

/-! ## Methods -/

/-- A pair out of a sequence of pairs. -/
def pairOf (call : Caller κ) [Calls call R] (index : Nat) (v : Value) : Within R (Value × Value) := do
  let vs ← handle (items call v) fun c =>
    match c with
    | .noIteration _ => fail (.updateType index)
    | c => fail c
  match vs with
  | [k, w] => do
    checkKey k
    pure (k, w)
  | vs => fail (.updateItem index vs.length)

/-- The entries of a mapping, or of a sequence of pairs, each with what reads it. -/
def entryReads (call : Caller κ) [Calls call R] (v : Value) : Within R (List (Within R (Value × Value))) := do
  match ← mappingEntries? call v with
  | some es => pure (es.map fun e => do pure (e.1, ← e.2))
  | none => do pure ((← items call v).zipIdx.map fun (w, i) => pairOf call i w)

/-- The entries of a mapping or of a sequence of pairs. -/
def entriesOf (call : Caller κ) [Calls call R] (v : Value) : Within R (List (Value × Value)) := do
  (← entryReads call v).mapM id

/-- Adds the entries of a value to a dictionary; of a sequence of pairs those before a bad one, too. -/
def updateWith (call : Caller κ) [Calls call R] (a : Address) (v : Value) : Within R Unit := do
  (← entryReads call v).forM fun read => do
    let (k, w) ← read
    write a (.entries (Value.insert (← entries a) k w))

def dictMethod (call : Caller κ) [Calls call R] (v : Value) (a : Address) (name : String) (args : Arguments) :
    Within R Value := do
  let es ← entries a
  let full := "dict." ++ name
  match name with
  | "update" =>
    match args.positional with
    | [] => pure ()
    | [v] => updateWith call a v
    | vs => fail (.atMost name 1 vs.length)
    args.named.forM fun e => do write a (.entries (Value.insert (← entries a) (.str e.1) e.2))
    pure .none
  | "keys" | "values" | "items" | "clear" | "copy" | "popitem" | "__len__" =>
    noArguments full args
    match name with
    | "keys" => new (.view .keys (es.map (·.1)))
    | "values" => new (.view .values (es.map (·.2)))
    | "items" => new (.view .items (es.map fun e => .tuple [e.1, e.2]))
    | "copy" => new (.dict es)
    | "__len__" => pure (.int es.length)
    | "clear" =>
      write a (.entries [])
      pure .none
    | _ =>
      match es.getLast? with
      | some (k, v) =>
        write a (.entries es.dropLast)
        pure (.tuple [k, v])
      | none => fail (.raised .key [.str "popitem(): dictionary is empty"])
  | "__setitem__" =>
    checkCount name 2 2 args
    match args.positional with
    | [k, v] =>
      setItem call (.ref a) k v
      pure .none
    | _ => pure .none
  | "__getitem__" => do builtinItem call v (← onlyArgument full args)
  | "__delitem__" =>
    deleteItem call (.ref a) (← onlyArgument full args)
    pure .none
  | "__contains__" => do pure (.bool (← holds call (.ref a) (← onlyArgument full args)))
  | _ =>
    if !args.named.isEmpty then fail (.noNamed full)
    checkCount name 1 2 args
    match args.positional with
    | k :: rest =>
      if !(name == "pop" && es.isEmpty) then checkKey k
      match name, Value.lookup? es k with
      | "get", found => pure (found.getD (rest.headD .none))
      | "pop", some v =>
        write a (.entries (Value.erase es k))
        pure v
      | "pop", none =>
        match rest with
        | v :: _ => pure v
        | [] => fail (.noKey k)
      | _, some v => pure v
      | _, none =>
        let v := rest.headD .none
        write a (.entries (Value.insert es k v))
        pure v
    | [] => pure .none

/-- The methods of a mapping that cannot be changed. -/
def proxyMethod (call : Caller κ) [Calls call R] (v : Value) (es : List (Value × Value)) (name : String)
    (args : Arguments) : Within R Value := do
  match name with
  | "keys" => new (.view .keys (es.map (·.1)))
  | "values" => new (.view .values (es.map (·.2)))
  | "items" => new (.view .items (es.map fun e => .tuple [e.1, e.2]))
  | "copy" => new (.dict es)
  | "__len__" => pure (.int es.length)
  | "__getitem__" => do getItem call v (← onlyArgument name args)
  | "__contains__" => do pure (.bool (← holds call v (← onlyArgument name args)))
  | _ =>
    checkCount name 1 2 args
    match args.positional with
    | k :: rest =>
      checkKey k
      pure ((Value.lookup? es k).getD (rest.headD .none))
    | [] => pure .none

/-- The place of the first equal item, counted from `start`. -/
def placeOf? (call : Caller κ) [Calls call R] (v : Value) (start : Nat) : List Value → Within R (Option Nat)
  | [] => pure none
  | w :: r => do
    if ← equalItem call w v then pure (some start) else placeOf? call v (start + 1) r

/-- The place of a value among the items between optional bounds. -/
def placeBetween? (call : Caller κ) [Calls call R] (items : List Value) (args : List Value) :
    Within R (Option Nat) := do
  match args with
  | [] => pure none
  | v :: bounds =>
    let bound (b : Option Value) (default : Int) : Within R Int :=
      match b with
      | none => pure default
      | some b => do
        match ((← heap).core b).integer? with
        | some n => pure n
        | none => mistyped "slice indices must be integers or have an __index__ method"
    let start := Text.placeIn items.length (← bound bounds.head? 0)
    let stop := Text.placeIn items.length (← bound (bounds.drop 1).head? items.length)
    placeOf? call v start ((items.take stop).drop start)

/-- How many items equal a value. -/
def countEqual (call : Caller κ) [Calls call R] (v : Value) (items : List Value) : Within R Nat := do
  items.foldlM (fun n w => do pure (if ← equalItem call w v then n + 1 else n)) 0

def listMethod (call : Caller κ) [Calls call R] (a : Address) (xs : List Value) (name : String) (args : Arguments) :
    Within R Value := do
  let full := "list." ++ name
  let change (xs : List Value) : Within R Value := do
    write a (.items xs)
    pure .none
  match name with
  | "append" => do change (xs ++ [← onlyArgument full args])
  | "extend" => do change (xs ++ (← items call (← onlyArgument full args)))
  | "insert" =>
    checkCount name 2 2 args
    match args.positional with
    | [i, v] =>
      let i := Text.placeIn xs.length (← sizeArgument i)
      change (xs.take i ++ v :: xs.drop i)
    | _ => pure .none
  | "pop" =>
    checkCount name 0 1 args
    let i ← sizeArgument (args.positional.headD (.int (-1)))
    if xs.isEmpty then fail (.raised .index [.str "pop from empty list"])
    let place := if i < 0 then i + xs.length else i
    match if place < 0 then none else xs[place.toNat]? with
    | some v =>
      write a (.items (xs.eraseIdx place.toNat))
      pure v
    | none => fail (.outOfRange "pop index")
  | "remove" =>
    let v ← onlyArgument full args
    match ← placeOf? call v 0 xs with
    | some i => change (xs.eraseIdx i)
    | none => fail (.raised .value [.str "list.remove(x): x not in list"])
  | "clear" =>
    noArguments full args
    change []
  | "reverse" =>
    noArguments full args
    change xs.reverse
  | "sort" => do
    if !args.positional.isEmpty then mistyped "sort() takes no positional arguments"
    change (← sortedBy call args.named xs)
  | "copy" =>
    noArguments full args
    new (.list xs)
  | "index" =>
    checkCount name 1 3 args
    match ← placeBetween? call xs args.positional with
    | some i => pure (.int i)
    | none => do
      let text ← shown call (args.positional.headD .none)
      fail (.raised .value [.str (text ++ " is not in list")])
  | "count" => do
    pure (.int (← countEqual call (← onlyArgument full args) xs))
  | "__setitem__" =>
    match args.positional with
    | [k, v] =>
      setItem call (.ref a) k v
      pure .none
    | vs => mistyped s!"expected 2 arguments, got {vs.length}"
  | "__delitem__" =>
    deleteItem call (.ref a) (← onlyArgument full args)
    pure .none
  | "__contains__" => do pure (.bool (← holds call (.ref a) (← onlyArgument full args)))
  | "__len__" => pure (.int xs.length)
  | _ => do getItem call (.ref a) (← onlyArgument full args)

def tupleMethod (call : Caller κ) [Calls call R] (xs : List Value) (name : String) (args : Arguments) :
    Within R Value := do
  match name with
  | "index" =>
    checkCount name 1 3 args
    match ← placeBetween? call xs args.positional with
    | some i => pure (.int i)
    | none => fail (.raised .value [.str "tuple.index(x): x not in tuple"])
  | "count" => do
    pure (.int (← countEqual call (← onlyArgument "tuple.count" args) xs))
  | "__contains__" => do pure (.bool (← holds call (.tuple xs) (← onlyArgument name args)))
  | "__len__" => pure (.int xs.length)
  | _ => do getItem call (.tuple xs) (← onlyArgument name args)

/-- The methods of sets. -/
def setMethod (call : Caller κ) [Calls call R] (a : Address) (xs : List Value) (name : String) (args : Arguments) :
    Within R Value := do
  let full := "set." ++ name
  let change (xs : List Value) : Within R Value := do
    write a (.items xs)
    pure .none
  let key : Within R Value := do
    let v ← onlyArgument full args
    checkKey v
    pure v
  match name with
  | "add" => do change (Table.addKey xs (← key))
  | "discard" => do
    let v ← key
    change (xs.filter fun w => !Value.sameKey w v)
  | "remove" => do
    let v ← key
    if !Table.holds xs v then fail (.noKey v)
    change (xs.filter fun w => !Value.sameKey w v)
  | "update" => do
    let vs := (← args.positional.mapM (items call)).flatten
    vs.forM checkKey
    change (vs.foldl Table.addKey xs)
  | "__contains__" => do pure (.bool (Table.holds xs (← key)))
  | _ =>
    noArguments full args
    match name with
    | "clear" => change []
    | "copy" => new (.set xs)
    | _ => pure (.int xs.length)

/-- The methods of bytes. -/
def bytesMethod (data : List UInt8) (name : String) : Within R Value := do
  match name with
  | "decode" => pure (.str ((String.fromUTF8? ⟨data.toArray⟩).getD ""))
  | "hex" => pure (textValue (data.flatMap fun b => Text.hexDigits 2 b.toNat))
  | _ => pure (.int data.length)

/-- A method of a value of a built-in type. -/
def valueMethod (call : Caller κ) [Calls call R] (v : Value) (name : String) (args : Arguments) :
    Within R Value := do
  match (← heap).core v with
  | .str s => textMethod call s name args
  | .tuple xs => tupleMethod call xs name args
  | .bytes data => bytesMethod data name
  | .ref a =>
    match ← objectAt? a with
    | some (.dict _) => dictMethod call v a name args
    | some (.proxy es) => proxyMethod call v es name args
    | some (.list xs) => listMethod call a xs name args
    | some (.set xs) => setMethod call a xs name args
    | _ => noAttribute v name
  | _ => noAttribute v name

/-- A method of a built-in type; one that is not bound to a value takes it as its first argument. -/
def containerMethod (call : Caller κ) [Calls call R] (v : Value) (name : String) (args : Arguments) :
    Within R Value := do
  match v with
  | .native (.type t) =>
    match args.positional with
    | [] => mistyped s!"unbound method {t.name}.{name}() needs an argument"
    | self :: rest => do
      let h ← heap
      if h.typeName false (h.core self) = t.name then valueMethod call self name { args with positional := rest }
      else mistyped s!"descriptor {Text.quoted name} for {Text.quoted t.name} objects doesn't apply to a {Text.quoted (h.kindOf self)} object"
  | v => valueMethod call v name args

end Patchwork.Script
