import Patchwork.Number.Complex
import Patchwork.Pattern.Basic

/-!
Values. Those that never change stand for themselves; all others are places in the store.
-/

namespace Patchwork

/-- A place in the store. -/
abbrev Address := Nat

/-- The kinds of errors. -/
inductive ErrorKind where
  | exception
  | arithmetic
  | assertion
  | attributes
  | hostPatch
  | importing
  | index
  | invalidRange
  | key
  | lookup
  | memory
  | moduleNotFound
  | names
  | os
  | overflow
  | patchCompile
  | pattern
  | recursion
  | runtime
  | stopIteration
  | syntaxFault
  | type
  | unboundLocal
  | token
  | value
  | zeroDivision
  | exit
  | interrupt
  /-- A kind that a script derives from another one. -/
  | derived (name : String) (base : ErrorKind)
  /-- A kind that is a special case of two others. -/
  | both (first second : ErrorKind)
  deriving DecidableEq

def ErrorKind.name : ErrorKind → String
  | exception => "Exception"
  | arithmetic => "ArithmeticError"
  | assertion => "AssertionError"
  | attributes => "AttributeError"
  | hostPatch => "HostPatchError"
  | importing => "ImportError"
  | index => "IndexError"
  | invalidRange => "InvalidSpecifier"
  | key => "KeyError"
  | lookup => "LookupError"
  | memory => "MemoryError"
  | moduleNotFound => "ModuleNotFoundError"
  | names => "NameError"
  | os => "OSError"
  | overflow => "OverflowError"
  | patchCompile => "PatchCompileError"
  | pattern => "error"
  | recursion => "RecursionError"
  | runtime => "RuntimeError"
  | stopIteration => "StopIteration"
  | syntaxFault => "SyntaxError"
  | token => "TokenError"
  | type => "TypeError"
  | unboundLocal => "UnboundLocalError"
  | value => "ValueError"
  | zeroDivision => "ZeroDivisionError"
  | exit => "SystemExit"
  | interrupt => "KeyboardInterrupt"
  | derived name _ => name
  | both first _ => first.name

/-- Errors that handlers for ordinary failures let through. -/
def ErrorKind.isFatal : ErrorKind → Bool
  | exit | interrupt => true
  | derived _ base => base.isFatal
  | both first second => first.isFatal || second.isFatal
  | _ => false

/-- A kind and the kinds that it is a special case of, nearest first. -/
def ErrorKind.lineage : ErrorKind → List ErrorKind
  | exit => [exit]
  | interrupt => [interrupt]
  | exception => [exception]
  | overflow => [overflow, arithmetic, exception]
  | zeroDivision => [zeroDivision, arithmetic, exception]
  | index => [index, lookup, exception]
  | key => [key, lookup, exception]
  | moduleNotFound => [moduleNotFound, importing, exception]
  | unboundLocal => [unboundLocal, names, exception]
  | recursion => [recursion, runtime, exception]
  | invalidRange => [invalidRange, value, exception]
  | patchCompile => [patchCompile, hostPatch, exception]
  | derived name base => derived name base :: base.lineage
  | both first second => first.lineage ++ second.lineage
  | k => [k, exception]

/-- Whether a kind is another one or a special case of it. -/
def ErrorKind.isA (k other : ErrorKind) : Bool :=
  k.lineage.contains other

theorem ErrorKind.isA_derived_base (name : String) (base : ErrorKind) (h : base.isA base) :
    (derived name base).isA base := by
  simp_all [isA, lineage]

/-- The kinds of errors that scripts can name. -/
def ErrorKind.inScripts : List ErrorKind :=
  [exception, arithmetic, assertion, attributes, importing, index, key, lookup, memory, moduleNotFound, names, os,
    overflow, recursion, runtime, stopIteration, syntaxFault, type, unboundLocal, value, zeroDivision, exit,
    interrupt]

/-- Functions of the host that have no source text. -/
inductive Helper where
  | inc
  | double
  | mul10
  | ident
  | note
  | boom
  deriving DecidableEq

def Helper.all : List Helper :=
  [inc, double, mul10, ident, note, boom]

def Helper.name : Helper → String
  | inc => "inc"
  | double => "double"
  | mul10 => "mul10"
  | ident => "ident"
  | note => "note"
  | boom => "boom"

/-- Built-in types that scripts can name. -/
inductive BuiltinType where
  | bool
  | bytes
  | classMethod
  | dict
  | float
  | int
  | list
  | object
  | property
  | set
  | staticMethod
  | str
  | tuple
  | type
  /-- A type that scripts meet but cannot name. -/
  | other (name : String)
  deriving DecidableEq

def BuiltinType.name : BuiltinType → String
  | bool => "bool"
  | bytes => "bytes"
  | classMethod => "classmethod"
  | dict => "dict"
  | float => "float"
  | int => "int"
  | list => "list"
  | object => "object"
  | property => "property"
  | set => "set"
  | staticMethod => "staticmethod"
  | str => "str"
  | tuple => "tuple"
  | type => "type"
  | other name => name

/-- What is built in. -/
inductive Native where
  | function (name : String)
  | type (t : BuiltinType)
  | error (k : ErrorKind)
  /-- The call of a runtime: hands out a module's exports, running the module first if needed. -/
  | require
  /-- Patches a factory for a table with the patches of a registry. -/
  | patching (registry : Nat)
  deriving DecidableEq

def Native.name : Native → String
  | function name => name
  | type t => t.name
  | error k => k.name
  | require => "__call__"
  | patching _ => "patch_factory"

inductive Value where
  | none
  | bool (b : Bool)
  | int (n : Int)
  | float (x : Number.Binary64)
  | complex (x : Number.Complex)
  | str (s : String)
  | bytes (data : List UInt8)
  | tuple (items : List Value)
  | pattern (p : Pattern)
  | native (n : Native)
  | failure (k : ErrorKind) (args : List Value)
  | bound (receiver : Value) (name : String)
  | method (receiver function : Value)
  | ref (a : Address)
  deriving Inhabited

namespace Value

mutual

/-- Whether two values are the same term. -/
def alike : Value → Value → Bool
  | none, none => true
  | bool a, bool b => a == b
  | int m, int n => m == n
  | float x, float y => x == y
  | complex x, complex y => x == y
  | str s, str t => s == t
  | bytes s, bytes t => s == t
  | tuple a, tuple b => allAlike a b
  | pattern p, pattern q => p == q
  | native m, native n => m == n
  | failure k a, failure l b => k == l && allAlike a b
  | bound r m, bound s n => alike r s && m == n
  | method r f, method s g => alike r s && alike f g
  | ref a, ref b => a == b
  | _, _ => false

def allAlike : List Value → List Value → Bool
  | [], [] => true
  | v :: a, w :: b => alike v w && allAlike a b
  | _, _ => false

end

mutual

theorem alike_iff : (v w : Value) → (alike v w = true ↔ v = w)
  | .tuple a, w => by cases w <;> simp [alike, allAlike_iff a]
  | .failure k a, w => by cases w <;> simp [alike, allAlike_iff a]
  | .bound r m, w => by cases w <;> simp [alike, alike_iff r]
  | .method r f, w => by cases w <;> simp [alike, alike_iff r, alike_iff f]
  | .none, w | .bool _, w | .int _, w | .float _, w | .complex _, w | .str _, w | .bytes _, w | .pattern _, w
  | .native _, w | .ref _, w => by cases w <;> simp [alike]

theorem allAlike_iff : (vs ws : List Value) → (allAlike vs ws = true ↔ vs = ws)
  | [], ws => by cases ws <;> simp [allAlike]
  | v :: vs, ws => by cases ws <;> simp [allAlike, alike_iff v, allAlike_iff vs]

end

instance : DecidableEq Value :=
  fun v w => decidable_of_iff _ (alike_iff v w)

/-- The number that a value counts as in comparisons. -/
def integer? : Value → Option Int
  | bool b => some (if b then 1 else 0)
  | int n => some n
  | _ => Option.none

/-- The parts of numbers that have names. -/
def numberPart? (v : Value) (name : String) : Option Value :=
  match v.integer?, v, name with
  | some n, _, "real" | some n, _, "numerator" => some (.int n)
  | some _, _, "imag" => some (.int 0)
  | some _, _, "denominator" => some (.int 1)
  | Option.none, .float x, "real" => some (.float x)
  | Option.none, .float _, "imag" => some (.float (Number.Binary64.ofInt 0))
  | Option.none, .complex z, "real" => some (.float z.re)
  | Option.none, .complex z, "imag" => some (.float z.im)
  | _, _, _ => Option.none

/-- Whether a value is the very same one. -/
def identical (a b : Value) : Bool :=
  match a, b with
  | none, none => true
  | bool x, bool y => x == y
  | int x, int y => x == y
  | float x, float y => x == y
  | complex x, complex y => x == y
  | str x, str y => x == y
  | bytes x, bytes y => x == y
  | ref x, ref y => x == y
  | native x, native y => x == y
  | tuple [], tuple [] => true
  | _, _ => false

/-- Whether a double equals a whole number. -/
def floatIsInt (x : Number.Binary64) (n : Int) : Bool :=
  x.toInt? == some n

mutual

/-- Equality as a key: numbers by their value, text by its characters, the rest by identity. What is no number is
one of many, told apart by their bits. -/
def sameKey : Value → Value → Bool
  | none, none => true
  | bool a, bool b => a == b
  | bool a, int n => (if a then 1 else 0) == n
  | int n, bool a => (if a then 1 else 0) == n
  | int m, int n => m == n
  | bool a, float x => floatIsInt x (if a then 1 else 0)
  | float x, bool a => floatIsInt x (if a then 1 else 0)
  | int n, float x => floatIsInt x n
  | float x, int n => floatIsInt x n
  | float x, float y => x.equals y || x == y
  | complex x, complex y => x.equals y || x == y
  | complex x, float y => x.isReal && x.re.equals y
  | float x, complex y => y.isReal && y.re.equals x
  | complex x, int n => x.isReal && floatIsInt x.re n
  | int n, complex x => x.isReal && floatIsInt x.re n
  | complex x, bool b => x.isReal && floatIsInt x.re (if b then 1 else 0)
  | bool b, complex x => x.isReal && floatIsInt x.re (if b then 1 else 0)
  | str s, str t => s == t
  | bytes s, bytes t => s == t
  | tuple a, tuple b => sameKeys a b
  | pattern p, pattern q => p.same q
  | native m, native n => m == n
  | failure k a, failure l b => k == l && sameKeys a b
  | bound r m, bound s n => sameKey r s && m == n
  | method r f, method s g => sameKey r s && sameKey f g
  | ref a, ref b => a == b
  | _, _ => false

def sameKeys : List Value → List Value → Bool
  | [], [] => true
  | v :: a, w :: b => sameKey v w && sameKeys a b
  | _, _ => false

end

section

variable {α : Type}

/-- The stored value under an equal key. -/
def lookup? (entries : List (Value × α)) (key : Value) : Option α :=
  (entries.find? fun e => sameKey e.1 key).map (·.2)

def hasKey (entries : List (Value × α)) (key : Value) : Bool :=
  entries.any fun e => sameKey e.1 key

/-- Stores a value: an equal key keeps its place and its first spelling, a new one goes to the end. -/
def insert (entries : List (Value × α)) (key : Value) (value : α) : List (Value × α) :=
  match entries with
  | [] => [(key, value)]
  | e :: rest => if sameKey e.1 key then (e.1, value) :: rest else e :: insert rest key value

def erase (entries : List (Value × α)) (key : Value) : List (Value × α) :=
  entries.filter fun e => !sameKey e.1 key

end

end Value

/-- What a call is given. -/
structure Arguments where
  positional : List Value
  named : List (String × Value)
  deriving Inhabited

def Arguments.of (positional : List Value) : Arguments :=
  ⟨positional, []⟩

/-- Attributes in the order in which they were first set. -/
abbrev Attributes := List (String × Value)

namespace Attributes

def get? (attrs : Attributes) (name : String) : Option Value :=
  (attrs.find? (·.1 == name)).map (·.2)

def set (attrs : Attributes) (name : String) (value : Value) : Attributes :=
  if attrs.any (·.1 == name) then attrs.map fun a => if a.1 == name then (name, value) else a
  else attrs ++ [(name, value)]

def erase (attrs : Attributes) (name : String) : Attributes :=
  attrs.filter (·.1 != name)

end Attributes

end Patchwork
