import Patchwork.Store.Percent
import Patchwork.Pattern.Template
import Patchwork.Script.Block
import Patchwork.Version.Specifier

/-!
Why an operation fails, and what is said about it.
-/

namespace Patchwork

/-- How a division by zero was written. -/
inductive DivisionKind where
  | whole
  | wholeModulo
  | wholeQuotient
  | fractional
  | wholeFractional
  | modulo
  | both
  | power
  | complex

def DivisionKind.message : DivisionKind → String
  | .whole => "integer division or modulo by zero"
  | .wholeModulo => "integer modulo by zero"
  | .wholeQuotient => "division by zero"
  | .fractional => "float division by zero"
  | .wholeFractional => "float floor division by zero"
  | .modulo => "float modulo"
  | .both => "float divmod()"
  | .power => "0.0 cannot be raised to a negative power"
  | .complex => "complex division by zero"

inductive Cause where
  | raised (k : ErrorKind) (args : List Value)
  /-- An error whose class gives its text. -/
  | worded (k : ErrorKind) (text : String)
  -- names
  | unknownName (name : String)
  | unsetLocal (name : String)
  | unsetFree (name : String)
  | unknownModule (name : String)
  | unknownImport (name module : String)
  -- attributes
  | noAttribute (type name : String)
  | noClassAttribute (cls name : String)
  | noModuleAttribute (module name : String)
  | noStoredAttribute (name : String)
  -- keys and places
  | noKey (key : Value)
  | nothingToPop
  | outOfRange (what : String)
  | unhashable (type : String)
  | badIndex (container type : String)
  | noIndexing (type : String)
  | noClassIndexing (name : String)
  | noIndexAssignment (type : String)
  | noItemDeletion (byPlace : Bool) (type : String)
  | pinnedEntry (key : Value)
  | sizeChanged
  | keysChanged
  -- calls
  | notCallable (type : String)
  | missing (function : String) (named : Bool) (names : List String)
  | tooMany (function : String) (least most given namedGiven : Nat)
  | unexpected (function name : String)
  | repeated (function name : String)
  | plainOnly (function : String) (names : List String)
  | exactlyOne (function : String) (given : Nat)
  | takesNone (function : String) (given : Nat)
  | atLeastOne (function : String)
  | atMost (function : String) (most given : Nat)
  | noNamed (function : String)
  | badBase (type : String)
  -- operands
  | operands (op left right : String)
  | operand (op type : String)
  | concatenation (sequence type : String)
  | repetition (type : String)
  | tooLargeForDouble
  | noIndexFit (type : String)
  | outOfDoubles
  | ordering (op left right : String)
  | noIteration (type : String)
  | noMembership (type : String)
  | textMember (type : String)
  | division (kind : DivisionKind)
  | needsInteger (type : String)
  | integerTooLarge
  | notInteger (text : String)
  | notFloat (text : String)
  | notNumber (function type : String)
  | unpackFew (expected given : Nat)
  | unpackMany (expected : Nat)
  | updateItem (index length : Nat)
  | updateType (index : Nat)
  | notException
  | nothingActive
  | spreadType (function type : String)
  | spreadItems (function type : String)
  | repeatedSpread (function name : String)
  | lengthType (type : String)
  -- text and patterns
  | joinItem (index : Nat) (type : String)
  | expectedText (type : String)
  | notPattern (type : String)
  | pattern (f : Pattern.Fault) (text : List Char)
  | unknownGroup
  | noSuchGroup
  | versionCondition (text : String)
  | format (f : Percent.Fault)
  -- source text
  | noSource
  | lineOutOfRange
  | noSourceFor (type : String)
  | builtInClass (text : String)
  | builtInModule (text : String)
  | brokenBlock (o : Script.Outcome)
  | nullBytes
  | syntaxFault
  | notCompiled (id : String)
  | noFunction (id : String)

namespace Cause

def kind : Cause → ErrorKind
  | raised k _ | worded k _ => k
  | unknownName _ | unsetFree _ => .names
  | unsetLocal _ => .unboundLocal
  | unknownModule _ => .moduleNotFound
  | unknownImport _ _ => .importing
  | noAttribute _ _ | noClassAttribute _ _ | noModuleAttribute _ _ | noStoredAttribute _ => .attributes
  | noKey _ | nothingToPop => .key
  | outOfRange _ | unknownGroup | noSuchGroup => .index
  | sizeChanged | keysChanged | nothingActive => .runtime
  | division _ => .zeroDivision
  | integerTooLarge | noIndexFit _ | tooLargeForDouble | outOfDoubles => .overflow
  | notInteger _ | notFloat _ | unpackFew _ _ | unpackMany _ | updateItem _ _ | nullBytes => .value
  | pattern f _ =>
    match f.cause.faultKind with
    | .pattern => .pattern
    | .value => .value
    | .overflow => .overflow
  | versionCondition _ => .invalidRange
  | format f => f.kind
  | noSource | lineOutOfRange => .os
  | brokenBlock _ => .token
  | syntaxFault => .syntaxFault
  | notCompiled _ | noFunction _ => .patchCompile
  | _ => .type

/-- Names in quotes, with `and` before the last. -/
def enumerated (names : List String) : String :=
  match names.map Text.quoted with
  | [] => ""
  | [a] => a
  | [a, b] => a ++ " and " ++ b
  | all => ", ".intercalate all.dropLast ++ ", and " ++ all.getLast?.getD ""

def plural (n : Nat) : String :=
  if n = 1 then "" else "s"

def message (h : Heap) : Cause → String
  | raised k args => h.str (.failure k args)
  | worded _ text => text
  | unknownName n => s!"name {Text.quoted n} is not defined"
  | unsetLocal n => s!"cannot access local variable {Text.quoted n} where it is not associated with a value"
  | unsetFree n =>
    s!"cannot access free variable {Text.quoted n} where it is not associated with a value in enclosing scope"
  | unknownModule n => s!"No module named {Text.quoted n}"
  | unknownImport n m => s!"cannot import name {Text.quoted n} from {Text.quoted m} (unknown location)"
  | noAttribute t n => s!"{Text.quoted t} object has no attribute {Text.quoted n}"
  | noClassAttribute c n => s!"type object {Text.quoted c} has no attribute {Text.quoted n}"
  | noModuleAttribute m n => s!"module {Text.quoted m} has no attribute {Text.quoted n}"
  | noStoredAttribute n => n
  | noKey key => h.repr key
  | nothingToPop => ""
  | outOfRange what => s!"{what} out of range"
  | .unhashable t => s!"unhashable type: {Text.quoted t}"
  | badIndex c t =>
    if c = "str" then s!"string indices must be integers, not {Text.quoted t}"
    else s!"{c} indices must be integers or slices, not {t}"
  | noIndexing t => s!"{Text.quoted t} object is not subscriptable"
  | noClassIndexing n => s!"type {Text.quoted n} is not subscriptable"
  | noIndexAssignment t => s!"{Text.quoted t} object does not support item assignment"
  | noItemDeletion true t => s!"{Text.quoted t} object doesn't support item deletion"
  | noItemDeletion false t => s!"{Text.quoted t} object does not support item deletion"
  | pinnedEntry key => s!"Module table entry {h.repr key} was described and cannot be removed"
  | sizeChanged => "dictionary changed size during iteration"
  | keysChanged => "dictionary keys changed during iteration"
  | notCallable t => s!"{Text.quoted t} object is not callable"
  | missing f named names =>
    let sort := if named then "keyword-only" else "positional"
    s!"{f}() missing {names.length} required {sort} argument{plural names.length}: {enumerated names}"
  | tooMany f least most given named =>
    let range := if least = most then s!"{most}" else s!"from {least} to {most}"
    let ending := if least = most then plural most else "s"
    let takes := s!"{f}() takes {range} positional argument{ending} but {given}"
    if named = 0 then takes ++ (if given = 1 then " was given" else " were given")
    else
      takes ++ s!" positional argument{plural given} (and {named} keyword-only argument{plural named}) were given"
  | unexpected f n => s!"{f}() got an unexpected keyword argument {Text.quoted n}"
  | repeated f n => s!"{f}() got multiple values for argument {Text.quoted n}"
  | plainOnly f names =>
    let all := Text.quoted (", ".intercalate names)
    s!"{f}() got some positional-only arguments passed as keyword arguments: {all}"
  | exactlyOne f given => s!"{f}() takes exactly one argument ({given} given)"
  | takesNone f given => s!"{f}() takes no arguments ({given} given)"
  | atLeastOne f => s!"{f} expected at least 1 argument, got 0"
  | .atMost f most given => s!"{f} expected at most {most} argument{plural most}, got {given}"
  | noNamed f => s!"{f}() takes no keyword arguments"
  | badBase t => s!"type {Text.quoted t} is not an acceptable base type"
  | operands op l r => s!"unsupported operand type(s) for {op}: {Text.quoted l} and {Text.quoted r}"
  | concatenation "bytes" t => s!"can't concat {t} to bytes"
  | concatenation s t => s!"can only concatenate {s} (not " ++ "\"" ++ t ++ "\"" ++ s!") to {s}"
  | repetition t => s!"can't multiply sequence by non-int of type {Text.quoted t}"
  | noIndexFit t => s!"cannot fit {Text.quoted t} into an index-sized integer"
  | tooLargeForDouble => "int too large to convert to float"
  | outOfDoubles => "(34, 'Numerical result out of range')"
  | operand op t => s!"bad operand type for unary {op}: {Text.quoted t}"
  | ordering op l r => s!"{Text.quoted op} not supported between instances of {Text.quoted l} and {Text.quoted r}"
  | noIteration t => s!"{Text.quoted t} object is not iterable"
  | noMembership t => s!"argument of type {Text.quoted t} is not iterable"
  | textMember t => s!"'in <string>' requires string as left operand, not {t}"
  | division k => k.message
  | needsInteger t => s!"{Text.quoted t} object cannot be interpreted as an integer"
  | integerTooLarge => "Python int too large to convert to C ssize_t"
  | notInteger s => s!"invalid literal for int() with base 10: {Text.quoted s}"
  | notFloat s => s!"could not convert string to float: {Text.quoted s}"
  | notNumber f t =>
    s!"{f}() argument must be a string, a bytes-like object or a real number, not {Text.quoted t}"
  | unpackFew expected given => s!"not enough values to unpack (expected {expected}, got {given})"
  | unpackMany expected => s!"too many values to unpack (expected {expected})"
  | updateItem i n => s!"dictionary update sequence element #{i} has length {n}; 2 is required"
  | updateType i => s!"cannot convert dictionary update sequence element #{i} to a sequence"
  | notException => "exceptions must derive from BaseException"
  | nothingActive => "No active exception to reraise"
  | spreadType f t => s!"{f} argument after ** must be a mapping, not {t}"
  | spreadItems f t => s!"{f} argument after * must be an iterable, not {t}"
  | repeatedSpread f n => s!"{f} got multiple values for keyword argument {Text.quoted n}"
  | lengthType t => s!"object of type {Text.quoted t} has no len()"
  | joinItem i t => s!"sequence item {i}: expected str instance, {t} found"
  | expectedText t => s!"expected str instance, {t} found"
  | notPattern t => s!"Expected str or compiled pattern, got {t}"
  | .pattern f text => f.message text
  | unknownGroup => "unknown group"
  | noSuchGroup => "no such group"
  | versionCondition text => VersionRange.invalidMessage text
  | .format f => f.message
  | noSource => "could not get source code"
  | lineOutOfRange => "lineno is out of bounds"
  | noSourceFor t =>
    s!"module, class, method, function, traceback, frame, or code object was expected, got {t}"
  | builtInClass text => text ++ " is a built-in class"
  | builtInModule text => text ++ " is a built-in module"
  | brokenBlock o =>
    match o with
    | .openText row column => s!"('EOF in multi-line string', ({row}, {column}))"
    | .openStatement row => s!"('EOF in multi-line statement', ({row}, 0))"
    | _ => ""
  | nullBytes => "source code string cannot contain null bytes"
  | syntaxFault => "invalid syntax"
  | notCompiled id => s!"Module {id}: rewritten source does not compile"
  | noFunction id => s!"Module {id}: rewritten source defines no function"

end Cause

/-- Why a run stops: a failure with a cause, or the end of its fuel. -/
inductive Fault where
  | failed (c : Cause)
  | exhausted

end Patchwork
