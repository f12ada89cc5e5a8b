import Patchwork.Log.Record
import Patchwork.Store.Specification
import Patchwork.Text.Form

/-!
Layouts: how a record becomes text. A layout refers to fields in one of three styles, which are checked when
it is made. An aligned layout repeats what stands in front of the message on each of its lines.
-/

namespace Patchwork.Log

open Patchwork.Text

inductive Style where
  | percent
  | brace
  | dollar
  deriving DecidableEq

def Style.mark : Style → String
  | percent => "%"
  | brace => "\x7b"
  | dollar => "$"

def Style.all : List Style :=
  [.percent, .brace, .dollar]

def Style.ofMark? (mark : String) : Option Style :=
  Style.all.find? (·.mark == mark)

/-- Why a layout cannot be made, or a record cannot be shown. -/
inductive LayoutFault where
  | unknownStyle
  | noPercentField (format : String)
  | noField
  | bareDollar
  | badBraces (text : String)
  | missingField (shown : String)
  | percent (f : Percent.Fault)
  | noPosition (n : Nat)
  | specification (f : Specification.Fault)
  /-- What should be a format is no text. -/
  | unwritable
  | filterName (type : String)
  | moment (f : MomentFault)
  /-- A field whose value has no such part. -/
  | part (kind : ErrorKind) (text : String)

def LayoutFault.message : LayoutFault → String
  | unknownStyle => "Style must be one of: " ++ ",".intercalate (Style.all.map Style.mark)
  | noPercentField f => "Invalid format '" ++ f ++ "' for '%' style"
  | noField => "invalid format: no fields"
  | bareDollar => "invalid format: bare '$' not allowed"
  | badBraces text => "invalid format: " ++ text
  | missingField shown => "Formatting field not found in record: " ++ shown
  | percent f => f.message
  | noPosition n => s!"Replacement index {n} out of range for positional args tuple"
  | specification f => f.message
  | unwritable => "invalid format"
  | filterName type => "must be str, not " ++ type
  | moment f => f.message
  | part _ text => text

def LayoutFault.kind : LayoutFault → ErrorKind
  | percent f => f.kind
  | specification f => f.kind
  | noPosition _ => .index
  | filterName _ => .type
  | moment .notNumber => .value
  | moment .tooFar => .overflow
  | moment .yearTooLarge => .os
  | part k _ => k
  | _ => .value

/-! ## Fields -/

/-- The specifications that a field may have. -/
def specificationPattern : Pattern :=
  match Pattern.compile .plain
      "^(.?[<=>^])?[+ -]?#?0?(\\d+|\x7b\\w+\x7d)?[,_]?(\\.(\\d+|\x7b\\w+\x7d))?[bcdefgnosx%]?$" [.ignoreCase] with
  | .ok p => p
  | .error _ => .ofLiteral ""

/-- The names that a field may have. -/
def fieldPattern : Pattern :=
  match Pattern.compile .plain "^(\\d+|\\w+)(\\.\\w+|\\[[^]]+\\])*$" [] with
  | .ok p => p
  | .error _ => .ofLiteral ""

def checkBracePart : FormPart → Except LayoutFault Unit
  | .broken text => .error (.badBraces text)
  | .field name conversion spec => do
    if !name.isEmpty && (fieldPattern.search? name.toList).isNone then
      .error (.badBraces ("invalid field name/expression: " ++ quoted name))
    match conversion with
    | some c =>
      if !(['r', 's', 'a'].contains c) then
        .error (.badBraces ("invalid conversion: " ++ quoted (String.ofList [c])))
    | none => .ok ()
    if !spec.isEmpty && (specificationPattern.search? spec).isNone then
      .error (.badBraces ("bad specifier: " ++ quoted (String.ofList spec)))
  | _ => .ok ()

/-- A specification with the fields that it names put in; the fuel bounds its length. -/
def expanded (h : Heap) (fields : List (String × Value)) : Nat → List Char → Except LayoutFault (List Char)
  | 0, s => .ok s
  | fuel + 1, s =>
    match s with
    | [] => .ok []
    | '\x7b' :: r => do
      let name := String.ofList (r.takeWhile (· != '\x7d'))
      match fields.find? (·.1 == name) with
      | some (_, v) => .ok ((h.str v).toList ++ (← expanded h fields fuel ((r.dropWhile (· != '\x7d')).drop 1)))
      | none => .error (.missingField (quoted name))
    | c :: r => do .ok (c :: (← expanded h fields fuel r))

/-- An item of a sequence of some sort. -/
def itemAt (sort : String) (items : List Value) (n : Nat) : Except LayoutFault Value :=
  match items[n]? with
  | some v => .ok v
  | none => .error (.part .index (sort ++ " index out of range"))

/-- An entry of a mapping. -/
def entryAt (h : Heap) (entries : List (Value × Value)) (k : Value) : Except LayoutFault Value :=
  match Value.lookup? entries k with
  | some w => .ok w
  | none => .error (.missingField (h.repr k))

def noItems (h : Heap) (v : Value) : LayoutFault :=
  .part .type (quoted (h.kindOf v) ++ " object is not subscriptable")

/-- The part of a value that a step leads to. Numbers have parts, of other values only the type is known. -/
def stepInto (h : Heap) (v : Value) : FieldStep → Except LayoutFault Value
  | .member name =>
    match v.numberPart? name with
    | some w => .ok w
    | none =>
      if name = "__class__" then .ok (.native (.type (.other (h.typeName false v))))
      else .error (.part .attributes (quoted (h.kindOf v) ++ " object has no attribute " ++ quoted name))
  | .item key =>
    match h.core v, h.at? v with
    | .str _, _ => .error (.part .type "string indices must be integers, not 'str'")
    | .tuple _, _ => .error (.part .type "tuple indices must be integers or slices, not str")
    | _, some (.list _) => .error (.part .type "list indices must be integers or slices, not str")
    | _, some (.dict entries) => entryAt h entries (.str key)
    | _, _ => .error (noItems h v)
  | .place n =>
    match h.core v, h.at? v with
    | .str s, _ => itemAt "string" (s.toList.map fun c => .str c.toString) n
    | .tuple items, _ => itemAt "tuple" items n
    | _, some (.list items) => itemAt "list" items n
    | _, some (.dict entries) => entryAt h entries (.int n)
    | _, _ => .error (noItems h v)
  | .broken reason => .error (.part .value reason)

/-- A part filled in from fields. -/
def fillPart (h : Heap) (fields : List (String × Value)) : FormPart → Except LayoutFault (List Char)
  | .text c => .ok [c]
  | .bare => .error .bareDollar
  | .broken reason => .error (.badBraces reason)
  | .field name conversion spec => do
    let (first, rest) := firstWord name.toList
    if first.isEmpty then .error (.noPosition 0)
    if let some n := wordPlace? first then .error (.noPosition n)
    match (fields.find? (·.1 == String.ofList first)).map (·.2) with
    | none => .error (.missingField (quoted (String.ofList first)))
    | some v =>
      let v ← (fieldSteps rest.length rest).foldlM (stepInto h) v
      let v := match conversion with
        | some 'r' => Value.str (h.repr v)
        | some 's' => .str (h.str v)
        | some 'a' => .str (String.ofList (Percent.asciiForm (h.repr v)))
        | _ => v
      match Specification.write h v (← expanded h fields spec.length spec) with
      | .ok s => .ok s
      | .error f => .error (.specification f)

def fillAll (h : Heap) (fields : List (String × Value)) : List FormPart → Except LayoutFault (List Char)
  | [] => .ok []
  | p :: r => do
    let s ← fillPart h fields p
    .ok (s ++ (← fillAll h fields r))

/-! ## Layouts -/

structure Layout where
  style : Style
  format : String
  dateFormat : Option String
  /-- Whether lines behind the first begin like it. -/
  isAligned : Bool
  /-- Whether the format is text; otherwise nothing can be written. -/
  isWritable : Bool
  /-- Whether the date format is text; otherwise no moment can be written. -/
  isDatable : Bool

/-- What a format in percent style must have somewhere: a named field. -/
def percentPattern : Pattern :=
  match Pattern.compile .plain "%\\(\\w+\\)[#0+ -]*(\\*|\\d+)?(\\.(\\*|\\d+))?[diouxefgcrsa%]"
      [.ignoreCase] with
  | .ok p => p
  | .error _ => .ofLiteral "%"

def isNamedField : FormPart → Bool
  | .field name _ _ => !name.isEmpty
  | _ => false

def isBare : FormPart → Bool
  | .bare => true
  | _ => false

namespace Layout

def defaultFormat : Style → String
  | .percent => "%(message)s"
  | .brace => "\x7bmessage\x7d"
  | .dollar => "$\x7bmessage\x7d"

/-- A layout that is not aligned. -/
def plain (style : Style) (format : String) : Layout :=
  ⟨style, format, none, false, true, true⟩

/-- The parts of a layout in brace or dollar style. -/
def parts (l : Layout) : List FormPart :=
  let cs := l.format.toList
  match l.style with
  | .percent => []
  | .brace => braceParts (cs.length + 1) cs
  | .dollar => dollarParts (cs.length + 1) cs

/-- Whether a layout has fields, and only good ones. -/
def check (l : Layout) : Except LayoutFault Unit := do
  let ps := l.parts
  match l.style with
  | .percent =>
    if (percentPattern.search? l.format.toList).isNone then .error (.noPercentField l.format)
  | .brace =>
    ps.forM checkBracePart
    if !ps.any isNamedField then .error .noField
  | .dollar =>
    if ps.any isBare then .error .bareDollar
    if !ps.any isNamedField then .error .noField

/-- A layout by its format; an empty one shows the message. -/
def make (format dateFormat : Option String) (mark : String) (isAligned : Bool) :
    Except LayoutFault Layout := do
  match Style.ofMark? mark with
  | none => .error .unknownStyle
  | some style =>
    let format := (format.filter (!·.isEmpty)).getD (defaultFormat style)
    let l : Layout := ⟨style, format, dateFormat.filter (!·.isEmpty), isAligned, true, true⟩
    l.check
    .ok l

/-- Whether a layout shows the time. -/
def showsTime (l : Layout) : Bool :=
  let has (w : String) := Text.contains w.toList l.format.toList
  match l.style with
  | .percent => has "%(asctime)"
  | .brace => has "\x7basctime"
  | .dollar => has "$asctime" || has "$\x7basctime\x7d"

/-- The format filled in from fields. -/
def filledIn (l : Layout) (h : Heap) (fields : List (String × Value)) : Except LayoutFault (List Char) :=
  match l.style with
  | .percent =>
    let find (name : String) := (fields.find? (·.1 == name)).map (·.2)
    match Percent.writtenNamed h l.format.toList .none find with
    | .ok s => .ok s
    | .error (.noKey name) => .error (.missingField (quoted name))
    | .error f => .error (.percent f)
  | _ => do fillAll h fields l.parts

/-- Text in which each line behind the first begins with what stands in front of the message. -/
def alignLines (message text : List Char) : List Char :=
  if message.isEmpty then text
  else
    let lead := (Text.split message text).headD []
    Text.replace ['\n'] ('\r' :: '\n' :: lead) text

/-- The fields of a record as a layout shows them. -/
def fieldsOf (l : Layout) (h : Heap) (r : Record) (message : String) : Except LayoutFault (List (String × Value)) := do
  let time ← if l.showsTime then (timeText r.created l.dateFormat).mapError .moment |>.map some else .ok none
  .ok (r.fields h message time)

/-- Text with another one behind it, on a line of its own. -/
def withTrailer (text : List Char) (trailer : String) : List Char :=
  (if text.getLast? = some '\n' then text else text ++ ['\n']) ++ trailer.toList

/-- The text of a record with its message written out, as it is without alignment. -/
def standardText (l : Layout) (h : Heap) (r : Record) (message : String) : Except LayoutFault (List Char) := do
  if !l.isWritable || (l.showsTime && !l.isDatable) then .error .unwritable
  let s ← l.filledIn h (← l.fieldsOf h r message)
  .ok (r.trailers.foldl withTrailer s)

/-- The text of a record with its message written out. -/
def text (l : Layout) (h : Heap) (r : Record) (message : String) : Except LayoutFault String := do
  let s ← l.standardText h r message
  .ok (String.ofList (if l.isAligned then alignLines message.toList s else s))

end Layout

end Patchwork.Log
