import Patchwork.Store.Describe

/-!
Percent formats: text in which `%` starts a conversion of the next argument or of a named one.
-/

namespace Patchwork.Percent

open Patchwork.Number

/-- What can be wrong with a format or its arguments. -/
inductive Fault where
  | incomplete
  | incompleteKey
  | badConversion (c : Char) (place : Nat)
  | tooFew
  | tooMany
  | needsMapping
  | noKey (key : String)
  | starWidth
  | tooBig
  | tooPrecise
  | countRange (type : String)
  | memory
  /-- A whole number with more digits than are written. -/
  | digits
  | needsNumber (c : Char) (type : String)
  | needsWhole (c : Char) (type : String)
  | needsReal (type : String)
  | needsChar
  | charRange
  | nanWhole
  | infinityWhole
  | tooLargeForDouble

def Fault.message : Fault → String
  | incomplete => "incomplete format"
  | incompleteKey => "incomplete format key"
  | badConversion c place =>
    let shown := if 0x1f < c.toNat ∧ c.toNat < 0x7f then c.toString else "?"
    let digits := String.ofList (Nat.toDigits 16 c.toNat)
    s!"unsupported format character '" ++ shown ++ s!"' (0x{digits}) at index {place}"
  | tooFew => "not enough arguments for format string"
  | tooMany => "not all arguments converted during string formatting"
  | needsMapping => "format requires a mapping"
  | noKey key => Text.quoted key
  | starWidth => "* wants int"
  | tooBig => "width too big"
  | tooPrecise => "precision too big"
  | countRange type => "Python int too large to convert to C " ++ type
  | memory => ""
  | digits => Number.longNumberText
  | needsNumber c type => s!"%{c} format: a real number is required, not {type}"
  | needsWhole c type => s!"%{c} format: an integer is required, not {type}"
  | needsReal type => s!"must be real number, not {type}"
  | needsChar => "%c requires int or char"
  | charRange => "%c arg not in range(0x110000)"
  | nanWhole => "cannot convert float NaN to integer"
  | infinityWhole => "cannot convert float infinity to integer"
  | tooLargeForDouble => "int too large to convert to float"

def Fault.kind : Fault → ErrorKind
  | incomplete | incompleteKey | badConversion _ _ | nanWhole | tooBig | tooPrecise | digits => .value
  | memory => .memory
  | noKey _ => .key
  | charRange | infinityWhole | tooLargeForDouble | countRange _ => .overflow
  | _ => .type

/-- Where the arguments come from: one after the other, or by name. -/
structure Supply where
  left : List Value
  named : Option (String → Option Value)

/-- How one argument is to be written. -/
structure Conversion where
  left : Bool
  plus : Bool
  blank : Bool
  alternate : Bool
  zero : Bool
  width : Nat
  precision : Option Nat
  deriving Inhabited

def Conversion.plain : Conversion := ⟨false, false, false, false, false, 0, none⟩

/-- Fills up to the width; `lead` is the sign and base mark, behind which zeros are put. -/
def Conversion.padded (v : Conversion) (zeros : Bool) (lead body : List Char) : List Char :=
  let missing := v.width - (lead.length + body.length)
  if v.left then lead ++ body ++ List.replicate missing ' '
  else if v.zero && zeros then lead ++ List.replicate missing '0' ++ body
  else List.replicate missing ' ' ++ lead ++ body

def Conversion.sign (v : Conversion) (negative : Bool) : List Char :=
  if negative then ['-'] else if v.plus then ['+'] else if v.blank then [' '] else []

/-- A whole number in some base. -/
def Conversion.whole (v : Conversion) (base : Nat) (mark : String) (upper : Bool) (n : Int) : List Char :=
  let ds := Nat.toDigits base n.natAbs
  let ds := List.replicate ((v.precision.getD 1) - ds.length) '0' ++ ds
  let ds := if upper then ds.map Char.toUpper else ds
  let mark := if v.alternate then mark.toList else []
  v.padded true (v.sign (decide (n < 0)) ++ mark) ds

/-- Without the zeros that end a fraction, and without a bare point. -/
def trimFraction (s : List Char) : List Char :=
  if s.contains '.' then
    let r := s.reverse.dropWhile (· == '0')
    (match r with
      | '.' :: q => q
      | r => r).reverse
  else s

/-- With a point in it. -/
def withPoint (s : List Char) : List Char :=
  if s.contains '.' then s else s ++ ['.']

/-- The digits of a finite number with `precision` significant ones. -/
def generalText (precision : Nat) (alternate : Bool) (m : Nat) (e : Int) : List Char :=
  let precision := max 1 precision
  let long := Binary64.scientificText (precision - 1) m e
  let power := (Number.intOf? (String.ofList ((long.dropWhile (· != 'e')).drop 1))).getD 0
  if power < -4 ∨ Int.ofNat precision ≤ power then
    let mantissa := long.takeWhile (· != 'e')
    (if alternate then withPoint mantissa else trimFraction mantissa) ++ long.dropWhile (· != 'e')
  else
    let text := Binary64.fixedText (Int.ofNat precision - 1 - power).toNat m e
    if alternate then withPoint text else trimFraction text

/-- A double with a fixed number of places, with an exponent, or with significant digits. -/
def Conversion.real (v : Conversion) (c : Char) (x : Binary64) : List Char :=
  let places := v.precision.getD 6
  let body : List Char :=
    match x.magnitude with
    | .nan => "nan".toList
    | .infinite => "inf".toList
    | .finite m e =>
      match c.toLower with
      | 'f' => Binary64.fixedText places m e ++ (if v.alternate && places = 0 then ['.'] else [])
      | 'e' =>
        let text := Binary64.scientificText places m e
        if v.alternate && places = 0 then text.take 1 ++ '.' :: text.drop 1 else text
      | _ => generalText places v.alternate m e
  let body := if c.isUpper then body.map Char.toUpper else body
  v.padded true (v.sign (x.isNegative && !x.isNan)) body

/-- Text in the letters of ASCII, all others escaped. -/
def asciiForm (s : String) : List Char :=
  s.toList.flatMap fun c =>
    let n := c.toNat
    if n < 0x80 then [c]
    else if n < 0x100 then '\\' :: 'x' :: Text.hexDigits 2 n
    else if n < 0x10000 then '\\' :: 'u' :: Text.hexDigits 4 n
    else '\\' :: 'U' :: Text.hexDigits 8 n

/-- A double without its fraction. -/
def truncated (x : Binary64) : Except Fault Int :=
  match x.magnitude with
  | .nan => .error .nanWhole
  | .infinite => .error .infinityWhole
  | .finite m e =>
    let (n, d) := Binary64.fraction m e
    .ok (if x.isNegative then -Int.ofNat (n / d) else Int.ofNat (n / d))

/-- Writes one argument. -/
def Conversion.write (h : Heap) (v : Conversion) (c : Char) (place : Nat) (arg : Value) :
    Except Fault (List Char) := do
  let text (s : List Char) : List Char := v.padded false [] ((v.precision.map s.take).getD s)
  match arg with
  | .int n => if ['s', 'r', 'a'].contains c && Number.isLong n then .error .digits
  | _ => .ok ()
  match c with
  | 's' => .ok (text (h.str arg).toList)
  | 'r' => .ok (text (h.repr arg).toList)
  | 'a' => .ok (text (asciiForm (h.repr arg)))
  | 'c' =>
    match arg with
    | .str s =>
      match s.toList with
      | [d] => .ok (v.padded false [] [d])
      | _ => .error .needsChar
    | arg =>
      match arg.integer? with
      | some n =>
        if 0 ≤ n ∧ n < 0x110000 then .ok (v.padded false [] [Char.ofNat n.toNat]) else .error .charRange
      | none => .error .needsChar
  | _ =>
    if c == 'd' || c == 'i' || c == 'u' then
      match arg.integer?, arg with
      | some n, _ => if Number.isLong n then .error .digits else .ok (v.whole 10 "" false n)
      | none, .float x => do .ok (v.whole 10 "" false (← truncated x))
      | none, _ => .error (.needsNumber c (h.kindOf arg))
    else if c == 'o' || c == 'x' || c == 'X' then
      match arg.integer? with
      | some n =>
        .ok (v.whole (if c == 'o' then 8 else 16) (if c == 'o' then "0o" else "0" ++ c.toString)
          (c == 'X') n)
      | none => .error (.needsWhole c (h.kindOf arg))
    else if "eEfFgG".toList.contains c then
      match arg.integer?, arg with
      | some n, _ =>
        let x := Binary64.ofInt n
        if x.magnitude = .infinite then .error .tooLargeForDouble else .ok (v.real c x)
      | none, .float x => .ok (v.real c x)
      | none, _ => .error (.needsReal (h.kindOf arg))
    else .error (.badConversion c place)

/-- A key in parentheses, which may nest. -/
def keyFrom (depth : Nat) : List Char → Option (List Char × List Char)
  | [] => none
  | '(' :: r => (keyFrom (depth + 1) r).map fun p => ('(' :: p.1, p.2)
  | ')' :: r =>
    match depth with
    | 0 => some ([], r)
    | d + 1 => (keyFrom d r).map fun p => (')' :: p.1, p.2)
  | c :: r => (keyFrom depth r).map fun p => (c :: p.1, p.2)

def flagsFrom (v : Conversion) : List Char → Conversion × List Char
  | '-' :: r => flagsFrom { v with left := true } r
  | '+' :: r => flagsFrom { v with plus := true } r
  | ' ' :: r => flagsFrom { v with blank := true } r
  | '#' :: r => flagsFrom { v with alternate := true } r
  | '0' :: r => flagsFrom { v with zero := true } r
  | s => (v, s)

def Supply.next (s : Supply) : Except Fault (Value × Supply) :=
  match s.left with
  | v :: r => .ok (v, { s with left := r })
  | [] => .error .tooFew

/-- How large a number in a format may be, and how faults call it. -/
structure CountLimit where
  bits : Nat
  type : String
  fault : Fault

def ssizeCount : CountLimit :=
  ⟨63, "ssize_t", .tooBig⟩

def intCount : CountLimit :=
  ⟨31, "int", .tooPrecise⟩

/-- The widest field that is written. -/
def widthLimit : Nat := Nat.pow 10 8

/-- A number in the format, or one of the arguments for a star. -/
def count (limit : CountLimit) (s : Supply) : List Char → Except Fault (Option Int × Supply × List Char)
  | '*' :: r => do
    let (v, s) ← s.next
    match v.integer? with
    | some n =>
      if n < -(Int.pow 2 limit.bits) ∨ Int.pow 2 limit.bits ≤ n then .error (.countRange limit.type) else .ok (some n, s, r)
    | none => .error .starWidth
  | text =>
    let ds := text.takeWhile Char.isDigit
    if ds.isEmpty then .ok (none, s, text)
    else
      let n := (Number.natOf? ds).getD 0
      if Nat.pow 2 limit.bits ≤ n then .error limit.fault
      else .ok (some (Int.ofNat n), s, text.dropWhile Char.isDigit)

/-- A key in parentheses, which makes what it names the next argument. -/
def keyed (s : Supply) : List Char → Except Fault (Supply × List Char)
  | '(' :: r =>
    match keyFrom 0 r, s.named with
    | _, none => .error .needsMapping
    | none, _ => .error .incompleteKey
    | some (key, r), some find =>
      match find (String.ofList key) with
      | some v => .ok ({ s with left := [v] }, r)
      | none => .error (.noKey (String.ofList key))
  | r => .ok (s, r)

/-- A precision behind a point. -/
def precisionFrom (v : Conversion) (s : Supply) : List Char → Except Fault (Conversion × Supply × List Char)
  | '.' :: r => do
    let (precision, s, r) ← count intCount s r
    .ok ({ v with precision := some (precision.getD 0).toNat }, s, r)
  | r => .ok (v, s, r)

/-- A mark for the size of a number says nothing. -/
def behindSize : List Char → List Char
  | c :: r => if c == 'h' || c == 'l' || c == 'L' then r else c :: r
  | [] => []

/-- The conversion behind a percent sign: its text, the supply and what is left of the format. -/
def convert (h : Heap) (length : Nat) (s : Supply) (rest : List Char) :
    Except Fault (List Char × Supply × List Char) := do
  let (s, rest) ← keyed s rest
  let (v, rest) := flagsFrom .plain rest
  let (width, s, rest) ← count ssizeCount s rest
  let v := { v with
    left := v.left || decide (width.getD 0 < 0)
    width := (width.getD 0).natAbs }
  let (v, s, rest) ← precisionFrom v s rest
  match behindSize rest with
  | [] => .error .incomplete
  | c :: r =>
    let (arg, s) ← s.next
    let place := length - (c :: r).length
    if widthLimit < v.width then
      let _ ← { v with width := 0 }.write h c place arg
      .error .memory
    .ok (← v.write h c place arg, s, r)

/-- The rest of a format written out; the fuel bounds the number of its characters. -/
def writtenFrom (h : Heap) (length : Nat) : Nat → Supply → List Char → Except Fault (List Char × Supply)
  | 0, s, _ => .ok ([], s)
  | fuel + 1, s, rest =>
    match rest with
    | [] => .ok ([], s)
    | '%' :: '%' :: r => do
      let (more, s) ← writtenFrom h length fuel s r
      .ok ('%' :: more, s)
    | '%' :: r => do
      let (text, s, r) ← convert h length s r
      let (more, s) ← writtenFrom h length fuel s r
      .ok (text ++ more, s)
    | c :: r => do
      let (more, s) ← writtenFrom h length fuel s r
      .ok (c :: more, s)

/-- A format written out with arguments in order; all of them must be used. -/
def written (h : Heap) (format : List Char) (args : List Value) : Except Fault (List Char) := do
  let (text, s) ← writtenFrom h format.length (format.length + 1) ⟨args, none⟩ format
  if s.left.isEmpty then .ok text else .error .tooMany

/-- A format written out with arguments by name; a conversion without a name takes `whole`. -/
def writtenNamed (h : Heap) (format : List Char) (whole : Value) (find : String → Option Value) :
    Except Fault (List Char) := do
  let (text, _) ← writtenFrom h format.length (format.length + 1) ⟨[whole], some find⟩ format
  .ok text

/-- A format with the value on its right: a tuple gives its items, a mapping its entries by name, and
any other value itself. -/
def applied (h : Heap) (format : List Char) (v : Value) : Except Fault (List Char) :=
  let named (entries : List (Value × Value)) :=
    writtenNamed h format v fun name => Value.lookup? entries (.str name)
  match v with
  | .tuple items => written h format items
  | v =>
    match h.at? v with
    | some (.dict entries) | some (.proxy entries) => named entries
    | _ => written h format [v]

end Patchwork.Percent
