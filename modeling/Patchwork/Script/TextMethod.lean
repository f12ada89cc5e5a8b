import Patchwork.Script.Form
import Patchwork.Text.Case
import Patchwork.Text.Lines

/-!
The methods of text.
-/

namespace Patchwork.Script

open Run

variable {κ : Type} {R : World κ → World κ → Prop} [Still R]

def textValue (s : List Char) : Value :=
  .str (String.ofList s)

/-- The text of an argument; `message` begins what is said of all others. -/
def textArgument (message : String) (v : Value) : Within R (List Char) := do
  match (← heap).core v with
  | .str s => pure s.toList
  | _ => do mistyped s!"{message}, not {← kindOf v}"

/-- As `textArgument`, where nothing is named by its value. -/
def namedTextArgument (message : String) (v : Value) : Within R (List Char) :=
  match v with
  | .none => mistyped s!"{message}, not None"
  | v => textArgument message v

/-- The first `limit` words between runs of blanks, the last one with all that is left; `fuel` bounds their
number. -/
def wordsUpTo (limit : Option Nat) : Nat → List Char → List (List Char)
  | 0, _ => []
  | fuel + 1, s =>
    match s.dropWhile Text.isBlank, limit with
    | [], _ => []
    | rest, some 0 => [(rest.reverse.dropWhile Text.isBlank).reverse]
    | rest, limit =>
      rest.takeWhile (!Text.isBlank ·) ::
        wordsUpTo (limit.map (· - 1)) fuel (rest.dropWhile (!Text.isBlank ·))

/-- All words between runs of blanks. -/
def wordsOf (s : List Char) : List (List Char) :=
  wordsUpTo none (s.length + 1) s

/-- The part of a text that optional start and end arguments select, and where it starts; `none` if it starts
behind the end. -/
def selectedPart (s : List Char) (bounds : List Value) : Within R (Option (Nat × List Char)) := do
  let bound (v : Option Value) (default : Int) : Within R Int :=
    match v with
    | none | some .none => pure default
    | some v => do
      match ((← heap).core v).integer? with
      | some n => pure n
      | none => mistyped "slice indices must be integers or None or have an __index__ method"
  let start ← bound bounds.head? 0
  let stop ← bound (bounds.drop 1).head? s.length
  let i := if start < 0 then (start + s.length).toNat else start.toNat
  let j := Text.placeIn s.length stop
  pure (if s.length < i || j < i then none else some (i, (s.take j).drop i))

/-- The place of the last occurrence. -/
def lastIndex? (w s : List Char) : Option Nat :=
  (Text.index? w.reverse s.reverse).map fun i => s.length - w.length - i

/-- How often a word occurs without overlaps. -/
def occurrences (w s : List Char) : Nat :=
  if w.isEmpty then s.length + 1 else (Text.split w s).length - 1

/-- The first `limit` occurrences of a word replaced; an empty one occurs around all characters. -/
def replacedUpTo (limit : Option Nat) (old new s : List Char) : List Char :=
  let most := limit.getD (s.length + 1)
  if old.isEmpty then
    if most = 0 then s
    else new ++ (s.take (most - 1)).flatMap (fun c => c :: (if s.isEmpty then [] else new)) ++ s.drop (most - 1)
  else List.intercalate new (Text.piecesFrom old most 0 [] s)

/-- A limit that may be left out; a negative one is none. -/
def limitArgument (v : Option Value) : Within R (Option Nat) := do
  match v with
  | none => pure none
  | some v =>
    let n ← sizeArgument v
    pure (if n < 0 then none else some n.toNat)

/-- Cuts a text at most `limit` times, from the end if `last`. -/
def cutText (s : List Char) (separator : Option (List Char)) (limit : Option Nat) (last : Bool) :
    List (List Char) :=
  let oriented (t : List Char) := if last then t.reverse else t
  let pieces := (match separator with
    | none => wordsUpTo limit (s.length + 1) (oriented s)
    | some w => Text.piecesFrom (oriented w) (limit.getD s.length) 0 [] (oriented s)).map oriented
  if last then pieces.reverse else pieces

/-- Whether all characters of a text that is not empty pass a test. -/
def allPass (p : Char → Bool) (s : List Char) : Bool :=
  !s.isEmpty && s.all p

/-- Whether a text has letters with case, all of them of one case. -/
def isAllCased (own other : Char → Bool) (s : List Char) : Bool :=
  s.any own && !s.any other

def titleLetters : List Nat :=
  [0x1c5, 0x1c8, 0x1cb, 0x1f2]

/-- Capital letters that only begin a word. -/
def isTitleLetter (c : Char) : Bool :=
  titleLetters.contains c.toNat || (0x1f88 ≤ c.toNat && c.toNat ≤ 0x1faf && c.toNat % 16 ≥ 8) ||
    [0x1fbc, 0x1fcc, 0x1ffc].contains c.toNat

/-- Answers of yes or no about all characters of a text. -/
def textTest? (name : String) (s : List Char) : Option Bool :=
  match name with
  | "isalnum" => some (allPass Text.isAlphanumeric s)
  | "isalpha" => some (allPass Text.isLetter s)
  | "isascii" => some (s.all (·.toNat < 0x80))
  | "isdecimal" => some (allPass Text.isDecimal s)
  | "isdigit" => some (allPass (fun c => Text.isDecimal c || Text.isDigitForm c) s)
  | "isidentifier" =>
    match s with
    | [] => some false
    | c :: r => some (Text.isIdentStart c && r.all Text.isIdentPart)
  | "islower" => some (isAllCased Text.isLower (fun c => Text.isUpper c || isTitleLetter c) s)
  | "isprintable" => some (s.all Text.isPrintable)
  | "isspace" => some (allPass Text.isBlank s)
  | "isupper" => some (isAllCased Text.isUpper (fun c => Text.isLower c || isTitleLetter c) s)
  | _ => none

/-- The forms of a text that need nothing else. -/
def textForm? (name : String) (s : List Char) : Option (List Char) :=
  match name with
  | "upper" => some (s.flatMap Text.upperChar)
  | "lower" => some (Text.lowerFrom [] s)
  | "casefold" => some (s.flatMap Text.fullFold)
  | "capitalize" => some (Text.capitalized s)
  | "title" => some (Text.titledFrom [] s)
  | "swapcase" => some (Text.swappedFrom [] s)
  | _ => none

/-- A text filled up to a width on both sides; of an odd number of places the extra one is on the left if the
width is odd. -/
def filled (s : List Char) (width : Int) (fill : Char) (name : String) : List Char :=
  let space := (width - s.length).toNat
  let left := match name with
    | "ljust" => 0
    | "rjust" => space
    | _ => space / 2 + (if space % 2 = 1 && width % 2 = 1 then 1 else 0)
  List.replicate left fill ++ s ++ List.replicate (space - left) fill

/-- A text with blanks for its tabs, up to the next multiple of `size` in the line. -/
def untabbed (size : Nat) (column : Nat) : List Char → List Char
  | [] => []
  | c :: r =>
    if c = '\t' then
      let n := if size = 0 then 0 else size - column % size
      List.replicate n ' ' ++ untabbed size (column + n) r
    else c :: untabbed size (if c = '\n' || c = '\r' then 0 else column + 1) r

/-- The methods of text. -/
def textMethod (call : Caller κ) [Calls call R] (s : String) (name : String) (args : Arguments) :
    Within R Value := do
  let full := "str." ++ name
  let cs := s.toList
  let atMost (most : Nat) : Within R Unit := do
    let n := args.positional.length
    if most < n then
      mistyped s!"{name}() takes at most {most} argument{Cause.plural most} ({n} given)"
  let search (least : Bool) (find : List Char → List Char → Option Nat) : Within R Value := do
    atMost 3
    match args.positional with
    | [] => mistyped s!"{name}() takes at least 1 argument (0 given)"
    | v :: bounds => do
      let w ← textArgument "must be str" v
      let found := (← selectedPart cs bounds).bind fun (i, part) => (find w part).map (· + i)
      match found with
      | some i => pure (.int i)
      | none => if least then pure (.int (-1)) else fail (.raised .value [.str "substring not found"])
  let begins (test : List Char → List Char → Bool) : Within R Value := do
    atMost 3
    match args.positional with
    | [] => mistyped s!"{name}() takes at least 1 argument (0 given)"
    | v :: bounds => do
      let h ← heap
      let words ← match h.core v with
        | .str w => pure [w.toList]
        | .tuple vs => vs.mapM (textArgument s!"tuple for {name} must only contain str")
        | _ => mistyped s!"{name} first arg must be str or a tuple of str, not {h.kindOf v}"
      let part ← selectedPart cs bounds
      pure (.bool (part.any fun p => words.any fun w => test w p.2))
  let parts (found : Option Nat) (w : List Char) (last : Bool) : Value :=
    match found with
    | some i => .tuple [textValue (cs.take i), textValue w, textValue (cs.drop (i + w.length))]
    | none => if last then .tuple [.str "", .str "", .str s] else .tuple [.str s, .str "", .str ""]
  let separated (last : Bool) : Within R Value := do
    let w ← textArgument "must be str" (← onlyArgument full args)
    if w.isEmpty then fail (.raised .value [.str "empty separator"])
    pure (parts (if last then lastIndex? w cs else Text.index? w cs) w last)
  let named (k : String) (i : Nat) : Option Value :=
    (args.positional[i]?).or (Attributes.get? args.named k)
  match textTest? name cs, textForm? name cs with
  | some b, _ =>
    noArguments full args
    pure (.bool b)
  | _, some t =>
    noArguments full args
    pure (textValue t)
  | none, none =>
    match name with
    | "strip" | "lstrip" | "rstrip" =>
      checkCount name 0 1 args
      let p ← match args.positional with
        | [] | [.none] => pure Text.isBlank
        | v :: _ => do
          match (← heap).core v with
          | .str t => pure fun c => t.toList.contains c
          | _ => mistyped s!"{name} arg must be None or str"
      let s := if name = "rstrip" then cs else cs.dropWhile p
      pure (textValue (if name = "lstrip" then s else (s.reverse.dropWhile p).reverse))
    | "split" | "rsplit" =>
      atMost 2
      let separator ← match named "sep" 0 with
        | none | some .none => pure none
        | some v => do pure (some (← textArgument "must be str or None" v))
      let limit ← limitArgument (named "maxsplit" 1)
      if separator = some [] then fail (.raised .value [.str "empty separator"])
      new (.list ((cutText cs separator limit (name = "rsplit")).map textValue))
    | "splitlines" =>
      atMost 1
      let keep ← match named "keepends" 0 with
        | none => pure false
        | some v => do pure ((← smallArgument v) ≠ 0)
      let lines := Text.wideLines cs
      new (.list (lines.map fun l =>
        textValue (if keep then l else (l.reverse.dropWhile Text.isLineBreak).reverse)))
    | "join" => do
      let v ← onlyArgument full args
      let vs ← handle (items call v) fun c =>
        match c with
        | .noIteration _ => mistyped "can only join an iterable"
        | c => fail c
      let h ← heap
      let ts ← vs.zipIdx.mapM fun (v, i) =>
        match h.core v with
        | .str t => pure t
        | _ => fail (.joinItem i (h.kindOf v))
      pure (.str (s.intercalate ts))
    | "replace" =>
      checkCount name 2 3 args
      match args.positional with
      | old :: new :: rest => do
        let old ← namedTextArgument "replace() argument 1 must be str" old
        let new ← namedTextArgument "replace() argument 2 must be str" new
        pure (textValue (replacedUpTo (← limitArgument rest.head?) old new cs))
      | _ => pure .none
    | "startswith" => begins Text.startsWith
    | "endswith" => begins Text.endsWith
    | "find" => search true Text.index?
    | "rfind" => search true lastIndex?
    | "index" => search false Text.index?
    | "rindex" => search false lastIndex?
    | "count" =>
      atMost 3
      match args.positional with
      | [] => mistyped "count() takes at least 1 argument (0 given)"
      | v :: bounds => do
        let w ← textArgument "must be str" v
        let part ← selectedPart cs bounds
        pure (.int ((part.map fun p => occurrences w p.2).getD 0))
    | "partition" => separated false
    | "rpartition" => separated true
    | "removeprefix" => do
      let w ← namedTextArgument s!"{name}() argument must be str" (← onlyArgument full args)
      pure (textValue ((Text.after? w cs).getD cs))
    | "removesuffix" => do
      let w ← namedTextArgument s!"{name}() argument must be str" (← onlyArgument full args)
      pure (textValue (((Text.after? w.reverse cs.reverse).map List.reverse).getD cs))
    | "zfill" => do
      let n ← sizeArgument (← onlyArgument full args)
      checkSize 1 n (.raised .memory [])
      let zeros := List.replicate (n - cs.length).toNat '0'
      pure (textValue (match cs with
        | c :: r => if c == '+' || c == '-' then c :: zeros ++ r else zeros ++ cs
        | [] => zeros))
    | "center" | "ljust" | "rjust" =>
      checkCount name 1 2 args
      let width ← sizeArgument (args.positional.headD .none)
      let fill ← match args.positional[1]? with
        | none => pure ' '
        | some v => do
          match ← textArgument "The fill character must be a unicode character" v with
          | [c] => pure c
          | _ => mistyped "The fill character must be exactly one character long"
      checkSize 1 width (.raised .memory [])
      pure (textValue (filled cs width fill name))
    | "encode" => do
      match args.positional.head? with
      | some v => let _ ← namedTextArgument "encode() argument 'encoding' must be str" v
      | none => pure ()
      pure (.bytes s.toUTF8.toList)
    | "format" => formFromArguments call cs args
    | "format_map" => do formFromMapping call cs (← onlyArgument full args)
    | "expandtabs" =>
      atMost 1
      let size ← match named "tabsize" 0 with
        | none => pure 8
        | some v => smallArgument v
      checkSize (cs.count '\t') size (.raised .memory [])
      pure (textValue (untabbed size.toNat 0 cs))
    | "__contains__" => do pure (.bool (← holds call (.str s) (← onlyArgument full args)))
    | "__len__" => pure (.int cs.length)
    | _ => do getItem call (.str s) (← onlyArgument full args)

end Patchwork.Script
