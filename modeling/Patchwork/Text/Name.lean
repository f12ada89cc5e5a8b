import Patchwork.Text.LetterNameTable
import Patchwork.Text.SymbolNameTable
import Patchwork.Text.Search

/-!
Characters by name. The names of ideographs and of composed syllables follow rules; the others are listed.
Letters of a listed name may be of either case.
-/

namespace Patchwork.Text.Name

/-- Where a list of names has been read to: the code point and the words of the last name. -/
structure Reading where
  code : Nat := 0
  words : List String := []
  found : Option Nat := none

def hexValue? (c : Char) : Option Nat :=
  if c.isDigit then some (c.toNat - 0x30)
  else if 'a' ≤ c ∧ c ≤ 'f' then some (c.toNat - 0x57)
  else if 'A' ≤ c ∧ c ≤ 'F' then some (c.toNat - 0x37)
  else none

def hexOnto (value : Nat) : List Char → Option Nat
  | [] => some value
  | c :: r => (hexValue? c).bind fun d => hexOnto (value * 16 + d) r

/-- Words apart by blanks and line feeds. -/
def wordsOf (entry : List Char) : List String :=
  (split [' '] (entry.map fun c => if c == '\n' then ' ' else c)).filterMap fun w =>
    if w.isEmpty then none else some (String.ofList w)

/-- One more name: its code point, if it gives one, and its words behind those shared. -/
def Reading.take (wanted : List String) (s : Reading) (entry : String) : Reading :=
  let (code, ws) := match wordsOf entry.toList with
    | w :: ws =>
      match w.toList with
      | '@' :: digits => ((hexOnto 0 digits).getD 0, ws)
      | _ => (s.code + 1, w :: ws)
    | [] => (s.code + 1, [])
  let words := match ws with
    | w :: ws =>
      match w.toList with
      | d :: r => s.words.take (d.toNat - 0x30) ++ String.ofList r :: ws
      | [] => ws
    | [] => []
  { code, words, found := if words = wanted then s.found.or (some code) else s.found }

/-- The code point of a name in one list. -/
def inList? (names : String) (wanted : List String) : Option Nat :=
  ((names.splitOn ";").foldl (Reading.take wanted) {}).found

/-- The parts of syllables: initial consonants, vowels and final consonants. -/
def initials : List String :=
  ["G", "GG", "N", "D", "DD", "R", "M", "B", "BB", "S", "SS", "", "J", "JJ", "C", "K", "T", "P", "H"]

def vowels : List String :=
  ["A", "AE", "YA", "YAE", "EO", "E", "YEO", "YE", "O", "WA", "WAE", "OE", "YO", "U", "WEO", "WE", "WI",
    "YU", "EU", "YI", "I"]

def finals : List String :=
  ["", "G", "GG", "GS", "N", "NJ", "NH", "D", "L", "LG", "LM", "LB", "LS", "LT", "LP", "LH", "M", "B", "BS",
    "S", "SS", "NG", "J", "C", "K", "T", "P", "H"]

/-- A composed syllable by the names of its parts. -/
def syllable? (name : String) : Option Nat :=
  initials.zipIdx.findSome? fun (a, i) =>
    vowels.zipIdx.findSome? fun (b, j) =>
      finals.zipIdx.findSome? fun (c, k) =>
        if a ++ b ++ c = name then some (0xac00 + (i * 21 + j) * 28 + k) else none

/-- Whether a code point is an ideograph of the unified set, by the earlier edition. -/
def isIdeograph (n : Nat) : Bool :=
  (0x3400 ≤ n && n ≤ 0x4dbf) || (0x4e00 ≤ n && n ≤ 0x9fff) || (0x20000 ≤ n && n ≤ 0x2a6df) ||
    (0x2a700 ≤ n && n ≤ 0x2b738) || (0x2b740 ≤ n && n ≤ 0x2b81d) || (0x2b820 ≤ n && n ≤ 0x2cea1) ||
    (0x2ceb0 ≤ n && n ≤ 0x2ebe0) || (0x30000 ≤ n && n ≤ 0x3134a)

/-- What stands behind the start of a text. -/
def behind? (start : String) (s : String) : Option (List Char) :=
  if start.toList.isPrefixOf s.toList then some (s.toList.drop start.length) else none

/-- The code point of an ideograph by its number, four or five upper-case digits. -/
def ideograph? (digits : List Char) : Option Nat :=
  if (digits.length = 4 ∨ digits.length = 5) ∧ digits.all (fun c => c.isDigit || c.isUpper) then
    (hexOnto 0 digits).filter isIdeograph
  else none

/-- The character of a name. -/
def lookup? (name : String) : Option Char :=
  let code :=
    match behind? "HANGUL SYLLABLE " name with
    | some part => syllable? (String.ofList part)
    | none =>
      match behind? "CJK UNIFIED IDEOGRAPH-" name with
      | some digits => ideograph? digits
      | none =>
        let wanted := (split [' '] (name.toList.map Char.toUpper)).map String.ofList
        ((inList? letterNames wanted).or (inList? symbolNames wanted)).or (inList? secondNames wanted)
  code.map Char.ofNat

end Patchwork.Text.Name
