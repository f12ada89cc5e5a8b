import Patchwork.Text.Grapheme
import Patchwork.Text.Property

/-!
Where one word of running text ends and the next begins: apostrophes within words and points within numbers
do not part them.
-/

namespace Patchwork.Text.WordBreak

/-- What a code point does at the edge of a word. -/
inductive Role where
  | newline
  | ignored
  | joiner
  | flag
  | katakana
  | hebrew
  | letter
  | midLetter
  | midNumber
  | midBoth
  | apostrophe
  | doubleQuote
  | number
  | connector
  | blank
  | other
  deriving DecidableEq

def katakanaRanges : Ranges := scriptNamed "KATAKANA"

def hebrewRanges : Ranges := scriptNamed "HEBREW"

/-- Scripts that are written without blanks between words. -/
def unspacedRanges : List Ranges :=
  (["HIRAGANA", "THAI", "LAO", "MYANMAR", "KHMER", "TAILE", "NEWTAILUE", "TAITHAM", "TAIVIET", "AHOM"].map
    scriptNamed) ++ [propertyNamed "IDEOGRAPHIC"]

def formatRanges : Ranges := inCategories ["Cf"]

def blankRanges : Ranges := .ofText "20 1680 2000-2006 2008-200a 205f 3000"

/-- Signs that count as letters. -/
def letterSigns : Ranges := .ofText "2c2-2c5 2d2-2d7 2de-2df 2e5-2eb 2ed 2ef-2ff 55a-55c 55e 58a 5f3 70f a708-a716 a720-a721
  a789-a78a ab5b"

def midLetterRanges : Ranges := .ofText "3a b7 387 55f 5f4 2027 fe13 fe55 ff1a"

def midNumberRanges : Ranges := .ofText "2c 3b 37e 589 60c-60d 66c 7f8 2044 fe10 fe14 fe50 fe54 ff0c ff1b"

def midBothRanges : Ranges := .ofText "2e 2018-2019 2024 fe52 ff07 ff0e"

def isNewline (c : Char) : Bool :=
  let n := c.toNat
  (0xa ≤ n && n ≤ 0xd) || n == 0x85 || n == 0x2028 || n == 0x2029

def role (c : Char) : Role :=
  let n := c.toNat
  if isNewline c then .newline
  else if n == 0x200d then .joiner
  else if c == '\'' then .apostrophe
  else if c == '"' then .doubleQuote
  else if midLetterRanges.covers n then .midLetter
  else if midNumberRanges.covers n then .midNumber
  else if midBothRanges.covers n then .midBoth
  else if Grapheme.isExtending n || Grapheme.spacingRanges.covers n then .ignored
  else if formatRanges.covers n && n != 0x200b && !Grapheme.leadingRanges.covers n then .ignored
  else if 0x1f1e6 ≤ n && n ≤ 0x1f1ff then .flag
  else if katakanaRanges.covers n || (0x3031 ≤ n && n ≤ 0x3035) || n == 0x309b || n == 0x309c ||
      n == 0x30a0 || n == 0x30fc || n == 0xff70 then .katakana
  else if hebrewRanges.covers n && letterRanges.covers n then .hebrew
  else if digitRanges.covers n || n == 0x66b then .number
  else if connectorRanges.covers n || n == 0x202f then .connector
  else if blankRanges.covers n then .blank
  else if letterSigns.covers n || (alphabeticRanges.covers n && !unspacedRanges.any (·.covers n)) then .letter
  else .other

def Role.isLetter : Role → Bool
  | letter | hebrew => true
  | _ => false

def Role.isMidLetter : Role → Bool
  | midLetter | midBoth | apostrophe => true
  | _ => false

def Role.isMidNumber : Role → Bool
  | midNumber | midBoth | apostrophe => true
  | _ => false

/-- What may be joined to a connector. -/
def Role.isSolid : Role → Bool
  | letter | hebrew | number | katakana | connector => true
  | _ => false

/-- Without the marks that word breaks pass over. -/
def solid (s : List Char) : List Char :=
  s.filter fun c => role c != .ignored && role c != .joiner

/-- The vowels that an elided article is parted from. -/
def isElisionVowel (c : Char) : Bool :=
  "aàáâeèéêiìíîoòóôuùúû".toList.contains ((lowerOf c))
where
  lowerOf (c : Char) : Char :=
    if 0xc0 ≤ c.toNat && c.toNat ≤ 0xde then Char.ofNat (c.toNat + 0x20) else c.toLower

/-- Whether words may be parted between `before`, reversed, and `after`; marks have been passed over. -/
def parts (before after : List Char) : Bool :=
  match before, after with
  | a :: before, c :: after =>
    let p := role a
    let q := role c
    let earlier := (before.head?.map role).getD .other
    let later := (after.head?.map role).getD .other
    if p.isLetter && q.isLetter then false
    else if (a == '\'' || a == '’') && isElisionVowel c then true
    else if p.isLetter && q.isMidLetter && later.isLetter then false
    else if earlier.isLetter && p.isMidLetter && q.isLetter then false
    else if p == .hebrew && q == .apostrophe then false
    else if p == .hebrew && q == .doubleQuote && later == .hebrew then false
    else if earlier == .hebrew && p == .doubleQuote && q == .hebrew then false
    else if p == .number && (q == .number || q.isLetter) then false
    else if p.isLetter && q == .number then false
    else if earlier == .number && p.isMidNumber && q == .number then false
    else if p == .number && q.isMidNumber && later == .number then false
    else if p == .katakana && q == .katakana then false
    else if p.isSolid && q == .connector then false
    else if p == .connector && q.isSolid then false
    else if p == .flag && q == .flag then ((a :: before).takeWhile fun d => role d == .flag).length % 2 == 0
    else true
  | _, _ => true

/-- Whether words are parted between `before`, reversed, and `after`; an empty text has no such place. -/
def isBreak (before after : List Char) : Bool :=
  match before, after with
  | [], [] => false
  | [], _ | _, [] => true
  | a :: _, c :: _ =>
    if a == '\r' && c == '\n' then false
    else if isNewline a || isNewline c then true
    else if a.toNat == 0x200d && Grapheme.pictureRanges.covers c.toNat then false
    else if role a == .blank && role c == .blank then false
    else if role c == .ignored || role c == .joiner then false
    else parts (solid (before.takeWhile fun d => !isNewline d)) (c :: solid (after.drop 1))

end Patchwork.Text.WordBreak
