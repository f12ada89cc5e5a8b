import Patchwork.Text.Property

/-!
Where one written character ends and the next begins: a base with its marks, a syllable, a flag or an emoji
sequence is one.
-/

namespace Patchwork.Text.Grapheme

/-- What a code point does at the edge of a written character. -/
inductive Role where
  | carriageReturn
  | lineFeed
  | control
  | extending
  | joiner
  | flag
  | leading
  | spacing
  | lead
  | vowel
  | trail
  | leadVowel
  | leadVowelTrail
  | other
  deriving DecidableEq

/-- Marks that precede their base. -/
def leadingRanges : Ranges := .ofText "600-605 6dd 70f 890-891 8e2 d4e 110bd 110cd 111c2-111c3 113d1 1193f 11941
  11a84-11a89 11d46 11f02"

/-- Spacing marks that do not belong to what precedes them. -/
def apartRanges : Ranges := .ofText "102b-102c 1038 1062-1064 1067-106d 1083 1087-108c 108f 109a-109c 1a61 1a63-1a64
  aa7b aa7d 11720-11721"

/-- Consonants of the scripts in which a linking mark joins consonants. -/
def consonantRanges : Ranges := .ofText "915-939 958-95f 978-97f 995-9a8 9aa-9b0 9b2 9b6-9b9 9dc-9dd 9df 9f0-9f1 a95-aa8
  aaa-ab0 ab2-ab3 ab5-ab9 af9 b15-b28 b2a-b30 b32-b33 b35-b39 b5c-b5d b5f b71 c15-c28 c2a-c39
  c58-c5a d15-d3a 1000-102a 103f 1050-1055 105a-105d 1061 1065-1066 106e-1070 1075-1081 108e
  1780-17b3 1a20-1a54 1b0b-1b0c 1b13-1b33 1b45-1b4c 1b83-1ba0 1bae-1baf 1bbb-1bbd a989-a98b
  a98f-a9b2 a9e0-a9e4 a9e7-a9ef a9fa-a9fe aa60-aa6f aa71-aa73 aa7a aa7e-aa7f aae0-aaea abc0-abda
  10a00 10a10-10a13 10a15-10a17 10a19-10a35 11103-11126 11144 11147 11380-11389 1138b 1138e
  11390-113b5 11900-11906 11909 1190c-11913 11915-11916 11918-1192f 11a00 11a0b-11a32 11a50
  11a5c-11a83 11f04-11f10 11f12-11f33"

/-- The linking marks. -/
def linkerRanges : Ranges := .ofText "94d 9cd acd b4d c4d d4d 1039 17d2 1a60 1b44 1bab a9c0 aaf6 10a3f 11133 113d0
  1193e 11a47 11a99 11f42"

def extendRanges : Ranges := propertyNamed "GRAPHEMEEXTEND"

def modifierRanges : Ranges := propertyNamed "EMOJIMODIFIER"

def pictureRanges : Ranges := propertyNamed "EXTENDEDPICTOGRAPHIC"

def ignorableRanges : Ranges := propertyNamed "DEFAULTIGNORABLECODEPOINT"

def spacingRanges : Ranges := inCategories ["Mc"]

def controlRanges : Ranges := inCategories ["Zl", "Zp", "Cc", "Cf"]

def assignedRanges : Ranges := rangesWhere fun _ => true

def isExtending (n : Nat) : Bool :=
  extendRanges.covers n || modifierRanges.covers n

def role (c : Char) : Role :=
  let n := c.toNat
  if c == '\r' then .carriageReturn
  else if c == '\n' then .lineFeed
  else if 0x20 ≤ n && n < 0x7f then .other
  else if n == 0x200d then .joiner
  else if leadingRanges.covers n then .leading
  else if isExtending n then .extending
  else if controlRanges.covers n || (ignorableRanges.covers n && !assignedRanges.covers n) then .control
  else if 0x1f1e6 ≤ n && n ≤ 0x1f1ff then .flag
  else if n == 0xe33 || n == 0xeb3 || (spacingRanges.covers n && !apartRanges.covers n) then .spacing
  else if (0x1100 ≤ n && n ≤ 0x115f) || (0xa960 ≤ n && n ≤ 0xa97c) then .lead
  else if (0x1160 ≤ n && n ≤ 0x11a7) || (0xd7b0 ≤ n && n ≤ 0xd7c6) || n == 0x16d63 ||
      (0x16d67 ≤ n && n ≤ 0x16d6a) then .vowel
  else if (0x11a8 ≤ n && n ≤ 0x11ff) || (0xd7cb ≤ n && n ≤ 0xd7fb) then .trail
  else if 0xac00 ≤ n && n ≤ 0xd7a3 then
    if (n - 0xac00) % 28 == 0 then .leadVowel else .leadVowelTrail
  else .other

/-- A consonant, linked through marks, before the next consonant; `before` is reversed. -/
def endsLinked (linked : Bool) : List Char → Bool
  | [] => false
  | c :: r =>
    if linkerRanges.covers c.toNat then endsLinked true r
    else if isExtending c.toNat || c.toNat == 0x200d then endsLinked linked r
    else linked && consonantRanges.covers c.toNat

/-- A picture with its marks; `before` is reversed. -/
def endsPicture : List Char → Bool
  | [] => false
  | c :: r => if isExtending c.toNat then endsPicture r else pictureRanges.covers c.toNat

/-- How many flag halves stand last. -/
def flagsBehind (before : List Char) : Nat :=
  (before.takeWhile fun c => role c == .flag).length

/-- Whether a written character ends between `before`, reversed, and `c`. -/
def isBreak (before : List Char) (c : Char) : Bool :=
  match before with
  | [] => true
  | a :: earlier =>
    match role a, role c with
    | .carriageReturn, .lineFeed => false
    | .carriageReturn, _ | .lineFeed, _ | .control, _ => true
    | _, .carriageReturn | _, .lineFeed | _, .control => true
    | .lead, .lead | .lead, .vowel | .lead, .leadVowel | .lead, .leadVowelTrail => false
    | .leadVowel, .vowel | .leadVowel, .trail | .vowel, .vowel | .vowel, .trail => false
    | .leadVowelTrail, .trail | .trail, .trail => false
    | _, .extending | _, .joiner | _, .spacing => false
    | .leading, _ => false
    | .flag, .flag => flagsBehind before % 2 == 0
    | .joiner, _ =>
      !(pictureRanges.covers c.toNat && endsPicture earlier) &&
        !(consonantRanges.covers c.toNat && endsLinked false before)
    | _, _ => !(consonantRanges.covers c.toNat && endsLinked false before)

end Patchwork.Text.Grapheme
