import Patchwork.Text.Case
import Patchwork.Text.Class

/-!
Sets of characters, and what it means to lie in one up to case.
-/

namespace Patchwork.Pattern

open Patchwork.Text

/-- When two letters count as the same: never, by simple folding, by folding in which one letter may equal
several, by ASCII case, or by the folding of the earlier edition. -/
inductive Casing where
  | exact
  | folded
  | full
  | asciiFolded
  | earlier
  deriving DecidableEq

/-- Which characters the classes speak of: those of the newest edition, ASCII only, or the letters and numbers
of the earlier edition. -/
inductive Alphabet where
  | newest
  | ascii
  | earlier
  deriving DecidableEq

/-- The named character classes. -/
inductive Category where
  | digit
  | space
  | word
  | blank
  deriving DecidableEq

def Category.holds (k : Category) (letters : Alphabet) (c : Char) : Bool :=
  match k, letters with
  | digit, .ascii => c.isDigit
  | digit, .newest => isDigit c
  | digit, .earlier => isDecimal c
  | space, .ascii => c == ' ' || ('\t' ≤ c && c ≤ '\r')
  | space, .newest => isWhite c
  | space, .earlier => isBlank c
  | word, .ascii => isAsciiWord c
  | word, .newest => isWord c
  | word, .earlier => isAlphanumeric c || c == '_'
  | blank, _ => c == '\t' || spaceRanges.covers c.toNat
where
  spaceRanges : Ranges := inCategories ["Zs"]

/-- A set of characters. -/
inductive CharSet where
  | single (c : Char)
  | range (low high : Char)
  | category (k : Category) (letters : Alphabet)
  | tables (r : List Ranges)
  | complement (s : CharSet)
  | union (s t : CharSet)
  | inter (s t : CharSet)
  | diff (s t : CharSet)
  | symmDiff (s t : CharSet)
  deriving Inhabited, DecidableEq

namespace CharSet

/-- Whether one of several characters, taken as equal, lies in the set. -/
def holdsAny : CharSet → List Char → Bool
  | single c, cs => cs.contains c
  | range low high, cs => cs.any fun c => low ≤ c && c ≤ high
  | category k letters, cs => cs.any (k.holds letters)
  | tables r, cs => cs.any fun c => r.any (·.covers c.toNat)
  | complement s, cs => !s.holdsAny cs
  | union s t, cs => s.holdsAny cs || t.holdsAny cs
  | inter s t, cs => s.holdsAny cs && t.holdsAny cs
  | diff s t, cs => s.holdsAny cs && !t.holdsAny cs
  | symmDiff s t, cs => s.holdsAny cs != t.holdsAny cs

def holds (s : CharSet) (c : Char) : Bool :=
  s.holdsAny [c]

/-- Whether a character lies in the set up to case. -/
def holdsUpTo (s : CharSet) (casing : Casing) (c : Char) : Bool :=
  match casing with
  | .exact => s.holds c
  | .folded | .full => s.holdsAny (variants c)
  | .asciiFolded => s.holdsAny [c, c.toLower, c.toUpper]
  | .earlier => s.holdsAny (earlierVariants c)

/-- The union of a list of sets that starts with `s`. -/
def unionOf (s : CharSet) (more : List CharSet) : CharSet :=
  more.foldl union s

theorem holdsAny_complement (s : CharSet) (cs : List Char) :
    s.complement.holdsAny cs = !s.holdsAny cs := rfl

end CharSet

/-- Equality of two characters up to case. -/
def sameLetter (casing : Casing) (a b : Char) : Bool :=
  match casing with
  | .exact => a == b
  | .folded | .full => sameFolded a b
  | .asciiFolded => sameAsciiFolded a b
  | .earlier => sameEarlier a b

end Patchwork.Pattern
