import Patchwork.Text.CaseTable
import Patchwork.Text.Class
import Patchwork.Text.Property

/-!
Upper and lower case, caseless comparison, title case, and texts whose letters change their case.
-/

namespace Patchwork.Text

/-- The image of a code point under the run that holds it. -/
def CaseRun.image? (r : CaseRun) (n : Nat) : Option Nat :=
  if r.first ≤ n && n ≤ r.last && (n - r.first) % r.step == 0 then some (n + r.shift).toNat else none

/-- Full upper case of one character. -/
def upperChar (c : Char) : List Char :=
  let n := c.toNat
  if n < 0x80 then [c.toUpper]
  else
    match upperExpansions.find? (·.1 == n) with
    | some (_, ns) => ns.map Char.ofNat
    | none =>
      match upperRuns.findSome? (·.image? n) with
      | some m => [Char.ofNat m]
      | none => [c]

def upper (s : String) : String :=
  String.ofList (s.toList.flatMap upperChar)

/-- Simple case folding: one code point for each. -/
def fold (c : Char) : Char :=
  let n := c.toNat
  if n < 0x80 then c.toLower
  else
    match foldRuns.findSome? (·.image? n) with
    | some m => Char.ofNat m
    | none => c

/-- Full case folding: some code points fold to several. -/
def fullFold (c : Char) : List Char :=
  if c.toNat < 0x80 then [c.toLower]
  else
    match foldExpansions.find? (·.1 == c.toNat) with
    | some (_, ns) => ns.map Char.ofNat
    | none => [fold c]

/-- Lower case of one character, where its neighbours do not matter. A lower-case letter stays as it is even
where it folds to another one; the dotted capital leaves its dot behind. -/
def lowerChar (c : Char) : List Char :=
  let n := c.toNat
  if n < 0x80 then [c.toLower]
  else if n == 0x130 then ['i', '\u0307']
  else if 0x13a0 ≤ n && n ≤ 0x13ef then [Char.ofNat (n + 38864)]
  else if 0x13f0 ≤ n && n ≤ 0x13f5 then [Char.ofNat (n + 8)]
  else if isLater n || lowercaseRanges.covers n then [c]
  else [fold c]

def isCaseIgnorable (c : Char) : Bool :=
  inEarlier caseIgnorableRanges c.toNat

def isCased (c : Char) : Bool :=
  inEarlier casedRanges c.toNat

/-- Whether the first character that counts for case is a letter with case. -/
def leadsCased (s : List Char) : Bool :=
  ((s.dropWhile isCaseIgnorable).head?.map isCased).getD false

/-- Lower case of a text; `before` is what has been passed, reversed. A sigma that ends a word takes its final
form. -/
def lowerFrom (before : List Char) : List Char → List Char
  | [] => []
  | 'Σ' :: r =>
    (if leadsCased before && !leadsCased r then 'ς' else 'σ') :: lowerFrom ('Σ' :: before) r
  | c :: r => lowerChar c ++ lowerFrom (c :: before) r

def lower (s : String) : String :=
  String.ofList (lowerFrom [] s.toList)

/-- The dotted and dotless forms of the letter I, each tied to the plain one of the other case. -/
def isDottedPair (a b : Char) : Bool :=
  (a == 'I' && b == 'ı') || (a == 'i' && b == 'İ')

/-- Equality up to simple case folding, the special forms of the letter I included. -/
def sameFolded (a b : Char) : Bool :=
  a == b || fold a == fold b || isDottedPair a b || isDottedPair b a

/-- The four forms of the letter I. -/
def isSomeI (c : Char) : Bool :=
  c == 'i' || c == 'I' || c == 'ı' || c == 'İ'

/-- Equality up to simple case folding by the earlier edition, where all forms of the letter I are one. -/
def sameEarlier (a b : Char) : Bool :=
  a == b || (isSomeI a && isSomeI b) || (!isLater a.toNat && !isLater b.toNat && fold a == fold b)

/-- Equality up to ASCII case. -/
def sameAsciiFolded (a b : Char) : Bool :=
  a.toLower == b.toLower

/-- All characters that fold to the same one, itself first. -/
def foldMates (c : Char) : List Char :=
  let base := fold c
  let preimages := foldRuns.toList.filterMap fun r =>
    let n := (Int.ofNat base.toNat - r.shift).toNat
    if r.image? n == some base.toNat then some (Char.ofNat n) else none
  let upper := if base.isLower then [base.toUpper] else []
  c :: base :: upper ++ preimages

/-- The characters equal to one up to simple case folding. -/
def variants (c : Char) : List Char :=
  foldMates c ++ ['I', 'i', 'ı', 'İ'].filter fun d => isDottedPair c d || isDottedPair d c

/-- The characters equal to one by the earlier edition. -/
def earlierVariants (c : Char) : List Char :=
  c :: (['I', 'i', 'ı', 'İ'].filter fun _ => isSomeI c) ++
    (if isLater c.toNat then [] else (foldMates c).filter fun d => !isLater d.toNat)

/-! ## Titles -/

def isUpper (c : Char) : Bool :=
  if c.toNat < 0x80 then c.isUpper else inEarlier uppercaseRanges c.toNat

def isLower (c : Char) : Bool :=
  if c.toNat < 0x80 then c.isLower else inEarlier lowercaseRanges c.toNat

/-- The digraphs with a title form, each by the upper-case one of its three forms. -/
def digraphs : List Nat :=
  [0x1c4, 0x1c7, 0x1ca, 0x1f1]

/-- The code point of a title form that is one character and no upper-case form. -/
def titleForm? (n : Nat) : Option Nat :=
  match digraphs.find? fun d => d ≤ n && n ≤ d + 2 with
  | some d => some (d + 1)
  | none =>
    if 0x10d0 ≤ n && n ≤ 0x10ff then some n
    else if 0x1f80 ≤ n && n ≤ 0x1faf then some (n ||| 8)
    else if [0x1fb3, 0x1fbc, 0x1fc3, 0x1fcc, 0x1ff3, 0x1ffc].contains n then some (n / 16 * 16 + 12)
    else none

/-- Title case of one character: only the first letter of a form with several is a capital. -/
def titleChar (c : Char) : List Char :=
  match titleForm? c.toNat with
  | some n => [Char.ofNat n]
  | none =>
    match upperChar c with
    | a :: b :: r =>
      if c == 'ŉ' then a :: b :: r
      else a :: (b :: r).flatMap fun d => if d == 'Ι' then ['\u0345'] else lowerChar d
    | one => one

/-- The first letter as a title, the others in lower case. -/
def capitalized : List Char → List Char
  | [] => []
  | c :: r => titleChar c ++ lowerFrom [c] r

/-- Letters at the start of words as titles, the others in lower case; `before` is what has been passed,
reversed. -/
def titledFrom (before : List Char) : List Char → List Char
  | [] => []
  | c :: r =>
    let changed :=
      if (before.head?.map isCased).getD false then
        if c == 'Σ' && leadsCased before && !leadsCased r then ['ς'] else lowerChar c
      else titleChar c
    changed ++ titledFrom (c :: before) r

/-- Capitals in lower case and small letters in upper case. -/
def swappedFrom (before : List Char) : List Char → List Char
  | [] => []
  | c :: r =>
    let changed :=
      if isUpper c then
        if c == 'Σ' && leadsCased before && !leadsCased r then ['ς'] else lowerChar c
      else if isLower c then upperChar c
      else [c]
    changed ++ swappedFrom (c :: before) r

end Patchwork.Text
