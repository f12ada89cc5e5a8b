import Patchwork.Version.Basic
import Patchwork.Number.Integer

/-!
Reading versions. Letters count in either case, a separator may stand before and behind each word, and a
missing number is zero.
-/

namespace Patchwork.Version

open Patchwork.Text Patchwork.Number

/-- A part that was read, and the rest of the text. -/
abbrev Part (α : Type) := α × List Char

def isSeparator (c : Char) : Bool :=
  c == '-' || c == '_' || c == '.'

def skipSeparator : List Char → List Char
  | [] => []
  | c :: r => if isSeparator c then r else c :: r

/-- A number of at least one digit. -/
def number? (s : List Char) : Option (Part Nat) :=
  let digits := s.takeWhile Char.isDigit
  if digits.isEmpty then none else (natOf? digits).map fun n => (n, s.dropWhile Char.isDigit)

def numberOrZero (s : List Char) : Part Nat :=
  (number? s).getD (0, s)

/-- The rest behind the first of some lower case words that the text starts with. -/
def word? {α : Type} (words : List (String × α)) (s : List Char) : Option (Part α) :=
  words.findSome? fun (w, a) => (after? w.toList s).map fun r => (a, r)

/-- Drops the optional letter that announces a version. -/
def skipLead (s : List Char) : List Char :=
  match s with
  | 'v' :: r => r
  | r => r

def epochPart (s : List Char) : Part Nat :=
  match number? s with
  | some (n, '!' :: r) => (n, r)
  | _ => (0, s)

/-- The numbers behind the first one, each behind a point; the fuel bounds their count. -/
def releaseTail : Nat → List Char → Part (List Nat)
  | 0, s => ([], s)
  | fuel + 1, s =>
    match s with
    | '.' :: r =>
      match number? r with
      | some (n, r) =>
        let (ns, r) := releaseTail fuel r
        (n :: ns, r)
      | none => ([], s)
    | _ => ([], s)

def release? (s : List Char) : Option (Part (List Nat)) :=
  (number? s).map fun (n, r) =>
    let (ns, r) := releaseTail r.length r
    (n :: ns, r)

def stageWords : List (String × Stage) :=
  [("alpha", .alpha), ("a", .alpha), ("beta", .beta), ("b", .beta), ("preview", .candidate),
    ("pre", .candidate), ("c", .candidate), ("rc", .candidate)]

def stagePart (s : List Char) : Part (Option (Stage × Nat)) :=
  match word? stageWords (skipSeparator s) with
  | some (stage, r) =>
    let (n, r) := numberOrZero (skipSeparator r)
    (some (stage, n), r)
  | none => (none, s)

/-- A dash with a number, or a word for a revision. -/
def revisionPart (s : List Char) : Part (Option Nat) :=
  let dashed := match s with
    | '-' :: r => number? r
    | _ => none
  match dashed with
  | some (n, r) => (some n, r)
  | none =>
    match word? [("post", ()), ("rev", ()), ("r", ())] (skipSeparator s) with
    | some ((), r) =>
      let (n, r) := numberOrZero (skipSeparator r)
      (some n, r)
    | none => (none, s)

def snapshotPart (s : List Char) : Part (Option Nat) :=
  match word? [("dev", ())] (skipSeparator s) with
  | some ((), r) =>
    let (n, r) := numberOrZero (skipSeparator r)
    (some n, r)
  | none => (none, s)

def isLabelChar (c : Char) : Bool :=
  c.isDigit || c.isLower

def label (s : List Char) : Label :=
  match natOf? s with
  | some n => .number n
  | none => .word (String.ofList s)

/-- The labels behind the first one, each behind a separator. -/
def labelTail : Nat → List Char → Part (List Label)
  | 0, s => ([], s)
  | fuel + 1, s =>
    match s with
    | c :: r =>
      let w := r.takeWhile isLabelChar
      if isSeparator c && !w.isEmpty then
        let (ls, r) := labelTail fuel (r.dropWhile isLabelChar)
        (label w :: ls, r)
      else ([], s)
    | [] => ([], [])

def buildPart (s : List Char) : Part (Option (List Label)) :=
  match s with
  | '+' :: r =>
    let w := r.takeWhile isLabelChar
    if w.isEmpty then (none, s)
    else
      let (ls, r) := labelTail r.length (r.dropWhile isLabelChar)
      (some (label w :: ls), r)
  | _ => (none, s)

/-- The longest version at the head of a lower case text. -/
def readPart? (s : List Char) : Option (Part Version) := do
  let (epoch, r) := epochPart (skipLead s)
  let (release, r) ← release? r
  let (stage, r) := stagePart r
  let (revision, r) := revisionPart r
  let (snapshot, r) := snapshotPart r
  let (build, r) := buildPart r
  some (⟨epoch, release, stage, revision, snapshot, build⟩, r)

/-- The digits of a first number with more of them than are read. A number in a build label stands alone between
separators. -/
def excess? (s : List Char) : Option Nat :=
  let digits (p : Char → Bool) (s : List Char) : List (List Char) :=
    (s.splitBy fun a b => p a == p b).filter fun w => w.all Char.isDigit
  let label := s.dropWhile (· != '+')
  let numbers := digits Char.isDigit (s.takeWhile (· != '+')) ++ digits isLabelChar label
  numbers.findSome? (excessDigits? 10)

/-- What a whole text stands for as a version. -/
inductive Reading where
  | version (v : Version)
  /-- No version. -/
  | none
  /-- A version with a number of too many digits. -/
  | tooLong (digits : Nat)

/-- Reads a whole lower case text. -/
def readAll (s : List Char) : Reading :=
  match readPart? s with
  | some (v, []) =>
    match excess? s with
    | some n => .tooLong n
    | none => .version v
  | _ => .none

/-- The version that a whole text stands for, blanks around it allowed. -/
def parse (s : String) : Reading :=
  readAll ((stripWhere isBlank s.toList).map Char.toLower)

end Patchwork.Version
