import Patchwork.Version.Parser
import Patchwork.Text.Case
import Patchwork.Text.Quoted

/-!
Version ranges: comma separated conditions, all of which must hold.
-/

namespace Patchwork

/-- Why a condition cannot be tried. -/
inductive Version.BoundFault where
  /-- A bound with letters that only count as others. -/
  | foreignLetters
  | tooLong (digits : Nat)
  deriving DecidableEq

/-- One condition on a version. -/
inductive Version.Condition where
  | identical (text : String)
  | equal (v : Version)
  | different (v : Version)
  | under (epoch : Nat) (release : List Nat)
  | outside (epoch : Nat) (release : List Nat)
  | compatible (v : Version)
  | atMost (v : Version)
  | atLeast (v : Version)
  | less (v : Version)
  | more (v : Version)
  deriving DecidableEq

namespace Version

open Patchwork.Text

/-- A build label counts only where the condition names one. -/
def equals (v w : Version) : Bool :=
  (if w.build.isNone then v.bare else v).same w

/-- The release, filled up with zeros, starts with the given one. -/
def isUnder (v : Version) (epoch : Nat) (release : List Nat) : Bool :=
  let filled := v.release ++ List.replicate (release.length - v.release.length) 0
  v.epoch == epoch && filled.take release.length == release

/-- Early versions of the bound itself do not count as less than it. -/
def isLess (v w : Version) : Bool :=
  v.before w &&
    !(!w.isEarly && v.isEarly && !v.before { w with snapshot := some 0, build := none })

/-- Revisions and builds of the bound itself do not count as more than it. -/
def isMore (v w : Version) : Bool :=
  w.before v &&
    !(w.revision.isNone && v.revision.isSome &&
      { v with revision := none, snapshot := none, build := none }.same w) &&
    !(v.build.isSome && v.bare.same w)

def Condition.holds (v : Version) : Condition → Bool
  | identical text => lower v.text == lower text
  | equal w => v.equals w
  | different w => !v.equals w
  | under epoch release => v.isUnder epoch release
  | outside epoch release => !v.isUnder epoch release
  | compatible w => !v.bare.before w && v.isUnder w.epoch w.release.dropLast
  | atMost w => !w.before v.bare
  | atLeast w => !v.bare.before w
  | less w => v.isLess w
  | more w => v.isMore w

/-- Conditions that are tried first have a lower rank: those that few versions meet, and that are cheap. -/
def Condition.rank : Condition → Nat
  | identical _ | equal _ => 0
  | atMost _ | atLeast _ | less _ | more _ => 1
  | under _ _ | compatible _ => 2
  | different _ => 3
  | outside _ _ => 4

/-- A condition as it was read, and what keeps it from being tried. -/
structure Clause where
  condition : Condition
  fault : Option BoundFault

/-- A letter as the form of conditions takes it: in lower case, where some letters count as one of ASCII. -/
def foldedLetter (c : Char) : Char :=
  if c.toNat = 0x130 ∨ c.toNat = 0x131 then 'i'
  else if c.toNat = 0x17f then 's'
  else if c.toNat = 0x212a then 'k'
  else c.toLower

/-- A whole version without blanks around it. -/
def bound? (s : List Char) : Option Version :=
  match readPart? s with
  | some (v, []) => some v
  | _ => none

/-- A bound that may not have a build label. -/
def bareBound? (s : List Char) : Option Version :=
  (bound? s).filter fun v => v.build.isNone

/-- A release followed by a point and a star. -/
def starred? (s : List Char) : Option (Nat × List Nat) := do
  let (epoch, r) := epochPart (skipLead s)
  let (release, r) ← release? r
  if r == ['.', '*'] then some (epoch, release) else none

def isIdentityChar (c : Char) : Bool :=
  !isBlank c && c != ';' && c != ')'

/-- A condition by its sign and its bound in lower case. -/
def Condition.ofBound? (s : List Char) : Option Condition :=
  let bound (r : List Char) := r.dropWhile isBlank
  match s with
  | '=' :: '=' :: r =>
    match starred? (bound r) with
    | some (epoch, release) => some (under epoch release)
    | none => (bound? (bound r)).map equal
  | '!' :: '=' :: r =>
    match starred? (bound r) with
    | some (epoch, release) => some (outside epoch release)
    | none => (bound? (bound r)).map different
  | '~' :: '=' :: r => ((bareBound? (bound r)).filter fun v => 2 ≤ v.release.length).map compatible
  | '<' :: '=' :: r => (bareBound? (bound r)).map atMost
  | '>' :: '=' :: r => (bareBound? (bound r)).map atLeast
  | '<' :: r => (bareBound? (bound r)).map less
  | '>' :: r => (bareBound? (bound r)).map more
  | _ => none

/-- A condition without blanks around it. -/
def Clause.parse? (s : List Char) : Option Clause :=
  match s with
  | '=' :: '=' :: '=' :: r =>
    let r := r.dropWhile isBlank
    if r.all isIdentityChar then some ⟨.identical (String.ofList r), none⟩ else none
  | s =>
    let folded := s.map foldedLetter
    (Condition.ofBound? folded).map fun c =>
      let foreign := s.any fun c => 0x7f < c.toNat && !isBlank c
      ⟨c, if foreign then some .foreignLetters else (excess? folded).map .tooLong⟩

end Version

/-- A range of versions: the conditions that all its members meet. -/
structure VersionRange where
  clauses : List Version.Clause

namespace VersionRange

/-- Conditions between commas; empty ones are skipped, and the first bad one is returned as a fault. They are
kept in the order in which they are tried. -/
def parse (s : String) : Except String VersionRange := do
  let parts := (Text.split [','] s.toList).map (Text.stripWhere Text.isBlank)
  let clauses ← (parts.filter (!·.isEmpty)).mapM fun part =>
    match Version.Clause.parse? part with
    | some c => .ok c
    | none => .error (String.ofList part)
  .ok ⟨clauses.mergeSort fun a b => a.condition.rank ≤ b.condition.rank⟩

/-- Whether a version meets some conditions, up to the first that it does not meet or that cannot be tried. -/
def meets (v : Version) : List Version.Clause → Except Version.BoundFault Bool
  | [] => .ok true
  | c :: r =>
    match c.fault with
    | some f => .error f
    | none => if c.condition.holds v then meets v r else .ok false

def contains (r : VersionRange) (v : Version) : Except Version.BoundFault Bool :=
  meets v r.clauses

/-- The message for a condition that cannot be read. -/
def invalidMessage (condition : String) : String :=
  s!"Invalid specifier: {Text.quoted condition}"

end VersionRange

end Patchwork
