import Patchwork.Pattern.CharSet

/-!
The shape of a pattern once its flags are resolved.
-/

namespace Patchwork.Pattern

open Patchwork.Text

/-- What ends a line: a line feed, or any line separator. -/
inductive LineRule where
  | feed
  | separator
  deriving DecidableEq

/-- A place between characters. -/
inductive Place where
  | textStart
  | textEnd
  | lineStart (rule : LineRule)
  | lineEnd (rule : LineRule)
  | finalEnd (rule : LineRule)
  | someText
  | searchStart
  | boundary (letters : Alphabet)
  | inner (letters : Alphabet)
  | wordStart (letters : Alphabet)
  | wordEnd (letters : Alphabet)
  | wordBreak
  | noWordBreak
  | breakBefore
  | breakBehind
  deriving DecidableEq

/-- How a repetition gives characters back. -/
inductive Greed where
  | greedy
  | lazy
  | possessive
  deriving DecidableEq

/-- Kinds of difference from a pattern that a match may be forgiven. -/
inductive Slip where
  | substitution
  | insertion
  | deletion
  deriving DecidableEq

/-- How many slips of each kind there are, or what each of them costs. -/
structure Slips where
  substitutions : Nat := 0
  insertions : Nat := 0
  deletions : Nat := 0
  deriving DecidableEq

namespace Slips

def total (s : Slips) : Nat :=
  s.substitutions + s.insertions + s.deletions

def count (s : Slips) : Slip → Nat
  | .substitution => s.substitutions
  | .insertion => s.insertions
  | .deletion => s.deletions

def add (s : Slips) : Slip → Slips
  | .substitution => { s with substitutions := s.substitutions + 1 }
  | .insertion => { s with insertions := s.insertions + 1 }
  | .deletion => { s with deletions := s.deletions + 1 }

/-- The cost of some slips. -/
def cost (s price : Slips) : Nat :=
  s.substitutions * price.substitutions + s.insertions * price.insertions + s.deletions * price.deletions

end Slips

/-- A least and a greatest number. -/
structure Bounds where
  low : Nat
  high : Option Nat
  deriving DecidableEq

def Bounds.allows (b : Bounds) (n : Nat) : Bool :=
  b.high.all (n ≤ ·)

/-- What a fuzzy part forgives: each kind of slip, all together, their cost, and which characters may stand
in for others or be put in between. -/
structure Limits where
  substitutions : Bounds
  insertions : Bounds
  deletions : Bounds
  total : Bounds
  price : Slips
  most : Option Nat
  stray : Option (CharSet × Casing)
  deriving DecidableEq

namespace Limits

def bounds (l : Limits) : Slip → Bounds
  | .substitution => l.substitutions
  | .insertion => l.insertions
  | .deletion => l.deletions

/-- Whether one more slip is forgiven. -/
def permits (l : Limits) (s : Slips) (k : Slip) : Bool :=
  let t := s.add k
  (l.bounds k).allows (t.count k) && l.total.allows t.total && l.most.all (t.cost l.price ≤ ·)

/-- Whether the least numbers are reached. -/
def enough (l : Limits) (s : Slips) : Bool :=
  l.substitutions.low ≤ s.substitutions && l.insertions.low ≤ s.insertions &&
    l.deletions.low ≤ s.deletions && l.total.low ≤ s.total

/-- Whether a character may stand in for another one or between two. -/
def mayStray (l : Limits) (c : Char) : Bool :=
  l.stray.all fun (s, casing) => s.holdsUpTo casing c

end Limits

inductive Node where
  | empty
  | fail
  | char (c : Char) (casing : Casing)
  | word (folded : List Char)
  | any
  | notBreak (rule : LineRule)
  | set (s : CharSet) (casing : Casing)
  | cluster
  | place (p : Place)
  | same (group : Nat) (casing : Casing)
  | seq (a b : Node)
  | alt (a b : Node)
  | times (low : Nat) (high : Option Nat) (greed : Greed) (body : Node)
  | group (index : Nat) (body : Node)
  | look (behind negated : Bool) (body : Node)
  | atomic (body : Node)
  | choose (group : Nat) (yes no : Node)
  | chooseLook (behind negated : Bool) (test yes no : Node)
  | call (group : Nat)
  | keep
  | prune
  | skip
  | fuzzy (limits : Limits) (body : Node)
  deriving Inhabited, DecidableEq

/-- How repetitions treat a round that takes no text: it counts until the least number is reached, or the
place where the last free round began is not tried again. -/
inductive RoundRule where
  | whileMoving
  | onceAtPlace
  deriving DecidableEq

/-- A pattern ready to match: its root, how many groups it has, their names, its direction, and how its
match is chosen. -/
structure Program where
  root : Node
  groups : Nat := 0
  names : List (String × Nat) := []
  backward : Bool := false
  rule : RoundRule := .whileMoving
  longest : Bool := false
  best : Bool := false
  enhanced : Bool := false

namespace Node

/-- The fewest characters that a match takes. -/
def width : Node → Nat
  | char _ _ | any | notBreak _ | set _ _ | cluster => 1
  | word w => if w.length < 3 then min 1 w.length else w.length / 3
  | seq a b => a.width + b.width
  | alt a b | choose _ a b | chooseLook _ _ _ a b => min a.width b.width
  | times low _ _ body => low * body.width
  | group _ body | atomic body => body.width
  | _ => 0

/-- Whether nothing is there to match. -/
def isEmpty : Node → Bool
  | empty => true
  | seq a b | alt a b => a.isEmpty && b.isEmpty
  | _ => false

def ofList : List Node → Node
  | [] => empty
  | [n] => n
  | n :: rest => seq n (ofList rest)

/-- The literal text. -/
def literal (s : List Char) : Node :=
  ofList (s.map fun c => char c .exact)

/-- Runs of letters that compare by full folding, each made one word. -/
def fuseRuns : List Node → List Node
  | [] => []
  | char c .full :: rest =>
    match fuseRuns rest with
    | word w :: more => word (fullFold c ++ w) :: more
    | more => word (fullFold c) :: more
  | n :: rest => n :: fuseRuns rest

/-- A sequence with its runs of letters joined. -/
def joined (parts : List Node) : Node :=
  ofList (fuseRuns parts)

/-- The parts of a node as a sequence: single letters apart, the rest with its own letters joined. -/
def letters : Node → List Node
  | empty => []
  | seq a b => a.letters ++ b.letters
  | alt a b => [alt (joined a.letters) (joined b.letters)]
  | times low high greed body => [times low high greed (joined body.letters)]
  | group index body => [group index (joined body.letters)]
  | look behind negated body => [look behind negated (joined body.letters)]
  | atomic body => [atomic (joined body.letters)]
  | choose g yes no => [choose g (joined yes.letters) (joined no.letters)]
  | chooseLook behind negated test yes no =>
    [chooseLook behind negated (joined test.letters) (joined yes.letters) (joined no.letters)]
  | fuzzy limits body => [fuzzy limits (ofList body.letters)]
  | n => [n]

/-- Joins neighbouring letters that compare by full folding, so that one letter of the text may equal several
of the pattern. -/
def fused (n : Node) : Node :=
  joined n.letters

end Node

end Patchwork.Pattern
