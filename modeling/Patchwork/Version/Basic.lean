/-!
Release versions: an epoch, a release number, an optional stage before the release, a later revision, a
snapshot and a build label, with their order and their normal text.
-/

namespace Patchwork

/-- A stage before a release. -/
inductive Version.Stage where
  | alpha
  | beta
  | candidate
  deriving DecidableEq

/-- One part of a build label. -/
inductive Version.Label where
  | number (n : Nat)
  | word (w : String)
  deriving DecidableEq

structure Version where
  epoch : Nat
  release : List Nat
  stage : Option (Version.Stage × Nat)
  revision : Option Nat
  snapshot : Option Nat
  build : Option (List Version.Label)
  deriving DecidableEq

namespace Version

def Stage.rank : Stage → Nat
  | alpha => 1
  | beta => 2
  | candidate => 3

def Stage.text : Stage → String
  | alpha => "a"
  | beta => "b"
  | candidate => "rc"

/-- Words sort before numbers. -/
def Label.compare : Label → Label → Ordering
  | number m, number n => Ord.compare m n
  | word v, word w => Ord.compare v w
  | word _, number _ => .lt
  | number _, word _ => .gt

def Label.text : Label → String
  | number n => toString n
  | word w => w

/-- Lexicographic order; a shorter list sorts before its extensions. -/
def compareBy {α : Type} (cmp : α → α → Ordering) : List α → List α → Ordering
  | [], [] => .eq
  | [], _ :: _ => .lt
  | _ :: _, [] => .gt
  | a :: x, b :: y => (cmp a b).then (compareBy cmp x y)

/-- Without trailing zeros. -/
def trimmed (release : List Nat) : List Nat :=
  (release.reverse.dropWhile (· == 0)).reverse

/-- A snapshot of the bare release sorts before all stages, a release after them. -/
def stageRank (v : Version) : Nat × Nat :=
  match v.stage, v.revision, v.snapshot with
  | some (s, n), _, _ => (s.rank, n)
  | none, none, some _ => (0, 0)
  | none, _, _ => (4, 0)

/-- Position of the part behind the release: no revision before any, a snapshot before none. -/
def suffix (v : Version) : List Nat :=
  let (rank, n) := v.stageRank
  [rank, n, if v.revision.isSome then 1 else 0, v.revision.getD 0, if v.snapshot.isSome then 0 else 1,
    v.snapshot.getD 0]

def compareBuild : Option (List Label) → Option (List Label) → Ordering
  | none, none => .eq
  | none, some _ => .lt
  | some _, none => .gt
  | some a, some b => compareBy Label.compare a b

def order (v w : Version) : Ordering :=
  (Ord.compare v.epoch w.epoch).then <|
    (compareBy Ord.compare (trimmed v.release) (trimmed w.release)).then <|
      (compareBy Ord.compare v.suffix w.suffix).then (compareBuild v.build w.build)

/-- Equality up to trailing zeros of the release. -/
def same (v w : Version) : Bool :=
  v.order w == .eq

def before (v w : Version) : Bool :=
  v.order w == .lt

/-- Versions that come before the release they name. -/
def isEarly (v : Version) : Bool :=
  v.stage.isSome || v.snapshot.isSome

/-- Without the build label. -/
def bare (v : Version) : Version :=
  { v with build := none }

/-- The normal form as text. -/
def text (v : Version) : String :=
  (if v.epoch = 0 then "" else s!"{v.epoch}!") ++ ".".intercalate (v.release.map toString) ++
    (match v.stage with
      | some (s, n) => s.text ++ toString n
      | none => "") ++
    (match v.revision with
      | some n => s!".post{n}"
      | none => "") ++
    (match v.snapshot with
      | some n => s!".dev{n}"
      | none => "") ++
    match v.build with
    | some labels => "+" ++ ".".intercalate (labels.map Label.text)
    | none => ""

end Version

end Patchwork
