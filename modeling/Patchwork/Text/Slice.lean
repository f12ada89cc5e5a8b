/-!
Parts of a list between two places, where a negative place counts from the end and places outside are
moved to the nearer end.
-/

namespace Patchwork.Text

/-- A place as an index into a list of the given length. -/
def placeIn (length : Nat) (place : Int) : Nat :=
  if place < 0 then (Int.ofNat length + place).toNat else min place.toNat length

/-- The part from `start` up to `stop`. -/
def sliced {α : Type} (start stop : Int) (s : List α) : List α :=
  let i := placeIn s.length start
  (s.take (placeIn s.length stop)).drop i

/-- A slice: its bounds, which count from the end if they are negative, and its step, which is not zero. -/
structure Slice where
  start : Option Int
  stop : Option Int
  step : Int
  deriving DecidableEq

namespace Slice

/-- A bound in a list of the given length; the places before and behind the list count as one each. -/
def bound (s : Slice) (length : Nat) (p : Int) : Int :=
  let p := if p < 0 then p + length else p
  if 0 < s.step then max 0 (min p length) else max (-1) (min p (length - 1))

/-- Where the slice begins in a list of the given length. -/
def first (s : Slice) (length : Nat) : Int :=
  ((s.start.map (s.bound length)).getD (if 0 < s.step then 0 else length - 1))

/-- Where the slice has ended. -/
def limit (s : Slice) (length : Nat) : Int :=
  ((s.stop.map (s.bound length)).getD (if 0 < s.step then length else -1))

/-- The places that the slice takes from a list of the given length. -/
def places (s : Slice) (length : Nat) : List Nat :=
  let i := s.first length
  let j := s.limit length
  let count := if 0 < s.step then (j - i + s.step - 1) / s.step else (i - j - s.step - 1) / -s.step
  (List.range count.toNat).map fun (k : Nat) => (i + k * s.step).toNat

def part {α : Type} (s : Slice) (items : List α) : List α :=
  let all := items.toArray
  (s.places items.length).filterMap (all[·]?)

/-- A list without the items of the slice. -/
def without {α : Type} (s : Slice) (items : List α) : List α :=
  let gone := s.places items.length
  (items.zipIdx.filter fun p => !gone.contains p.2).map (·.1)

/-- A list with other items in the place of the slice, whose step is one. -/
def spliced {α : Type} (s : Slice) (new items : List α) : List α :=
  let i := (s.first items.length).toNat
  items.take i ++ new ++ items.drop (max i (s.limit items.length).toNat)

end Slice

end Patchwork.Text
