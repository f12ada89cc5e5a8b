import Patchwork.Text.Class

/-!
Word diffs: both texts are cut into words and runs of white space, and what is not common is marked as
deleted or inserted. What is common is the longest common run, then the same on both sides of it. Of several longest
runs the one that ends first in the left list is taken, then the one that ends first in the right list.
-/

namespace Patchwork.Diff

/-! ## Common blocks -/

/-- A run that occurs in the left list at `left` and in the right list at `right`. -/
structure Block where
  left : Nat
  right : Nat
  size : Nat
  deriving DecidableEq

variable {α : Type} [DecidableEq α]

/-- For each item of the right list, the length of the common run that ends with it and with `a`; `above`
is the same row for the item before `a`, and `corner` the entry before its first. -/
def runsEnding (a : α) (corner : Nat) : List Nat → List α → List Nat
  | [], b => b.map fun c => if c = a then 1 else 0
  | _ :: _, [] => []
  | n :: above, c :: b => (if c = a then corner + 1 else 0) :: runsEnding a n above b

/-- The first entry of a row that beats `best`, as a block that ends at `i` and at its place `j`. -/
def betterIn (i : Nat) (best : Block) (j : Nat) : List Nat → Block
  | [] => best
  | n :: row =>
    if best.size < n then betterIn i ⟨i + 1 - n, j + 1 - n, n⟩ (j + 1) row
    else betterIn i best (j + 1) row

/-- The longest common run of the rest of the left list, given the row above it. -/
def longestFrom (b : List α) (i : Nat) (above : List Nat) (best : Block) : List α → Block
  | [] => best
  | a :: rest =>
    let row := runsEnding a 0 above b
    longestFrom b (i + 1) row (betterIn i best 0 row) rest

/-- The longest common run, of size zero if nothing is common. -/
def longest (a b : List α) : Block :=
  longestFrom b 0 [] ⟨0, 0, 0⟩ a

/-- The common blocks in order, with places shifted by `i` and `j`; the fuel bounds the nesting. -/
def blocksFrom : Nat → Nat → Nat → List α → List α → List Block
  | 0, _, _, _, _ => []
  | fuel + 1, i, j, a, b =>
    let m := longest a b
    if m.size = 0 then []
    else
      blocksFrom fuel i j (a.take m.left) (b.take m.right) ++
        ⟨i + m.left, j + m.right, m.size⟩ ::
          blocksFrom fuel (i + m.left + m.size) (j + m.right + m.size)
            (a.drop (m.left + m.size)) (b.drop (m.right + m.size))

/-- Joins blocks that touch on both sides. -/
def merged : List Block → List Block
  | [] => []
  | m :: rest =>
    match merged rest with
    | [] => [m]
    | n :: more =>
      if m.left + m.size = n.left ∧ m.right + m.size = n.right then
        ⟨m.left, m.right, m.size + n.size⟩ :: more
      else m :: n :: more

/-- The common blocks of two lists. -/
def blocks (a b : List α) : List Block :=
  merged (blocksFrom (a.length + 1) 0 0 a b)

/-! ## Segments -/

/-- One stretch of a diff. -/
inductive Segment where
  | kept (words : List (List Char))
  | deleted (words : List (List Char))
  | inserted (words : List (List Char))
  deriving DecidableEq

/-- Puts a character in front of the pieces, onto the first one if that is of the same class. -/
def pushPiece (c : Char) : List (List Char) → List (List Char)
  | (d :: w) :: rest =>
    if Text.isWhite c = Text.isWhite d then (c :: d :: w) :: rest else [c] :: (d :: w) :: rest
  | pieces => [c] :: pieces

/-- The words and the runs of white space of a text, in order. -/
def pieces : List Char → List (List Char)
  | [] => []
  | c :: r => pushPiece c (pieces r)

/-- What stands in front of the next common block. -/
def change (old new : List (List Char)) : List Segment :=
  (if old.isEmpty then [] else [.deleted old]) ++ (if new.isEmpty then [] else [.inserted new])

/-- The segments of what is left of both lists from the places `i` and `j` on. -/
def segmentsFrom (i j : Nat) (old new : List (List Char)) : List Block → List Segment
  | [] => change old new
  | m :: rest =>
    change (old.take (m.left - i)) (new.take (m.right - j)) ++
      .kept ((old.drop (m.left - i)).take m.size) ::
        segmentsFrom (m.left + m.size) (m.right + m.size) (old.drop (m.left - i + m.size))
          (new.drop (m.right - j + m.size)) rest

/-- The segments that turn one text into another. -/
def segments (before after : List Char) : List Segment :=
  let old := pieces before
  let new := pieces after
  segmentsFrom 0 0 old new (blocks old new)

def Segment.text : Segment → List Char
  | kept words => words.flatten
  | deleted words => "[-".toList ++ words.flatten ++ "-]".toList
  | inserted words => "\x7b+".toList ++ words.flatten ++ "+\x7d".toList

/-- Kept text as it is, deletions and insertions in their marks. -/
def wordDiff (before after : List Char) : List Char :=
  (segments before after).flatMap Segment.text

end Patchwork.Diff
