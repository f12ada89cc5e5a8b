import Patchwork.Text.Slice

/-!
The region of a text around a match, and the same region of the changed text.
-/

namespace Patchwork.Diff

/-- A match from `start` up to `stop`. -/
structure Span where
  start : Nat
  stop : Nat
  deriving DecidableEq

/-- Up to `width` characters on each side of the match in `before`, and the same region of `after`, longer
by as much as the text has grown; without a match the head of both. -/
def context (before after : List Char) (place : Option Span) (width : Int) : List Char × List Char :=
  match place with
  | none => (Text.sliced 0 (2 * width) before, Text.sliced 0 (2 * width) after)
  | some m =>
    let start := max 0 (Int.ofNat m.start - width)
    let stop := min (Int.ofNat before.length) (Int.ofNat m.stop + width)
    let grown := max start (stop + Int.ofNat after.length - Int.ofNat before.length)
    (Text.sliced start stop before, Text.sliced start grown after)

end Patchwork.Diff
