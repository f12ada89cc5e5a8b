/-!
Sorted tables of code-point ranges: how they are written down, and the search in them.
-/

namespace Patchwork.Text

/-- Disjoint ranges of code points in ascending order, both ends included. -/
abbrev Ranges := Array (Nat × Nat)

namespace Ranges

/-- Halving search between the indices `lo` and `hi`, in at most `steps` steps. -/
def search (r : Ranges) (c : Nat) : Nat → Nat → Nat → Option (Nat × Nat)
  | 0, _, _ => none
  | steps + 1, lo, hi =>
    if lo < hi then
      let mid := (lo + hi) / 2
      match r[mid]? with
      | some (first, last) =>
        if c < first then search r c steps lo mid
        else if last < c then search r c steps (mid + 1) hi
        else some (first, last)
      | none => none
    else none

/-- The range that holds a code point. -/
def find? (r : Ranges) (c : Nat) : Option (Nat × Nat) :=
  r.search c r.size 0 r.size

/-- Whether a code point lies in one of the ranges. -/
def covers (r : Ranges) (c : Nat) : Bool :=
  (r.find? c).isSome

/-- What a table says so far: the number being read, the first of its range, and whether a step of two
follows. -/
structure Reading where
  number : Nat := 0
  first : Option Nat := none
  stepped : Option (Nat × Nat) := none
  entries : Ranges := #[]

namespace Reading

/-- Every other code point of a range stands for itself. -/
def everyOther (first last : Nat) : List (Nat × Nat) :=
  (List.range ((last - first) / 2 + 1)).map fun i => (first + 2 * i, first + 2 * i)

/-- Ends an entry. -/
def close (s : Reading) : Reading :=
  match s.stepped with
  | some (first, last) => { entries := s.entries ++ everyOther first last }
  | none => { entries := s.entries.push (s.first.getD s.number, s.number) }

def hexDigit (c : Char) : Nat :=
  if c.isDigit then c.toNat - 0x30 else c.toNat - 0x57

def take (s : Reading) (c : Char) : Reading :=
  if c == ' ' || c == '\n' then s
  else if c == '-' then { s with first := some s.number, number := 0 }
  else if c == '/' then { s with stepped := some (s.first.getD s.number, s.number), number := 0 }
  else { s with number := s.number * 16 + hexDigit c }

/-- Reads on; blanks end an entry, further ones are skipped. -/
def run (s : Reading) : List Char → Reading
  | [] => s.close
  | c :: d :: r =>
    if c == ' ' || c == '\n' then (if d == ' ' || d == '\n' then s else s.close).run (d :: r)
    else (s.take c).run (d :: r)
  | [c] => (s.take c).close

end Reading

/-- Reads a table: hexadecimal numbers, `first-last` for a range, `first-last/2` for every other code point
of a range, all apart by blanks. -/
def ofText (s : String) : Ranges :=
  ((Reading.mk 0 none none #[]).run s.toList).entries

/-- One table out of several that do not overlap. -/
def merge (parts : List Ranges) : Ranges :=
  ((parts.flatMap (·.toList)).mergeSort fun a b => a.1 ≤ b.1).toArray

end Ranges

end Patchwork.Text
