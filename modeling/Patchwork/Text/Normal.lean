import Patchwork.Text.Name
import Patchwork.Text.NormalTable

/-!
Normalization form KC of identifiers, by the earlier edition: characters fall into their parts, marks are put in
order, and what has a composed form takes it.
-/

namespace Patchwork.Text.Normal

/-- A character made of two others. -/
structure Composite where
  whole : Nat
  first : Nat
  second : Nat

/-- A run of characters with the text that they stand for; the images of a run count up with it or stay. -/
structure Variant where
  first : Nat
  last : Nat
  images : List Nat
  counting : Bool

/-- A hexadecimal number. -/
def hex (s : List Char) : Nat :=
  (Name.hexOnto 0 s).getD 0

/-- The parts of a list apart by a sign. -/
def apart (sign : Char) (s : List Char) : List (List Char) :=
  Text.split [sign] s

/-- The ends of a range; a single number is both. -/
def endsOf (s : List Char) : Nat × Nat :=
  match apart '-' s with
  | [a, b] => (hex a, hex b)
  | _ => (hex s, hex s)

def readComposite? (entry : String) : Option Composite :=
  match apart '>' entry.toList with
  | [whole, parts] =>
    match apart '+' parts with
    | [a, b] => some ⟨hex whole, hex a, hex b⟩
    | _ => none
  | _ => none

def readVariant? (entry : String) : Option Variant :=
  let cs := entry.toList
  let sign := if cs.contains '>' then '>' else '='
  match apart sign cs with
  | [run, images] =>
    let (first, last) := endsOf run
    some ⟨first, last, (apart '+' images).map hex, sign == '>'⟩
  | _ => none

def readClass? (entry : String) : Option (Nat × Nat × Nat) :=
  match apart '=' entry.toList with
  | [run, number] => some ((endsOf run).1, (endsOf run).2, (String.ofList number).toNat?.getD 0)
  | _ => none

def compositeList : List Composite :=
  (Name.wordsOf composites.toList).filterMap readComposite?

def variantList : List Variant :=
  (Name.wordsOf variantForms.toList).filterMap readVariant?

def classList : List (Nat × Nat × Nat) :=
  (Name.wordsOf combiningClasses.toList).filterMap readClass?

/-- The combining class of a mark; zero for all other characters. -/
def combiningClass (n : Nat) : Nat :=
  ((classList.find? fun (first, last, _) => first ≤ n && n ≤ last).map (·.2.2)).getD 0

/-- The parts of a composed syllable: an initial, a vowel, and a final if there is one. -/
def syllableParts? (n : Nat) : Option (List Nat) :=
  if 0xac00 ≤ n && n < 0xd7a4 then
    let i := n - 0xac00
    let final := i % 28
    some ([0x1100 + i / 588, 0x1161 + i % 588 / 28] ++ (if final = 0 then [] else [0x11a7 + final]))
  else none

/-- The text that a character stands for. -/
def variantForm? (n : Nat) : Option (List Nat) :=
  (variantList.find? fun v => v.first ≤ n && n ≤ v.last).map fun v =>
    if v.counting then v.images.map (· + (n - v.first)) else v.images

/-- A character in its parts; the fuel bounds how often parts have parts. -/
def decomposed : Nat → Nat → List Nat
  | 0, n => [n]
  | fuel + 1, n =>
    match compositeList.find? (·.whole == n) with
    | some c => decomposed fuel c.first ++ decomposed fuel c.second
    | none => ((syllableParts? n).or (variantForm? n)).getD [n]

/-- How deeply parts are nested. -/
def partDepth : Nat := 8

/-- Puts a mark before those marks of a reversed text that have a higher class. -/
def placeMark (n : Nat) : List Nat → List Nat
  | [] => [n]
  | m :: r =>
    if combiningClass n ≠ 0 && combiningClass n < combiningClass m then m :: placeMark n r else n :: m :: r

/-- Marks in the order of their classes; those of one class keep their order. -/
def ordered (s : List Nat) : List Nat :=
  (s.foldl (fun before n => placeMark n before) []).reverse

/-- What two characters make together. -/
def joint? (a b : Nat) : Option Nat :=
  if 0x1100 ≤ a && a < 0x1113 && 0x1161 ≤ b && b < 0x1176 then
    some (0xac00 + ((a - 0x1100) * 21 + (b - 0x1161)) * 28)
  else if 0xac00 ≤ a && a < 0xd7a4 && (a - 0xac00) % 28 = 0 && 0x11a8 ≤ b && b < 0x11c3 then some (a + (b - 0x11a7))
  else (compositeList.find? fun c => c.first == a && c.second == b).map (·.whole)

/-- Composes a text behind the character that marks go onto; `between` are the marks since then, reversed. A mark is
kept apart by one between of the same class or a higher one. -/
def composedFrom (starter : Option Nat) (between : List Nat) : List Nat → List Nat
  | [] => starter.toList ++ between.reverse
  | n :: r =>
    let open_ := match between with
      | [] => true
      | m :: _ => combiningClass m < combiningClass n
    match starter.bind fun s => if open_ then joint? s n else none with
    | some whole => composedFrom (some whole) between r
    | none =>
      if combiningClass n = 0 then starter.toList ++ between.reverse ++ composedFrom (some n) [] r
      else composedFrom starter (n :: between) r

/-- An identifier in its normal form. -/
def identifier (s : String) : String :=
  if s.toList.all (·.toNat < 0x80) then s
  else
    let parts := s.toList.flatMap fun c => decomposed partDepth c.toNat
    String.ofList ((composedFrom none [] (ordered parts)).map Char.ofNat)

end Patchwork.Text.Normal
