/-!
Finding, splitting and replacing literal text.
-/

namespace Patchwork.Text

/-- The rest of `s` behind `w`, if `s` starts with `w`. -/
def after? : List Char → List Char → Option (List Char)
  | [], s => some s
  | _ :: _, [] => none
  | a :: w, b :: s => if a = b then after? w s else none

def startsWith (w s : List Char) : Bool :=
  (after? w s).isSome

def endsWith (w s : List Char) : Bool :=
  startsWith w.reverse s.reverse

/-- Index of the first occurrence of `w` in `s`, counted from `at`. -/
def indexFrom? (w : List Char) (start : Nat) : List Char → Option Nat
  | [] => if w.isEmpty then some start else none
  | c :: r => if startsWith w (c :: r) then some start else indexFrom? w (start + 1) r

/-- Index of the first occurrence. -/
def index? (w s : List Char) : Option Nat :=
  indexFrom? w 0 s

def contains (w s : List Char) : Bool :=
  (index? w s).isSome

/-- The pieces between occurrences of `w`, at most `limit` cuts; `skip` characters of an occurrence
are still to be dropped, `piece` is the open piece, reversed. -/
def piecesFrom (w : List Char) (limit skip : Nat) (piece : List Char) : List Char → List (List Char)
  | [] => [piece.reverse]
  | c :: r =>
    match skip with
    | k + 1 => piecesFrom w limit k piece r
    | 0 =>
      if limit != 0 && startsWith w (c :: r) then
        piece.reverse :: piecesFrom w (limit - 1) (w.length - 1) [] r
      else piecesFrom w limit 0 (c :: piece) r

/-- The pieces between the occurrences of a non-empty word. -/
def split (w s : List Char) : List (List Char) :=
  piecesFrom w s.length 0 [] s

/-- All occurrences of a non-empty word replaced. -/
def replace (old new s : List Char) : List Char :=
  List.intercalate new (split old s)

/-- `replace` on strings. -/
def replaceIn (old new s : String) : String :=
  String.ofList (replace old.toList new.toList s.toList)

/-- Without the leading and trailing characters of a class. -/
def stripWhere (p : Char → Bool) (s : List Char) : List Char :=
  ((s.dropWhile p).reverse.dropWhile p).reverse

end Patchwork.Text
