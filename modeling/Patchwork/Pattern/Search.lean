import Patchwork.Pattern.Match

/-!
Search for the places at which a pattern matches.
-/

namespace Patchwork.Pattern

open Patchwork.Text

namespace Node

/-- The first group of a number. -/
def group? (n : Nat) : Node → Option Node
  | seq a b | alt a b | choose _ a b => (group? n a).or (group? n b)
  | times _ _ _ body | look _ _ body | atomic body | fuzzy _ body => group? n body
  | group index body => if index = n then some (group index body) else group? n body
  | chooseLook _ _ test yes no => ((group? n test).or (group? n yes)).or (group? n no)
  | _ => none

/-- The groups that are referred to. -/
def referred : Node → List Nat
  | same g _ => [g]
  | seq a b | alt a b => a.referred ++ b.referred
  | choose g yes no => g :: yes.referred ++ no.referred
  | times _ _ _ body | look _ _ body | atomic body | fuzzy _ body | group _ body => body.referred
  | chooseLook _ _ test yes no => test.referred ++ yes.referred ++ no.referred
  | _ => []

end Node

/-- A match of a whole pattern. -/
structure Match where
  start : Nat
  stop : Nat
  groups : List (Nat × Span)
  slips : Nat := 0

def Match.ofCursor (t : Cursor) : Match :=
  ⟨min t.start t.pos, max t.start t.pos, t.groups, t.others + t.slips.total⟩

namespace Program

/-- The node that a call of a group runs; zero is the whole pattern. -/
def body? (p : Program) (group : Nat) : Option Node :=
  if group = 0 then some p.root else p.root.group? group

/-- Runs the whole pattern from a place. -/
def runAt (p : Program) (scene : Scene) (accept : Cursor → Bool) (pos : Nat) : Outcome :=
  scene.run (scene.called p.body? (2 * scene.text.size + 64)) p.backward none p.root
    (fun t => if accept t then .found t else .missed) ⟨pos, pos, [], {}, 0⟩

def distance (a b : Nat) : Nat :=
  max a b - min a b

/-- Goes on to longer matches from the same place, as long as there are any; the fuel bounds their number. -/
def lengthened (p : Program) (scene : Scene) (pos : Nat) : Nat → Cursor → Cursor
  | 0, t => t
  | fuel + 1, t =>
    match p.runAt scene (fun u => distance t.pos pos < distance u.pos pos) pos with
    | .found u => p.lengthened scene pos fuel u
    | _ => t

/-- A match that begins at one place; `moving` asks that it leave the place where the search began. -/
def outcomeAt (p : Program) (scene : Scene) (moving : Bool) (pos : Nat) : Outcome :=
  match p.runAt scene (fun t => !(moving && t.pos = scene.anchor)) pos with
  | .found t => .found (if p.longest then p.lengthened scene pos (scene.text.size + 1) t else t)
  | r => r

/-- The first match at `pos` or at one of the `left` places behind it in the direction of reading. A way that
was cut off may say where to go on. -/
def firstFrom? (p : Program) (scene : Scene) (moving : Bool) : Nat → Nat → Option Match
  | left, pos =>
    if scene.text.size < pos then none
    else
      match p.outcomeAt scene moving pos, left with
      | .found t, _ => some (.ofCursor t)
      | _, 0 => none
      | .cut (some resume), left + 1 =>
        p.firstFrom? scene moving left (if p.backward then min resume (pos - 1) else max resume (pos + 1))
      | _, left + 1 => p.firstFrom? scene moving left (if p.backward then pos - 1 else pos + 1)

/-- The first match from a place on with no more slips than a bound. -/
def searchWithin? (p : Program) (text : Array Char) (moving : Bool) (pos : Nat) (most : Option Nat) :
    Option Match :=
  p.firstFrom? ⟨text, pos, p.rule, p.root.referred, most⟩ moving (if p.backward then pos else text.size - pos) pos

/-- Goes on to matches with fewer slips, each found by a search that is told how many are allowed; the first
argument bounds the slips. -/
def fewer (search : Nat → Option Match) : Nat → Match → Match
  | 0, m => m
  | n + 1, m =>
    if m.slips ≤ n then fewer search n m
    else
      match search n with
      | some better => fewer search n better
      | none => m

/-- The first match from a place on; `moving` asks that it leave that place. Of fuzzy matches the best one in
the text, or one within the first that is found, can be asked for. -/
def searchFrom? (p : Program) (text : Array Char) (moving : Bool) (pos : Nat) : Option Match :=
  (p.searchWithin? text moving pos none).map fun m =>
    if p.best then fewer (fun n => p.searchWithin? text moving pos (some n)) m.slips m
    else if p.enhanced then
      if p.backward then fewer (fun n => p.searchWithin? text moving m.stop (some n)) m.slips m
      else fewer (fun n => p.searchWithin? (text.extract 0 m.stop) moving m.start (some n)) m.slips m
    else m

def search? (p : Program) (text : List Char) : Option Match :=
  let t := text.toArray
  p.searchFrom? t false (if p.backward then t.size else 0)

/-- The matches that follow each other from a place on, at most `limit`. -/
def matchesFrom (p : Program) (text : Array Char) : Nat → Bool → Nat → List Match
  | 0, _, _ => []
  | limit + 1, moving, pos =>
    match p.searchFrom? text moving pos with
    | none => []
    | some m =>
      m :: p.matchesFrom text limit (m.start == m.stop) (if p.backward then m.start else m.stop)

/-- The matches in the order in which they are found, at most `limit` if one is given. -/
def occurrences (p : Program) (text : List Char) (limit : Option Nat) : List Match :=
  let t := text.toArray
  let most := 2 * t.size + 2
  p.matchesFrom t ((limit.map (min · most)).getD most) false (if p.backward then t.size else 0)

end Program

end Patchwork.Pattern
