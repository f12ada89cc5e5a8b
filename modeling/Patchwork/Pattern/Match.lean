import Patchwork.Pattern.Place
import Patchwork.Diff.Context

/-!
Backtracking. A node is run with what has to match behind it; the first way to succeed is taken. In a backward
run the text is read from right to left, which also serves looking behind.
-/

namespace Patchwork.Pattern

open Patchwork.Text

/-- Where a group matched. -/
abbrev Span := Diff.Span

/-- A place in the text, where the match begins, what the groups hold, the slips of the fuzzy part at hand
and the number of slips outside it. -/
structure Cursor where
  pos : Nat
  start : Nat
  groups : List (Nat × Span) := []
  slips : Slips := {}
  others : Nat := 0

namespace Cursor

def span? (s : Cursor) (group : Nat) : Option Span :=
  (s.groups.find? (·.1 == group)).map (·.2)

def capture (s : Cursor) (group start : Nat) : Cursor :=
  { s with groups := (group, ⟨min start s.pos, max start s.pos⟩) :: s.groups.filter (·.1 != group) }

def slipped (s : Cursor) (k : Slip) : Cursor :=
  { s with slips := s.slips.add k }

end Cursor

/-- What came of a run: a match, none, or none with all other ways cut off, perhaps with the place at which
to go on. -/
inductive Outcome where
  | found (s : Cursor)
  | missed
  | cut (resume : Option Nat)

/-- Tries another way unless ways are cut off. -/
def Outcome.orElse (r : Outcome) (other : Unit → Outcome) : Outcome :=
  match r with
  | missed => other ()
  | r => r

/-- Cuts off all other ways if this one fails. -/
def Outcome.orCut (r : Outcome) (resume : Option Nat) : Outcome :=
  match r with
  | missed => cut resume
  | r => r

/-- What has to match from a cursor on. -/
abbrev Rest := Cursor → Outcome

namespace Scene

/-- Whether one more slip keeps within all limits. -/
def permits (scene : Scene) (limits : Limits) (s : Cursor) (k : Slip) : Bool :=
  limits.permits s.slips k && scene.most.all (s.others + s.slips.total + 1 ≤ ·)

/-- The place behind the next character, if that character may stray. -/
def stray? (scene : Scene) (backward : Bool) (limits : Limits) (s : Cursor) : Option Nat :=
  match scene.step? backward s.pos with
  | some (c, pos) => if limits.mayStray c then some pos else none
  | none => none

/-- Takes an item, or, where slips are forgiven, something else in its place: another character, characters
put in before it, or nothing. An item that takes no text has no substitute. At the place where the search
began nothing is put in. The fuel bounds the insertions. -/
def forgiving (scene : Scene) (backward : Bool) (limits : Option Limits) (moves : Bool)
    (item : Nat → Option Nat) (next : Rest) : Nat → Rest
  | 0, _ => .missed
  | fuel + 1, s =>
    match item s.pos, limits with
    | some pos, _ => next { s with pos }
    | none, none => .missed
    | none, some l =>
      let substituted :=
        match scene.stray? backward l s with
        | some pos =>
          if moves && scene.permits l s .substitution then next { s.slipped .substitution with pos } else .missed
        | none => .missed
      substituted.orElse fun _ =>
        let inserted :=
          match scene.stray? backward l s with
          | some pos =>
            if scene.permits l s .insertion && s.pos != scene.anchor then
              scene.forgiving backward limits moves item next fuel { s.slipped .insertion with pos }
            else .missed
          | none => .missed
        inserted.orElse fun _ =>
          if scene.permits l s .deletion then next (s.slipped .deletion) else .missed

/-- Ends a fuzzy part, perhaps with characters put in behind it. The fuel bounds their number. -/
def closing (scene : Scene) (backward : Bool) (l : Limits) (next : Rest) : Nat → Rest
  | 0, _ => .missed
  | fuel + 1, s =>
    if l.enough s.slips then
      (next s).orElse fun _ =>
        match scene.stray? backward l s with
        | some pos =>
          if scene.permits l s .insertion then
            scene.closing backward l next fuel { s.slipped .insertion with pos }
          else .missed
        | none => .missed
    else .missed

/-- Whether a round has changed anything that matters behind it. -/
def changed (scene : Scene) (s t : Cursor) : Bool :=
  s.pos != t.pos || scene.referred.any fun g => s.span? g != t.span? g

/-- The count behind a round that has changed nothing: of the rounds still needed, all but as many as the
text has characters may be taken as done. -/
def skipAhead (scene : Scene) (low count : Nat) : Nat :=
  max (count + 1) (low - (scene.text.size + 1))

/-- Repetition in which a round that changes nothing counts while rounds are needed and ends the repetition
after that. The fuel bounds the rounds. -/
def roundsWhileMoving (scene : Scene) (body : Rest → Rest) (low : Nat) (high : Option Nat) (lazy : Bool)
    (next : Rest) : Nat → Nat → Rest
  | 0, _, _ => .missed
  | fuel + 1, count, s =>
    let stop (_ : Unit) := if low ≤ count then next s else .missed
    let more (_ : Unit) :=
      if high.all (count < ·) then
        body (fun t =>
          if scene.changed s t then
            scene.roundsWhileMoving body low high lazy next fuel (count + 1) t
          else if count + 1 < low then
            scene.roundsWhileMoving body low high lazy next fuel (scene.skipAhead low count) t
          else next t) s
      else .missed
    if lazy then (stop ()).orElse more else (more ()).orElse stop

/-- Repetition in which no two free rounds begin at the same place. The fuel bounds the rounds. -/
def roundsOnceAtPlace (scene : Scene) (body : Rest → Rest) (low : Nat) (high : Option Nat) (lazy : Bool)
    (next : Rest) : Nat → Nat → Option Nat → Rest
  | 0, _, _, _ => .missed
  | fuel + 1, count, last, s =>
    if count < low then
      body (fun t =>
        let count := if s.pos = t.pos then scene.skipAhead low count else count + 1
        scene.roundsOnceAtPlace body low high lazy next fuel count last t) s
    else
      let stop (_ : Unit) := next s
      let more (_ : Unit) :=
        if high.all (count < ·) && last != some s.pos then
          body (scene.roundsOnceAtPlace body low high lazy next fuel (count + 1) (some s.pos)) s
        else .missed
      if lazy then (stop ()).orElse more else (more ()).orElse stop

/-- Compares a word with the text at a place, letter by letter. -/
def sameText (scene : Scene) (backward : Bool) (casing : Casing) : List Char → Nat → Option Nat
  | [], pos => some pos
  | c :: r, pos =>
    match scene.step? backward pos with
    | some (d, pos) => if sameLetter casing c d then scene.sameText backward casing r pos else none
    | none => none

/-- Drops a word from the front of another one. -/
def without? : List Char → List Char → Option (List Char)
  | [], s => some s
  | c :: w, d :: s => if c = d then without? w s else none
  | _ :: _, [] => none

/-- Compares a folded word with the text at a place; a letter of the text may use up several of the word. The
fuel bounds the letters. -/
def foldedText (scene : Scene) (backward : Bool) : Nat → List Char → Nat → Option Nat
  | _, [], pos => some pos
  | 0, _ :: _, _ => none
  | fuel + 1, w, pos =>
    match scene.step? backward pos with
    | some (d, pos) =>
      match without? (if backward then (fullFold d).reverse else fullFold d) w with
      | some w => scene.foldedText backward fuel w pos
      | none => none
    | none => none

/-- The place behind the text of a group, if that text stands at a place. -/
def groupText? (scene : Scene) (backward : Bool) (casing : Casing) (span : Span) (pos : Nat) : Option Nat :=
  let word := between scene.text span.start span.stop
  let along (w : List Char) := if backward then w.reverse else w
  if casing = .full then
    let w := along (word.flatMap fullFold)
    scene.foldedText backward w.length w pos
  else scene.sameText backward casing (along word) pos

/-- Runs a node; `call` runs a group of the pattern that the node refers to. -/
def run (scene : Scene) (call : Nat → Bool → Option Limits → Rest → Rest) :
    Bool → Option Limits → Node → Rest → Rest
  | _, _, .empty, next, s => next s
  | _, _, .fail, _, _ => .missed
  | backward, limits, .char c casing, next, s => letter backward limits (sameLetter casing c) next s
  | backward, limits, .any, next, s => letter backward limits (fun _ => true) next s
  | backward, limits, .notBreak rule, next, s => letter backward limits (fun d => !rule.ends d) next s
  | backward, limits, .set set casing, next, s => letter backward limits (set.holdsUpTo casing) next s
  | backward, _, .word w, next, s =>
    match scene.foldedText backward w.length (if backward then w.reverse else w) s.pos with
    | some pos => next { s with pos }
    | none => .missed
  | backward, limits, .cluster, next, s =>
    scene.forgiving backward limits true (scene.clusterStep? backward) next (scene.text.size + 2) s
  | backward, limits, .place p, next, s =>
    scene.forgiving backward limits false (fun pos => if p.holds scene pos then some pos else none) next
      (scene.text.size + 2) s
  | backward, _, .same group casing, next, s =>
    match (s.span? group).bind fun span => scene.groupText? backward casing span s.pos with
    | some pos => next { s with pos }
    | none => .missed
  | backward, limits, .seq a b, next, s =>
    if backward then scene.run call backward limits b (scene.run call backward limits a next) s
    else scene.run call backward limits a (scene.run call backward limits b next) s
  | backward, limits, .alt a b, next, s =>
    (scene.run call backward limits a next s).orElse fun _ => scene.run call backward limits b next s
  | backward, limits, .times low high greed body, next, s =>
    let rounds (lazy : Bool) (body : Rest → Rest) (next : Rest) : Rest :=
      match scene.rule with
      | .whileMoving => scene.roundsWhileMoving body low high lazy next (2 * scene.text.size + 6) 0
      | .onceAtPlace => scene.roundsOnceAtPlace body low high lazy next (2 * scene.text.size + 6) 0 none
    match greed with
    | .greedy => rounds false (scene.run call backward limits body) next s
    | .lazy => rounds true (scene.run call backward limits body) next s
    | .possessive =>
      let whole := match scene.rule with
        | .whileMoving => scene.run call backward limits body
        | .onceAtPlace => fun next => alone (scene.run call backward limits body .found) next
      alone (rounds false whole .found) next s
  | backward, limits, .group index body, next, s =>
    scene.run call backward limits body (fun t => next (t.capture index s.pos)) s
  | _, _, .look behind negated body, next, s =>
    match scene.run call behind none body .found s with
    | .found t => if negated then .missed else next { t with pos := s.pos }
    | _ => if negated then next s else .missed
  | backward, limits, .atomic body, next, s => alone (scene.run call backward limits body .found) next s
  | backward, limits, .choose group yes no, next, s =>
    match s.span? group with
    | some _ => scene.run call backward limits yes next s
    | none => scene.run call backward limits no next s
  | backward, limits, .chooseLook behind negated test yes no, next, s =>
    match scene.run call behind none test .found s with
    | .found t =>
      if negated then scene.run call backward limits no next s
      else scene.run call backward limits yes next { t with pos := s.pos }
    | _ =>
      if negated then scene.run call backward limits yes next s
      else scene.run call backward limits no next s
  | backward, limits, .call group, next, s => call group backward limits next s
  | _, _, .keep, next, s => next { s with start := s.pos }
  | _, _, .prune, next, s => (next s).orCut none
  | _, _, .skip, next, s => (next s).orCut (some s.pos)
  | backward, _, .fuzzy l body, next, s =>
    let join (t : Cursor) : Cursor :=
      { t with
        slips := ⟨s.slips.substitutions + t.slips.substitutions, s.slips.insertions + t.slips.insertions,
          s.slips.deletions + t.slips.deletions⟩
        others := s.others }
    scene.run call backward (some l) body
      (scene.closing backward l (fun t => next (join t)) (scene.text.size + 2))
      { s with slips := {}, others := s.others + s.slips.total }
where
  /-- One character that passes a test. -/
  letter (backward : Bool) (limits : Option Limits) (test : Char → Bool) (next : Rest) : Rest :=
    scene.forgiving backward limits true
      (fun pos => match scene.step? backward pos with
        | some (d, pos) => if test d then some pos else none
        | none => none)
      next (scene.text.size + 2)
  /-- Takes the first way through a part and no other. -/
  alone (part : Rest) (next : Rest) : Rest := fun s =>
    match part s with
    | .found t => next t
    | _ => .missed

/-- Runs a group that is called by its number; what the groups held before is put back. The fuel bounds how
deep calls are nested. -/
def called (scene : Scene) (body? : Nat → Option Node) : Nat → Nat → Bool → Option Limits → Rest → Rest
  | 0, _, _, _, _, _ => .missed
  | fuel + 1, group, backward, limits, next, s =>
    match body? group with
    | some body =>
      scene.run (scene.called body? fuel) backward limits body (fun t => next { t with groups := s.groups }) s
    | none => .missed

end Scene

end Patchwork.Pattern
