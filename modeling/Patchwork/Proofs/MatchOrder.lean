import Patchwork.Pattern.Template

/-!
Where matches lie. A search goes through the text in one direction, and so does a match, so that matches follow each other
without overlaps. Only a pattern that moves the begin of its match can break that order.
-/

namespace Patchwork.Pattern

open Text

/-- Whether a node may move the begin of the match. -/
def Node.movesStart : Node → Bool
  | keep => true
  | seq a b | alt a b | choose _ a b => a.movesStart || b.movesStart
  | times _ _ _ body | look _ _ body | atomic body | fuzzy _ body | group _ body => body.movesStart
  | chooseLook _ _ test yes no => test.movesStart || yes.movesStart || no.movesStart
  | _ => false

theorem Node.group?_movesStart {n part : Node} {index : Nat} (found : n.group? index = some part)
    (steady : n.movesStart = false) :
    part.movesStart = false := by
  induction n with
  | group i body ih =>
      rw [group?] at found
      split at found
      · cases found
        exact steady
      · exact ih found steady
  | seq a b iha ihb =>
      simp only [movesStart, Bool.or_eq_false_iff] at steady
      rw [group?, Option.or_eq_some_iff] at found
      obtain here | ⟨-, there⟩ := found
      · exact iha here steady.1
      · exact ihb there steady.2
  | alt a b iha ihb =>
      simp only [movesStart, Bool.or_eq_false_iff] at steady
      rw [group?, Option.or_eq_some_iff] at found
      obtain here | ⟨-, there⟩ := found
      · exact iha here steady.1
      · exact ihb there steady.2
  | choose g a b iha ihb =>
      simp only [movesStart, Bool.or_eq_false_iff] at steady
      rw [group?, Option.or_eq_some_iff] at found
      obtain here | ⟨-, there⟩ := found
      · exact iha here steady.1
      · exact ihb there steady.2
  | chooseLook behind negated test yes no iht ihy ihn =>
      simp only [movesStart, Bool.or_eq_false_iff] at steady
      rw [group?, Option.or_eq_some_iff, Option.or_eq_some_iff] at found
      obtain (here | ⟨-, here⟩) | ⟨-, there⟩ := found
      · exact iht here steady.1.1
      · exact ihy here steady.1.2
      · exact ihn there steady.2
  | times low high greed body ih => exact ih found steady
  | look behind negated body ih => exact ih found steady
  | atomic body ih => exact ih found steady
  | fuzzy limits body ih => exact ih found steady
  | _ => cases found

/-! ## Runs -/

/-- From one place on to another in the direction of reading. -/
def Onward (backward : Bool) (i j : Nat) : Prop :=
  if backward then j ≤ i else i ≤ j

theorem Onward.refl (backward : Bool) (i : Nat) : Onward backward i i := by
  cases backward <;> exact Nat.le_refl i

theorem Onward.trans {backward : Bool} {i j k : Nat} (first : Onward backward i j) (second : Onward backward j k) :
    Onward backward i k := by
  cases backward with
  | false => exact Nat.le_trans first second
  | true => exact Nat.le_trans second first

theorem Outcome.orElse_found {r : Outcome} {other : Unit → Outcome} {t : Cursor} (found : r.orElse other = .found t) :
    r = .found t ∨ other () = .found t := by
  cases r with
  | missed => exact .inr found
  | found => exact .inl found
  | cut => cases found

theorem Outcome.orCut_found {r : Outcome} {resume : Option Nat} {t : Cursor} (found : r.orCut resume = .found t) :
    r = .found t := by
  cases r with
  | missed => cases found
  | found => exact found
  | cut => cases found

/-- Both places of a cursor lie in the text. -/
structure Inside (scene : Scene) (s : Cursor) : Prop where
  pos : s.pos ≤ scene.text.size
  start : s.start ≤ scene.text.size

section Run

variable (scene : Scene) (steady : Prop)

/-- A way from one cursor to another: onward, and without moving the begin of the match if that is steady. -/
structure Goes (backward : Bool) (s u : Cursor) : Prop where
  inside : Inside scene u
  onward : Onward backward s.pos u.pos
  start : steady → u.start = s.start

/-- A part of a pattern that is found only by a way to where the rest is found. -/
def Leads (backward : Bool) (part : Rest → Rest) : Prop :=
  ∀ ⦃next s t⦄, Inside scene s → part next s = .found t → ∃ u, Goes scene steady backward s u ∧ next u = .found t

/-- An item that takes text in the direction of reading. -/
def Steps (backward : Bool) (item : Nat → Option Nat) : Prop :=
  ∀ {pos pos'}, pos ≤ scene.text.size → item pos = some pos' → pos' ≤ scene.text.size ∧ Onward backward pos pos'

variable {scene steady} {backward : Bool} {limits : Option Limits} {next : Rest} {s t u v : Cursor}

theorem Goes.refl (inside : Inside scene s) : Goes scene steady backward s s :=
  ⟨inside, .refl backward s.pos, fun _ => rfl⟩

theorem Goes.trans (first : Goes scene steady backward s u) (second : Goes scene steady backward u v) :
    Goes scene steady backward s v :=
  ⟨second.inside, first.onward.trans second.onward, fun h => (second.start h).trans (first.start h)⟩

theorem Goes.step (inside : Inside scene s) (there : u.pos ≤ scene.text.size ∧ Onward backward s.pos u.pos)
    (same : u.start = s.start) : Goes scene steady backward s u :=
  ⟨⟨there.1, same ▸ inside.start⟩, there.2, fun _ => same⟩

theorem Goes.stay (inside : Inside scene s) (there : u.pos = s.pos) (same : u.start = s.start) : Goes scene steady backward s u :=
  .step inside ⟨there ▸ inside.pos, there ▸ .refl backward s.pos⟩ same

/-! ### Items -/

theorem steps_step : Steps scene backward fun pos => (scene.step? backward pos).map (·.2) := by
  intro pos pos' inside found
  obtain ⟨⟨c, p⟩, step, rfl⟩ := Option.map_eq_some_iff.mp found
  unfold Scene.step? at step
  cases backward with
  | false =>
      obtain ⟨d, here, eq⟩ := Option.map_eq_some_iff.mp step
      cases eq
      exact ⟨(Array.getElem?_eq_some_iff.mp here).1, Nat.le_succ pos⟩
  | true =>
      cases pos with
      | zero => cases step
      | succ pos =>
          obtain ⟨d, here, eq⟩ := Option.map_eq_some_iff.mp step
          cases eq
          exact ⟨Nat.le_of_succ_le inside, Nat.le_succ _⟩

theorem step_onward {c : Char} {pos pos' : Nat} (inside : pos ≤ scene.text.size)
    (step : scene.step? backward pos = some (c, pos')) :
    pos' ≤ scene.text.size ∧ Onward backward pos pos' :=
  steps_step inside (Option.map_eq_some_iff.mpr ⟨_, step, rfl⟩)

theorem stray_onward {l : Limits} {pos : Nat} (inside : Inside scene s) (found : scene.stray? backward l s = some pos) :
    pos ≤ scene.text.size ∧ Onward backward s.pos pos := by
  unfold Scene.stray? at found
  cases step : scene.step? backward s.pos with
  | none => simp [step] at found
  | some p =>
      simp only [step] at found
      split at found
      · cases found
        exact step_onward inside.pos step
      · cases found

theorem clusterEnd_le (left pos : Nat) : pos ≤ scene.text.size →
    pos ≤ scene.clusterEnd left pos ∧ scene.clusterEnd left pos ≤ scene.text.size := by
  induction left generalizing pos with
  | zero => exact fun inside => ⟨Nat.le_refl pos, inside⟩
  | succ left ih =>
      intro inside
      rw [Scene.clusterEnd]
      split
      · exact ⟨Nat.le_refl pos, inside⟩
      · next c here =>
        split
        · exact ⟨Nat.le_refl pos, inside⟩
        · obtain ⟨more, within⟩ := ih (pos + 1) (Array.getElem?_eq_some_iff.mp here).1
          exact ⟨Nat.le_of_succ_le more, within⟩

theorem clusterStart_le (pos : Nat) : scene.clusterStart pos ≤ pos := by
  induction pos with
  | zero => exact Nat.le_refl 0
  | succ pos ih =>
      rw [Scene.clusterStart]
      split
      · exact Nat.le_succ pos
      · split
        · exact Nat.le_succ pos
        · exact Nat.le_succ_of_le ih

theorem steps_cluster : Steps scene backward (scene.clusterStep? backward) := by
  intro pos pos' inside found
  unfold Scene.clusterStep? at found
  cases backward with
  | false =>
      split at found
      · contradiction
      · split at found
        · next room =>
          cases found
          obtain ⟨more, within⟩ := clusterEnd_le (scene.text.size - pos) (pos + 1) room
          exact ⟨within, Nat.le_of_succ_le more⟩
        · cases found
  | true =>
      split at found
      · split at found
        · cases found
        · cases found
          have before : scene.clusterStart pos ≤ pos := clusterStart_le pos
          exact ⟨Nat.le_trans before inside, before⟩
      · contradiction

theorem sameText_steps (casing : Casing) (w : List Char) : Steps scene backward (scene.sameText backward casing w) := by
  induction w with
  | nil =>
      intro pos pos' inside found
      cases found
      exact ⟨inside, .refl backward pos⟩
  | cons c w ih =>
      intro pos pos' inside found
      rw [Scene.sameText] at found
      split at found
      · next d p step =>
        split at found
        · obtain ⟨within, first⟩ := step_onward inside step
          obtain ⟨within', rest⟩ := ih within found
          exact ⟨within', first.trans rest⟩
        · cases found
      · cases found

theorem foldedText_steps (fuel : Nat) (w : List Char) : Steps scene backward (scene.foldedText backward fuel w) := by
  induction fuel generalizing w with
  | zero =>
      intro pos pos' inside found
      cases w with
      | nil =>
          cases found
          exact ⟨inside, .refl backward pos⟩
      | cons => cases found
  | succ fuel ih =>
      intro pos pos' inside found
      cases w with
      | nil =>
          cases found
          exact ⟨inside, .refl backward pos⟩
      | cons c w =>
          unfold Scene.foldedText at found
          split at found
          · next d p step =>
            split at found
            · obtain ⟨within, first⟩ := step_onward inside step
              obtain ⟨within', rest⟩ := ih _ within found
              exact ⟨within', first.trans rest⟩
            · cases found
          · cases found

theorem groupText_steps (casing : Casing) (span : Span) : Steps scene backward (scene.groupText? backward casing span) := by
  intro pos pos' inside found
  unfold Scene.groupText? at found
  dsimp only at found
  split at found
  · exact foldedText_steps _ _ inside found
  · exact sameText_steps _ _ inside found

/-! ### Parts -/

theorem leads_forgiving {moves : Bool} {item : Nat → Option Nat} (steps : Steps scene backward item) (fuel : Nat) :
    Leads scene steady backward fun next => scene.forgiving backward limits moves item next fuel := by
  induction fuel with
  | zero =>
      intro next s t _ found
      cases found
  | succ fuel ih =>
      intro next s t inside found
      dsimp only at found
      rw [Scene.forgiving.eq_def] at found
      dsimp only at found
      split at found
      · next pos taken =>
        refine ⟨_, ?_, found⟩
        exact .step inside (steps inside.pos taken) rfl
      · cases found
      · next l _ =>
        obtain substituted | found := Outcome.orElse_found found
        · split at substituted
          · next pos stray =>
            split at substituted
            · refine ⟨_, ?_, substituted⟩
              exact .step inside (stray_onward inside stray) rfl
            · cases substituted
          · cases substituted
        · obtain inserted | deleted := Outcome.orElse_found found
          · split at inserted
            · next pos stray =>
              split at inserted
              · have there : Goes scene steady backward s { s.slipped .insertion with pos } :=
                  .step inside (stray_onward inside stray) rfl
                obtain ⟨u, goes, rest⟩ := ih there.inside inserted
                exact ⟨u, there.trans goes, rest⟩
              · cases inserted
            · cases inserted
          · split at deleted
            · refine ⟨_, ?_, deleted⟩
              exact .stay inside rfl rfl
            · cases deleted

theorem leads_closing (l : Limits) (fuel : Nat) :
    Leads scene steady backward fun next => scene.closing backward l next fuel := by
  induction fuel with
  | zero =>
      intro next s t _ found
      cases found
  | succ fuel ih =>
      intro next s t inside found
      dsimp only at found
      rw [Scene.closing] at found
      split at found
      · obtain here | more := Outcome.orElse_found found
        · exact ⟨s, .refl inside, here⟩
        · split at more
          · next pos stray =>
            split at more
            · have there : Goes scene steady backward s { s.slipped .insertion with pos } :=
                .step inside (stray_onward inside stray) rfl
              obtain ⟨u, goes, rest⟩ := ih there.inside more
              exact ⟨u, there.trans goes, rest⟩
            · cases more
          · cases more
      · cases found

theorem leads_roundsWhileMoving {body : Rest → Rest} (each : Leads scene steady backward body) (low : Nat) (high : Option Nat)
    (lazy : Bool) (fuel count : Nat) :
    Leads scene steady backward fun next => scene.roundsWhileMoving body low high lazy next fuel count := by
  induction fuel generalizing count with
  | zero =>
      intro next s t _ found
      cases found
  | succ fuel ih =>
      intro next s t inside found
      dsimp only at found
      rw [Scene.roundsWhileMoving] at found
      have stops (here : (if low ≤ count then next s else .missed) = .found t) :
          ∃ u, Goes scene steady backward s u ∧ next u = .found t := by
        split at here
        · exact ⟨s, .refl inside, here⟩
        · cases here
      have goesOn (more : (if high.all (count < ·) then
          body (fun t =>
            if scene.changed s t then scene.roundsWhileMoving body low high lazy next fuel (count + 1) t
            else if count + 1 < low then scene.roundsWhileMoving body low high lazy next fuel (scene.skipAhead low count) t
            else next t) s
          else .missed) = .found t) : ∃ u, Goes scene steady backward s u ∧ next u = .found t := by
        split at more
        · obtain ⟨u, goes, rest⟩ := each inside more
          split at rest
          · obtain ⟨v, goes', rest⟩ := ih _ goes.inside rest
            exact ⟨v, goes.trans goes', rest⟩
          · split at rest
            · obtain ⟨v, goes', rest⟩ := ih _ goes.inside rest
              exact ⟨v, goes.trans goes', rest⟩
            · exact ⟨u, goes, rest⟩
        · cases more
      split at found
      · exact (Outcome.orElse_found found).elim stops goesOn
      · exact (Outcome.orElse_found found).elim goesOn stops

theorem leads_roundsOnceAtPlace {body : Rest → Rest} (each : Leads scene steady backward body) (low : Nat) (high : Option Nat)
    (lazy : Bool) (fuel count : Nat) (last : Option Nat) :
    Leads scene steady backward fun next => scene.roundsOnceAtPlace body low high lazy next fuel count last := by
  induction fuel generalizing count last with
  | zero =>
      intro next s t _ found
      cases found
  | succ fuel ih =>
      intro next s t inside found
      dsimp only at found
      rw [Scene.roundsOnceAtPlace] at found
      split at found
      · obtain ⟨u, goes, rest⟩ := each inside found
        obtain ⟨v, goes', rest⟩ := ih _ _ goes.inside rest
        exact ⟨v, goes.trans goes', rest⟩
      · have stops (here : next s = .found t) : ∃ u, Goes scene steady backward s u ∧ next u = .found t :=
          ⟨s, .refl inside, here⟩
        have goesOn (more : (if high.all (count < ·) && last != some s.pos then
            body (scene.roundsOnceAtPlace body low high lazy next fuel (count + 1) (some s.pos)) s
            else .missed) = .found t) : ∃ u, Goes scene steady backward s u ∧ next u = .found t := by
          split at more
          · obtain ⟨u, goes, rest⟩ := each inside more
            obtain ⟨v, goes', rest⟩ := ih _ _ goes.inside rest
            exact ⟨v, goes.trans goes', rest⟩
          · cases more
        dsimp only at found
        cases lazy with
        | true => exact (Outcome.orElse_found (by rwa [if_pos rfl] at found)).elim stops goesOn
        | false => exact (Outcome.orElse_found (by rwa [if_neg Bool.false_ne_true] at found)).elim goesOn stops

/-- What is taken in one way only is taken in one of its ways. -/
theorem leads_alone {part : Rest → Rest} (leads : Leads scene steady backward part) :
    Leads scene steady backward fun next => Scene.run.alone (part .found) next := by
  intro next s t inside found
  unfold Scene.run.alone at found
  dsimp only at found
  split at found
  · next u first =>
    obtain ⟨v, goes, eq⟩ := leads inside first
    cases eq
    exact ⟨u, goes, found⟩
  · cases found

theorem leads_letter (test : Char → Bool) :
    Leads scene steady backward (Scene.run.letter scene backward limits test) := by
  refine leads_forgiving (fun {pos pos'} inside found => ?_) _
  split at found
  · next d p step =>
    split at found
    · cases found
      exact step_onward inside step
    · cases found
  · cases found

theorem Leads.seq {a b : Rest → Rest} (first : Leads scene steady backward a) (second : Leads scene steady backward b) :
    Leads scene steady backward fun next => a (b next) := by
  intro next s t inside found
  obtain ⟨u, goes, rest⟩ := first inside found
  obtain ⟨v, goes', rest⟩ := second goes.inside rest
  exact ⟨v, goes.trans goes', rest⟩

/-- Behind a look the text goes on where the look began. -/
theorem Goes.back {behind : Bool} (inside : Inside scene s) (goes : Goes scene steady behind s t) :
    Goes scene steady backward s { t with pos := s.pos } :=
  ⟨⟨inside.pos, goes.inside.start⟩, .refl backward s.pos, goes.start⟩

theorem leads_rounds {body : Rest → Rest} (each : Leads scene steady backward body) (low : Nat) (high : Option Nat)
    (lazy : Bool) :
    Leads scene steady backward fun next => match scene.rule with
      | .whileMoving => scene.roundsWhileMoving body low high lazy next (2 * scene.text.size + 6) 0
      | .onceAtPlace => scene.roundsOnceAtPlace body low high lazy next (2 * scene.text.size + 6) 0 none := by
  cases scene.rule with
  | whileMoving => exact leads_roundsWhileMoving each low high lazy _ 0
  | onceAtPlace => exact leads_roundsOnceAtPlace each low high lazy _ 0 none

/-- A run is found only by a way onward, if the groups that it calls are. -/
theorem run_leads {call : Nat → Bool → Option Limits → Rest → Rest}
    (calls : ∀ group backward limits, Leads scene steady backward (call group backward limits)) (n : Node) (backward : Bool)
    (limits : Option Limits) (fixed : steady → n.movesStart = false) :
    Leads scene steady backward (scene.run call backward limits n) := by
  induction n generalizing backward limits with
  | empty => exact fun _ _ _ inside found => ⟨_, .refl inside, found⟩
  | fail => exact fun _ _ _ _ found => nomatch found
  | char c casing => exact leads_letter _
  | any => exact leads_letter _
  | notBreak rule => exact leads_letter _
  | set set casing => exact leads_letter _
  | word w =>
      intro next s t inside found
      rw [Scene.run] at found
      split at found
      · next pos taken =>
        refine ⟨_, ?_, found⟩
        exact .step inside (foldedText_steps _ _ inside.pos taken) rfl
      · cases found
  | cluster => exact leads_forgiving steps_cluster _
  | place p =>
      refine leads_forgiving (fun {pos pos'} inside found => ?_) _
      split at found
      · cases found
        exact ⟨inside, .refl backward pos⟩
      · cases found
  | same group casing =>
      intro next s t inside found
      rw [Scene.run] at found
      split at found
      · next pos taken =>
        obtain ⟨span, -, there⟩ := Option.bind_eq_some_iff.mp taken
        refine ⟨_, ?_, found⟩
        exact .step inside (groupText_steps _ _ inside.pos there) rfl
      · cases found
  | seq a b iha ihb =>
      simp only [Node.movesStart, Bool.or_eq_false_iff] at fixed
      have first := iha backward limits fun h => (fixed h).1
      have second := ihb backward limits fun h => (fixed h).2
      cases backward with
      | false => exact first.seq second
      | true => exact second.seq first
  | alt a b iha ihb =>
      simp only [Node.movesStart, Bool.or_eq_false_iff] at fixed
      intro next s t inside found
      rw [Scene.run] at found
      obtain here | there := Outcome.orElse_found found
      · exact iha backward limits (fun h => (fixed h).1) inside here
      · exact ihb backward limits (fun h => (fixed h).2) inside there
  | times low high greed body ih =>
      have each := ih backward limits fixed
      cases greed with
      | greedy => exact leads_rounds each low high false
      | lazy => exact leads_rounds each low high true
      | possessive =>
          have whole : Leads scene steady backward (match scene.rule with
              | .whileMoving => scene.run call backward limits body
              | .onceAtPlace => fun next => Scene.run.alone (scene.run call backward limits body .found) next) := by
            cases scene.rule with
            | whileMoving => exact each
            | onceAtPlace => exact leads_alone each
          exact leads_alone (leads_rounds whole low high false)
  | group index body ih =>
      intro next s t inside found
      obtain ⟨u, goes, rest⟩ := ih backward limits fixed inside found
      refine ⟨_, ?_, rest⟩
      exact goes.trans (.stay goes.inside rfl rfl)
  | look behind negated body ih =>
      intro next s t inside found
      rw [Scene.run] at found
      split at found
      · next v seen =>
        obtain ⟨u, goes, eq⟩ := ih behind none fixed inside seen
        cases eq
        split at found
        · cases found
        · exact ⟨_, goes.back inside, found⟩
      · split at found
        · exact ⟨s, .refl inside, found⟩
        · cases found
  | atomic body ih => exact leads_alone (ih backward limits fixed)
  | choose group yes no ihy ihn =>
      simp only [Node.movesStart, Bool.or_eq_false_iff] at fixed
      intro next s t inside found
      rw [Scene.run] at found
      split at found
      · exact ihy backward limits (fun h => (fixed h).1) inside found
      · exact ihn backward limits (fun h => (fixed h).2) inside found
  | chooseLook behind negated test yes no iht ihy ihn =>
      simp only [Node.movesStart, Bool.or_eq_false_iff] at fixed
      intro next s t inside found
      rw [Scene.run] at found
      split at found
      · next v seen =>
        obtain ⟨u, goes, eq⟩ := iht behind none (fun h => (fixed h).1.1) inside seen
        cases eq
        split at found
        · exact ihn backward limits (fun h => (fixed h).2) inside found
        · have there : Goes scene steady backward s { v with pos := s.pos } := goes.back inside
          obtain ⟨v, goes', rest⟩ := ihy backward limits (fun h => (fixed h).1.2) there.inside found
          exact ⟨v, there.trans goes', rest⟩
      · split at found
        · exact ihy backward limits (fun h => (fixed h).1.2) inside found
        · exact ihn backward limits (fun h => (fixed h).2) inside found
  | call group => exact calls group backward limits
  | keep =>
      intro next s t inside found
      refine ⟨_, ?_, found⟩
      exact ⟨⟨inside.pos, inside.pos⟩, .refl backward s.pos, fun h => nomatch fixed h⟩
  | prune => exact fun _ _ _ inside found => ⟨_, .refl inside, Outcome.orCut_found found⟩
  | skip => exact fun _ _ _ inside found => ⟨_, .refl inside, Outcome.orCut_found found⟩
  | fuzzy l body ih =>
      intro next s t inside found
      rw [Scene.run] at found
      have opened : Goes scene steady backward s { s with slips := {}, others := s.others + s.slips.total } :=
        .stay inside rfl rfl
      obtain ⟨u, goes, rest⟩ := ih backward (some l) fixed opened.inside found
      obtain ⟨v, goes', rest⟩ := leads_closing l _ goes.inside rest
      have whole : Goes scene steady backward s v := opened.trans (goes.trans goes')
      refine ⟨_, ?_, rest⟩
      exact whole.trans (.stay whole.inside rfl rfl)

theorem called_leads {body? : Nat → Option Node}
    (fixed : ∀ group body, body? group = some body → steady → body.movesStart = false)
    (fuel group : Nat) (backward : Bool) (limits : Option Limits) :
    Leads scene steady backward (scene.called body? fuel group backward limits) := by
  induction fuel generalizing group backward limits with
  | zero => exact fun _ _ _ _ found => nomatch found
  | succ fuel ih =>
      intro next s t inside found
      rw [Scene.called] at found
      split at found
      · next body named =>
        obtain ⟨u, goes, rest⟩ := run_leads ih body backward limits (fixed group body named) inside found
        refine ⟨_, ?_, rest⟩
        exact goes.trans (.stay goes.inside rfl rfl)
      · cases found

end Run

/-! ## Searches -/

namespace Program

variable {p : Program} {scene : Scene} {text : Array Char} {moving : Bool} {pos left : Nat} {m : Match} {t : Cursor}

/-- Whether a match begins where it is found. -/
def IsSteady (p : Program) : Prop :=
  p.root.movesStart = false

theorem body?_movesStart (group : Nat) (body : Node) (named : p.body? group = some body) (steady : p.IsSteady) :
    body.movesStart = false := by
  unfold body? at named
  split at named
  · cases named
    exact steady
  · exact Node.group?_movesStart named steady

theorem runAt_goes {accept : Cursor → Bool} (inside : pos ≤ scene.text.size) (found : p.runAt scene accept pos = .found t) :
    Goes scene p.IsSteady p.backward ⟨pos, pos, [], {}, 0⟩ t := by
  have leads : Leads scene p.IsSteady p.backward _ :=
    run_leads (called_leads body?_movesStart (2 * scene.text.size + 64)) p.root p.backward none id
  obtain ⟨u, goes, accepted⟩ := leads ⟨inside, inside⟩ found
  split at accepted
  · cases accepted
    exact goes
  · cases accepted

theorem lengthened_goes (inside : pos ≤ scene.text.size) (fuel : Nat)
    (goes : Goes scene p.IsSteady p.backward ⟨pos, pos, [], {}, 0⟩ t) :
    Goes scene p.IsSteady p.backward ⟨pos, pos, [], {}, 0⟩ (p.lengthened scene pos fuel t) := by
  induction fuel generalizing t with
  | zero => exact goes
  | succ fuel ih =>
      rw [lengthened]
      split
      · next u found => exact ih (runAt_goes inside found)
      · exact goes

theorem outcomeAt_goes (inside : pos ≤ scene.text.size) (found : p.outcomeAt scene moving pos = .found t) :
    Goes scene p.IsSteady p.backward ⟨pos, pos, [], {}, 0⟩ t := by
  unfold outcomeAt at found
  split at found
  · next u first =>
    cases found
    split
    · exact lengthened_goes inside _ (runAt_goes inside first)
    · exact runAt_goes inside first
  · exact runAt_goes inside found

/-- A match in a text of some length that is found from a place on. -/
structure FoundFrom (p : Program) (size pos : Nat) (m : Match) : Prop where
  ordered : m.start ≤ m.stop
  inside : m.stop ≤ size
  onward : p.IsSteady → Onward p.backward pos (if p.backward then m.stop else m.start)

theorem FoundFrom.of_goes (goes : Goes scene p.IsSteady p.backward ⟨pos, pos, [], {}, 0⟩ t) :
    p.FoundFrom scene.text.size pos (.ofCursor t) := by
  refine ⟨by simp only [Match.ofCursor]; omega, Nat.max_le.mpr ⟨goes.inside.start, goes.inside.pos⟩, fun steady => ?_⟩
  have start : t.start = pos := goes.start steady
  have onward : Onward p.backward pos t.pos := goes.onward
  unfold Onward at onward ⊢
  split at onward
  · next backward =>
    rw [if_pos backward, if_pos backward, Match.ofCursor, start]
    exact Nat.max_le.mpr ⟨Nat.le_refl pos, onward⟩
  · next forward =>
    rw [if_neg forward, if_neg forward, Match.ofCursor, start]
    exact Nat.le_min.mpr ⟨Nat.le_refl pos, onward⟩

theorem FoundFrom.earlier {pos' size : Nat} (found : p.FoundFrom size pos m) (before : Onward p.backward pos' pos) :
    p.FoundFrom size pos' m :=
  ⟨found.ordered, found.inside, fun steady => before.trans (found.onward steady)⟩

theorem firstFrom_found (found : p.firstFrom? scene moving left pos = some m) : p.FoundFrom scene.text.size pos m := by
  induction left generalizing pos with
  | zero =>
      rw [firstFrom?.eq_def] at found
      dsimp only at found
      by_cases inside : scene.text.size < pos
      · rw [if_pos inside] at found
        cases found
      · rw [if_neg inside] at found
        cases outcome : p.outcomeAt scene moving pos with
        | found t =>
            rw [outcome] at found
            cases found
            exact .of_goes (outcomeAt_goes (Nat.le_of_not_lt inside) outcome)
        | _ => simp [outcome] at found
  | succ left ih =>
      have further {i j : Nat} (before : i ≤ pos) (behind : pos ≤ j) : Onward p.backward pos (if p.backward then i else j) := by
        unfold Onward
        split <;> assumption
      rw [firstFrom?.eq_def] at found
      dsimp only at found
      by_cases inside : scene.text.size < pos
      · rw [if_pos inside] at found
        cases found
      · rw [if_neg inside] at found
        cases outcome : p.outcomeAt scene moving pos with
        | found t =>
            rw [outcome] at found
            cases found
            exact .of_goes (outcomeAt_goes (Nat.le_of_not_lt inside) outcome)
        | missed =>
            rw [outcome] at found
            exact (ih found).earlier (further (Nat.sub_le pos 1) (Nat.le_succ pos))
        | cut resume =>
            rw [outcome] at found
            cases resume with
            | none => exact (ih found).earlier (further (Nat.sub_le pos 1) (Nat.le_succ pos))
            | some resume => exact (ih found).earlier (further (by omega) (by omega))

theorem fewer_found {search : Nat → Option Match} {P : Match → Prop} (each : ∀ n m, search n = some m → P m) (n : Nat)
    (here : P m) : P (fewer search n m) := by
  induction n generalizing m with
  | zero => exact here
  | succ n ih =>
      rw [fewer]
      split
      · exact ih here
      · split
        · next better found => exact ih (each n better found)
        · exact here

theorem searchWithin_found {most : Option Nat} (found : p.searchWithin? text moving pos most = some m) :
    p.FoundFrom text.size pos m :=
  firstFrom_found found

theorem searchFrom_found (found : p.searchFrom? text moving pos = some m) : p.FoundFrom text.size pos m := by
  obtain ⟨first, searched, rfl⟩ := Option.map_eq_some_iff.mp found
  have here : p.FoundFrom text.size pos first := searchWithin_found searched
  split
  · exact fewer_found (fun _ _ => searchWithin_found) _ here
  · split
    · split
      · next backward =>
        refine fewer_found (fun n better again => ?_) _ here
        have within := searchWithin_found again
        refine ⟨within.ordered, within.inside, fun steady => ?_⟩
        have last := here.onward steady
        rw [if_pos backward] at last
        exact last.trans (within.onward steady)
      · next forward =>
        -- The search for a better match is in the text up to the end of the first one.
        refine fewer_found (fun n better again => ?_) _ here
        have within := searchWithin_found again
        rw [Array.size_extract] at within
        refine ⟨within.ordered, Nat.le_trans within.inside (by omega), fun steady => ?_⟩
        have first := here.onward steady
        rw [if_neg forward] at first
        exact first.trans (within.onward steady)
    · exact here

/-! ## Matches in order -/

/-- One match behind another in the direction of reading. -/
def Follows (backward : Bool) (a b : Match) : Prop :=
  if backward then b.stop ≤ a.start else a.stop ≤ b.start

theorem matchesFrom_found (limit : Nat) (moving : Bool) (pos : Nat) :
    (∀ m ∈ p.matchesFrom text limit moving pos, p.FoundFrom text.size pos m) ∧
      (p.IsSteady → (p.matchesFrom text limit moving pos).Pairwise (Follows p.backward)) := by
  induction limit generalizing moving pos with
  | zero => exact ⟨fun _ => (nomatch ·), fun _ => .nil⟩
  | succ limit ih =>
      rw [matchesFrom]
      split
      · exact ⟨fun _ => (nomatch ·), fun _ => .nil⟩
      · next m found =>
        have first := searchFrom_found found
        obtain ⟨each, apart⟩ := ih (m.start == m.stop) (if p.backward then m.start else m.stop)
        constructor
        · intro n here
          cases here with
          | head => exact first
          | tail _ here =>
              have later := each n here
              refine ⟨later.ordered, later.inside, fun steady => (first.onward steady).trans (.trans ?_ (later.onward steady))⟩
              unfold Onward
              have := first.ordered
              split <;> simp_all
        · intro steady
          refine .cons (fun n here => ?_) (apart steady)
          have behind := (each n here).onward steady
          unfold Onward at behind
          unfold Follows
          split <;> simp_all

theorem matchesFrom_head {limit : Nat} {rest : List Match} (found : p.matchesFrom text limit moving pos = m :: rest) :
    p.searchFrom? text moving pos = some m := by
  cases limit with
  | zero => cases found
  | succ limit =>
      rw [matchesFrom] at found
      split at found
      · cases found
      · next first searched =>
        cases found
        exact searched

/-- Occurrences lie in the text, in the direction of reading and without overlaps. -/
theorem occurrences_order (p : Program) (source : List Char) (limit : Option Nat) :
    (∀ m ∈ p.occurrences source limit, m.start ≤ m.stop ∧ m.stop ≤ source.length) ∧
      (p.IsSteady → (p.occurrences source limit).Pairwise (Follows p.backward)) := by
  obtain ⟨each, apart⟩ : (∀ m ∈ p.occurrences source limit, p.FoundFrom source.length _ m) ∧
      (p.IsSteady → (p.occurrences source limit).Pairwise (Follows p.backward)) := matchesFrom_found _ _ _
  exact ⟨fun m here => ⟨(each m here).ordered, (each m here).inside⟩, apart⟩

theorem search_inside {source : List Char} (found : p.search? source = some m) : m.start ≤ m.stop ∧ m.stop ≤ source.length :=
  have here := searchFrom_found found
  ⟨here.ordered, here.inside⟩

/-- The first occurrence is the one that a search finds. -/
theorem occurrences_head {source : List Char} {limit : Option Nat} {rest : List Match}
    (found : p.occurrences source limit = m :: rest) : p.search? source = some m :=
  matchesFrom_head found

end Program

end Patchwork.Pattern
