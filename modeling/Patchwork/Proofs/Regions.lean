import Mathlib.Data.List.Basic
import Patchwork.Diff.Context
import Patchwork.Patch.Rewrite
import Patchwork.Proofs.Draining
import Patchwork.Proofs.Growth
import Patchwork.Proofs.MatchOrder

/-!
What is shown of a rewrite: a region around the first match, and a part of the new text that begins where the region does and
is longer by as much as the whole text has grown. It is what the rule makes of the region if the text grows there only.
-/

namespace Patchwork

open Run Script Text

namespace Pattern

variable {text : List Char} {changes : List (Match × List Char)} {start stop pos : Nat}

/-! ## Regions -/

/-- Whether a match reaches into a region or lies within it. -/
def Match.touches (m : Match) (start stop : Nat) : Bool :=
  (m.start < stop && start < m.stop) || (start ≤ m.start && m.stop ≤ stop)

/-- What changes make of a region of a text: those that touch it are made, and of the other text only what lies in the region is
kept. -/
def remade (text : List Char) (start stop : Nat) (changes : List (Match × List Char)) : List Char :=
  splice (text.take stop) start (changes.filter (·.1.touches start stop))

/-- Changes behind each other in a text. -/
structure InOrder (length : Nat) (changes : List (Match × List Char)) : Prop where
  inside : ∀ c ∈ changes, c.1.start ≤ c.1.stop ∧ c.1.stop ≤ length
  apart : changes.Pairwise fun a b => a.1.stop ≤ b.1.start

theorem InOrder.tail {length : Nat} {c : Match × List Char} (order : InOrder length (c :: changes)) : InOrder length changes :=
  ⟨fun d here => order.inside d (.tail c here), order.apart.of_cons⟩

theorem InOrder.behind {length : Nat} {c : Match × List Char} (order : InOrder length (c :: changes)) :
    ∀ d ∈ changes, c.1.stop ≤ d.1.start :=
  (List.pairwise_cons.mp order.apart).1

theorem splice_skip (behind : ∀ c ∈ changes, start ≤ c.1.start) (before : pos ≤ start) :
    splice text pos changes = (text.drop pos).take (start - pos) ++ splice text start changes := by
  cases changes with
  | nil =>
      have rest : text.drop start = (text.drop pos).drop (start - pos) := by
        rw [List.drop_drop]
        congr 1
        omega
      rw [splice, splice, rest, List.take_append_drop]
  | cons c rest =>
      have first : start ≤ c.1.start := behind c (.head _)
      have parts : (text.drop pos).take (c.1.start - pos) =
          (text.drop pos).take (start - pos) ++ (text.drop start).take (c.1.start - start) := by
        rw [show c.1.start - pos = start - pos + (c.1.start - start) by omega, List.take_add, List.drop_drop,
          show pos + (start - pos) = start by omega]
      rw [splice, splice, parts]
      simp

theorem drop_split (before : pos ≤ stop) (inside : stop ≤ text.length) :
    (text.take stop).drop pos ++ text.drop stop = text.drop pos := by
  have front : pos ≤ (text.take stop).length := by
    rw [List.length_take_of_le inside]
    exact before
  rw [← List.drop_append_of_le_length front, List.take_append_drop]

theorem take_within {k : Nat} (within : pos + k ≤ stop) : ((text.take stop).drop pos).take k = (text.drop pos).take k := by
  rw [List.drop_take, List.take_take, Nat.min_eq_left (by omega)]

theorem splice_take (order : InOrder text.length changes) (within : ∀ c ∈ changes, c.1.stop ≤ stop) (before : pos ≤ stop)
    (inside : stop ≤ text.length) :
    splice text pos changes = splice (text.take stop) pos changes ++ text.drop stop := by
  induction changes generalizing pos with
  | nil => exact (drop_split before inside).symm
  | cons c rest ih =>
      have first := order.inside c (.head _)
      have ends : c.1.stop ≤ stop := within c (.head _)
      rw [splice, splice, take_within (by omega), ih order.tail (fun d here => within d (.tail c here)) ends]
      simp only [List.append_assoc]

theorem touches_of_within {m : Match} (first : start ≤ m.start) (last : m.stop ≤ stop) : m.touches start stop = true := by
  simp [Match.touches, first, last]

theorem not_touches_behind {m : Match} (behind : stop < m.start) (ordered : m.start ≤ m.stop) : m.touches start stop = false := by
  simp only [Match.touches, Bool.or_eq_false_iff, Bool.and_eq_false_iff, decide_eq_false_iff_not]
  omega

/-- What changes make of a region comes first in what they make of the text from there on. -/
theorem splice_front (order : InOrder text.length changes) (behind : ∀ c ∈ changes, pos ≤ c.1.start) (later : start ≤ pos)
    (before : pos ≤ stop) (inside : stop ≤ text.length) :
    splice (text.take stop) pos (changes.filter (·.1.touches start stop)) <+: splice text pos changes := by
  induction changes generalizing pos with
  | nil => exact ⟨text.drop stop, drop_split before inside⟩
  | cons c rest ih =>
      have ordered := order.inside c (.head _)
      have first : pos ≤ c.1.start := behind c (.head _)
      by_cases ends : c.1.stop ≤ stop
      · rw [List.filter_cons, if_pos (touches_of_within (Nat.le_trans later first) ends), splice, splice, take_within (by omega)]
        exact (List.prefix_append_right_inj _).mpr (ih order.tail order.behind (by omega) ends)
      · -- This change reaches to the end of the region or lies behind it, and so do all that follow.
        have others : rest.filter (·.1.touches start stop) = [] := by
          refine List.filter_eq_nil_iff.mpr fun d here => ?_
          have apart := order.behind d here
          rw [not_touches_behind (by omega) (order.inside d (.tail c here)).1]
          exact Bool.false_ne_true
        by_cases touched : c.1.touches start stop = true
        · have starts : c.1.start < stop := by
            simp only [Match.touches, Bool.or_eq_true, Bool.and_eq_true, decide_eq_true_eq] at touched
            omega
          have gone : (text.take stop).drop c.1.stop = [] :=
            List.drop_eq_nil_of_le (by rw [List.length_take_of_le inside]; omega)
          rw [List.filter_cons, if_pos touched, others, splice, splice, splice, gone, List.append_nil, take_within (by omega)]
          exact List.prefix_append _ _
        · have starts : stop ≤ c.1.start := by
            simp only [Match.touches, Bool.or_eq_true, Bool.and_eq_true, decide_eq_true_eq] at touched
            omega
          rw [List.filter_cons, if_neg touched, others, splice, splice, List.drop_take, List.append_assoc]
          exact (List.take_prefix_take_left (by omega)).trans (List.prefix_append _ _)

/-- What changes make of a region comes last in what they make of the text up to there. -/
theorem splice_back (order : InOrder text.length changes) (before : pos ≤ start) (within : ∀ c ∈ changes, c.1.stop ≤ stop) :
    splice (text.take stop) start (changes.filter (·.1.touches start stop)) <:+ splice (text.take stop) pos changes := by
  induction changes generalizing pos with
  | nil => exact List.drop_suffix_drop_left _ before
  | cons c rest ih =>
      have ordered := order.inside c (.head _)
      have ends : c.1.stop ≤ stop := within c (.head _)
      by_cases touched : c.1.touches start stop = true
      · -- From the first change that touches the region on, all do.
        have all : (c :: rest).filter (·.1.touches start stop) = c :: rest := by
          refine List.filter_eq_self.mpr fun d here => ?_
          cases here with
          | head => exact touched
          | tail _ here =>
              have apart := order.behind d here
              have := order.inside d (.tail c here)
              refine touches_of_within ?_ (within d (.tail c here))
              simp only [Match.touches, Bool.or_eq_true, Bool.and_eq_true, decide_eq_true_eq] at touched
              omega
        rw [all]
        by_cases starts : start ≤ c.1.start
        · have behind : ∀ d ∈ c :: rest, start ≤ d.1.start := by
            intro d here
            cases here with
            | head => exact starts
            | tail _ here => exact Nat.le_trans (Nat.le_trans starts ordered.1) (order.behind d here)
          rw [splice_skip behind before]
          exact List.suffix_append _ _
        · rw [splice, splice, show c.1.start - start = 0 by omega, List.take_zero, List.nil_append, List.append_assoc]
          exact List.suffix_append _ _
      · have left : c.1.stop ≤ start := by
          simp only [Match.touches, Bool.or_eq_true, Bool.and_eq_true, decide_eq_true_eq] at touched
          omega
        rw [List.filter_cons, if_neg touched]
        exact (ih order.tail left fun d here => within d (.tail c here)).trans (List.suffix_append _ _)

end Pattern

/-! ## What is shown -/

section

open Pattern

variable {before after shown : List Char} {changes : List (Pattern.Match × List Char)} {start stop : Nat}

theorem sliced_natCast (start stop : Nat) (s : List Char) : sliced start stop s = (s.take stop).drop start := by
  have place (n : Nat) : placeIn s.length n = min n s.length := by
    rw [placeIn, if_neg (by omega), Int.toNat_natCast]
  have whole : s.take (min stop s.length) = s.take stop := by
    rw [List.take_eq_take_iff]
    omega
  rw [sliced, place, place, whole]
  by_cases short : s.length ≤ start
  · rw [Nat.min_eq_right short, List.drop_eq_nil_of_le (List.length_take_le' _ _),
      List.drop_eq_nil_of_le (Nat.le_trans (List.length_take_le' _ _) short)]
  · rw [Nat.min_eq_left (by omega)]

/-- The part of the new text that is shown. -/
def shownAfter (before after : List Char) (start stop : Nat) : List Char :=
  (after.take (max start (stop + after.length - before.length))).drop start

theorem context_eq (before after : List Char) (m : Diff.Span) (width : Nat) :
    Diff.context before after (some m) width =
      ((before.take (min before.length (m.stop + width))).drop (m.start - width),
        shownAfter before after (m.start - width) (min before.length (m.stop + width))) := by
  have first : max 0 ((m.start : Int) - width) = (m.start - width : Nat) := by omega
  have last : min (before.length : Int) (m.stop + width) = (min before.length (m.stop + width) : Nat) := by omega
  have grown : max ((m.start - width : Nat) : Int) ((min before.length (m.stop + width) : Nat) + after.length - before.length) =
      (max (m.start - width) (min before.length (m.stop + width) + after.length - before.length) : Nat) := by omega
  simp only [Diff.context, Int.ofNat_eq_natCast]
  rw [first, last, grown, sliced_natCast, sliced_natCast]
  rfl

theorem take_eq_iff_of_prefix {k : Nat} {s t : List Char} (front : t <+: s) (short : k ≤ s.length) :
    s.take k = t ↔ t.length = k := by
  constructor
  · rintro rfl
    exact List.length_take_of_le short
  · rintro rfl
    exact (List.prefix_iff_eq_take.mp front).symm

theorem drop_eq_iff_of_suffix {k : Nat} {s t : List Char} (back : t <:+ s) (short : k ≤ s.length) :
    s.drop k = t ↔ t.length = s.length - k := by
  constructor
  · rintro rfl
    exact List.length_drop
  · intro length
    rw [List.suffix_iff_eq_drop.mp back, length]
    congr 1
    omega

/-- How long the region of the new text would have to be to be what is shown. -/
def shownLength (before after : List Char) (start stop : Nat) : Nat :=
  max start (stop + after.length - before.length) - start

theorem shownAfter_front (order : InOrder before.length changes) (behind : ∀ c ∈ changes, start ≤ c.1.start)
    (ordered : start ≤ stop) (inside : stop ≤ before.length) (made : after = splice before 0 changes) :
    shownAfter before after start stop = remade before start stop changes ↔
      (remade before start stop changes).length = shownLength before after start stop := by
  have front : remade before start stop changes <+: splice before start changes :=
    splice_front order behind (Nat.le_refl start) ordered inside
  have skipped : after = before.take start ++ splice before start changes := by
    rw [made, splice_skip behind (Nat.zero_le start)]
    rfl
  have head : (before.take start).length = start := List.length_take_of_le (by omega)
  have lengths : after.length = start + (splice before start changes).length := by
    rw [skipped, List.length_append, head]
  have shown : shownAfter before after start stop =
      (splice before start changes).take (max start (stop + after.length - before.length) - start) := by
    rw [shownAfter, List.drop_take]
    congr 1
    rw [skipped, List.drop_append_of_le_length (by omega), List.drop_eq_nil_of_le (by omega), List.nil_append]
  rw [shown]
  exact take_eq_iff_of_prefix front (by omega)

theorem shownAfter_back (order : InOrder before.length changes) (within : ∀ c ∈ changes, c.1.stop ≤ stop)
    (inside : stop ≤ before.length) (made : after = splice before 0 changes) :
    shownAfter before after start stop = remade before start stop changes ↔
      (remade before start stop changes).length = shownLength before after start stop := by
  have back : remade before start stop changes <:+ splice (before.take stop) 0 changes :=
    splice_back order (Nat.zero_le start) within
  have kept : after = splice (before.take stop) 0 changes ++ before.drop stop := by
    rw [made, splice_take order within (Nat.zero_le stop) inside]
  have lengths : after.length = (splice (before.take stop) 0 changes).length + (before.length - stop) := by
    rw [kept, List.length_append, List.length_drop]
  have last : stop + after.length - before.length = (splice (before.take stop) 0 changes).length := by omega
  rw [shownLength, shownAfter, last]
  by_cases long : start ≤ (splice (before.take stop) 0 changes).length
  · have whole : after.take (splice (before.take stop) 0 changes).length = splice (before.take stop) 0 changes := by
      rw [kept, List.take_left]
    rw [Nat.max_eq_right long, whole]
    exact drop_eq_iff_of_suffix back long
  · rw [Nat.max_eq_left (by omega), List.drop_eq_nil_of_le (List.length_take_le _ _), Nat.sub_self, List.length_eq_zero_iff]
    exact eq_comm

theorem remade_within (order : InOrder before.length changes) (within : ∀ c ∈ changes, start ≤ c.1.start ∧ c.1.stop ≤ stop)
    (ordered : start ≤ stop) (inside : stop ≤ before.length) (made : after = splice before 0 changes) :
    (remade before start stop changes).length = shownLength before after start stop := by
  have all : changes.filter (·.1.touches start stop) = changes :=
    List.filter_eq_self.mpr fun c here => touches_of_within (within c here).1 (within c here).2
  have parts : after = before.take start ++ (remade before start stop changes ++ before.drop stop) := by
    rw [made, splice_skip (fun c here => (within c here).1) (Nat.zero_le start),
      splice_take order (fun c here => (within c here).2) ordered inside, remade, all]
    rfl
  have lengths := congrArg List.length parts
  rw [List.length_append, List.length_append, List.length_take_of_le (by omega), List.length_drop] at lengths
  rw [shownLength]
  omega

end

/-! ## Rules -/

section

variable {κ : Type} {R : World κ → World κ → Prop} [Still R] {call : Caller κ} [Calls call R] {r : ReadyRule} {w v : World κ}

/-- The changes that a ready rule makes in a text, from left to right. -/
def ReadyRule.rewrites (call : Caller κ) [Calls call R] (r : ReadyRule) (source : List Char) :
    Within R (List (Pattern.Match × List Char)) := do
  let limit ← limitOf r.count
  let p := r.matcher.program
  if source.length < p.root.width then pure []
  else
    let changes ← r.changes call p source limit
    pure (if p.backward then changes.reverse else changes)

theorem ReadyRule.apply_run {source after : String} (ran : (r.apply call source : Within R String).run w = .ok after v) :
    ∃ changes, (r.rewrites call source.toList : Within R _).run w = .ok changes v ∧
      after.toList = Pattern.splice source.toList 0 changes := by
  rw [ReadyRule.apply] at ran
  obtain ⟨limit, u, limited, ran⟩ := bind_ok.mp ran
  rw [ReadyRule.rewrites, Within.run_bind, bind_of_ok limited]
  dsimp only at ran ⊢
  split at ran
  · next short =>
    rw [if_pos short]
    cases ran
    exact ⟨[], rfl, rfl⟩
  · next long =>
    rw [if_neg long]
    obtain ⟨changes, u', changed, ran⟩ := bind_ok.mp ran
    rw [Within.run_bind, bind_of_ok changed]
    cases ran
    exact ⟨_, rfl, String.toList_ofList⟩

theorem mapM_fst {α β : Type} {f : α → Within R (α × β)} (keeps : ∀ {a b u u'}, (f a).run u = .ok b u' → b.1 = a) {as : List α}
    {bs : List (α × β)} (ran : (as.mapM f).run w = .ok bs v) : bs.map (·.1) = as := by
  induction as generalizing bs w with
  | nil =>
      cases ran
      rfl
  | cons a as ih =>
      rw [List.mapM_cons] at ran
      obtain ⟨b, u, first, ran⟩ := bind_ok.mp ran
      obtain ⟨rest, u', others, ran⟩ := bind_ok.mp ran
      cases ran
      rw [List.map_cons, keeps first, ih others]

theorem ReadyRule.changes_matches {p : Pattern.Program} {source : List Char} {limit : Option Nat}
    {changes : List (Pattern.Match × List Char)}
    (ran : (r.changes call p source limit : Within R _).run w = .ok changes v) :
    changes.map (·.1) = p.occurrences source limit := by
  unfold ReadyRule.changes at ran
  dsimp only at ran
  split at ran
  · cases ran
    rw [List.map_map]
    exact List.map_id _
  · obtain ⟨h, u, read, ran⟩ := bind_ok.mp ran
    dsimp only at ran
    split at ran
    · refine mapM_fst (fun {m b u u'} each => ?_) ran
      obtain ⟨found, u1, -, each⟩ := bind_ok.mp each
      obtain ⟨answer, u2, -, each⟩ := bind_ok.mp each
      obtain ⟨text, u3, -, each⟩ := bind_ok.mp each
      cases each
      rfl
    · obtain ⟨pieces, u', -, ran⟩ := bind_ok.mp ran
      refine mapM_fst (fun {m b u u'} each => ?_) ran
      obtain ⟨text, u1, -, each⟩ := bind_ok.mp each
      cases each
      rfl

section

open Pattern

variable {source : List Char} {changes : List (Pattern.Match × List Char)} {m : Pattern.Match}

/-- The changes are those of the matches, turned round if the text is read from its end. -/
theorem ReadyRule.rewrites_matches (ran : (r.rewrites call source : Within R _).run w = .ok changes v) :
    changes = [] ∨ ∃ limit cs, cs.map (·.1) = r.matcher.program.occurrences source limit ∧
      changes = if r.matcher.program.backward then cs.reverse else cs := by
  rw [ReadyRule.rewrites] at ran
  obtain ⟨limit, u, -, ran⟩ := bind_ok.mp ran
  dsimp only at ran
  split at ran
  · cases ran
    exact .inl rfl
  · obtain ⟨cs, u', changed, ran⟩ := bind_ok.mp ran
    cases ran
    exact .inr ⟨limit, cs, changes_matches changed, rfl⟩

/-- The changes of a rule lie in the text, and in order if its pattern leaves the begin of its matches alone. -/
theorem ReadyRule.rewrites_order (ran : (r.rewrites call source : Within R _).run w = .ok changes v) :
    (∀ c ∈ changes, c.1.start ≤ c.1.stop ∧ c.1.stop ≤ source.length) ∧
      (r.matcher.program.IsSteady → changes.Pairwise fun a b => a.1.stop ≤ b.1.start) := by
  obtain rfl | ⟨limit, cs, matched, rfl⟩ := rewrites_matches ran
  · exact ⟨fun c => (nomatch ·), fun _ => .nil⟩
  · obtain ⟨inside, apart⟩ := r.matcher.program.occurrences_order source limit
    rw [← matched] at inside apart
    constructor
    · intro c here
      refine inside c.1 (List.mem_map_of_mem ?_)
      split at here
      · exact List.mem_reverse.mp here
      · exact here
    · intro steady
      have follow := List.pairwise_map.mp (apart steady)
      split
      · next backward =>
        rw [List.pairwise_reverse]
        exact follow.imp fun h => by rwa [Program.Follows, if_pos backward] at h
      · next forward => exact follow.imp fun h => by rwa [Program.Follows, if_neg forward] at h

/-- No change lies on the other side of the first match. -/
theorem ReadyRule.rewrites_side (ran : (r.rewrites call source : Within R _).run w = .ok changes v)
    (order : InOrder source.length changes) (found : r.matcher.program.search? source = some m) :
    (∀ c ∈ changes, m.start ≤ c.1.start) ∨ ∀ c ∈ changes, c.1.stop ≤ m.stop := by
  have ordered := (Program.search_inside found).1
  obtain rfl | ⟨limit, cs, matched, rfl⟩ := rewrites_matches ran
  · exact .inl fun c => (nomatch ·)
  · cases cs with
    | nil => exact .inl fun c => by simp
    | cons first rest =>
        have same : first.1 = m := by
          rw [Program.occurrences_head matched.symm] at found
          exact Option.some.inj found
        subst same
        have apart := order.apart
        split at apart
        · next backward =>
          rw [if_pos backward]
          refine .inr fun c here => ?_
          rw [List.pairwise_reverse, List.pairwise_cons] at apart
          cases List.mem_reverse.mp here with
          | head => exact Nat.le_refl _
          | tail _ here => exact Nat.le_trans (apart.1 c here) ordered
        · next forward =>
          rw [if_neg forward]
          refine .inl fun c here => ?_
          cases here with
          | head => exact Nat.le_refl _
          | tail _ here => exact Nat.le_trans ordered ((List.pairwise_cons.mp apart).1 c here)

/-- What is shown of a text before a rule is the region around the first match. What is shown of the text that the rule makes
is what it makes of that region exactly if the region grows by as much as the whole text, which it does if all matches lie in
it. -/
theorem ReadyRule.context_shows_region {before after : String} (ran : (r.apply call before : Within R String).run w = .ok after v)
    (found : r.matcher.program.search? before.toList = some m) (width : Nat) :
    ∃ changes, (r.rewrites call before.toList : Within R _).run w = .ok changes v ∧
      after.toList = splice before.toList 0 changes ∧
      let start := m.start - width
      let stop := min before.toList.length (m.stop + width)
      let parts := Diff.context before.toList after.toList (some ⟨m.start, m.stop⟩) width
      let region := remade before.toList start stop changes
      parts.1 = (before.toList.take stop).drop start ∧
      (r.matcher.program.IsSteady → InOrder before.toList.length changes) ∧
      (InOrder before.toList.length changes →
        (parts.2 = region ↔
          (region.length : Int) = max 0 ((stop : Int) - start + (after.toList.length - before.toList.length))) ∧
        ((∀ c ∈ changes, start ≤ c.1.start ∧ c.1.stop ≤ stop) → parts.2 = region)) := by
  obtain ⟨changes, rewrites, made⟩ := ReadyRule.apply_run ran
  obtain ⟨inside, apart⟩ := rewrites_order rewrites
  have place := Program.search_inside found
  refine ⟨changes, rewrites, made, ?_⟩
  dsimp only
  rw [context_eq]
  refine ⟨rfl, fun steady => ⟨inside, apart steady⟩, fun order => ?_⟩
  have ordered : m.start - width ≤ min before.toList.length (m.stop + width) := by omega
  have shown : shownAfter before.toList after.toList (m.start - width) (min before.toList.length (m.stop + width)) =
        remade before.toList (m.start - width) (min before.toList.length (m.stop + width)) changes ↔
      (remade before.toList (m.start - width) (min before.toList.length (m.stop + width)) changes).length =
        shownLength before.toList after.toList (m.start - width) (min before.toList.length (m.stop + width)) := by
    obtain behind | within := rewrites_side rewrites order found
    · exact shownAfter_front order (fun c here => Nat.le_trans (Nat.sub_le _ _) (behind c here)) ordered (Nat.min_le_left _ _)
        made
    · refine shownAfter_back order (fun c here => ?_) (Nat.min_le_left _ _) made
      have := within c here
      have := inside c here
      omega
  refine ⟨?_, fun within => shown.mpr (remade_within order within ordered (Nat.min_le_left _ _) made)⟩
  rw [shown, shownLength]
  omega

end

end

/-! ## Two calls -/

/-- What a computation gives, if it does not fail. -/
def Run.value? {κ α : Type} (m : Run κ α) (w : World κ) : Option α :=
  match m w with
  | .ok a _ => some a
  | .error _ _ => none

theorem Run.ok_of_value {κ α : Type} {m : Run κ α} {w : World κ} {a : α} (given : m.value? w = some a) : ∃ v, m w = .ok a v := by
  unfold value? at given
  split at given
  · next v ran =>
    cases given
    exact ⟨v, ran⟩
  · cases given

def doubling (n : Int) : ReadyRule :=
  ⟨.literal "f(", .literal "f((", .int n⟩

/-- Only the first call is rewritten, and the region around it is shown as the rule makes it. -/
theorem ReadyRule.context_shows_region_once : ∃ v,
    ((doubling 1).apply silent "= f(1) + f(2)" : Calling silent String).run (World.start [] ()) = .ok "= f((1) + f(2)" v ∧
      ∃ changes, ((doubling 1).rewrites silent "= f(1) + f(2)".toList : Calling silent _).run (World.start [] ()) = .ok changes v ∧
        (Diff.context "= f(1) + f(2)".toList "= f((1) + f(2)".toList (some ⟨2, 4⟩) (2 : Nat)).2 =
          Pattern.remade "= f(1) + f(2)".toList 0 6 changes := by
  have given : ((doubling 1).apply silent "= f(1) + f(2)" : Calling silent String).run.value? (World.start [] ()) =
      some "= f((1) + f(2)" := by decide +kernel
  have places : (((doubling 1).rewrites silent "= f(1) + f(2)".toList : Calling silent _).run.value? (World.start [] ())).map
      (·.map fun c => (c.1.start, c.1.stop)) = some [(2, 4)] := by decide +kernel
  have found : (doubling 1).matcher.program.search? "= f(1) + f(2)".toList = some ⟨2, 4, [], 0⟩ := by rfl
  obtain ⟨v, ran⟩ := Run.ok_of_value given
  obtain ⟨changes, rewrites, -, -, ordered, shown⟩ := ReadyRule.context_shows_region ran found 2
  refine ⟨v, ran, changes, rewrites, (shown (ordered rfl)).2 fun c here => ?_⟩
  rw [Run.value?, rewrites, Option.map_some, Option.some.injEq] at places
  have place : (c.1.start, c.1.stop) ∈ [(2, 4)] := places ▸ List.mem_map_of_mem here
  obtain ⟨start, stop⟩ := Prod.mk.inj (List.mem_singleton.mp place)
  rw [start, stop]
  decide

/-- Both calls are rewritten, and what is shown of the region around the first one goes on behind it. -/
theorem ReadyRule.context_shows_more :
    ((doubling 0).apply silent "= f(1) + f(2)" : Calling silent String).run.value? (World.start [] ()) = some "= f((1) + f((2)" ∧
      (doubling 0).matcher.program.search? "= f(1) + f(2)".toList = some ⟨2, 4, [], 0⟩ ∧
      Diff.context "= f(1) + f(2)".toList "= f((1) + f((2)".toList (some ⟨2, 4⟩) 2 = ("= f(1)".toList, "= f((1) ".toList) ∧
      ((doubling 0).apply silent "= f(1)" : Calling silent String).run.value? (World.start [] ()) = some "= f((1)" := by
  refine ⟨?_, ?_, ?_, ?_⟩
  · decide +kernel
  · rfl
  · decide
  · decide +kernel

end Patchwork
