import Mathlib.Data.List.Flatten
import Patchwork.Proofs.Joints

/-!
Normalizing twice. Line ends and margins are settled by the first pass, and a second one takes out nothing but joints, so
that the text is settled exactly if every joint that is left in it stays.
-/

namespace Patchwork

open Run Script Source Text

/-! ## Line ends -/

namespace Text

variable {s t new : List Char}

theorem unixEnds_returnless (s : List Char) : '\r' ∉ unixEnds s := by
  fun_induction unixEnds s with
  | case1 => exact List.not_mem_nil
  | case2 r ih => simpa using ih
  | case3 r _ ih => simpa using ih
  | case4 c r _ other ih =>
      rw [List.mem_cons, not_or]
      exact ⟨fun same => other same.symm, ih⟩

theorem unixEnds_plain (h : '\r' ∉ s) : unixEnds s = s := by
  fun_induction unixEnds s with
  | case1 => rfl
  | case2 r ih => exact absurd List.mem_cons_self h
  | case3 r _ ih => exact absurd List.mem_cons_self h
  | case4 c r _ _ ih => rw [ih fun within => h (List.mem_cons_of_mem _ within)]

/-- A character in the place of which a text comes. -/
def swap (new : List Char) (c : Char) : List Char :=
  if c = '\n' then new else [c]

theorem piecesFrom_filled (limit : Nat) (piece s : List Char) : piecesFrom ['\n'] limit 0 piece s ≠ [] := by
  induction s generalizing limit piece with
  | nil => simp [piecesFrom]
  | cons c r ih =>
      rw [piecesFrom]
      split
      · exact List.cons_ne_nil _ _
      · exact ih _ _

theorem intercalate_cons {piece : List Char} {pieces : List (List Char)} (h : pieces ≠ []) :
    List.intercalate new (piece :: pieces) = piece ++ new ++ List.intercalate new pieces := by
  cases pieces with
  | nil => exact absurd rfl h
  | cons next rest => simp [List.intercalate]

theorem intercalate_pieces {limit : Nat} (piece : List Char) (h : s.length ≤ limit) :
    List.intercalate new (piecesFrom ['\n'] limit 0 piece s) = piece.reverse ++ s.flatMap (swap new) := by
  induction s generalizing limit piece with
  | nil => simp [piecesFrom, List.intercalate]
  | cons c r ih =>
      rw [List.length_cons] at h
      have room : (limit != 0) = true := by simpa using Nat.ne_of_gt (Nat.lt_of_lt_of_le (Nat.succ_pos _) h)
      rw [piecesFrom, room, Bool.true_and, List.flatMap_cons, swap]
      by_cases feed : c = '\n'
      · rw [if_pos (by simp [feed, startsWith, after?]), if_pos feed, List.length_singleton, Nat.sub_self,
          intercalate_cons (piecesFrom_filled _ _ _), ih [] (by omega)]
        simp
      · rw [if_neg (by simp [startsWith, after?, Ne.symm feed]), if_neg feed, ih _ (by omega)]
        simp

theorem replace_feed (new s : List Char) : replace ['\n'] new s = s.flatMap (swap new) :=
  intercalate_pieces [] (Nat.le_refl _)

theorem unixEnds_marked (h : '\r' ∉ t) : unixEnds (t.flatMap (swap ['\r', '\n'])) = t := by
  induction t with
  | nil => rfl
  | cons c r ih =>
      rw [List.mem_cons, not_or] at h
      rw [List.flatMap_cons, swap]
      split
      · next feed => rw [List.cons_append, List.cons_append, List.nil_append, unixEnds, ih h.2, feed]
      · rw [List.cons_append, List.nil_append, unixEnds, ih h.2]
        · exact fun r same => absurd same.symm h.1
        · exact fun same => absurd same.symm h.1

/-! ## Margins -/

/-- A line without some of its characters, but with the line feed at its end. -/
structure Trims (out line : List Char) : Prop where
  sub : out.Sublist line
  ended : line.getLast? = some '\n' → out.getLast? = some '\n'

theorem Trims.trans {out mid line : List Char} (h : Trims out mid) (h' : Trims mid line) : Trims out line :=
  ⟨h.sub.trans h'.sub, fun ended => h.ended (h'.ended ended)⟩

theorem Trims.lines {f : List Char → List Char} (h : ∀ line ∈ feedLines s, Trims (f line) line) :
    feedLines ((feedLines s).flatMap f) = ((feedLines s).map f).filter (!·.isEmpty) := by
  induction s using feed_induction with
  | empty => rfl
  | last a filled whole =>
      rw [feedLines_open whole filled] at h ⊢
      have trimmed := h a (List.mem_singleton.mpr rfl)
      rw [List.flatMap_singleton, List.map_singleton]
      by_cases gone : f a = []
      · rw [gone]
        rfl
      · rw [feedLines_open (fun within => whole (trimmed.sub.subset within)) gone]
        simp [gone]
  | line a r whole ih =>
      rw [feedLines_cons whole] at h ⊢
      have trimmed := h _ List.mem_cons_self
      obtain ⟨b, same⟩ := List.getLast?_eq_some_iff.mp (trimmed.ended (by simp))
      have ended : '\n' ∉ b := by
        have sub := trimmed.sub
        rw [same, List.append_sublist_append_right] at sub
        exact fun within => whole (sub.subset within)
      rw [List.flatMap_cons, List.map_cons, same, List.append_assoc, List.singleton_append, feedLines_cons ended,
        ih fun line hl => h line (List.mem_cons_of_mem _ hl)]
      simp

theorem lead?_some {l m : List Char} (h : lead? l = some m) :
    m = l.takeWhile isIndent ∧ l.dropWhile isIndent ≠ [] ∧ clearBlank l = l := by
  rw [lead?] at h
  rw [clearBlank]
  split at h
  · cases h
  · cases h
  · next filled fed => exact ⟨(Option.some.inj h).symm, filled, rfl⟩

theorem lead?_none {l : List Char} (h : lead? l = none) :
    l.dropWhile isIndent = [] ∧ clearBlank l = [] ∨ (∃ r, l.dropWhile isIndent = '\n' :: r) ∧ clearBlank l = ['\n'] := by
  rw [lead?] at h
  rw [clearBlank]
  split at h
  · next none => exact .inl ⟨none, rfl⟩
  · next r feed => exact .inr ⟨⟨r, feed⟩, rfl⟩
  · cases h

theorem lead?_clearBlank (l : List Char) : lead? (clearBlank l) = lead? l := by
  cases text : lead? l with
  | some m => rw [(lead?_some text).2.2, text]
  | none =>
      rcases lead?_none text with ⟨-, clear⟩ | ⟨-, clear⟩
      · rw [clear]
        rfl
      · rw [clear]
        rfl

theorem clearBlank_trims (l : List Char) : Trims (clearBlank l) l := by
  cases text : lead? l with
  | some m =>
      rw [(lead?_some text).2.2]
      exact ⟨List.Sublist.refl l, id⟩
  | none =>
      have split : l.takeWhile isIndent ++ l.dropWhile isIndent = l := List.takeWhile_append_dropWhile
      rcases lead?_none text with ⟨blank, clear⟩ | ⟨⟨r, blank⟩, clear⟩
      · refine ⟨clear ▸ List.nil_sublist l, fun ended => ?_⟩
        rw [blank, List.append_nil] at split
        have all := List.all_takeWhile (p := isIndent) (l := l)
        rw [split, List.all_eq_true] at all
        exact absurd (all _ (List.mem_of_getLast? ended)) (by decide)
      · refine ⟨?_, fun _ => by rw [clear]; rfl⟩
        rw [clear, List.singleton_sublist, ← split, blank]
        exact List.mem_append_right _ List.mem_cons_self

theorem takeWhile_drop {l : List Char} {p : Char → Bool} {width : Nat} (h : width ≤ (l.takeWhile p).length) :
    (l.drop width).takeWhile p = (l.takeWhile p).drop width ∧ (l.drop width).dropWhile p = l.dropWhile p := by
  induction l generalizing width with
  | nil => simp
  | cons c l ih =>
      cases width with
      | zero => simp
      | succ width =>
          cases inside : p c with
          | true =>
              rw [List.takeWhile_cons_of_pos inside, List.length_cons] at h
              rw [List.takeWhile_cons_of_pos inside, List.dropWhile_cons_of_pos inside]
              exact ih (Nat.le_of_succ_le_succ h)
          | false =>
              rw [List.takeWhile_cons_of_neg (by simp [inside])] at h
              cases h

/-- Takes a margin of the given width from a line that holds text. -/
def shift (width : Nat) (line : List Char) : List Char :=
  if (lead? line).isSome then line.drop width else line

theorem shift_blank {l : List Char} {width : Nat} (h : lead? l = none) : shift width l = l := by
  rw [shift, h]
  rfl

theorem shift_text {l m : List Char} {width : Nat} (h : lead? l = some m) : shift width l = l.drop width := by
  rw [shift, h]
  rfl

/-- A line is blank, or a margin of the given width is no wider than its indentation. -/
def Fits (width : Nat) (line : List Char) : Prop :=
  ∀ m, lead? line = some m → width ≤ m.length

theorem lead?_shift {l : List Char} {width : Nat} (h : Fits width l) :
    lead? (shift width l) = (lead? l).map (·.drop width) := by
  cases text : lead? l with
  | none => rw [shift_blank text, text, Option.map_none]
  | some m =>
      obtain ⟨rfl, filled, -⟩ := lead?_some text
      obtain ⟨lead, rest⟩ := takeWhile_drop (h _ text)
      rw [shift_text text]
      rw [lead?] at text ⊢
      rw [rest, lead]
      split at text
      · cases text
      · cases text
      · rfl

theorem clearBlank_shift {l : List Char} {width : Nat} (h : Fits width l) (clear : clearBlank l = l) :
    clearBlank (shift width l) = shift width l := by
  cases text : lead? l with
  | none => rw [shift_blank text, clear]
  | some m => exact (lead?_some ((lead?_shift h).trans (by rw [text]; rfl))).2.2

theorem shift_trims {l : List Char} {width : Nat} (h : Fits width l) : Trims (shift width l) l := by
  cases text : lead? l with
  | none =>
      rw [shift_blank text]
      exact ⟨List.Sublist.refl l, id⟩
  | some m =>
      rw [shift_text text]
      refine ⟨List.drop_sublist _ _, fun ended => ?_⟩
      obtain ⟨rfl, filled, -⟩ := lead?_some text
      have split := congrArg List.length (List.takeWhile_append_dropWhile (p := isIndent) (l := l))
      have some_ := List.length_pos_iff.mpr filled
      have room := h _ text
      rw [List.length_append] at split
      rw [List.getLast?_drop, if_neg (by omega), ended]

theorem commonLead_starts (a b : List Char) : commonLead a b <+: a ∧ commonLead a b <+: b := by
  fun_induction commonLead a b with
  | case1 x a y ih => exact ⟨(List.prefix_cons_inj a).mpr ih.1, (List.prefix_cons_inj a).mpr ih.2⟩
  | case2 | case3 => exact ⟨List.nil_prefix, List.nil_prefix⟩

theorem commonLead_drop {a b : List Char} {width : Nat} (h : width ≤ (commonLead a b).length) :
    commonLead (a.drop width) (b.drop width) = (commonLead a b).drop width := by
  fun_induction commonLead a b generalizing width with
  | case1 a x y ih =>
      cases width with
      | zero => simp [commonLead]
      | succ width => exact ih (Nat.le_of_succ_le_succ h)
  | case2 a x b y other =>
      obtain rfl := Nat.le_zero.mp h
      simp [commonLead, other]
  | case3 a b none =>
      obtain rfl := Nat.le_zero.mp h
      rw [List.drop_zero, List.drop_zero, commonLead.eq_2 _ _ none]
      rfl

theorem commonLeads_starts (m : List Char) (ms : List (List Char)) :
    ms.foldl commonLead m <+: m ∧ ∀ l ∈ ms, ms.foldl commonLead m <+: l := by
  induction ms generalizing m with
  | nil => exact ⟨List.prefix_refl m, nofun⟩
  | cons n ms ih =>
      obtain ⟨first, rest⟩ := ih (commonLead m n)
      obtain ⟨left, right⟩ := commonLead_starts m n
      refine ⟨first.trans left, fun l hl => ?_⟩
      rcases List.mem_cons.mp hl with rfl | hl
      · exact first.trans right
      · exact rest l hl

theorem foldl_commonLead_drop {m : List Char} {ms : List (List Char)} {width : Nat}
    (h : width ≤ (ms.foldl commonLead m).length) :
    (ms.map (·.drop width)).foldl commonLead (m.drop width) = (ms.foldl commonLead m).drop width := by
  induction ms generalizing m with
  | nil => rfl
  | cons n ms ih =>
      have first := (commonLeads_starts (commonLead m n) ms).1.length_le
      rw [List.map_cons, List.foldl_cons, commonLead_drop (Nat.le_trans h first), ih h, List.foldl_cons]

theorem margin_fits {lines : List (List Char)} {l : List Char} (h : l ∈ lines) : Fits (margin lines).length l := by
  intro m text
  have lead : m ∈ lines.filterMap lead? := List.mem_filterMap.mpr ⟨l, h, text⟩
  rw [margin]
  split
  · exact Nat.zero_le _
  · next first rest leads =>
      rw [leads] at lead
      obtain ⟨left, right⟩ := commonLeads_starts first rest
      rcases List.mem_cons.mp lead with rfl | lead
      · exact left.length_le
      · exact (right m lead).length_le

theorem leads_shifted {lines : List (List Char)} {width : Nat} (h : ∀ l ∈ lines, Fits width l) :
    (lines.map (shift width)).filterMap lead? = (lines.filterMap lead?).map (·.drop width) := by
  induction lines with
  | nil => rfl
  | cons l lines ih =>
      have rest := ih fun l hl => h l (List.mem_cons_of_mem _ hl)
      rw [List.map_cons, List.filterMap_cons, List.filterMap_cons, lead?_shift (h l List.mem_cons_self), rest]
      cases lead? l <;> rfl

/-- Lines that lose their margin have none left. -/
theorem margin_shifted (lines : List (List Char)) :
    margin (lines.map (shift (margin lines).length)) = [] := by
  rw [margin, leads_shifted fun l => margin_fits, margin]
  cases lines.filterMap lead? with
  | nil => rfl
  | cons m ms => exact (foldl_commonLead_drop (Nat.le_refl _)).trans (List.drop_length)

/-- The lines of a text, with those empty that hold only blanks. -/
def clearLines (s : List Char) : List (List Char) :=
  (feedLines s).map clearBlank

theorem dedent_eq (s : List Char) :
    dedent s = (feedLines s).flatMap fun line => shift (margin (clearLines s)).length (clearBlank line) :=
  List.flatMap_map _ _ _

theorem dedented_trims {line : List Char} (h : line ∈ feedLines s) :
    Trims (shift (margin (clearLines s)).length (clearBlank line)) line :=
  (shift_trims (margin_fits (List.mem_map_of_mem h))).trans (clearBlank_trims line)

theorem dedent_sublist (s : List Char) : (dedent s).Sublist s := by
  have sub := List.Sublist.flatMap_right (g := id) (feedLines s) fun line hl => (dedented_trims hl).sub
  rwa [← dedent_eq, List.flatMap_id, feedLines_flatten] at sub

theorem shift_zero (l : List Char) : shift 0 l = l := by
  rw [shift]
  split <;> rfl

theorem clearBlank_clearBlank (l : List Char) : clearBlank (clearBlank l) = clearBlank l := by
  cases text : lead? l with
  | some m => rw [(lead?_some text).2.2, (lead?_some text).2.2]
  | none => rcases lead?_none text with ⟨-, clear⟩ | ⟨-, clear⟩ <;> rw [clear] <;> rfl

theorem margin_filled (lines : List (List Char)) : margin (lines.filter (!·.isEmpty)) = margin lines := by
  have leads : (lines.filter (!·.isEmpty)).filterMap lead? = lines.filterMap lead? := by
    induction lines with
    | nil => rfl
    | cons l lines ih => cases l <;> simp [List.filterMap_cons, ih, lead?]
  rw [margin, leads, margin]

/-- A text that has lost its margin has none left, and blank lines stay as they are. -/
theorem dedent_dedent (s : List Char) : dedent (dedent s) = dedent s := by
  have lines : feedLines (dedent s) = ((clearLines s).map (shift (margin (clearLines s)).length)).filter (!·.isEmpty) := by
    rw [dedent_eq, Trims.lines fun line => dedented_trims, clearLines, List.map_map]
    rfl
  have clear : clearLines (dedent s) = feedLines (dedent s) := by
    refine (List.map_congr_left fun line hl => ?_).trans (List.map_id _)
    rw [lines] at hl
    obtain ⟨l, cleared, rfl⟩ := List.mem_map.mp (List.mem_filter.mp hl).1
    obtain ⟨row, -, rfl⟩ := List.mem_map.mp cleared
    exact clearBlank_shift (margin_fits cleared) (clearBlank_clearBlank row)
  have none : margin (clearLines (dedent s)) = [] := by
    rw [clear, lines, margin_filled, margin_shifted]
  have kept : shift (margin (clearLines (dedent s))).length = id := by
    rw [none]
    exact funext shift_zero
  calc dedent (dedent s)
      = (clearLines (dedent s)).flatMap (shift (margin (clearLines (dedent s))).length) := rfl
    _ = (feedLines (dedent s)).flatten := by rw [kept, clear, List.flatMap_id]
    _ = dedent s := feedLines_flatten _

end Text

/-! ## Joints -/

namespace Source

variable {s t : List Char} {drops : Nat → Bool}

theorem withoutJoints_sublist (row : Nat) (lines : List (List Char)) :
    (withoutJoints drops row lines).Sublist lines.flatten := by
  induction lines generalizing row with
  | nil => exact List.Sublist.refl _
  | cons line rest ih =>
      rw [withoutJoints, List.flatten_cons]
      refine List.Sublist.append ?_ (ih _)
      split
      · exact List.take_sublist _ _
      · exact List.Sublist.refl _

/-- Nothing goes exactly if no joint is dropped. -/
theorem withoutJoints_eq_flatten (row : Nat) (lines : List (List Char)) :
    withoutJoints drops row lines = lines.flatten ↔
      ∀ n line, lines[n]? = some line → endsWith ['\\', '\n'] line = true → drops (row + n) = false := by
  induction lines generalizing row with
  | nil => simp [withoutJoints]
  | cons line rest ih =>
      have sub : (withoutJoints drops (row + 1) rest).length ≤ rest.flatten.length :=
        (withoutJoints_sublist (row + 1) rest).length_le
      rw [withoutJoints, List.flatten_cons]
      split
      · next dropped =>
          rw [Bool.and_eq_true] at dropped
          refine iff_of_false (fun same => ?_) fun stays => ?_
          · have lengths := congrArg List.length same
            obtain ⟨before, rfl⟩ := (endsWith_iff _ _).mp dropped.1
            simp only [List.length_append, List.length_take, List.length_cons, List.length_nil] at lengths
            omega
          · exact Bool.noConfusion (dropped.2.symm.trans (stays 0 line rfl dropped.1))
      · next kept =>
          rw [List.append_cancel_left_eq, ih]
          constructor
          · rintro stays n l there joint
            cases n with
            | zero =>
                cases there
                simpa [joint] using kept
            | succ n => simpa [Nat.add_right_comm, Nat.add_assoc] using stays n l there joint
          · rintro stays n l there joint
            simpa [Nat.add_right_comm, Nat.add_assoc] using stays (n + 1) l there joint

theorem joined?_sublist (h : joined? s = some t) : t.Sublist s := by
  cases known : commentRows? s with
  | none => simp [joined?, known] at h
  | some comments =>
      rw [joined?_rows known] at h
      have sub : (withoutJoints (fun row => !comments.contains (wideRow s row)) 1 (feedLines s)).Sublist _ :=
        withoutJoints_sublist 1 (feedLines s)
      rwa [Option.some.inj h, feedLines_flatten] at sub

/-- Every joint of a text that can be scanned stays when the text is joined. -/
def JointsStay (s : List Char) : Prop :=
  ∀ tokens, scan (feedLines s) = (tokens, .complete) → ∀ row line, JointRow s row line →
    ∃ t ∈ tokens, t.kind = .comment ∧ t.row = wideRow s row

theorem joined?_settled (s : List Char) : (joined? s).getD s = s ↔ JointsStay s := by
  rcases scanned : scan (feedLines s) with ⟨tokens, outcome⟩
  by_cases whole : outcome = .complete
  · subst whole
    obtain ⟨comments, known, rows⟩ := commentRows?_complete scanned
    have kept : withoutJoints (fun row => !comments.contains (wideRow s row)) 1 (feedLines s) = _ ↔ _ :=
      withoutJoints_eq_flatten 1 (feedLines s)
    rw [feedLines_flatten] at kept
    rw [joined?_rows known, Option.getD_some, kept]
    constructor
    · intro stays tokens' same row line jointed
      rw [scanned] at same
      cases same
      rw [← rows]
      have kept := stays (row - 1) line jointed.there jointed.joint
      rw [Nat.add_sub_of_le jointed.first] at kept
      simpa using kept
    · intro stays n line there joint
      have jointed : JointRow s (1 + n) line := ⟨by omega, by rwa [Nat.add_sub_cancel_left], joint⟩
      simpa using (rows _).mpr (stays tokens scanned (1 + n) line jointed)
  · have none : joined? s = none := by
      rw [joined?, commentRows?, scanned]
      cases outcome with
      | complete => exact absurd rfl whole
      | _ => rfl
    rw [none]
    refine iff_of_true rfl fun tokens' same => ?_
    rw [scanned] at same
    cases same
    exact absurd rfl whole

end Source

/-! ## Policies -/

namespace Policy

variable {p : Policy} {s t : List Char}

/-- What a policy makes of a text in which line feeds end lines. -/
def shape (p : Policy) (s : List Char) : List Char :=
  let joined := if p.join then (joined? s).getD s else s
  if p.dedent then Text.dedent joined else joined

/-- Writes line ends as a policy wants them. -/
def spell (p : Policy) (s : List Char) : List Char :=
  if p.newline = "\n" then s else replace ['\n'] p.newline.toList s

theorem apply_eq (p : Policy) (s : List Char) : (p.apply s).1 = p.spell (p.shape (unixEnds s)) := by
  rw [apply, shape]
  cases p.join <;> rfl

theorem joined_sublist (s : List Char) : ((joined? s).getD s).Sublist s := by
  cases joined : joined? s with
  | none => exact List.Sublist.refl s
  | some t => exact joined?_sublist joined

theorem shape_sublist (p : Policy) (s : List Char) : (p.shape s).Sublist s := by
  rw [shape]
  cases p.join <;> cases p.dedent
  · exact List.Sublist.refl s
  · exact dedent_sublist s
  · exact joined_sublist s
  · exact (dedent_sublist _).trans (joined_sublist s)

theorem shape_dedented (h : p.dedent = true) (s : List Char) : Text.dedent (p.shape s) = p.shape s := by
  rw [shape, h]
  exact dedent_dedent _

/-- The shape of a text is settled exactly if joining has nothing left to do. -/
theorem shape_settled (h : t = p.shape s) : p.shape t = t ↔ (p.join = true → JointsStay t) := by
  have dedented (margin : p.dedent = true) : Text.dedent t = t := h ▸ shape_dedented margin s
  rw [← joined?_settled]
  cases join : p.join with
  | false =>
      refine iff_of_true ?_ nofun
      rw [shape, join]
      cases margin : p.dedent with
      | false => rfl
      | true => exact dedented margin
  | true =>
      rw [shape, join]
      refine ⟨fun same _ => ?_, fun same => ?_⟩
      · -- dedenting adds nothing, so joining cannot have taken anything out
        refine (joined_sublist t).eq_of_length_le ?_
        have short : (p.shape t).length ≤ ((joined? t).getD t).length := by
          rw [shape, join]
          cases p.dedent
          · exact Nat.le_refl _
          · exact (dedent_sublist _).length_le
        rw [shape, join, same] at short
        exact short
      · rw [if_pos rfl, same rfl]
        cases margin : p.dedent with
        | false => rfl
        | true => exact dedented margin

theorem unixEnds_spell (newline : p.newline = "\n" ∨ p.newline = "\r\n") (h : '\r' ∉ t) : unixEnds (p.spell t) = t := by
  rw [spell]
  rcases newline with line | line
  · rw [if_pos line, unixEnds_plain h]
  · rw [line, if_neg (by decide), replace_feed]
    exact unixEnds_marked h

theorem spell_sublist (p : Policy) (h : t.Sublist s) : (p.spell t).Sublist (p.spell s) := by
  rw [spell, spell]
  split
  · exact h
  · rw [replace_feed, replace_feed]
    exact h.flatMap _

end Policy

section

variable {κ : Type} {R : World κ → World κ → Prop} [Still R] {p : Policy}

theorem normalize_run (p : Policy) (source : String) (w : World κ) :
    ∃ w', (Run.normalize p source : Within R String).run w = .ok (String.ofList (p.apply source.toList).1) w' := by
  rw [Run.normalize]
  cases untokenized : (p.apply source.toList).2 with
  | false => exact ⟨w, by simp [untokenized]; rfl⟩
  | true => exact ⟨_, by simp [untokenized]; rfl⟩

theorem normalize_run_text {source t : String} (h : (p.apply source.toList).1 = t.toList) (w : World κ) :
    ∃ w', (Run.normalize p source : Within R String).run w = .ok t w' := by
  obtain ⟨w', run⟩ := normalize_run (R := R) p source w
  rw [h, String.ofList_toList] at run
  exact ⟨w', run⟩

/-- A second normalization only takes joints out. So it changes nothing exactly if lines are not joined, or the text that
the first one gives cannot be scanned, or each joint left in it is in a row with the number of a comment's. -/
theorem normalize_settled (newline : p.newline = "\n" ∨ p.newline = "\r\n") (source : String) (w : World κ) :
    ∃ once twice w₁ w₂, (Run.normalize p source : Within R String).run w = .ok once w₁ ∧
      (Run.normalize p once : Within R String).run w₁ = .ok twice w₂ ∧ twice.toList.Sublist once.toList ∧
      (twice = once ↔ (p.join = true → JointsStay (unixEnds once.toList))) := by
  obtain ⟨w₁, first⟩ := normalize_run (R := R) p source w
  obtain ⟨w₂, second⟩ := normalize_run (R := R) p (String.ofList (p.apply source.toList).1) w₁
  refine ⟨_, _, w₁, w₂, first, second, ?_⟩
  rw [String.toList_ofList, String.toList_ofList, Policy.apply_eq p source.toList, Policy.apply_eq]
  generalize shaped : p.shape (unixEnds source.toList) = t
  have returnless : '\r' ∉ t := fun within =>
    unixEnds_returnless _ ((Policy.shape_sublist p _).subset (shaped ▸ within))
  rw [Policy.unixEnds_spell newline returnless]
  refine ⟨Policy.spell_sublist p (Policy.shape_sublist p t), ?_⟩
  rw [← Policy.shape_settled shaped.symm]
  constructor
  · intro same
    have shorter : '\r' ∉ p.shape t := fun within => returnless ((Policy.shape_sublist p t).subset within)
    have spelt := congrArg (fun s : String => unixEnds s.toList) same
    rwa [String.toList_ofList, String.toList_ofList, Policy.unixEnds_spell newline shorter,
      Policy.unixEnds_spell newline returnless] at spelt
  · intro same
    rw [same]

/-- Writes line ends as pairs. -/
def paired : Policy :=
  ⟨"paired", "\r\n", true, true⟩

/-- An indented text with a joint in a row and one at the end of a comment. -/
def margined : String :=
  "  x = 1 + \\\r\n    2\r\n  # C:\\host\\\r\n  y = x\r\n"

def marginedOnce : String :=
  "x = 1 +     2\r\n# C:\\host\\\r\ny = x\r\n"

theorem normalize_settled_margined : ∃ w₁ w₂,
    (Run.normalize paired margined : Quietly Unit String).run (World.start [] ()) = .ok marginedOnce w₁ ∧
      (Run.normalize paired marginedOnce : Quietly Unit String).run w₁ = .ok marginedOnce w₂ := by
  obtain ⟨once, twice, w₁, w₂, first, second, -, settled⟩ :=
    normalize_settled (R := Quiet) (p := paired) (.inr rfl) margined (World.start [] ())
  have text : (paired.apply margined.toList).1 = marginedOnce.toList := by decide +kernel
  obtain ⟨w', run⟩ := normalize_run_text (R := Quiet) text (World.start [] ())
  obtain ⟨rfl, rfl⟩ : marginedOnce = once ∧ w' = w₁ := by
    rw [run] at first
    exact EStateM.Result.ok.inj first
  have stays : (joined? (unixEnds marginedOnce.toList)).getD (unixEnds marginedOnce.toList) =
      unixEnds marginedOnce.toList := by decide +kernel
  have same : twice = marginedOnce := settled.mpr fun _ => (joined?_settled _).mp stays
  rw [same] at second
  exact ⟨w', w₂, first, second⟩

/-- Has a backslash before a joint within a string. -/
def doubled : String :=
  "def f(m, e, r):\n    x = '''a\\\\\n\nb'''\n    return x\n"

def doubledOnce : String :=
  "def f(m, e, r):\n    x = '''a\\\nb'''\n    return x\n"

def doubledTwice : String :=
  "def f(m, e, r):\n    x = '''ab'''\n    return x\n"

/-- Taking out the joint brings the other backslash next to a line feed. -/
theorem doubled_unsettled : ∃ w₁ w₂,
    (Run.normalize .standard doubled : Quietly Unit String).run (World.start [] ()) = .ok doubledOnce w₁ ∧
      (Run.normalize .standard doubledOnce : Quietly Unit String).run w₁ = .ok doubledTwice w₂ ∧
      doubledTwice ≠ doubledOnce := by
  have once : (Policy.apply .standard doubled.toList).1 = doubledOnce.toList := by decide +kernel
  have twice : (Policy.apply .standard doubledOnce.toList).1 = doubledTwice.toList := by decide +kernel
  obtain ⟨w₁, first⟩ := normalize_run_text (R := Quiet) once (World.start [] ())
  obtain ⟨w₂, second⟩ := normalize_run_text (R := Quiet) twice w₁
  exact ⟨w₁, w₂, first, second, by decide +kernel⟩

end

end Patchwork
