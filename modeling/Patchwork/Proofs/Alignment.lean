import Mathlib.Data.List.Infix
import Patchwork.Proofs.Forms
import Patchwork.Proofs.Settling

/-!
Aligned layouts. What is repeated on each line is not what the format puts in front of the message but what stands in front
of the first occurrence of its text, so the two agree unless the text occurs earlier.
-/

namespace Patchwork

namespace Text

variable {lead new old s w : List Char}

/-! ## The first piece -/

theorem piecesFrom_head {limit : Nat} (word : w ≠ []) (room : limit ≠ 0) (piece : List Char) (occurs : w <:+: s) :
    ∃ a b, s = a ++ w ++ b ∧ (piecesFrom w limit 0 piece s).headD [] = piece.reverse ++ a ∧
      ∀ a' b', s = a' ++ w ++ b' → a.length ≤ a'.length := by
  induction s generalizing piece with
  | nil => exact absurd (List.infix_nil.mp occurs) word
  | cons c r ih =>
      rw [piecesFrom]
      by_cases here : w <+: c :: r
      · obtain ⟨b, eq⟩ := here
        have starts : startsWith w (c :: r) = true := (startsWith_iff w _).mpr ⟨b, eq⟩
        refine ⟨[], b, by simp [eq], ?_, fun a' b' _ => Nat.zero_le _⟩
        simp [room, starts]
      · have later : w <:+: r := (List.infix_cons_iff.mp occurs).resolve_left here
        have starts : startsWith w (c :: r) = false := Bool.eq_false_iff.mpr fun begins => here ((startsWith_iff w _).mp begins)
        obtain ⟨a, b, eq, head, least⟩ := ih (c :: piece) later
        refine ⟨c :: a, b, by simp [eq], ?_, ?_⟩
        · rw [starts, Bool.and_false, if_neg Bool.false_ne_true, head]
          simp
        · intro a' b' eq'
          cases a' with
          | nil => exact absurd ⟨b', eq'.symm⟩ here
          | cons d a' => exact Nat.succ_le_succ (least a' b' (List.cons.inj eq').2)

theorem split_head (word : w ≠ []) (occurs : w <:+: s) :
    ∃ a b, s = a ++ w ++ b ∧ (split w s).headD [] = a ∧ ∀ a' b', s = a' ++ w ++ b' → a.length ≤ a'.length := by
  have room : s.length ≠ 0 := fun none => word (List.infix_nil.mp (List.length_eq_zero_iff.mp none ▸ occurs))
  exact piecesFrom_head word room [] occurs

/-! ## Texts that occur early -/

/-- Whether a text that stands behind another one also occurs before. -/
def OccursEarly (lead w : List Char) : Prop :=
  ∃ a b, b ≠ [] ∧ lead ++ w = a ++ w ++ b

/-- The first occurrence of a text that stands behind another one is there, unless it occurs early. -/
theorem first_eq_iff {a b suffix : List Char} (eq : a ++ w ++ b = lead ++ w ++ suffix)
    (least : ∀ a' b', lead ++ w ++ suffix = a' ++ w ++ b' → a.length ≤ a'.length) :
    a <+: lead ∧ (a = lead ↔ ¬ OccursEarly lead w) := by
  have shorter : a.length ≤ lead.length := least lead suffix rfl
  have front : a <+: lead := by
    rw [List.append_assoc, List.append_assoc] at eq
    exact List.prefix_of_prefix_length_le ⟨w ++ b, eq⟩ ⟨w ++ suffix, rfl⟩ shorter
  refine ⟨front, ?_, fun late => ?_⟩
  · rintro rfl ⟨a', b', more, early⟩
    have before := least a' (b' ++ suffix) (by rw [early, List.append_assoc])
    have lengths := congrArg List.length early
    have := List.length_pos_iff.mpr more
    simp only [List.length_append] at lengths
    omega
  · by_contra other
    have less : a.length < lead.length := shorter.lt_of_ne fun same => other (front.eq_of_length same)
    have within : a ++ w <+: lead ++ w :=
      List.prefix_of_prefix_length_le ⟨b, eq⟩ ⟨suffix, rfl⟩ (by simpa using shorter)
    obtain ⟨b', whole⟩ := within
    refine late ⟨a, b', ?_, whole.symm⟩
    rintro rfl
    have := congrArg List.length whole
    simp at this
    omega

/-- A text of several lines does not occur before its place behind a single line: its first line does not end there. -/
theorem not_occursEarly_of_lines (plain : '\n' ∉ lead) (lines : '\n' ∈ w) : ¬ OccursEarly lead w := by
  rintro ⟨a, b, more, eq⟩
  obtain ⟨u, v, rfl, first⟩ := List.eq_append_cons_of_mem lines
  have counts := congrArg (List.count '\n') eq
  simp only [List.count_append, List.count_eq_zero.mpr plain] at counts
  have clear : '\n' ∉ a := List.count_eq_zero.mp (by omega)
  have upTo {x : List Char} (z : List Char) (whole : '\n' ∉ x) : (x ++ '\n' :: z).takeWhile (· != '\n') = x := by
    rw [List.takeWhile_append_of_pos]
    · simp
    · intro c here
      exact bne_iff_ne.mpr (ne_of_mem_of_not_mem here whole)
  have fronts : lead ++ u = a ++ u := by
    rw [← upTo v (List.not_mem_append plain first), ← upTo (v ++ b) (List.not_mem_append clear first), List.append_assoc, eq]
    simp
  have same : lead = a := List.append_cancel_right fronts
  rw [same, List.append_assoc] at eq
  exact more (List.self_eq_append_right.mp (List.append_cancel_left eq))

/-! ## Swapped newlines -/

theorem flatMap_swap_plain (plain : '\n' ∉ s) : s.flatMap (swap new) = s := by
  induction s with
  | nil => rfl
  | cons c r ih =>
      rw [List.mem_cons, not_or] at plain
      rw [List.flatMap_cons, swap, if_neg (Ne.symm plain.1), ih plain.2]
      rfl

theorem length_flatMap_swap (s new : List Char) :
    (s.flatMap (swap new)).length + s.count '\n' = s.length + s.count '\n' * new.length := by
  induction s with
  | nil => simp
  | cons c r ih =>
      rw [List.flatMap_cons, swap, List.length_append, List.length_cons]
      by_cases feed : c = '\n'
      · rw [if_pos feed, feed, List.count_cons_self, Nat.succ_mul]
        omega
      · rw [if_neg feed, List.count_cons_of_ne feed, List.length_singleton]
        omega

/-- Texts of two lengths in the place of newlines make no difference only where there are none. -/
theorem flatMap_swap_inj (s : List Char) (shorter : old.length < new.length) :
    s.flatMap (swap old) = s.flatMap (swap new) ↔ '\n' ∉ s := by
  constructor
  · intro same
    have olds := length_flatMap_swap s old
    have news := length_flatMap_swap s new
    rw [same] at olds
    have products : s.count '\n' * old.length = s.count '\n' * new.length := by omega
    rw [← List.count_eq_zero]
    by_contra some
    exact shorter.ne (Nat.eq_of_mul_eq_mul_left (Nat.pos_of_ne_zero some) products)
  · intro plain
    rw [flatMap_swap_plain plain, flatMap_swap_plain plain]

end Text

namespace Log

open Text

variable {h : Heap} {fs : List (String × Value)} {l : Layout} {front back : String} {m : String} {p t : List Char}

/-! ## Formats around a message -/

theorem fillAll_append (xs ys : List FormPart) :
    fillAll h fs (xs ++ ys) = (fillAll h fs xs).bind fun a => (fillAll h fs ys).map (a ++ ·) := by
  induction xs with
  | nil => cases rest : fillAll h fs ys <;> simp [fillAll, rest, Except.map, Except.bind]
  | cons x xs ih =>
      rw [List.cons_append, fillAll, fillAll, ih]
      cases fillPart h fs x with
      | error => rfl
      | ok a =>
          cases fillAll h fs xs with
          | error => rfl
          | ok b => cases fillAll h fs ys <;> simp [bind, Except.bind, Except.map]

/-- What can be filled in has no part without a text. -/
theorem fillPart_of_fillAll {ps : List FormPart} (done : fillAll h fs ps = .ok t) {part : FormPart} (here : part ∈ ps) :
    ∃ s, fillPart h fs part = .ok s := by
  induction ps generalizing t with
  | nil => cases here
  | cons x xs ih =>
      rw [fillAll] at done
      obtain ⟨s, first, done⟩ := Except.bind_ok.mp done
      obtain ⟨s', rest, -⟩ := Except.bind_ok.mp done
      cases here with
      | head => exact ⟨s, first⟩
      | tail _ here => exact ih rest here

/-- The reference to a text by its name is that text. -/
theorem fillPart_text (found : fs.find? (·.1 == "message") = some ("message", .str m)) :
    fillPart h fs (.field "message" none []) = .ok m.toList := by
  have word : firstWord "message".toList = ("message".toList, []) := by decide
  have place : wordPlace? "message".toList = none := by decide
  rw [fillPart, word]
  dsimp only
  rw [place, String.ofList_toList, found]
  rfl

/-- Parts that begin with some that can be filled in, followed by the reference to the message. -/
theorem fillAll_front {xs ys : List FormPart} (named : fs.find? (·.1 == "message") = some ("message", .str m))
    (lead : fillAll h fs xs = .ok p) (done : fillAll h fs (xs ++ .field "message" none [] :: ys) = .ok t) :
    ∃ suffix, t = p ++ m.toList ++ suffix := by
  rw [fillAll_append, lead] at done
  obtain ⟨rest, behind, rfl⟩ := Except.map_ok.mp done
  rw [fillAll, fillPart_text named] at behind
  obtain ⟨_, eq, behind⟩ := Except.bind_ok.mp behind
  cases eq
  obtain ⟨more, -, behind⟩ := Except.bind_ok.mp behind
  cases behind
  exact ⟨more, (List.append_assoc _ _ _).symm⟩

/-- A format with a message in it begins with what the part in front of the message gives by itself. -/
theorem Layout.filledIn_front (form : l.format = front ++ Layout.defaultFormat l.style ++ back)
    (named : fs.find? (·.1 == "message") = some ("message", .str m))
    (lead : { l with format := front }.filledIn h fs = .ok p) (done : l.filledIn h fs = .ok t) :
    ∃ suffix, t = p ++ m.toList ++ suffix := by
  have whole : l.format.toList = front.toList ++ ((defaultFormat l.style).toList ++ back.toList) := by
    rw [form, String.toList_append, String.toList_append, List.append_assoc]
  have longer : l.format.toList.length + 1 =
      front.toList.length + 1 + ((defaultFormat l.style).toList ++ back.toList).length := by
    rw [whole, List.length_append]
    omega
  unfold filledIn parts at lead done
  dsimp only at lead done
  rw [longer, whole] at done
  cases style : l.style with
  | percent =>
      rw [style] at lead done
      dsimp only at lead done
      have found : (fs.find? (·.1 == String.ofList "message".toList)).map (·.2) = some (.str m) := by
        rw [String.ofList_toList, named]
        rfl
      split at lead
      · next text front' =>
        cases lead
        split at done
        · next text' both =>
          cases done
          exact Percent.writtenNamed_front "message".toList front' rfl found both
        · cases done
        · cases done
      · cases lead
      · cases lead
  | brace =>
      rw [style] at lead done
      have clear (text : String) : .broken text ∉ braceParts (front.toList.length + 1) front.toList := by
        intro here
        obtain ⟨s, filled⟩ := fillPart_of_fillAll lead here
        cases filled
      obtain ⟨fuel, large, both⟩ := braceParts_append clear (Nat.lt_succ_self _) ((defaultFormat .brace).toList ++ back.toList)
      rw [both] at done
      cases fuel with
      | zero => cases large
      | succ fuel => exact fillAll_front named lead done
  | dollar =>
      rw [style] at lead done
      have clear : .bare ∉ dollarParts (front.toList.length + 1) front.toList := by
        intro here
        obtain ⟨s, filled⟩ := fillPart_of_fillAll lead here
        cases filled
      obtain ⟨fuel, large, both⟩ :=
        dollarParts_append (r := (defaultFormat .dollar).toList ++ back.toList) clear (Nat.lt_succ_self _) rfl
      rw [both] at done
      cases fuel with
      | zero => cases large
      | succ fuel => exact fillAll_front named lead done

/-! ## Aligned texts -/

theorem Record.fields_message (r : Record) (message : String) (time : Option String) :
    (r.fields h message time).find? (·.1 == "message") = some ("message", .str message) := by
  rfl

theorem foldl_withTrailer (trailers : List String) (t : List Char) : t <+: trailers.foldl Layout.withTrailer t := by
  induction trailers generalizing t with
  | nil => exact List.prefix_rfl
  | cons trailer rest ih =>
      refine List.IsPrefix.trans ?_ (ih _)
      rw [Layout.withTrailer]
      split
      · exact List.prefix_append t _
      · rw [List.append_assoc]
        exact List.prefix_append t _

namespace Layout

variable {r : Record}

/-- Text in which each line behind the first begins with some other text. -/
def alignedBy (lead t : List Char) : String :=
  String.ofList (t.flatMap (swap ('\r' :: '\n' :: lead)))

theorem fieldsOf_message (fields : l.fieldsOf h r m = .ok fs) : fs.find? (·.1 == "message") = some ("message", .str m) := by
  unfold fieldsOf at fields
  split at fields
  · obtain ⟨time, -, fields⟩ := Except.bind_ok.mp fields
    cases fields
    exact r.fields_message m time
  · cases fields
    exact r.fields_message m none

theorem standardText_front (form : l.format = front ++ defaultFormat l.style ++ back) (fields : l.fieldsOf h r m = .ok fs)
    (lead : { l with format := front }.filledIn h fs = .ok p) (standard : l.standardText h r m = .ok t) :
    ∃ suffix, t = p ++ m.toList ++ suffix := by
  have named : fs.find? (·.1 == "message") = some ("message", .str m) := fieldsOf_message fields
  rw [standardText] at standard
  split at standard
  · cases standard
  · obtain ⟨_, same, standard⟩ := Except.bind_ok.mp standard
    rw [fields] at same
    cases same
    obtain ⟨text, filled, standard⟩ := Except.bind_ok.mp standard
    cases standard
    obtain ⟨behind, rfl⟩ := filledIn_front form named lead filled
    obtain ⟨more, eq⟩ := foldl_withTrailer r.trailers (p ++ m.toList ++ behind)
    exact ⟨behind ++ more, by rw [← eq, List.append_assoc]⟩

/-- An aligned layout repeats what stands in front of the first occurrence of the message. -/
theorem text_aligned (aligned : l.isAligned = true) (given : m ≠ "") (standard : l.standardText h r m = .ok t) :
    l.text h r m = .ok (alignedBy ((split m.toList t).headD []) t) := by
  have filled : m.toList.isEmpty = false := by simpa using given
  rw [text, standard]
  refine Except.bind_ok.mpr ⟨t, rfl, ?_⟩
  rw [if_pos aligned, alignLines, filled, if_neg Bool.false_ne_true, replace_feed]
  rfl

theorem alignedBy_inj {start : List Char} (shorter : start.length < p.length) :
    alignedBy start t = alignedBy p t ↔ '\n' ∉ t := by
  rw [alignedBy, alignedBy, String.ofList_inj]
  exact flatMap_swap_inj t (by simpa using shorter)

/-- A text is aligned by what stands in front of the message, unless the message is a single line that occurs earlier and
something follows it on further lines. -/
theorem text_aligned_iff (aligned : l.isAligned = true) (form : l.format = front ++ defaultFormat l.style ++ back)
    (given : m ≠ "") (fields : l.fieldsOf h r m = .ok fs) (lead : { l with format := front }.filledIn h fs = .ok p)
    (plain : '\n' ∉ p) (standard : l.standardText h r m = .ok t) :
    ∃ suffix start, t = p ++ m.toList ++ suffix ∧ start <+: p ∧ l.text h r m = .ok (alignedBy start t) ∧
      (start = p ↔ ¬ OccursEarly p m.toList) ∧
      (l.text h r m = .ok (alignedBy p t) ↔ '\n' ∈ m.toList ∨ '\n' ∉ suffix ∨ ¬ OccursEarly p m.toList) := by
  obtain ⟨suffix, rfl⟩ := standardText_front form fields lead standard
  have word : m.toList ≠ [] := by simpa using given
  obtain ⟨a, b, eq, head, least⟩ := split_head word ⟨p, suffix, rfl⟩
  have text := text_aligned aligned given standard
  rw [head] at text
  obtain ⟨front, first⟩ := first_eq_iff eq.symm least
  refine ⟨suffix, a, rfl, front, text, first, ?_⟩
  rw [text, Except.ok.injEq]
  by_cases same : a = p
  · exact iff_of_true (by rw [same]) (.inr (.inr (first.mp same)))
  · have early : OccursEarly p m.toList := not_not.mp (mt first.mpr same)
    have single : '\n' ∉ m.toList := fun lines => not_occursEarly_of_lines plain lines early
    rw [alignedBy_inj (front.length_le.lt_of_ne (mt front.eq_of_length same))]
    simp [plain, single, early]

theorem text_aligned_iff_lines :
    let l : Layout := ⟨.percent, "%(levelname)s %(message)s", none, true, true, true⟩
    let r : Record := ⟨.of 20, .str "a\nb", [], "hostpatch", "main.py", .int 1, .ofInt 0, some "E", none⟩
    l.text {} r "a\nb" = .ok (alignedBy "INFO ".toList "INFO a\nb\nE".toList) ∧
      alignedBy "INFO ".toList "INFO a\nb\nE".toList = "INFO a\r\nINFO b\r\nINFO E" := by
  intro l r
  have form : l.format = "%(levelname)s " ++ defaultFormat l.style ++ "" := by decide
  have fields : l.fieldsOf {} r "a\nb" = .ok (r.fields {} "a\nb" none) := by
    unfold l r
    rfl
  have lead : { l with format := "%(levelname)s " }.filledIn {} (r.fields {} "a\nb" none) = .ok "INFO ".toList := by
    unfold l r
    rfl
  have standard : l.standardText {} r "a\nb" = .ok "INFO a\nb\nE".toList := by
    unfold l r
    rfl
  obtain ⟨suffix, start, -, -, -, -, whole⟩ := text_aligned_iff rfl form (by decide) fields lead (by decide) standard
  exact ⟨whole.mpr (.inl (by decide)), by decide⟩

/-- The message stands in the name of the level, so its second line begins with nothing. -/
theorem text_misaligned :
    let l : Layout := ⟨.percent, "%(levelname)s %(message)s\nend", none, true, true, true⟩
    let r : Record := ⟨.of 20, .str "I", [], "hostpatch", "main.py", .int 1, .ofInt 0, none, none⟩
    l.standardText {} r "I" = .ok "INFO I\nend".toList ∧ l.text {} r "I" = .ok "INFO I\r\nend" ∧
      alignedBy "INFO ".toList "INFO I\nend".toList = "INFO I\r\nINFO end" := by
  refine ⟨?_, ?_, ?_⟩
  · rfl
  · rfl
  · decide

end Layout

end Log

end Patchwork
