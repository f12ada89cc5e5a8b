import Patchwork.Proofs.Indents
import Patchwork.Proofs.Settling

/-!
Joints between tokens. Lines that are in no quote lose their margin, and joints next to a blank or a bracket are taken out,
without a change to the tokens in between; the induction is over the lines, and what becomes of those below is known first.
-/

namespace Patchwork

open Text

namespace Text

variable {a b g l m p s x : List Char} {width : Nat}

/-- A line without its margin, or empty but for its end if it holds only blanks. -/
def trim (width : Nat) (line : List Char) : List Char :=
  shift width (clearBlank line)

theorem isLineBlank_of_indent {c : Char} (h : isIndent c = true) : Script.isLineBlank c = true := by
  simp only [isIndent, Bool.or_eq_true, beq_iff_eq] at h
  rcases h with rfl | rfl <;> rfl

theorem lead_blank (l : List Char) : Script.Blank (l.takeWhile isIndent) := fun c hc =>
  isLineBlank_of_indent (List.all_eq_true.mp List.all_takeWhile c hc)

/-- What a line loses are blanks at its head. -/
theorem trim_split (fits : Fits width (clearBlank l)) (line : Script.OneLine l) :
    ∃ b, Script.Blank b ∧ l = b ++ trim width l := by
  have split : l.takeWhile isIndent ++ l.dropWhile isIndent = l := List.takeWhile_append_dropWhile
  rw [trim]
  cases text : lead? l with
  | some m =>
      obtain ⟨rfl, -, clear⟩ := lead?_some text
      rw [clear] at fits ⊢
      rw [shift_text text]
      have front : l.take width <+: l.takeWhile isIndent :=
        List.prefix_of_prefix_length_le (List.take_prefix _ _) (List.takeWhile_prefix _)
          ((List.length_take_le _ _).trans (fits _ text))
      exact ⟨l.take width, fun c hc => lead_blank l c (front.subset hc), (List.take_append_drop width l).symm⟩
  | none =>
      rw [shift_blank ((lead?_clearBlank l).trans text)]
      refine ⟨l.takeWhile isIndent, lead_blank l, ?_⟩
      rcases lead?_none text with ⟨rest, clear⟩ | ⟨⟨r, rest⟩, clear⟩
      · rw [clear, ← rest, split]
      · rw [rest] at split
        rw [clear, ← line _ _ split.symm, split]

theorem lead?_append (filled : ¬ Script.Blank p) (feed : '\n' ∉ p) (g : List Char) :
    lead? (p ++ g) = some (p.takeWhile isIndent) ∧ clearBlank (p ++ g) = p ++ g := by
  obtain ⟨c, t, rest⟩ : ∃ c t, p.dropWhile isIndent = c :: t := by
    rcases rest : p.dropWhile isIndent with _ | ⟨c, t⟩
    · have whole : p.takeWhile isIndent ++ p.dropWhile isIndent = p := List.takeWhile_append_dropWhile
      rw [rest, List.append_nil] at whole
      exact absurd (whole ▸ lead_blank p) filled
    · exact ⟨c, t, rfl⟩
  have within : c ∈ p := (List.dropWhile_suffix isIndent).subset (rest ▸ List.mem_cons_self)
  have other : c ≠ '\n' := fun same => feed (same ▸ within)
  have behind : (p ++ g).dropWhile isIndent = c :: (t ++ g) := by
    rw [List.dropWhile_append, rest]
    rfl
  have front : (p ++ g).takeWhile isIndent = p.takeWhile isIndent := by
    rw [List.takeWhile_append, if_neg]
    intro whole
    have all := (List.takeWhile_prefix isIndent).eq_of_length whole
    have split : p.takeWhile isIndent ++ p.dropWhile isIndent = p := List.takeWhile_append_dropWhile
    rw [rest, all] at split
    simp at split
  rw [lead?, clearBlank, behind, front]
  constructor
  · split <;> simp_all
  · split <;> simp_all

/-- Text stands behind the margin as it did. -/
theorem trim_append (filled : ¬ Script.Blank p) (feed : '\n' ∉ p) (x g : List Char)
    (fits : Fits width (clearBlank (p ++ x))) :
    trim width (p ++ g) = p.drop width ++ g ∧ ¬ Script.Blank (p.drop width) := by
  obtain ⟨lead, clear⟩ := lead?_append filled feed g
  obtain ⟨lead', clear'⟩ := lead?_append filled feed x
  rw [clear'] at fits
  have room : width ≤ (p.takeWhile isIndent).length := fits _ lead'
  have short := (List.takeWhile_prefix (p := isIndent) (l := p)).length_le
  refine ⟨?_, fun blank => filled fun c hc => ?_⟩
  · rw [trim, clear, shift_text lead, List.drop_append_of_le_length (by omega)]
  · rw [← List.take_append_drop width p] at hc
    rcases List.mem_append.mp hc with hc | hc
    · have front : p.take width <+: p.takeWhile isIndent :=
        List.prefix_of_prefix_length_le (List.take_prefix _ _) (List.takeWhile_prefix _)
          ((List.length_take_le _ _).trans room)
      exact lead_blank p c (front.subset hc)
    · exact blank c hc

/-- A line that starts like a comment. -/
def isRemark (line : List Char) : Bool :=
  (line.dropWhile isBlank).head? == some '#'

theorem isBlank_of_lineBlank {c : Char} (h : Script.isLineBlank c = true) : isBlank c = true := by
  simp only [Script.isLineBlank, Bool.or_eq_true, beq_iff_eq] at h
  rcases h with (rfl | rfl) | rfl <;> rfl

theorem isRemark_blanks (blank : Script.Blank b) (x : List Char) : isRemark (b ++ x) = isRemark x := by
  have all : ∀ c ∈ b, isBlank c = true := fun c hc => isBlank_of_lineBlank (blank c hc)
  rw [isRemark, List.dropWhile_append_of_pos all, isRemark]

theorem isRemark_append (h : isRemark p = false) (h' : isRemark x = false) : isRemark (p ++ x) = false := by
  rw [isRemark, List.dropWhile_append]
  split
  · exact h'
  · next filled =>
      rw [isRemark] at h
      cases rest : p.dropWhile isBlank with
      | nil => simp [rest] at filled
      | cons c t =>
          rw [rest] at h
          exact h

theorem isRemark_front (h : isRemark (p ++ x) = false) : isRemark p = false := by
  rw [isRemark, List.dropWhile_append] at h
  rw [isRemark]
  cases rest : p.dropWhile isBlank with
  | nil => rfl
  | cons c t =>
      rw [rest] at h
      exact h

/-- A line is ended, or, where the text may not be, at least no comment. -/
def Settles (ended : Bool) (line : List Char) : Prop :=
  if ended then line.getLast? = some '\n' else isRemark line = false

variable {ended : Bool}

theorem settles_behind (blank : Script.Blank b) (filled : x ≠ []) : Settles ended (b ++ x) ↔ Settles ended x := by
  rw [Settles, Script.getLast?_behind _ filled, isRemark_blanks blank, Settles]

theorem Settles.append (h : Settles ended (p ++ x)) (h' : Settles ended g) (filled : g ≠ []) : Settles ended (p ++ g) := by
  cases ended with
  | true => exact (Script.getLast?_behind p filled).trans h'
  | false => exact isRemark_append (isRemark_front h) h'

theorem closesLine_eq (l : List Char) :
    Script.closesLine l = (l.getLast?.all (fun c => c == '\n' || c == '\r') || isRemark l) := by
  have head : (stripWhere isBlank l).head? = (l.dropWhile isBlank).head? := by
    rw [stripWhere]
    cases rest : l.dropWhile isBlank with
    | nil => rfl
    | cons c t =>
        have text : isBlank c = false := by
          have := List.head?_dropWhile_not isBlank l
          rw [rest] at this
          exact this
        rw [List.reverse_cons, List.dropWhile_append]
        split
        · rw [List.dropWhile_cons_of_neg (by simp [text])]
          rfl
        · simp
  rw [Script.closesLine, isRemark, ← head]
  congr 1
  · cases l.getLast? <;> rfl
  · cases stripWhere isBlank l with
    | nil => rfl
    | cons c t =>
        by_cases mark : c = '#'
        · rw [mark]
          rfl
        · simp [mark]

theorem closesLine_behind (h : Settles ended (p ++ x)) (h' : Settles ended x) (filled : x ≠ []) :
    Script.closesLine (p ++ x) = Script.closesLine x := by
  rw [closesLine_eq, closesLine_eq, Script.getLast?_behind _ filled]
  cases ended with
  | true =>
      have last : x.getLast? = some '\n' := h'
      rw [last]
      rfl
  | false =>
      have one : isRemark (p ++ x) = false := h
      have other : isRemark x = false := h'
      rw [one, other]

theorem closesLine_blanks (blank : Script.Blank b) (filled : x ≠ []) : Script.closesLine (b ++ x) = Script.closesLine x := by
  rw [closesLine_eq, closesLine_eq, Script.getLast?_behind _ filled, isRemark_blanks blank]

end Text

namespace Source

open Script

variable {drops : Nat → Bool} {width row : Nat} {st st' st₁ st₁' fin fin' : Scanner} {a l p s : List Char} {ended : Bool}

/-! ## Seams -/

/-- Whether no lexeme goes on at a character: a blank, or an operator that is part of no other one. -/
def divides (c : Char) : Bool :=
  isLineBlank c || lones.contains c

/-- Whether a joint may be taken out behind what stands before it: no quote is open there and no comment in the row, what
stands before is text that does not take the backslash with it, and it is divided from the line below. -/
def isSeam (behind : Scanner) (row : Nat) (before below : List Char) : Bool :=
  behind.pending.isNone && behind.tokens.all (fun t => t.kind != .comment || t.row != row) &&
    before.getLast? != some '\\' && (before.getLast?.any divides || below.head?.any divides)

/-- Whether lines lose only what stands between their tokens: a line within a quote that is open keeps its margin, and a
joint that is dropped is a seam. -/
def isSeamless (width : Nat) (drops : Nat → Bool) (row : Nat) (st : Scanner) : List (List Char) → Bool
  | [] => true
  | line :: rest =>
    (st.pending.isNone || trim width line == line) &&
      match scanLine row line st with
      | .next behind =>
        (!(endsWith joint line && drops row) || isSeam behind row (line.take (line.length - 2)) (rest.headD [])) &&
          isSeamless width drops (row + 1) behind rest
      | _ => true

theorem isSeamless_margin {ls : List (List Char)} (h : isSeamless width drops row st (l :: ls) = true)
    (quoted : st.pending ≠ none) : trim width l = l := by
  rw [isSeamless, Bool.and_eq_true, Bool.or_eq_true, Option.isNone_iff_eq_none, beq_iff_eq] at h
  exact h.1.resolve_left quoted

theorem isSeamless_next {ls : List (List Char)} (h : isSeamless width drops row st (l :: ls) = true)
    (step : scanLine row l st = .next st₁) :
    isSeamless width drops (row + 1) st₁ ls = true ∧
      ∀ p, l = p ++ joint → drops row = true → isSeam st₁ row p (ls.headD []) = true := by
  rw [isSeamless, step, Bool.and_eq_true] at h
  obtain ⟨seam, rest⟩ := (Bool.and_eq_true _ _).mp h.2
  refine ⟨rest, fun p split dropped => ?_⟩
  subst split
  have ends : endsWith joint (p ++ joint) = true := (endsWith_iff _ _).mpr (List.suffix_append p joint)
  have before : (p ++ joint).take ((p ++ joint).length - 2) = p := by simp [joint]
  rwa [ends, dropped, before, Bool.and_true, Bool.not_true, Bool.false_or] at seam

/-- There is text before a joint that does not make up a line. -/
theorem filled_of_joint (h : isJointLine (p ++ joint) = false) : ¬ Blank p := by
  intro blank
  rw [isJointLine, List.dropWhile_append_of_pos blank] at h
  cases h

/-- The lines of a text without their margin. -/
def trimmedLines (width : Nat) (s : List Char) : List (List Char) :=
  ((feedLines s).map (trim width)).filter (!·.isEmpty)

theorem trim_filled (fits : Fits width (clearBlank (a ++ ['\n']))) : trim width (a ++ ['\n']) ≠ [] := by
  intro none
  have ended := ((shift_trims fits).trans (clearBlank_trims _)).ended (by simp)
  rw [← trim, none] at ended
  cases ended

theorem trimmedLines_cons (whole : '\n' ∉ a) (fits : Fits width (clearBlank (a ++ ['\n']))) (r : List Char) :
    trimmedLines width (a ++ '\n' :: r) = trim width (a ++ ['\n']) :: trimmedLines width r := by
  rw [trimmedLines, feedLines_cons whole, List.map_cons, List.filter_cons_of_pos (by simpa using trim_filled fits),
    trimmedLines]

theorem feedLines_prepend (filled : p ≠ []) (whole : '\n' ∉ p) {s : List Char} {m : List Char} {ms : List (List Char)}
    (lines : feedLines s = m :: ms) : feedLines (p ++ s) = (p ++ m) :: ms := by
  induction s using feed_induction with
  | empty => cases lines
  | last a filled' whole' =>
      rw [feedLines_open whole' filled'] at lines
      cases lines
      refine feedLines_open ?_ ?_ <;> simp [whole, whole', filled]
  | line a r whole' ih =>
      rw [feedLines_cons whole'] at lines
      cases lines
      have both : '\n' ∉ p ++ a := by simp [whole, whole']
      rw [← List.append_assoc, feedLines_cons both, List.append_assoc]

/-- How a text starts that has lost joints. -/
structure Opening (width : Nat) (s t : List Char) : Prop where
  starts : ∃ m ms, feedLines t = m :: ms ∧ m.head? = ((feedLines s).headD []).head? ∧ Fits width (clearBlank m) ∧
    OneLine m ∧ (trim width m = [] → trimmedLines width s = [])

theorem oneLine_behind {b x : List Char} (h : OneLine l) (split : l = b ++ x) : OneLine x := by
  have rest := h.drop b.length
  rwa [split, List.drop_left] at rest

theorem oneLine_open (whole : '\n' ∉ a) : OneLine a :=
  fun x _ split => absurd (split ▸ List.mem_append_right x List.mem_cons_self) whole

theorem oneLine_feed (whole : '\n' ∉ a) : OneLine (a ++ ['\n']) := by
  intro x t split
  rcases List.eq_nil_or_concat t with none | ⟨t', c, rfl⟩
  · exact none
  · rw [List.concat_eq_append, ← List.cons_append, ← List.append_assoc] at split
    have front : a = x ++ '\n' :: t' := List.append_inj_left' split rfl
    exact absurd (front ▸ List.mem_append_right x List.mem_cons_self) whole

/-- A line does the same to two scans that come to their ends. -/
theorem line_alike {last last' b x : List Char} {ls ls' : List (List Char)} (alike : Alike st st') (blank : Blank b)
    (kept : st.pending ≠ none → b = []) (ends : scanFrom row last st ((b ++ x) :: ls) = (fin, .complete)) (clean : fin.Clean)
    (ends' : scanFrom row last' st' (x :: ls') = (fin', .complete)) :
    (∃ st₁ st₁', scanLine row (b ++ x) st = .next st₁ ∧ scanLine row x st' = .next st₁' ∧ Alike st₁ st₁') ∨
      ∃ st₁ st₁', scanLine row (b ++ x) st = .last st₁ ∧ scanLine row x st' = .last st₁' ∧ Alike st₁ st₁' := by
  have steps : LineStep.Alike (scanLine row (b ++ x) st) (scanLine row x st') :=
    scanLine_alike alike blank kept fun st₁ step => scanFrom_clean step ends clean
  generalize here : scanLine row (b ++ x) st = step at steps
  generalize there : scanLine row x st' = step' at steps
  cases steps with
  | next h => exact .inl ⟨_, _, rfl, rfl, h⟩
  | last h => exact .inr ⟨_, _, rfl, rfl, h⟩
  | uneven =>
      rw [scanFrom, here] at ends
      cases congrArg Prod.snd ends
  | uneven' =>
      rw [scanFrom, there] at ends'
      cases congrArg Prod.snd ends'

/-- Two scans close alike. -/
theorem close_alike {last last' : List Char} (alike : Alike st st') (same : closesLine last = closesLine last')
    (ends : scanFrom row last st [] = (fin, .complete)) (ends' : scanFrom row last' st' [] = (fin', .complete)) :
    Alike fin fin' := by
  obtain ⟨-, rfl⟩ := scanFrom_end ends
  obtain ⟨-, rfl⟩ := scanFrom_end ends'
  exact scanEnd_alike alike same

/-- Blanks at the end of a text are not missed. -/
theorem blank_alike {last last' : List Char} (alike : Alike st st') (same : closesLine last = closesLine last')
    (blank : Blank l) (ends : scanFrom row last st [l] = (fin, .complete))
    (ends' : scanFrom row last' st' [] = (fin', .complete)) : Alike fin fin' := by
  obtain ⟨⟨shut, depth, goes⟩, rfl⟩ := scanFrom_end ends'
  have none : l.drop (indentOf 0 0 l).2 = [] := by
    have all : blanks l = l.length := by simpa [blanks] using blanks_append blank []
    rw [indentOf_blanks, Nat.zero_add, all, List.drop_length]
  have step : scanLine row l st = .last st := by
    rw [scanLine_shut row l (alike.shut.mpr shut), if_pos ⟨alike.depth.trans depth, alike.continued.trans goes⟩,
      scanStatement_eq, none]
  rw [scanFrom, step] at ends
  cases ends
  exact scanEnd_alike alike same

theorem Opening.whole (fits : Fits width (clearBlank l)) (line : OneLine l) {rest rest' : List (List Char)} {s t : List Char}
    (lines : feedLines s = l :: rest) (lines' : feedLines t = l :: rest')
    (none : trim width l = [] → trimmedLines width s = []) : Opening width s t :=
  ⟨l, rest', lines', by rw [lines]; rfl, fits, line, none⟩

/-- A joint with text before it leaves its line open. -/
theorem joint_continues (calm : st.Calm) (ahead : Ahead p) (filled : ¬ Blank p)
    (step : scanLine row (p ++ joint) st = .next st₁) (clean : st₁.Clean) (shut : st₁.pending = none)
    (comments : ∀ t ∈ st₁.tokens, t.kind = .comment → t.row ≠ row) : st₁.continued = true := by
  have separate : Separate p joint := .inl ⟨'\\', ['\n'], rfl, stop_slash⟩
  have level : id row = id row := rfl
  obtain ⟨out, -, left⟩ := scanLine_ahead (.refl id st) level ahead separate clean shut comments calm filled step
  exact left.goes

/-- What is known of a joint that is dropped. -/
theorem isSeam_facts {below : List Char} (h : isSeam st₁ row p below = true) :
    st₁.pending = none ∧ (∀ t ∈ st₁.tokens, t.kind = .comment → t.row ≠ row) ∧ p.getLast? ≠ some '\\' ∧
      ((∃ c, p.getLast? = some c ∧ divides c = true) ∨ ∃ c, below.head? = some c ∧ divides c = true) := by
  rw [isSeam, Bool.and_eq_true, Bool.and_eq_true, Bool.and_eq_true, Option.isNone_iff_eq_none, bne_iff_ne,
    List.all_eq_true, Bool.or_eq_true] at h
  obtain ⟨⟨⟨pending, comments⟩, last⟩, divided⟩ := h
  have some_ {o : Option Char} (any : o.any divides = true) : ∃ c, o = some c ∧ divides c = true := by
    cases o with
    | none => cases any
    | some c => exact ⟨c, rfl, any⟩
  refine ⟨pending, fun t ht comment here => ?_, last, divided.imp some_ some_⟩
  have other := comments t ht
  rw [comment, here] at other
  simp at other

theorem oneLine_append {x : List Char} (whole : '\n' ∉ p) (h : OneLine x) : OneLine (p ++ x) := by
  induction p with
  | nil => exact h
  | cons c p ih =>
      rw [List.mem_cons, not_or] at whole
      intro y t split
      cases y with
      | nil => exact absurd (List.cons.inj split).1.symm whole.1
      | cons d y => exact ih whole.2 y t (List.cons.inj split).2

/-- A line that may lose a margin and a joint. -/
structure Tame (width : Nat) (ended : Bool) (l : List Char) : Prop where
  fits : Fits width (clearBlank l)
  settles : Settles ended l
  text : isJointLine l = false

/-- What becomes of the lines of a text if joints go. -/
structure Joins (width : Nat) (ended : Bool) (row : Nat) (st : Scanner) (s t : List Char) : Prop where
  folds : Folds row st (trimmedLines width s) (trimmedLines width t)
  settles : ∀ l ∈ trimmedLines width t, Settles ended l
  opening : s ≠ [] → Opening width s t

theorem ne_nil_of_filled (filled : ¬ Blank p) : p ≠ [] :=
  fun none => filled (none ▸ blank_nil)

theorem isStop_of_divides {c : Char} (h : divides c = true) : IsStop c := by
  rw [divides, Bool.or_eq_true, List.contains_iff_mem] at h
  rcases h with blank | lone
  · simp only [isLineBlank, Bool.or_eq_true, beq_iff_eq] at blank
    rcases blank with (rfl | rfl) | rfl <;> simp [IsStop, stops]
  · exact List.mem_append_right _ lone

theorem separate_of_divided {x : List Char} (start : x.head? = l.head?)
    (divided : (∃ c, p.getLast? = some c ∧ divides c = true) ∨ ∃ c, l.head? = some c ∧ divides c = true) : Separate p x := by
  refine divided.symm.imp ?_ ?_
  · rintro ⟨c, starts, divides⟩
    rw [← start] at starts
    obtain ⟨u, rfl⟩ := List.head?_eq_some_iff.mp starts
    exact ⟨c, u, rfl, isStop_of_divides divides⟩
  · rintro ⟨c, ends, divides⟩ d hd
    rw [ends] at hd
    exact Option.some.inj hd ▸ isStop_of_divides divides

/-- Lines follow one that is left open. -/
theorem follows_open {last : List Char} {ls : List (List Char)} (goes : st.continued = true)
    (ends : scanFrom row last st ls = (fin, .complete)) : ls ≠ [] := by
  rintro rfl
  obtain ⟨⟨-, -, closed⟩, -⟩ := scanFrom_end ends
  rw [goes] at closed
  cases closed

/-- A line that loses its joint is put together with the one below. -/
theorem Joins.seam {r t last' : List Char} (h : Joins width ended (row + 1) st₁' r t) (whole : '\n' ∉ p) (back : '\r' ∉ p)
    (tame : Tame width ended (p ++ joint)) (seam : isSeam st₁ row p ((feedLines r).headD []) = true) (alike : Alike st₁ st₁')
    (calm : st'.Calm) (step : scanLine row (trim width (p ++ joint)) st' = .next st₁') (clean : st₁.Clean)
    (ends : scanFrom (row + 1) last' st₁' (trimmedLines width r) = (fin', .complete)) :
    Joins width ended row st' (p ++ ['\\'] ++ '\n' :: r) (p ++ t) := by
  have text : p ++ ['\\'] ++ '\n' :: r = p ++ joint ++ r := by simp [joint]
  have own : p ++ ['\\'] ++ ['\n'] = p ++ joint := by simp [joint]
  have slashed : '\n' ∉ p ++ ['\\'] := by simp [whole]
  have filled : ¬ Blank p := filled_of_joint tame.text
  obtain ⟨shut, comments, last, divided⟩ := isSeam_facts seam
  obtain ⟨lead, filled'⟩ := trim_append filled whole joint joint tame.fits
  have some_ := ne_nil_of_filled filled
  have some_' := ne_nil_of_filled filled'
  have end_ : (p.drop width).getLast? = p.getLast? := by
    rw [List.getLast?_drop, if_neg]
    exact fun short => some_' (List.drop_eq_nil_iff.mpr short)
  have ahead : Ahead (p.drop width) :=
    ⟨fun within => whole (List.mem_of_mem_drop within), fun within => back (List.mem_of_mem_drop within), end_ ▸ last⟩
  rw [lead] at step
  have shut' := alike.shut.mp shut
  have comments' := alike.comments comments
  have goes := joint_continues calm ahead filled' step (alike.clean clean) shut' comments'
  have more := follows_open goes ends
  obtain ⟨m, ms, lines, head, room, line, gone⟩ := (h.opening fun none => more (by rw [none]; rfl)).starts
  have both := feedLines_prepend some_ whole lines
  obtain ⟨lead', -⟩ := trim_append filled whole joint m tame.fits
  obtain ⟨b, blank', split⟩ := trim_split room line
  have first : trim width m ≠ [] := fun none => more (gone none)
  have here : trimmedLines width t = trim width m :: (ms.map (trim width)).filter (!·.isEmpty) := by
    rw [trimmedLines, lines, List.map_cons, List.filter_cons_of_pos (by simpa using first)]
  have there : trimmedLines width (p ++ t) = (p.drop width ++ m) :: (ms.map (trim width)).filter (!·.isEmpty) := by
    rw [trimmedLines, both, List.map_cons, lead', List.filter_cons_of_pos (by simp [some_'])]
  have folds := h.folds
  have settles := h.settles
  rw [here] at folds settles
  have settled : Settles ended (p.drop width ++ m) := by
    obtain ⟨b', blank'', split'⟩ := trim_split tame.fits (own ▸ oneLine_feed slashed)
    rw [lead] at split'
    have below : Settles ended m := by
      rw [split, settles_behind blank' first]
      exact settles _ List.mem_cons_self
    refine Settles.append ((settles_behind blank'' ?_).mp (split' ▸ tame.settles)) below fun none => first (by rw [none]; rfl)
    simp [joint]
  constructor
  · rw [there, trimmedLines_cons slashed (own ▸ tame.fits), own, lead]
    obtain ⟨l, ls, lines'⟩ := List.exists_cons_of_ne_nil more
    rw [lines'] at folds ⊢
    have separate : Separate (p.drop width) m := separate_of_divided head (end_ ▸ divided)
    have close : closesLine (p.drop width ++ m) = closesLine (trim width m) := by
      have parts : p.drop width ++ m = p.drop width ++ b ++ trim width m := by rw [List.append_assoc, ← split]
      rw [parts] at settled ⊢
      exact closesLine_behind settled (settles _ List.mem_cons_self) first
    have joined := Folds.join step shut' comments' ahead filled' blank' (split ▸ separate) (split ▸ close) folds
    rwa [← split] at joined
  · rw [there]
    exact List.forall_mem_cons.mpr ⟨settled, fun l hl => settles l (List.mem_cons_of_mem _ hl)⟩
  · refine fun _ => ⟨p ++ m, ms, both, ?_, ?_, oneLine_append whole line, fun none => ?_⟩
    · rw [feedLines_cons slashed]
      cases p with
      | nil => exact absurd rfl some_
      | cons c p => rfl
    · obtain ⟨lead, clear⟩ := lead?_append filled whole m
      obtain ⟨lead₀, clear₀⟩ := lead?_append filled whole joint
      intro n text
      rw [clear, lead, ← lead₀] at text
      exact tame.fits n (by rwa [clear₀])
    · rw [lead'] at none
      exact absurd (List.append_eq_nil_iff.mp none).1 some_'

/-- A line that keeps text when it loses its margin does the same to two scans that come to their ends. -/
theorem Tame.alike {last last' : List Char} {ls ls' : List (List Char)} (h : Tame width ended l) (line : OneLine l)
    (filled : trim width l ≠ []) (alike : Alike st st') (quoted : st.pending ≠ none → trim width l = l)
    (ends : scanFrom row last st (l :: ls) = (fin, .complete)) (clean : fin.Clean)
    (ends' : scanFrom row last' st' (trim width l :: ls') = (fin', .complete)) :
    OneLine (trim width l) ∧ Settles ended (trim width l) ∧ closesLine l = closesLine (trim width l) ∧
      ((∃ st₁ st₁', scanLine row l st = .next st₁ ∧ scanLine row (trim width l) st' = .next st₁' ∧ Alike st₁ st₁') ∨
        ∃ st₁ st₁', scanLine row l st = .last st₁ ∧ scanLine row (trim width l) st' = .last st₁' ∧ Alike st₁ st₁') := by
  obtain ⟨b, blank, split⟩ := trim_split h.fits line
  have margin : st.pending ≠ none → b = [] := by
    intro pending
    rw [quoted pending] at split
    exact List.self_eq_append_left.mp split
  have close := closesLine_blanks blank filled
  have steps := line_alike (b := b) alike blank margin (split ▸ ends) clean ends'
  rw [← split] at close steps
  exact ⟨oneLine_behind line split, (settles_behind blank filled).mp (split ▸ h.settles), close, steps⟩

theorem trimmedLines_open (whole : '\n' ∉ a) (filled : a ≠ []) :
    trimmedLines width a = [trim width a].filter (!·.isEmpty) := by
  rw [trimmedLines, feedLines_open whole filled, List.map_singleton]

/-- A last line of blanks goes. -/
theorem Joins.blank (whole : '\n' ∉ a) (filled : a ≠ []) (tame : Tame width ended a) (gone : trim width a = []) :
    Joins width ended row st a a := by
  have none : trimmedLines width a = [] := by
    rw [trimmedLines_open whole filled, gone]
    rfl
  have lines := feedLines_open whole filled
  constructor
  · rw [none]
    exact .done
  · exact fun l hl => absurd (none ▸ hl) List.not_mem_nil
  · exact fun _ => .whole tame.fits (oneLine_open whole) lines lines fun _ => none

/-- A last line that is not ended keeps its text. -/
theorem Joins.open (whole : '\n' ∉ a) (filled : a ≠ []) (tame : Tame width ended a) (kept : trim width a ≠ [])
    (settled : Settles ended (trim width a)) (folds : Folds row st [trim width a] [trim width a]) :
    Joins width ended row st a a := by
  have one : trimmedLines width a = [trim width a] := by
    rw [trimmedLines_open whole filled, List.filter_cons_of_pos (by simpa using kept), List.filter_nil]
  have lines := feedLines_open whole filled
  constructor
  · rwa [one]
  · exact fun l hl => List.mem_singleton.mp (one ▸ hl) ▸ settled
  · exact fun _ => .whole tame.fits (oneLine_open whole) lines lines fun none => absurd none kept

/-- A line that is ended stays so if it is not put together with the one below. -/
theorem Joins.keep {r t : List Char} (h : Joins width ended (row + 1) st₁ r t) (whole : '\n' ∉ a)
    (tame : Tame width ended (a ++ ['\n'])) (line : OneLine (trim width (a ++ ['\n'])))
    (settled : Settles ended (trim width (a ++ ['\n']))) (step : scanLine row (trim width (a ++ ['\n'])) st = .next st₁) :
    Joins width ended row st (a ++ '\n' :: r) (a ++ '\n' :: t) := by
  constructor
  · rw [trimmedLines_cons whole tame.fits, trimmedLines_cons whole tame.fits]
    exact .keep step line h.folds
  · rw [trimmedLines_cons whole tame.fits]
    exact List.forall_mem_cons.mpr ⟨settled, h.settles⟩
  · refine fun _ => .whole tame.fits (oneLine_feed whole) (feedLines_cons whole r) (feedLines_cons whole t) fun none => ?_
    exact absurd none (trim_filled tame.fits)

/-- Joints that are seams go, and lines that are not in a quote lose their margin, without a change to what is scanned. -/
theorem seams (s : List Char) (back : '\r' ∉ s) (tame : ∀ l ∈ feedLines s, Tame width ended l) {last last' : List Char}
    (seamless : isSeamless width drops row st (feedLines s) = true) (alike : Alike st st') (calm : st'.Calm)
    (same : closesLine last = closesLine last') (ends : scanFrom row last st (feedLines s) = (fin, .complete))
    (clean : fin.Clean) (ends' : scanFrom row last' st' (trimmedLines width s) = (fin', .complete)) :
    Alike fin fin' ∧ Joins width ended row st' s (withoutJoints drops row (feedLines s)) := by
  induction s using feed_induction generalizing row st st' last last' with
  | empty =>
      have none : ∀ l ∈ trimmedLines width [], Settles ended l := fun l hl => absurd hl List.not_mem_nil
      exact ⟨close_alike alike same ends ends', .done, none, fun filled => absurd rfl filled⟩
  | last a filled whole =>
      have lines : feedLines a = [a] := feedLines_open whole filled
      have kept : withoutJoints drops row (feedLines a) = a := by
        have open_ : a.getLast? ≠ some '\n' := fun last => whole (List.mem_of_getLast? last)
        rw [withoutJoints_unended row (by rw [lines]; simpa using open_), feedLines_flatten]
      rw [kept]
      rw [lines] at tame seamless ends
      rw [trimmedLines_open whole filled] at ends'
      have tame := tame a (List.mem_singleton.mpr rfl)
      have line := oneLine_open whole
      by_cases gone : trim width a = []
      · obtain ⟨b, blank, split⟩ := trim_split tame.fits line
        rw [gone, List.append_nil] at split
        rw [gone] at ends'
        exact ⟨blank_alike alike same (split ▸ blank) ends ends', .blank whole filled tame gone⟩
      · rw [List.filter_cons_of_pos (by simpa using gone), List.filter_nil] at ends'
        obtain ⟨line', settled, close, steps⟩ :=
          tame.alike line gone alike (isSeamless_margin seamless) ends clean ends'
        rcases steps with ⟨st₁, st₁', step, step', alike'⟩ | ⟨st₁, st₁', step, step', alike'⟩
        · rw [scanFrom_next step] at ends
          rw [scanFrom_next step'] at ends'
          exact ⟨close_alike alike' close ends ends', .open whole filled tame gone settled (.keep step' line' .done)⟩
        · rw [scanFrom, step] at ends
          rw [scanFrom, step'] at ends'
          cases ends
          cases ends'
          exact ⟨scanEnd_alike alike' same, .open whole filled tame gone settled (.last step')⟩
  | line a r whole ih =>
      have line := oneLine_feed whole
      rw [feedLines_cons whole] at tame seamless ends ⊢
      obtain ⟨tame, others⟩ := List.forall_mem_cons.mp tame
      rw [trimmedLines_cons whole tame.fits] at ends'
      obtain ⟨line', settled, close, steps⟩ :=
        tame.alike line (trim_filled tame.fits) alike (isSeamless_margin seamless) ends clean ends'
      rcases steps with ⟨st₁, st₁', step, step', alike'⟩ | ⟨st₁, st₁', step, step', alike'⟩
      · have known := scanFrom_clean step ends clean
        rw [scanFrom_next step] at ends
        rw [scanFrom_next step'] at ends'
        obtain ⟨rest, seam⟩ := isSeamless_next seamless step
        have calm' := scanLine_calm line' calm step'
        obtain ⟨same', joins⟩ := ih (fun within => back (by simp [within])) others rest alike' calm' close ends ends'
        refine ⟨same', ?_⟩
        by_cases dropped : (endsWith ['\\', '\n'] (a ++ ['\n']) && drops row) = true
        · have both := (Bool.and_eq_true _ _).mp dropped
          obtain ⟨p, rfl⟩ := List.getLast?_eq_some_iff.mp ((joint_iff a).mp both.1)
          have jointed : p ++ ['\\'] ++ ['\n'] = p ++ joint := by simp [joint]
          rw [withoutJoints, if_pos dropped, take_joint, List.dropLast_concat]
          rw [jointed] at tame step'
          exact joins.seam (fun within => whole (by simp [within])) (fun within => back (by simp [within])) tame
            (seam p jointed both.2) alike' calm step' known ends'
        · rw [withoutJoints, if_neg dropped, List.append_assoc]
          exact joins.keep whole tame line' settled step'
      · -- a line feed is no blank
        have all := (scanLine_last step).2.2
        exact absurd (all '\n' (by simp)) (by decide)

end Source

end Patchwork
