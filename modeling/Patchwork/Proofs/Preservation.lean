import Patchwork.Proofs.Readers
import Patchwork.Proofs.Words

/-!
What the default policy keeps of a text. A text is seamless if its quotes have no margin to lose and its joints that go are
seams, next to a blank or a bracket. Its program comes out with the same tokens, words and statements; that of other texts
need not.
-/

namespace Patchwork

open Run Script Source Text

namespace Script

variable {row n : Nat} {st : Scanner} {l p x : List Char} {ls ls' : List (List Char)} {w : Nat → Nat}

/-! ## Lines that are no joints -/

theorem isJointLine_blanks {b : List Char} (blank : Blank b) (x : List Char) : isJointLine (b ++ x) = isJointLine x := by
  rw [isJointLine, List.dropWhile_append_of_pos blank, isJointLine]

theorem isJointLine_ahead (h : Ahead p) (filled : ¬ Blank p) (x : List Char) : isJointLine (p ++ x) = false := by
  have split : p.takeWhile isLineBlank ++ p.dropWhile isLineBlank = p := List.takeWhile_append_dropWhile
  have some_ : p.dropWhile isLineBlank ≠ [] := fun none => filled fun c hc => by
    rw [none, List.append_nil] at split
    rw [← split] at hc
    exact List.all_eq_true.mp List.all_takeWhile c hc
  obtain ⟨c, t, rest⟩ := List.exists_cons_of_ne_nil some_
  rw [isJointLine, List.dropWhile_append, rest, List.isEmpty_cons, if_neg Bool.false_ne_true, beq_eq_false_iff_ne]
  intro same
  obtain ⟨rfl, tail⟩ := List.cons.inj same
  cases t with
  | nil => exact h.last (by rw [← split, rest, List.getLast?_concat])
  | cons d t =>
      obtain ⟨rfl, -⟩ := List.cons.inj tail
      exact h.feed (split ▸ rest ▸ by simp)

theorem Folds.texts (h : Folds row st ls ls') (texts : ∀ l ∈ ls, isJointLine l = false) :
    ∀ l ∈ ls', isJointLine l = false := by
  induction h with
  | done => exact texts
  | last step => exact texts
  | keep step line rest ih =>
      obtain ⟨first, others⟩ := List.forall_mem_cons.mp texts
      exact List.forall_mem_cons.mpr ⟨first, ih others⟩
  | join step shut comments ahead filled blank apart ended rest ih =>
      have others := ih (List.forall_mem_cons.mp texts).2
      exact List.forall_mem_cons.mpr ⟨isJointLine_ahead ahead filled _, (List.forall_mem_cons.mp others).2⟩

/-- Statements stand as far in as their lines if no line is a joint. -/
theorem leadWidth_text (texts : ∀ l ∈ ls, isJointLine l = false) (row : Nat) :
    leadWidth ls.toArray (row + 1) = narrowWidth (ls[row]?.getD []) := by
  have text (row : Nat) : isJointLine (ls[row]?.getD []) = false := by
    cases here : ls[row]? with
    | none => rfl
    | some l => exact texts l (List.mem_of_getElem? here)
  cases row with
  | zero => simp [leadWidth, text]
  | succ row =>
      rw [leadWidth]
      simp [text]

theorem rows_of_leads (leads : ∀ n l, ls[n]? = some l → w (row + n) = narrowWidth l) : Rows w row ls := by
  induction ls generalizing row with
  | nil => trivial
  | cons l ls ih =>
      refine ⟨leads 0 l rfl, ih fun n l there => ?_⟩
      rw [Nat.add_assoc, Nat.add_comm 1]
      exact leads (n + 1) l there

theorem rows_text (texts : ∀ l ∈ ls, isJointLine l = false) : Rows (leadWidth ls.toArray) 1 ls := by
  refine rows_of_leads fun n l there => ?_
  rw [Nat.add_comm, leadWidth_text texts, there, Option.getD_some]

end Script

/-! ## Seamless texts -/

namespace Source

variable {s t : List Char} {comments : List Nat} {fin' : Scanner}

/-- The rows whose joints go when a text is joined. -/
def drops (s : List Char) (comments : List Nat) (row : Nat) : Bool :=
  !comments.contains (wideRow s row)

/-- A text that can be joined and dedented between its tokens. -/
structure Seamless (s : List Char) (comments : List Nat) : Prop where
  /-- Each character belongs to a token that is known. -/
  known : ∀ t ∈ (scan (feedLines s)).1, t.kind ≠ .stray
  /-- The last line is ended, unless no line starts like a comment. -/
  ended : s.getLast? = some '\n' ∨ ∀ l ∈ feedLines s, isRemark l = false
  /-- No line holds a joint only. -/
  texts : ∀ l ∈ feedLines s, isJointLine l = false
  /-- Joining leaves the margin as it is. -/
  margin : (margin (clearLines (withoutJoints (drops s comments) 1 (feedLines s)))).length = (margin (clearLines s)).length
  /-- No line in a quote has a margin to lose, and joints that go are seams. -/
  seams : isSeamless (Text.margin (clearLines s)).length (drops s comments) 1 .start (feedLines s) = true

theorem feedLines_dedent (s : List Char) : feedLines (dedent s) = trimmedLines (Text.margin (clearLines s)).length s := by
  rw [dedent_eq, Trims.lines fun line => dedented_trims]
  rfl

theorem feedLines_ended (h : s.getLast? = some '\n') : ∀ l ∈ feedLines s, l.getLast? = some '\n' := by
  induction s using feed_induction with
  | empty => cases h
  | last a filled whole => exact absurd (List.mem_of_getLast? h) whole
  | line a r whole ih =>
      rw [feedLines_cons whole]
      refine List.forall_mem_cons.mpr ⟨by simp, ?_⟩
      by_cases none : r = []
      · rw [none]
        exact fun l hl => absurd hl List.not_mem_nil
      · refine ih ?_
        have last := getLast?_behind (a ++ ['\n']) none
        rw [List.append_assoc, List.singleton_append, h] at last
        exact last.symm

theorem Seamless.settles (h : Seamless s comments) : ∃ ended, ∀ l ∈ feedLines s, Settles ended l := by
  rcases h.ended with last | none
  · exact ⟨true, feedLines_ended last⟩
  · exact ⟨false, none⟩

/-- Joining and dedenting a seamless text does nothing to its tokens that dedenting it does not. -/
theorem Seamless.scanned (h : Seamless s comments) (back : '\r' ∉ s) (rows : commentRows? s = some comments)
    (ends' : scanFrom 1 [] .start (feedLines (dedent s)) = (fin', .complete)) :
    ∃ fin fin₂ t, scanFrom 1 [] .start (feedLines s) = (fin, .complete) ∧ joined? s = some t ∧
      scanFrom 1 [] .start (feedLines (dedent t)) = (fin₂, .complete) ∧ Alike fin fin' ∧ fin'.Clean ∧ fin₂.Clean ∧
      marks (leadWidth (feedLines (dedent s)).toArray) fin'.tokens =
        marks (leadWidth (feedLines (dedent t)).toArray) fin₂.tokens := by
  have whole : (scan (feedLines s)).2 = .complete := by
    rw [commentRows?] at rows
    split at rows
    · next tokens scanned => rw [scanned]
    · cases rows
  have ends : scanFrom 1 [] .start (feedLines s) = ((scanFrom 1 [] .start (feedLines s)).1, .complete) :=
    Prod.ext rfl whole
  have clean : (scanFrom 1 [] .start (feedLines s)).1.Clean := fun t ht => h.known t (List.mem_reverse.mpr ht)
  have calm : Scanner.start.Calm := fun _ => rfl
  obtain ⟨ended, settles⟩ := h.settles
  have tame : ∀ l ∈ feedLines s, Tame (Text.margin (clearLines s)).length ended l := fun l hl =>
    ⟨margin_fits (List.mem_map_of_mem hl), settles l hl, h.texts l hl⟩
  rw [feedLines_dedent] at ends'
  obtain ⟨alike, joins⟩ := Source.seams s back tame h.seams (.refl _) calm rfl ends clean ends'
  have clean' := alike.clean clean
  have joined := joined?_rows rows
  change joined? s = some (withoutJoints (drops s comments) 1 (feedLines s)) at joined
  have texts : ∀ l ∈ trimmedLines (Text.margin (clearLines s)).length s, isJointLine l = false := by
    intro l hl
    obtain ⟨line, within, rfl⟩ := List.mem_map.mp (List.mem_filter.mp hl).1
    have one : OneLine line := by
      obtain ⟨a, whole, rfl | rfl⟩ := feedLines_mem within
      · exact oneLine_feed whole
      · exact oneLine_open whole
    obtain ⟨b, blank, split⟩ := trim_split (tame line within).fits one
    rw [← isJointLine_blanks blank, ← split]
    exact h.texts line within
  have lines' : feedLines (dedent (withoutJoints (drops s comments) 1 (feedLines s))) =
      trimmedLines (Text.margin (clearLines s)).length (withoutJoints (drops s comments) 1 (feedLines s)) := by
    rw [feedLines_dedent, h.margin]
  obtain ⟨fin₂, ends₂, twin⟩ :=
    joins.folds.follows.1 (.start _ _) calm (rows_text texts) (rows_text (joins.folds.texts texts)) rfl fin' ends' clean'
  refine ⟨_, fin₂, _, ends, joined, ?_, alike, clean', twin.clean clean', ?_⟩
  · rw [lines', ends₂]
  · rw [lines', feedLines_dedent]
    exact twin.tokens

/-! ## What tokens are -/

/-- What the tokens of a text are, in kind and text, if it can be scanned. -/
def readings? (s : List Char) : Option (List (TokenKind × List Char)) :=
  match scan (feedLines s) with
  | (tokens, .complete) => some (tokens.map Token.reading)
  | _ => none

/-- What does not open or close a block. -/
def isContent (r : TokenKind × List Char) : Bool :=
  r.1 != .indent && r.1 != .dedent

theorem readings?_scanned {st : Scanner} (ends : scanFrom 1 [] .start (feedLines s) = (st, .complete)) :
    readings? s = some (st.tokens.map Token.reading).reverse := by
  rw [readings?, scan, ends, ← List.map_reverse]

theorem contents_readings (ts : List Token) :
    (contents ts).map (fun c => (c.1, c.2.1)) = (ts.map Token.reading).filter isContent := by
  rw [contents, List.map_map, List.filter_map]
  rfl

theorem alike_readings {st st' : Scanner} (h : Alike st st') :
    (st.tokens.map Token.reading).filter isContent = (st'.tokens.map Token.reading).filter isContent := by
  rw [← contents_readings, h.tokens, contents_readings]

theorem words?_scanned {ws : List Word} (back : '\r' ∉ s) (h : words? s = some ws) :
    ∃ st, scanFrom 1 [] .start (feedLines s) = (st, .complete) := by
  rw [words?, unixEnds_plain back, scan] at h
  generalize scanFrom 1 [] .start (feedLines s) = scanned at h
  obtain ⟨st, outcome⟩ := scanned
  cases outcome with
  | complete => exact ⟨st, rfl⟩
  | _ => cases h

theorem joined?_none (h : commentRows? s = none) : joined? s = none := by
  rw [joined?, h, Option.map_none]

theorem readings?_none (h : commentRows? s = none) : readings? s = none := by
  rw [commentRows?] at h
  rw [readings?]
  generalize scan (feedLines s) = scanned at h ⊢
  obtain ⟨tokens, outcome⟩ := scanned
  cases outcome with
  | complete => cases h
  | _ => rfl

theorem words?_of_compile {body : List Stmt} (h : compile? s = some body) : ∃ ws, words? s = some ws := by
  rw [compile?, parse?_eq] at h
  cases found : words? s with
  | none =>
      rw [found] at h
      cases h
  | some ws => exact ⟨ws, rfl⟩

/-- One text has the tokens, the words and the statements of another one, in other rows. -/
structure SameProgram (t d : List Char) : Prop where
  tokens : ∃ rs, readings? t = some rs ∧ readings? d = some rs
  words : ∃ ws ws', words? t = some ws ∧ words? d = some ws' ∧ ws.map Word.unplaced = ws'.map Word.unplaced
  body : ∃ ss ss', compile? t = some ss ∧ compile? d = some ss' ∧ stmtsUnplaced ss = stmtsUnplaced ss'

/-- The tokens and the words of a text that compiles tell whether another one does. -/
theorem SameProgram.of_words {d : List Char} {rs : List (TokenKind × List Char)} {body : List Stmt}
    (compiles : compile? d = some body) (here : readings? t = some rs) (there : readings? d = some rs)
    (same : (words? t).map (·.map Word.unplaced) = (words? d).map (·.map Word.unplaced)) : SameProgram t d where
  tokens := ⟨rs, here, there⟩
  words := by
    obtain ⟨ws', found⟩ := words?_of_compile compiles
    rw [found] at same
    cases known : words? t with
    | none =>
        rw [known] at same
        cases same
    | some ws =>
        rw [known] at same
        exact ⟨ws, ws', rfl, found, Option.some.inj same⟩
  body := by
    have bare : (words? t).map (·.map Word.bare) = (words? d).map (·.map Word.bare) := by
      have twice (ws : List Word) : ws.map Word.bare = (ws.map Word.unplaced).map Word.bare := by
        rw [List.map_map]
        rfl
      have bares := congrArg (Option.map (·.map Word.bare)) same
      simpa only [Option.map_map, Function.comp_def, ← twice] using bares
    have read := compile?_words bare
    rw [compiles] at read
    cases known : compile? t with
    | none =>
        rw [known] at read
        cases read
    | some ss =>
        rw [known] at read
        exact ⟨ss, body, rfl, compiles, Option.some.inj read⟩

/-- The shape of a text keeps the program, if the text is seamless or cannot be joined. -/
theorem shape_keeps (back : '\r' ∉ s) {body : List Stmt} (compiles : compile? (dedent s) = some body)
    (seamless : ∀ comments, commentRows? s = some comments → Seamless s comments) :
    SameProgram (Policy.standard.shape s) (dedent s) ∧
      ∀ rs₀, readings? s = some rs₀ →
        (readings? (Policy.standard.shape s)).map (·.filter isContent) = some (rs₀.filter isContent) := by
  have back' : '\r' ∉ dedent s := fun within => back ((dedent_sublist s).subset within)
  obtain ⟨ws, words⟩ := words?_of_compile compiles
  obtain ⟨fin', ends'⟩ := words?_scanned back' words
  have there := readings?_scanned ends'
  cases rows : commentRows? s with
  | none =>
      have same : Policy.standard.shape s = dedent s := by
        rw [Policy.shape, joined?_none rows]
        rfl
      rw [same]
      refine ⟨.of_words compiles there there rfl, fun rs₀ known => ?_⟩
      rw [readings?_none rows] at known
      cases known
  | some comments =>
      obtain ⟨fin, fin₂, t, ends, joined, ends₂, alike, clean', clean₂, same⟩ :=
        (seamless comments rows).scanned back rows ends'
      have shape : Policy.standard.shape s = dedent t := by
        rw [Policy.shape, joined]
        rfl
      have returnless : '\r' ∉ dedent t := fun within =>
        back ((joined?_sublist joined).subset ((dedent_sublist t).subset within))
      have here := readings?_scanned ends₂
      rw [← marks_readings same] at here
      rw [shape]
      refine ⟨.of_words compiles here there (Eq.symm ?_), fun rs₀ known => ?_⟩
      · exact words?_marks (by rwa [unixEnds_plain back']) clean' (by rwa [unixEnds_plain returnless]) clean₂
          (by rwa [unixEnds_plain back', unixEnds_plain returnless])
      · rw [readings?_scanned ends] at known
        cases known
        rw [here, Option.map_some, List.filter_reverse, List.filter_reverse, alike_readings alike]

end Source

section

variable {κ : Type} {R : World κ → World κ → Prop} [Still R]

/-- A method with a joint between its tokens, and with a margin. -/
def methodText : String :=
  "  def f(m):\r\n    return m + \\\r\n      1\r\n"

def methodOnce : String :=
  "def f(m):\n  return m +       1\n"

/-- The texts that the literals of a script stand for. -/
def literals (s : List Char) : List String :=
  ((words? s).getD []).filterMap fun w => match w.literal with
    | .str t => some t
    | _ => none

/-- Has a joint in a quote in which backslashes stand for themselves. -/
def rawText : String :=
  "def f():\n  return r'''a\\\nb'''\n"

def rawOnce : String :=
  "def f():\n  return r'''ab'''\n"

/-- Has a quote with a line that is indented. -/
def insetText : String :=
  "  def f():\n    return '''a\n  b'''\n"

def insetOnce : String :=
  "def f():\n  return '''a\nb'''\n"

/-- Has a joint without a blank between two words. -/
def tightText : String :=
  "def f(m):\n  return\\\nm\n"

def tightOnce : String :=
  "def f(m):\n  returnm\n"

end

end Patchwork
