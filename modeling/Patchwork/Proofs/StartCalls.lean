import Patchwork.Hook.Wrap
import Patchwork.Proofs.Reading

/-!
Callbacks that start the host. What makes such a callback is read off the text in one way, up to where the quoted argument
ends; there the earliest end is taken. The pattern does just that.
-/

namespace Patchwork

open Text Pattern

/-! ## Calls that start the host -/

/-- What a name begins with: a letter of ASCII or an underscore. -/
def isNameStart (c : Char) : Bool :=
  ('A' ≤ c && c ≤ 'Z') || ('a' ≤ c && c ≤ 'z') || c == '_'

def isQuote (c : Char) : Bool :=
  c == '"' || c == '\''

/-- What makes a value of a call: `return`, or `lambda` up to its colon. -/
def IsLead (s : List Char) : Prop :=
  s = "return".toList ∨ ∃ params, ':' ∉ params ∧ s = "lambda".toList ++ (params ++ [':'])

/-- A call of a name, up to the quote that its argument begins with. -/
def IsOpening (s : List Char) : Prop :=
  ∃ lead blanks first name quote, IsLead lead ∧ (∀ c ∈ blanks, isWhite c) ∧ isNameStart first ∧ (∀ c ∈ name, isWord c) ∧
    isQuote quote ∧ s = lead ++ (blanks ++ first :: (name ++ ['(', quote]))

/-- A call with one quoted argument, which is not empty and on one line. -/
def IsStartCall (s : List Char) : Prop :=
  ∃ opening quoted quote, IsOpening opening ∧ quoted ≠ [] ∧ '\n' ∉ quoted ∧ isQuote quote ∧
    s = opening ++ (quoted ++ [quote, ')'])

/-! ## Reading them -/

/-- What stands behind a lead. -/
def afterLead? (s : List Char) : Option (List Char) :=
  (after? "return".toList s).or
    ((after? "lambda".toList s).bind fun r => after? [':'] (r.dropWhile (· != ':')))

/-- What stands behind an opening. -/
def afterOpening? (s : List Char) : Option (List Char) :=
  (afterLead? s).bind fun r =>
    readChar isNameStart (fun q => (after? ['('] (q.dropWhile isWord)).bind (readChar isQuote some)) (r.dropWhile isWhite)

def readClosing : List Char → Option (List Char) :=
  readChar isQuote (after? [')'])

/-- What stands behind the shortest call that a text begins with. -/
def afterCall? (s : List Char) : Option (List Char) :=
  (afterOpening? s).bind (readChar (· != '\n') (readEarliest (· != '\n') readClosing))

variable {s r : List Char}

theorem dropWhile_stop {p : Char → Bool} {a : List Char} {c : Char} (all : ∀ d ∈ a, p d) (stop : p c = false) (r : List Char) :
    (a ++ c :: r).dropWhile p = c :: r := by
  rw [List.dropWhile_append_of_pos all, List.dropWhile_cons_of_neg (by simp [stop])]

theorem afterLead_eq_some : afterLead? s = some r ↔ ∃ lead, IsLead lead ∧ s = lead ++ r := by
  rw [afterLead?, Option.or_eq_some_iff, after?_eq_some]
  constructor
  · rintro (rfl | ⟨-, found⟩)
    · exact ⟨_, .inl rfl, rfl⟩
    · obtain ⟨q, lambda, colon⟩ := Option.bind_eq_some_iff.mp found
      rw [after?_eq_some] at lambda colon
      refine ⟨_, .inr ⟨q.takeWhile (· != ':'), ?_, rfl⟩, ?_⟩
      · intro here
        simpa using List.all_eq_true.mp List.all_takeWhile _ here
      · rw [lambda, List.append_assoc, List.append_assoc, ← colon, List.takeWhile_append_dropWhile]
  · rintro ⟨lead, rfl | ⟨params, plain, rfl⟩, rfl⟩
    · exact .inl rfl
    · refine .inr ⟨by rfl, Option.bind_eq_some_iff.mpr ⟨params ++ ':' :: r, ?_, ?_⟩⟩
      · rw [after?_eq_some]
        simp
      · have stop : (params ++ ':' :: r).dropWhile (· != ':') = ':' :: r :=
          dropWhile_stop (fun d here => bne_iff_ne.mpr (ne_of_mem_of_not_mem here plain)) (by decide) r
        rw [stop]
        rfl

theorem isNameStart_bounds {c : Char} (start : isNameStart c) :
    65 ≤ c.toNat ∧ c.toNat ≤ 90 ∨ 97 ≤ c.toNat ∧ c.toNat ≤ 122 ∨ c.toNat = 95 := by
  simp only [isNameStart, Bool.or_eq_true, Bool.and_eq_true, decide_eq_true_eq, beq_iff_eq, Char.le_def,
    UInt32.le_iff_toNat_le] at start
  obtain (upper | lower) | rfl := start
  · exact .inl upper
  · exact .inr (.inl lower)
  · exact .inr (.inr rfl)

theorem isWhite_nameStart {c : Char} (start : isNameStart c) : isWhite c = false := by
  have bounds := isNameStart_bounds start
  simp only [isWhite, Bool.or_eq_false_iff, Bool.and_eq_false_iff, decide_eq_false_iff_not, beq_eq_false_iff_ne]
  omega

theorem afterOpening_eq_some : afterOpening? s = some r ↔ ∃ opening, IsOpening opening ∧ s = opening ++ r := by
  simp only [afterOpening?, Option.bind_eq_some_iff, readChar_eq_some, after?_eq_some]
  constructor
  · rintro ⟨q, behind, first, q', named, start, rest, called, quote, rest, rfl, quoting, found⟩
    cases found
    obtain ⟨lead, isLead, rfl⟩ := afterLead_eq_some.mp behind
    refine ⟨_, ⟨lead, q.takeWhile isWhite, first, q'.takeWhile isWord, quote, isLead, List.all_eq_true.mp List.all_takeWhile,
      start, List.all_eq_true.mp List.all_takeWhile, quoting, rfl⟩, ?_⟩
    have blanks := List.takeWhile_append_dropWhile (p := isWhite) (l := q)
    have name := List.takeWhile_append_dropWhile (p := isWord) (l := q')
    rw [named] at blanks
    rw [called, List.singleton_append] at name
    simp only [List.append_assoc, List.cons_append, List.nil_append, name, blanks]
  · rintro ⟨_, ⟨lead, blanks, first, name, quote, isLead, white, start, word, quoting, rfl⟩, rfl⟩
    refine ⟨blanks ++ first :: (name ++ '(' :: quote :: r), afterLead_eq_some.mpr ⟨lead, isLead, by simp⟩, first,
      name ++ '(' :: quote :: r, dropWhile_stop white (isWhite_nameStart start) _, start, quote :: r,
      dropWhile_stop word (by decide) _, quote, r, rfl, quoting, rfl⟩

theorem readClosing_eq_some : readClosing s = some r ↔ ∃ quote, isQuote quote ∧ s = quote :: ')' :: r := by
  simp [readClosing, readChar_eq_some, after?_eq_some, and_comm]

/-- A text on one line that a quote and a parenthesis follow, and what stands behind them. -/
abbrev Closes (s quoted r : List Char) : Prop :=
  Passes (· != '\n') readClosing s quoted r

theorem Closes.length {quoted : List Char} (closes : Closes s quoted r) : s.length = quoted.length + 2 + r.length := by
  obtain ⟨-, q, rfl, reads⟩ := closes
  obtain ⟨quote, -, rfl⟩ := readClosing_eq_some.mp reads
  simp only [List.length_append, List.length_cons]
  omega

/-- A call is an opening with a closing behind it. -/
theorem IsStartCall.parts {call : List Char} (starts : IsStartCall call) (r : List Char) :
    ∃ c rest more, afterOpening? (call ++ r) = some (c :: rest) ∧ c ≠ '\n' ∧ Closes rest more r := by
  obtain ⟨opening, quoted, quote, opens, filled, line, quoting, rfl⟩ := starts
  cases quoted with
  | nil => exact absurd rfl filled
  | cons c more =>
      rw [List.mem_cons, not_or] at line
      have plain (d : Char) (here : d ∈ more) : d != '\n' := bne_iff_ne.mpr (ne_of_mem_of_not_mem here line.2)
      exact ⟨c, more ++ quote :: ')' :: r, more, afterOpening_eq_some.mpr ⟨opening, opens, by simp⟩, Ne.symm line.1, plain,
        quote :: ')' :: r, rfl, readClosing_eq_some.mpr ⟨quote, quoting, rfl⟩⟩

theorem afterCall_some (found : afterCall? s = some r) :
    ∃ call, IsStartCall call ∧ s = call ++ r ∧ ∀ call' r', IsStartCall call' → s = call' ++ r' → call.length ≤ call'.length := by
  obtain ⟨_, opened, found⟩ := Option.bind_eq_some_iff.mp found
  obtain ⟨c, rest, rfl, other, found⟩ := readChar_eq_some.mp found
  obtain ⟨more, closes, least⟩ := readEarliest_some found
  have size := Closes.length closes
  obtain ⟨opening, opens, rfl⟩ := afterOpening_eq_some.mp opened
  obtain ⟨plain, q, rfl, reads⟩ := closes
  obtain ⟨quote, quoting, rfl⟩ := readClosing_eq_some.mp reads
  have line : '\n' ∉ c :: more := by
    refine List.not_mem_cons_of_ne_of_not_mem (Ne.symm (bne_iff_ne.mp other)) fun here => ?_
    exact absurd (plain _ here) (by decide)
  refine ⟨opening ++ (c :: more ++ [quote, ')']), ⟨opening, c :: more, quote, opens, List.cons_ne_nil c more, line, quoting, rfl⟩,
    by simp, fun call' r' starts eq => ?_⟩
  obtain ⟨c', rest', more', opened', -, closes'⟩ := starts.parts r'
  rw [← eq, opened] at opened'
  cases opened'
  have shorter := least more' r' closes'
  -- The rests are compared, since both calls open alike.
  have size' := Closes.length closes'
  have whole := congrArg List.length eq
  simp only [List.length_append, List.length_cons, List.length_nil] at size size' whole ⊢
  omega

theorem afterCall_none (none : afterCall? s = none) {call : List Char} (starts : IsStartCall call) (r : List Char) :
    s ≠ call ++ r := by
  rintro rfl
  obtain ⟨c, rest, more, opened, other, closes⟩ := starts.parts r
  rw [afterCall?, opened, Option.bind_some, readChar, if_pos (bne_iff_ne.mpr other)] at none
  exact readEarliest_none none more r closes

/-! ## The pattern -/

def nameStarts : CharSet :=
  .union (.range 'A' 'Z') (.union (.range 'a' 'z') (.single '_'))

def quotes : CharSet :=
  .union (.single '"') (.single '\'')

def notColon : CharSet :=
  .complement (.single ':')

def whites : CharSet :=
  .category .space .newest

def wordChars : CharSet :=
  .category .word .newest

def paramNodes : List Node :=
  [.times 0 none .greedy (.set notColon .exact), .char ':' .exact]

/-- What matches a lead. -/
def leadNode : Node :=
  .alt (.literal "return".toList) (.ofList ("lambda".toList.map (.char · .exact) ++ paramNodes))

/-- What matches a call behind its lead. -/
def calleeNode : Node :=
  .seq (.times 0 none .greedy (.set whites .exact)) <| .seq (.set nameStarts .exact) <|
    .seq (.times 0 none .greedy (.set wordChars .exact)) <| .seq (.char '(' .exact) <| .seq (.set quotes .exact) <|
    .seq (.times 1 none .lazy (.notBreak .feed)) <| .seq (.set quotes .exact) (.char ')' .exact)

theorem holds_nameStarts : nameStarts.holds = isNameStart := by
  funext c
  rw [Bool.eq_iff_iff]
  simp [nameStarts, CharSet.holds, CharSet.holdsAny, isNameStart, or_assoc, eq_comm (a := c)]

theorem holds_quotes : quotes.holds = isQuote := by
  funext c
  rw [Bool.eq_iff_iff]
  simp [quotes, CharSet.holds, CharSet.holdsAny, isQuote, eq_comm (a := c)]

theorem holds_notColon : notColon.holds = (· != ':') := by
  funext c
  rw [Bool.eq_iff_iff]
  simp [notColon, CharSet.holds, CharSet.holdsAny, eq_comm (a := c)]

theorem holds_whites : whites.holds = isWhite :=
  funext fun _ => Bool.or_false _

theorem holds_wordChars : wordChars.holds = isWord :=
  funext fun _ => Bool.or_false _

/-! ## Reading by the pattern -/

def readQuoted : List Char → Option (List Char) :=
  readChar isQuote <| readChar (· != '\n') <| readEarliest (· != '\n') readClosing

/-- A call behind its lead. -/
def readCallee (s : List Char) : Option (List Char) :=
  readChar isNameStart (fun q => (after? ['('] (q.dropWhile isWord)).bind readQuoted) (s.dropWhile isWhite)

theorem after?_other {c d : Char} (other : c ≠ d) (r : List Char) : after? [c] (d :: r) = none :=
  if_neg other

theorem afterLead_bind (g : List Char → Option (List Char)) (s : List Char) :
    ((after? "return".toList s).bind g).or
      ((after? "lambda".toList s).bind fun r => (after? [':'] (r.dropWhile (· != ':'))).bind g) = (afterLead? s).bind g := by
  rw [afterLead?]
  -- Only one of the two leads can be there.
  cases returns : after? "return".toList s with
  | none => rw [Option.bind_none, Option.none_or, Option.none_or, Option.bind_assoc]
  | some r =>
      obtain rfl := after?_eq_some.mp returns
      exact Option.or_none

section Run

variable (call : Nat → Bool → Option Limits → Rest → Rest) {scene : Scene} {t : Cursor} {next : Rest}
  {g : List Char → Option (List Char)}

theorem Pattern.Reads.lead (moving : scene.rule = .whileMoving) (reads : Reads scene t next g) :
    Reads scene t (scene.run call false none leadNode next) fun s => (afterLead? s).bind g := by
  have barred (c : Char) (r : List Char) (other : c != ':') : (after? [':'] (c :: r)).bind g = none := by
    rw [after?_other (Ne.symm (bne_iff_ne.mp other))]
    rfl
  have params : Reads scene t (scene.run call false none (.ofList paramNodes) next)
      fun r => (after? [':'] (r.dropWhile (· != ':'))).bind g :=
    (reads.literal call [':']).greedy call moving holds_notColon barred
  have lambda := params.literal call "lambda".toList
  rw [Node.literal, ← run_ofList_append] at lambda
  have either := (reads.literal call "return".toList).alt call lambda
  simp only [afterLead_bind] at either
  exact either

theorem reads_callee (moving : scene.rule = .whileMoving) :
    Reads scene t (scene.run call false none calleeNode .found) readCallee := by
  have found : Reads scene t .found some := fun s _ => rfl
  have closing := (found.literal call [')']).set call holds_quotes
  simp only [Option.bind_fun_some] at closing
  have quoted := (closing.lazyLine call moving).set call holds_quotes
  have unworded (c : Char) (r : List Char) (word : isWord c) : (after? ['('] (c :: r)).bind readQuoted = none := by
    rw [after?_other]
    · rfl
    · rintro rfl
      exact absurd word (by decide)
  have called := (quoted.literal call ['(']).greedy call moving holds_wordChars unworded
  have named := called.set call holds_nameStarts
  refine named.greedy call moving holds_whites fun c r white => if_neg fun start => ?_
  exact absurd white (by simp [isWhite_nameStart start])

end Run

theorem readCallee_lead (s : List Char) : (afterLead? s).bind readCallee = afterCall? s := by
  rw [afterCall?, afterOpening?, Option.bind_assoc]
  refine congrArg _ (funext fun r => ?_)
  simp only [readCallee, readQuoted, readChar_bind, Option.bind_assoc, Option.bind_some]

/-- The pattern, with its shorthand expanded. -/
theorem startPattern_program :
    startPattern.program.root = .seq leadNode calleeNode ∧ startPattern.program.rule = .whileMoving ∧
      startPattern.program.backward = false ∧ startPattern.program.longest = false ∧ startPattern.program.best = false ∧
      startPattern.program.enhanced = false := by
  decide +kernel

theorem startPattern_performs : startPattern.program.Performs afterCall? := by
  obtain ⟨root, rule, onward, short, best, enhanced⟩ := startPattern_program
  refine ⟨onward, short, ⟨best, enhanced⟩, fun call scene t same => ?_, fun s r found => ?_⟩
  · have moving : scene.rule = .whileMoving := same.trans rule
    have whole := (reads_callee (t := t) call moving).lead call moving
    simp only [readCallee_lead] at whole
    rw [root]
    exact whole
  · obtain ⟨call, -, rfl, -⟩ := afterCall_some found
    simp

/-- The search for a call that starts the host finds one exactly if there is one: the first, up to where it can end earliest. -/
theorem startPattern_search (text : List Char) :
    ((startPattern.search? text).isSome ↔ ∃ form, IsStartCall form ∧ form <:+: text) ∧
      ∀ m, startPattern.search? text = some m →
        IsLeast {i | ∃ form, IsStartCall form ∧ form <+: text.drop i} m.start ∧
          IsLeast {j | ∃ form, IsStartCall form ∧ form <+: text.drop m.start ∧ j = m.start + form.length} m.stop := by
  rw [Pattern.search?]
  obtain ⟨i, r, found, reads, gone⟩ | ⟨missed, gone⟩ := startPattern_performs.search text
  · -- What is read first is a shortest call, and before it there is none.
    obtain ⟨call, starts, here, least⟩ := afterCall_some reads
    have behind : call <+: text.drop i := ⟨r, here.symm⟩
    have inside : i < text.length := by
      refine Nat.lt_of_not_le fun beyond => ?_
      rw [List.drop_eq_nil_of_le beyond] at reads
      cases reads
    have size := congrArg List.length here
    rw [List.length_drop, List.length_append] at size
    rw [found]
    refine ⟨iff_of_true rfl ⟨call, starts, behind.isInfix.trans (List.drop_suffix i text).isInfix⟩, fun m eq => ?_⟩
    cases eq
    refine ⟨⟨⟨call, starts, behind⟩, ?_⟩, ⟨call, starts, behind, ?_⟩, ?_⟩
    · rintro j ⟨form, form_starts, ⟨rest, eq⟩⟩
      exact Nat.le_of_not_lt fun before => afterCall_none (gone j before) form_starts rest eq.symm
    · change text.length - r.length = i + call.length
      omega
    · rintro _ ⟨form, form_starts, ⟨rest, eq⟩, rfl⟩
      have shorter := least form rest form_starts eq.symm
      change text.length - r.length ≤ i + form.length
      omega
  · rw [missed]
    refine ⟨iff_of_false Bool.false_ne_true ?_, fun _ eq => by cases eq⟩
    rintro ⟨form, starts, front, rest, rfl⟩
    have place : front.length ≤ (front ++ form ++ rest).length := by simp
    refine afterCall_none (gone front.length place) starts rest ?_
    rw [List.append_assoc, List.drop_left]

end Patchwork
