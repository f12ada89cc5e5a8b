import Patchwork.Proofs.Introspection
import Patchwork.Proofs.Joints

/-!
The label above a text that is compiled. It is a comment on a line of its own as long as nothing in it ends a line, and
then the words behind it are the same under every label.
-/

namespace Patchwork

open Run Script Text

/-! ## Scanning behind other tokens -/

namespace Script

variable {ts : List Token}

/-- A scan that has read other tokens before. -/
def Scanner.behind (st : Scanner) (ts : List Token) : Scanner :=
  { st with tokens := st.tokens ++ ts }

namespace Scanner

variable (st : Scanner)

@[simp] theorem behind_indents : (st.behind ts).indents = st.indents :=
  rfl

@[simp] theorem behind_depth : (st.behind ts).depth = st.depth :=
  rfl

@[simp] theorem behind_continued : (st.behind ts).continued = st.continued :=
  rfl

@[simp] theorem behind_strict : (st.behind ts).strict = st.strict :=
  rfl

@[simp] theorem behind_pending : (st.behind ts).pending = st.pending :=
  rfl

@[simp] theorem behind_with (indents : List Nat) (depth : Int) (continued strict : Bool) (pending : Option OpenText) :
    (⟨(st.behind ts).tokens, indents, depth, continued, strict, pending⟩ : Scanner) =
      behind ⟨st.tokens, indents, depth, continued, strict, pending⟩ ts :=
  rfl

@[simp] theorem behind_push (kind : TokenKind) (text : List Char) (row column endColumn : Nat) :
    (st.behind ts).push kind text row column endColumn = (st.push kind text row column endColumn).behind ts :=
  rfl

end Scanner

def LineStep.behind (step : LineStep) (ts : List Token) : LineStep :=
  match step with
  | .next st => .next (st.behind ts)
  | .last st => .last (st.behind ts)
  | .uneven st => .uneven (st.behind ts)

theorem scanRest_behind (row fuel pos : Nat) (s : List Char) (st : Scanner) :
    scanRest row fuel pos s (st.behind ts) = (scanRest row fuel pos s st).behind ts := by
  induction fuel generalizing pos s st with
  | zero => rfl
  | succ fuel ih =>
      rw [scanRest, scanRest]
      simp only [Scanner.behind_depth, Scanner.behind_strict, Scanner.behind_with, Scanner.behind_push, ih]
      repeat' first | rfl | split

theorem closeBlocks_behind (row pos column : Nat) (indents : List Nat) (st : Scanner) :
    closeBlocks row pos column indents (st.behind ts) = (closeBlocks row pos column indents st).map (·.behind ts) := by
  induction indents generalizing st with
  | nil => rfl
  | cons top below ih =>
      rw [closeBlocks, closeBlocks]
      simp only [Scanner.behind_with, Scanner.behind_push, ih]
      repeat' first | rfl | split

theorem scanStatement_behind (row : Nat) (line : List Char) (st : Scanner) :
    scanStatement row line (st.behind ts) = (scanStatement row line st).behind ts := by
  rw [scanStatement, scanStatement]
  generalize indentOf 0 0 line = start
  obtain ⟨column, pos⟩ := start
  dsimp only
  split
  · rfl
  split
  · repeat' first | rfl | split
  · rw [Scanner.behind_indents]
    have opened : (if st.indents.headD 0 < column
          then ({ st.behind ts with indents := column :: st.indents }).push .indent (line.take pos) row 0 pos
          else st.behind ts) =
        (if st.indents.headD 0 < column
          then ({ st with indents := column :: st.indents }).push .indent (line.take pos) row 0 pos
          else st).behind ts := by
      split <;> rfl
    rw [opened]
    generalize (if st.indents.headD 0 < column
      then ({ st with indents := column :: st.indents }).push .indent (line.take pos) row 0 pos else st) = st'
    rw [Scanner.behind_indents, closeBlocks_behind]
    cases closeBlocks row pos column st'.indents st' with
    | none => rfl
    | some st'' => exact congrArg LineStep.next (scanRest_behind _ _ _ _ _)

theorem scanLine_behind (row : Nat) (line : List Char) (st : Scanner) :
    scanLine row line (st.behind ts) = (scanLine row line st).behind ts := by
  rw [scanLine, scanLine]
  simp only [Scanner.behind_pending, Scanner.behind_depth, Scanner.behind_continued, Scanner.behind_with,
    Scanner.behind_push, scanRest_behind, scanStatement_behind]
  repeat' first | rfl | split

theorem dedents_behind (row : Nat) (indents : List Nat) (st : Scanner) :
    indents.foldl (fun st _ => st.push .dedent [] row 0 0) (st.behind ts) =
      (indents.foldl (fun st _ => st.push .dedent [] row 0 0) st).behind ts := by
  induction indents generalizing st with
  | nil => rfl
  | cons _ r ih => exact ih (st.push .dedent [] row 0 0)

theorem scanEnd_behind (row : Nat) (last : List Char) (st : Scanner) :
    scanEnd row last (st.behind ts) = (scanEnd row last st).behind ts := by
  rw [scanEnd, scanEnd]
  generalize (_ || _ : Bool) = ended
  cases ended with
  | true => exact congrArg (·.push .finish [] row 0 0) (dedents_behind row _ st)
  | false =>
      exact congrArg (·.push .finish [] row 0 0)
        (dedents_behind row st.indents.dropLast (st.push .newline [] (row - 1) last.length (last.length + 1)))

theorem scanFrom_behind (row : Nat) (last : List Char) (st : Scanner) (lines : List (List Char)) :
    scanFrom row last (st.behind ts) lines = ((scanFrom row last st lines).1.behind ts, (scanFrom row last st lines).2) := by
  induction lines generalizing row last st with
  | nil =>
      rw [scanFrom, scanFrom]
      simp only [Scanner.behind_pending, Scanner.behind_depth, Scanner.behind_continued, scanEnd_behind]
      repeat' first | rfl | split
  | cons line lines ih =>
      rw [scanFrom, scanFrom, scanLine_behind]
      cases scanLine row line st with
      | next st' => exact ih (row + 1) line st'
      | last st' => exact congrArg (·, Outcome.complete) (scanEnd_behind _ _ _)
      | uneven st' => rfl

/-! ## Words behind a label -/

/-- A label: a comment in which nothing ends a line. -/
structure IsLabel (label : List Char) : Prop where
  mark : label.head? = some '#'
  whole : ∀ c ∈ label, c ≠ '\n' ∧ c ≠ '\r'

variable {label : List Char}

theorem IsLabel.split (h : IsLabel label) : ∃ r, label = '#' :: r := by
  cases label with
  | nil => cases h.mark
  | cons c r => exact ⟨r, by rw [Option.some.inj h.mark]⟩

/-- The two tokens of a label. -/
def labelTokens (label : List Char) : List Token :=
  [⟨.comment, label, 1, 0, label.length⟩, ⟨.gap, ['\n'], 1, label.length, label.length + 1⟩]

theorem IsLabel.stripped (h : IsLabel label) :
    ((label ++ ['\n']).reverse.dropWhile fun d => d == '\r' || d == '\n').reverse = label := by
  rw [List.reverse_append, List.reverse_singleton, List.singleton_append, List.dropWhile_cons_of_pos (by rfl)]
  have kept : label.reverse.dropWhile (fun d => d == '\r' || d == '\n') = label.reverse := by
    cases rev : label.reverse with
    | nil => rfl
    | cons c r =>
        have within : c ∈ label := List.mem_reverse.mp (rev ▸ List.mem_cons_self)
        have other := h.whole c within
        rw [List.dropWhile_cons_of_neg (by simp [other])]
  rw [kept, List.reverse_reverse]

theorem IsLabel.scanned (h : IsLabel label) :
    scanLine 1 (label ++ ['\n']) .start = .next (Scanner.start.behind (labelTokens label).reverse) := by
  have comment := h.stripped
  obtain ⟨r, rfl⟩ := h.split
  have stands : indentOf 0 0 ('#' :: r ++ ['\n']) = (0, 0) := rfl
  have filled : ('#' :: r).isEmpty = false := rfl
  change scanStatement 1 ('#' :: r ++ ['\n']) .start = _
  rw [scanStatement, stands]
  simp only [List.drop_zero, List.cons_append, beq_self_eq_true, Bool.true_or, if_true]
  simp only [← List.cons_append, comment, filled]
  simp [Scanner.push, Scanner.behind, Scanner.start, labelTokens]

/-- Where a line has ended it is no matter which one. -/
theorem scanFrom_ended {last : List Char} (h : last.getLast? = some '\n') (row : Nat) (st : Scanner)
    (lines : List (List Char)) : scanFrom row last st lines = scanFrom row [] st lines := by
  have ended (st : Scanner) : scanEnd row last st = scanEnd row [] st := by
    rw [scanEnd, scanEnd, h]
    rfl
  cases lines with
  | nil => rw [scanFrom, scanFrom, ended]
  | cons line lines => simp only [scanFrom, ended]

/-- What is scanned behind a label does not depend on it. -/
theorem IsLabel.scan (h : IsLabel label) (lines : List (List Char)) :
    Script.scan ((label ++ ['\n']) :: lines) =
      (labelTokens label ++ (scanFrom 2 [] .start lines).1.tokens.reverse, (scanFrom 2 [] .start lines).2) := by
  rw [Script.scan, scanFrom, h.scanned]
  dsimp only
  rw [scanFrom_behind, scanFrom_ended (by simp)]
  simp [Scanner.behind]

/-- No label counts for the indentation of what is behind it. -/
theorem leadWidth_label {first first' : List Char} (h : first.head? = some '#') (h' : first'.head? = some '#')
    (lines : List (List Char)) (row : Nat) :
    leadWidth (first :: lines).toArray row = leadWidth (first' :: lines).toArray row := by
  have marked {l : List Char} (h : l.head? = some '#') : isJointLine l = false ∧ narrowWidth l = 0 := by
    cases l with
    | nil => cases h
    | cons c r =>
        cases h
        exact ⟨rfl, rfl⟩
  induction row with
  | zero => rfl
  | succ row ih =>
      cases row with
      | zero => simp [leadWidth, marked h, marked h']
      | succ above =>
          cases above with
          | zero => simp [leadWidth, marked h, marked h']
          | succ above =>
              rw [leadWidth.eq_def _ (above + 1 + 1 + 1), leadWidth.eq_def _ (above + 1 + 1 + 1)]
              simp only [List.getElem?_toArray, List.getElem?_cons_succ, ih]

theorem isSteady_congr {a b : Array (List Char)} (same : ∀ row, leadWidth a row = leadWidth b row) (widths : List Nat)
    (depth : Int) (fresh : Bool) (ts : List Token) : isSteady a widths depth fresh ts = isSteady b widths depth fresh ts := by
  induction ts generalizing widths depth fresh with
  | nil => rw [isSteady, isSteady]
  | cons t r ih => simp only [isSteady, same, ih]

theorem joinNames_apart {t : Token} (known : t.kind ≠ .stray) (apart : t.text.all isNameLike = false) (r : List Token) :
    joinNames (t :: r) = t :: joinNames r := by
  rw [joinNames]
  cases joinNames r with
  | nil => rfl
  | cons u q => simp [apart, joinNames.lone, known]

theorem joinNames_label (h : IsLabel label) (ts : List Token) :
    joinNames (labelTokens label ++ ts) = labelTokens label ++ joinNames ts := by
  obtain ⟨r, rfl⟩ := h.split
  have comment : ('#' :: r).all isNameLike = false := rfl
  have gap : ['\n'].all isNameLike = false := rfl
  rw [labelTokens, List.cons_append, joinNames_apart TokenKind.noConfusion comment, List.cons_append,
    joinNames_apart TokenKind.noConfusion gap]
  rfl

theorem unixEnds_append {a : List Char} (h : '\r' ∉ a) (r : List Char) : unixEnds (a ++ r) = a ++ unixEnds r := by
  induction a with
  | nil => rfl
  | cons c a ih =>
      rw [List.mem_cons, not_or] at h
      rw [List.cons_append, unixEnds, ih h.2, List.cons_append]
      · exact fun r same => absurd same.symm h.1
      · exact fun same => absurd same.symm h.1

/-- The words of a text below a label. -/
def wordsBelow? (rest : List Char) : Option (List Word) :=
  match scanFrom 2 [] .start (feedLines (unixEnds rest)) with
  | (st, .complete) =>
    if isSteady (['#'] :: feedLines (unixEnds rest)).toArray [0] 0 true st.tokens.reverse then
      ((joinNames st.tokens.reverse).mapM wordOf?).map fun ws => ws.filterMap id
    else none
  | _ => none

/-- The words of a text are the same under every label. -/
theorem words?_label (h : IsLabel label) (rest : List Char) : words? (label ++ '\n' :: rest) = wordsBelow? rest := by
  have ends : unixEnds (label ++ '\n' :: rest) = label ++ '\n' :: unixEnds rest := by
    rw [unixEnds_append fun within => (h.whole _ within).2 rfl]
    rfl
  have marked : (label ++ ['\n']).head? = some '#' := by rw [List.head?_append, h.mark, Option.some_or]
  have bare : ['#'].head? = some '#' := rfl
  have width := leadWidth_label marked bare (feedLines (unixEnds rest))
  rw [words?, ends, feedLines_cons fun within => (h.whole _ within).1 rfl, h.scan, wordsBelow?]
  rcases scanFrom 2 [] .start (feedLines (unixEnds rest)) with ⟨st, outcome⟩
  cases outcome with
  | complete =>
      dsimp only
      rw [joinNames_label h, isSteady_congr width]
      have unseen : isSteady (['#'] :: feedLines (unixEnds rest)).toArray [0] 0 true
          (labelTokens label ++ st.tokens.reverse) =
          isSteady (['#'] :: feedLines (unixEnds rest)).toArray [0] 0 true st.tokens.reverse := by
        simp [labelTokens, isSteady]
      have dropped : (labelTokens label ++ joinNames st.tokens.reverse).mapM wordOf? =
          ((joinNames st.tokens.reverse).mapM wordOf?).map fun ws => none :: none :: ws := by
        rw [labelTokens, List.cons_append, List.mapM_cons, List.cons_append, List.mapM_cons]
        cases all : (joinNames st.tokens.reverse).mapM wordOf? <;> simp [wordOf?, all]
      rw [unseen, dropped, Option.map_map]
      rfl
  | _ => rfl

theorem compile?_label {label' : List Char} (h : IsLabel label) (h' : IsLabel label') (rest : List Char) :
    compile? (label ++ '\n' :: rest) = compile? (label' ++ '\n' :: rest) := by
  rw [compile?, compile?, parse?, parse?, words?_label h, words?_label h']

end Script

/-! ## Recompiling under a label -/

variable {κ : Type} {R : World κ → World κ → Prop} [Still R] {call : Caller κ} [Calls call R] {w w' : World κ}
  {source : String} {id : Value} {owners : List String} {globals : Option Address}

/-- A character that ends neither a line nor a text. -/
def isInert (c : Char) : Bool :=
  c != '\n' && c != '\r' && c != '\x00'

/-- What a module and owners are called, if nothing in it ends a line or a text. -/
structure Inert (label : String) (owners : List String) : Prop where
  label : label.toList.all isInert = true
  owners : (owners.all fun o => o.toList.all isInert) = true

theorem Inert.all {label : String} (h : Inert label owners) :
    ∀ c ∈ (labelLine label (", ".intercalate owners)).toList, c ≠ '\n' ∧ c ≠ '\r' ∧ c ≠ '\x00' := by
  have all := labelLine_all (by decide +kernel) h.label h.owners
  simpa [isInert, and_assoc] using all

theorem Inert.isLabel {label : String} (h : Inert label owners) :
    IsLabel (labelLine label (", ".intercalate owners)).toList where
  mark := by simp [labelLine, String.toList_append]
  whole c hc := ⟨(h.all c hc).1, (h.all c hc).2.1⟩

/-- Runs statements as the code of a file over two dictionaries, and tags the first function in the second one. -/
def runOver (call : Caller κ) [Calls call R] (body : List Stmt) (file label : String) (owners : List Value)
    (globals defined : Address) : Within R Value := do
  runText call body file globals defined
  let h ← heap
  match ((← entries defined).map (·.2)).find? h.isFunction with
  | some f =>
    setAttr call f ownersAttr (.tuple owners)
    pure f
  | none => fail (.noFunction label)

/-- Runs what has been read from a text, with names of its own at the top level. -/
def runRead (call : Caller κ) [Calls call R] (body : List Stmt) (file label : String) (owners : List Value)
    (globals : Option Address) : Within R Value := do
  let globals ← match globals with
    | some a => pure a
    | none => alloc (.dict [])
  let defined ← alloc (.dict [])
  runOver call body file label owners globals defined

/-- What is read from a text for a factory, under whatever label. -/
def readSource (source : String) : Option (List Stmt) :=
  compile? (labelled "" "" source).toList

theorem compile?_labelled {label : String} (h : Inert label owners) (source : String) :
    compile? (labelled label (", ".intercalate owners) source).toList = readSource source := by
  have split (label owners : String) : (labelled label owners source).toList =
      (labelLine label owners).toList ++ '\n' :: (source ++ "\n").toList := by
    simp [labelled, String.toList_append]
  have bare : Inert "" [] := ⟨rfl, rfl⟩
  rw [readSource, split, split]
  exact compile?_label h.isLabel bare.isLabel _

/-- The label goes into the name of the file, the registered text and the message of a failure, and the owners into the
registered text and the tag, and nowhere else. -/
theorem recompile_run (h : Inert (w.heap.str id) owners) (source : String) (globals : Option Address) :
    (recompile call source id (owners.map .str) globals : Within R Value).run w =
      if source.toList.contains '\x00' then .error (.failed .nullBytes) { w with recompiled := w.recompiled + 1 }
      else
        match readSource source with
        | none => .error (.failed (.notCompiled (w.heap.str id))) { w with recompiled := w.recompiled + 1 }
        | some body =>
          (runRead call body (patchedFile (w.heap.str id) w.recompiled) (w.heap.str id) (owners.map .str) globals :
            Within R Value).run (({ w with recompiled := w.recompiled + 1 } : World κ).registered
              (patchedFile (w.heap.str id) w.recompiled)
              (labelled (w.heap.str id) (", ".intercalate owners) source)) := by
  have seen : (str id : Within R _).run w = .ok (w.heap.str id) w := rfl
  have counted : (countRecompiled : Within R _).run w = .ok w.recompiled { w with recompiled := w.recompiled + 1 } := rfl
  rw [recompile, Within.run_bind, bind_of_ok seen, Within.run_bind, bind_of_ok counted, Within.run_bind,
    bind_of_ok (joined_texts _ _ _)]
  dsimp only
  rw [← labelled, compile?_labelled h]
  have nulls : (labelled (w.heap.str id) (", ".intercalate owners) source).toList.contains '\x00' =
      source.toList.contains '\x00' := by
    have label : '\x00' ∉ (labelLine (w.heap.str id) (", ".intercalate owners)).toList := fun within =>
      (h.all _ within).2.2 rfl
    simp [labelled, String.toList_append, label]
  rw [nulls]
  split
  · rfl
  · cases readSource source with
    | none => rfl
    | some body => rfl

/-! ## Definitions -/

/-- A computation that looks at the heap only and changes nothing: the heap tells how it ends. -/
def Foreseen (h : Heap) (m : Within R α) (r : Except Fault α) : Prop :=
  ∀ w : World κ, w.heap = h → m.run w =
    match r with
    | .ok a => .ok a w
    | .error e => .error e w

namespace Foreseen

variable {h : Heap} {α β : Type}

theorem pure (a : α) : Foreseen (R := R) h (pure a) (.ok a) :=
  fun _ _ => rfl

theorem fail (c : Cause) : Foreseen (R := R) h (fail c : Within R α) (.error (.failed c)) :=
  fun _ _ => rfl

theorem bind {m : Within R α} {f : α → Within R β} (first : ∃ r, Foreseen h m r) (rest : ∀ a, ∃ r, Foreseen h (f a) r) :
    ∃ r, Foreseen h (m >>= f) r := by
  obtain ⟨r, first⟩ := first
  cases r with
  | error e => exact ⟨.error e, fun w same => bind_of_error (first w same)⟩
  | ok a =>
      obtain ⟨r', rest⟩ := rest a
      refine ⟨r', fun w same => ?_⟩
      rw [Within.run_bind, bind_of_ok (first w same)]
      exact rest w same

theorem entries (a : Address) : ∃ r, Foreseen (R := R) h (entries a) r := by
  by_cases any : ∃ w : World κ, w.heap = h
  · obtain ⟨w, rfl⟩ := any
    refine ⟨.ok (w.entriesAt a), fun v same => ?_⟩
    have there : v.entriesAt a = w.entriesAt a := by rw [World.entriesAt, World.entriesAt, same]
    exact there ▸ entries_run a v
  · exact ⟨.ok [], fun w same => absurd ⟨w, same⟩ any⟩

theorem loadGlobal (a : Address) (name : String) : ∃ r, Foreseen (R := R) h (loadGlobal a name) r := by
  unfold Script.loadGlobal
  refine bind (entries a) fun es => ?_
  cases Value.lookup? es (.str name) with
  | some v => exact ⟨_, pure v⟩
  | none =>
      refine bind (entries builtinsDict) fun es => ?_
      cases Value.lookup? es (.str name) with
      | some v => exact ⟨_, pure v⟩
      | none => exact ⟨_, fail _⟩

/-- At the top level of a text a name is in its own dictionary or a global one. -/
theorem load {f : Frame} (top : f.cells = []) (name : String) : ∃ r, Foreseen (R := R) h (load f name) r := by
  have cell : (loadCell f name : Within R _) = Pure.pure none := by
    rw [loadCell, Frame.cell?, top]
    rfl
  rw [Script.load, cell]
  split
  · exact loadGlobal _ _
  · cases f.locals with
    | none =>
        simp only [pure_bind]
        exact loadGlobal _ _
    | some d =>
        simp only [pure_bind]
        refine bind (entries d) fun es => ?_
        cases Value.lookup? es (.str name) with
        | some v => exact ⟨_, pure v⟩
        | none => exact loadGlobal _ _

theorem eval {f : Frame} (top : f.cells = []) {e : Expr} (plain : (e.isConstant || e.isName) = true) :
    ∃ r, Foreseen (R := R) h (eval call f e) r := by
  cases constant : e.isConstant with
  | true =>
      obtain ⟨v, same, -⟩ : ∃ v, (Script.eval call f e : Within R Value) = Pure.pure v ∧ ∀ a, v ≠ .ref a :=
        eval_constant constant
      exact ⟨.ok v, same ▸ pure v⟩
  | false =>
      rw [constant, Bool.false_or] at plain
      cases e with
      | name id => exact load top id
      | _ => cases plain

theorem evalDefaults {f : Frame} (top : f.cells = []) : (defaults : List (String × Expr)) →
    (defaults.all fun d => d.2.isConstant || d.2.isName) = true → ∃ r, Foreseen (R := R) h (evalDefaults call f defaults) r
  | [], _ => ⟨.ok [], fun _ _ => by rw [Script.evalDefaults]; rfl⟩
  | (n, e) :: rest, plain => by
      rw [List.all_cons, Bool.and_eq_true] at plain
      rw [Script.evalDefaults]
      exact bind (eval top plain.1) fun v => bind (evalDefaults top rest plain.2) fun vs => ⟨_, pure _⟩

end Foreseen

theorem eval_file (f : Frame) (file : String) {e : Expr} (plain : (e.isConstant || e.isName) = true) :
    (eval call { f with file } e : Within R Value) = eval call f e := by
  cases e with
  | none | ellipsis | bool | int | float | imaginary | str | bytes => rw [eval, eval]
  | name id =>
      rw [eval, eval]
      rfl
  | _ => cases plain

/-- Constants and names are the same in all files. -/
theorem evalDefaults_file (f : Frame) (file : String) : (defaults : List (String × Expr)) →
    (defaults.all fun d => d.2.isConstant || d.2.isName) = true →
    (evalDefaults call { f with file } defaults : Within R _) = evalDefaults call f defaults
  | [], _ => by rw [evalDefaults, evalDefaults]
  | (n, e) :: rest, plain => by
      rw [List.all_cons, Bool.and_eq_true] at plain
      rw [evalDefaults, evalDefaults, eval_file f file plain.1, evalDefaults_file f file rest plain.2]

/-- A definition without decorators. -/
structure Definition where
  name : String
  shown : String
  params : Params
  defaults : List (String × Expr)
  body : List Stmt
  row : Nat

namespace Definition

variable (t : Definition)

def statement : Stmt :=
  .define t.name t.shown t.params t.defaults [] t.body t.row

/-- Whether all defaults are constants and names. -/
def isPlain : Bool :=
  t.defaults.all fun d => d.2.isConstant || d.2.isName

/-- The function of a definition at the top level of a file. -/
def function (file : String) (globals : Address) (given : List (String × Value)) : Function :=
  ⟨t.shown, t.shown, Code.of t.params (.block t.body) file t.row, globals, [], given, []⟩

end Definition

/-- The frame of a text without global declarations, up to its file. -/
def topFrame (globals defined : Address) : Frame :=
  ⟨some defined, [], [], globals, [], "", []⟩

variable {t : Definition} {a d : Address}

/-- Running a definition: its defaults are evaluated, and its function is made and bound. -/
theorem runText_define (plain : t.isPlain = true) (file : String) (a d : Address) (w : World κ) :
    (runText call [t.statement] file a d : Within R Unit).run w =
      (do
        let given ← evalDefaults call (topFrame a d) t.defaults
        let v ← new (.function (t.function file a given))
        storeIn d t.name v : Within R Unit).run (w.withBuiltins a) := by
  have own : (stmtsNames [t.statement]).globals = [] := by
    rw [stmtsNames, Names.append_globals, Definition.statement, stmtNames_define]
    rfl
  have given : (evalDefaults call { topFrame a d with file } t.defaults : Within R _) =
      evalDefaults call (topFrame a d) t.defaults := evalDefaults_file (topFrame a d) file t.defaults plain
  have frame : (⟨some d, [], [], a, [], file, []⟩ : Frame) = { topFrame a d with file } := rfl
  have path : Frame.qualify { topFrame a d with file } t.shown = t.shown := by
    rw [Frame.qualify, topFrame, List.nil_append, String.intercalate_singleton]
  have made (given : List (String × Value)) :
      (makeFunction { topFrame a d with file } t.shown (Code.of t.params (.block t.body) file t.row) given : Within R _) =
        new (.function (t.function file a given)) := by
    rw [makeFunction, path, ite_self]
    rfl
  have stored (v : Value) : (store { topFrame a d with file } t.name v : Within R _) = storeIn d t.name v := by
    rw [store]
    rfl
  rw [runText, Within.run_bind, bind_of_ok (addBuiltins_run a w), own]
  dsimp only
  rw [execAll, Definition.statement, exec, evalItems, pure_bind, frame, given]
  simp only [made, stored, decorate, List.reverse_nil, List.foldlM_nil, pure_bind, bind_assoc, execAll, bind_pure_unit]

theorem World.withBuiltins_size (w : World κ) (a : Address) : (w.withBuiltins a).heap.size = w.heap.size := by
  rw [withBuiltins]
  split
  · rfl
  · exact Array.size_modify

/-- The world in which a function has been made, bound to a name in a new dictionary, and tagged with owners. -/
def World.defining (w : World κ) (d : Address) (name : String) (g : Function) (owners : List Value) : World κ :=
  (({ w with heap := w.heap.push (.function g) } : World κ).filledAt d (.entries [(.str name, .ref w.heap.size)])).filledAt
    w.heap.size (.attrs (g.attrs.set ownersAttr (.tuple owners)))

theorem World.defining_here {g : Function} {name : String} {owners : List Value} (room : d < w.heap.size) :
    (w.defining d name g owners).heap[w.heap.size]? =
      some (.function { g with attrs := g.attrs.set ownersAttr (.tuple owners) }) := by
  rw [World.defining, World.filledAt_here, World.filledAt_other (Nat.ne_of_lt room), Array.getElem?_push_size]
  rfl

/-- How running a definition over two dictionaries ends, given its defaults. -/
def Definition.ran (t : Definition) (w : World κ) (a d : Address) (file : String) (owners : List Value) :
    Except Fault (List (String × Value)) → EStateM.Result Fault (World κ) Value
  | .error e => .error e (w.withBuiltins a)
  | .ok given =>
    .ok (.ref (w.withBuiltins a).heap.size) ((w.withBuiltins a).defining d t.name (t.function file a given) owners)

theorem runOver_define (empty : w.heap[d]? = some (.dict [])) (other : a ≠ d) (plain : t.isPlain = true)
    (file label : String) (owners : List Value) {r : Except Fault (List (String × Value))}
    (foreseen : Foreseen (w.withBuiltins a).heap (evalDefaults call (topFrame a d) t.defaults : Within R _) r) :
    (runOver call [t.statement] file label owners a d : Within R Value).run w = t.ran w a d file owners r := by
  have text : (runText call [t.statement] file a d : Within R Unit).run w = _ := runText_define plain file a d w
  have evaluated := foreseen _ rfl
  rw [← World.withBuiltins_other other] at empty
  cases r with
  | error e =>
      rw [Within.run_bind, bind_of_error evaluated] at text
      exact bind_of_error text
  | ok given =>
      have bare : (t.function file a given).attrs = [] := rfl
      rw [Within.run_bind, bind_of_ok evaluated] at text
      rw [Definition.ran, World.defining]
      generalize t.function file a given = g at text bare
      generalize w.withBuiltins a = u at empty text
      have room : d < u.heap.size := (Array.getElem?_eq_some_iff.mp empty).1
      have pushed : (new (.function g) : Within R Value).run u =
          .ok (.ref u.heap.size) { u with heap := u.heap.push (.function g) } := rfl
      rw [Within.run_bind, bind_of_ok pushed, storeIn_run] at text
      have still : ({ u with heap := u.heap.push (.function g) } : World κ).heap[d]? = some (.dict []) := by
        refine (Array.getElem?_push_lt room).trans ?_
        rw [← Array.getElem?_eq_getElem room]
        exact empty
      have found : ({ u with heap := u.heap.push (.function g) } : World κ).heap[u.heap.size]? = some (.function g) :=
        Array.getElem?_push_size
      generalize ({ u with heap := u.heap.push (.function g) } : World κ) = u₁ at text still found
      have none : u₁.entriesAt d = [] := by rw [World.entriesAt, still]
      have single : Value.insert [] (.str t.name) (.ref u.heap.size) =
          [(Value.str t.name, Value.ref u.heap.size)] := rfl
      rw [none, single] at text
      have names : (u₁.filledAt d (.entries [(.str t.name, .ref u.heap.size)])).entriesAt d =
          [(.str t.name, .ref u.heap.size)] := by
        rw [World.entriesAt, World.filledAt_here, still]
        rfl
      rw [← World.filledAt_other (Nat.ne_of_lt room)] at found
      generalize u₁.filledAt d (.entries [(.str t.name, .ref u.heap.size)]) = u₂ at text names found
      have seen : (heap : Within R _).run u₂ = .ok u₂.heap u₂ := rfl
      have first : ([(Value.str t.name, Value.ref u.heap.size)].map (·.2)).find? u₂.heap.isFunction =
          some (.ref u.heap.size) := by
        rw [List.map_cons, List.find?_cons, Heap.isFunction, at?_function found]
      rw [runOver, Within.run_bind, bind_of_ok text, Within.run_bind, bind_of_ok seen, Within.run_bind,
        bind_of_ok (entries_run d u₂), names, first]
      exact bind_of_ok (setAttr_owners found)

/-- A function with the file that its code is from, tagged with owners. -/
def Function.tagged (g : Function) (file : String) (owners : List Value) : Function :=
  { g with code := { g.code with file }, attrs := [(ownersAttr, .tuple owners)] }

theorem withBuiltins_sources (w : World κ) (sources : List (String × List (List Char))) (a : Address) :
    (({ w with sources } : World κ).withBuiltins a).heap = (w.withBuiltins a).heap := by
  have same : ({ w with sources } : World κ).entriesAt a = w.entriesAt a := rfl
  rw [World.withBuiltins, World.withBuiltins, same]
  split <;> rfl

/-- Two runs end with the same failure, or with the same function in the same place, but for its file and its tag. -/
def EndTagged (file file' : String) (owners owners' : List Value) :
    EStateM.Result Fault (World κ) Value → EStateM.Result Fault (World κ) Value → Prop
  | .ok v z, .ok v' z' => ∃ (b : Address) (g : Function), v = .ref b ∧ v' = .ref b ∧ z.heap[b]? = some (.function (g.tagged file owners)) ∧
      z'.heap[b]? = some (.function (g.tagged file' owners'))
  | .error e _, .error e' _ => e = e'
  | _, _ => False

theorem runOver_alike (empty : w.heap[d]? = some (.dict [])) (other : a ≠ d) (plain : t.isPlain = true)
    (sources : List (String × List (List Char))) (file file' label label' : String) (owners owners' : List Value) :
    EndTagged file file' owners owners'
      ((runOver call [t.statement] file label owners a d : Within R Value).run w)
      ((runOver call [t.statement] file' label' owners' a d : Within R Value).run { w with sources }) := by
  have top : (topFrame a d).cells = [] := rfl
  obtain ⟨r, foreseen⟩ : ∃ r, Foreseen (w.withBuiltins a).heap (evalDefaults call (topFrame a d) t.defaults : Within R _) r :=
    Foreseen.evalDefaults top t.defaults plain
  have foreseen' := foreseen
  rw [← withBuiltins_sources w sources] at foreseen'
  have room : d < w.heap.size := (Array.getElem?_eq_some_iff.mp empty).1
  rw [runOver_define empty other plain file label owners foreseen,
    runOver_define (w := { w with sources }) empty other plain file' label' owners' foreseen']
  cases r with
  | error e => exact Eq.refl e
  | ok given =>
      have size := congrArg Array.size (withBuiltins_sources w sources a)
      have here (file : String) (owners : List Value) (u : World κ) (same : u.heap.size = (w.withBuiltins a).heap.size) :
          (u.defining d t.name (t.function file a given) owners).heap[(w.withBuiltins a).heap.size]? =
            some (.function ((t.function "" a given).tagged file owners)) := by
        rw [← same]
        exact World.defining_here (same ▸ w.withBuiltins_size a ▸ room)
      exact ⟨_, t.function "" a given, rfl, congrArg Value.ref size, here file owners _ rfl, here file' owners' _ size⟩

theorem runRead_given (a : Address) (w : World κ) (body : List Stmt) (file label : String) (owners : List Value) :
    (runRead call body file label owners (some a) : Within R Value).run w =
      (runOver call body file label owners a w.heap.size : Within R Value).run
        { w with heap := w.heap.push (.dict []) } := by
  have made : (alloc (.dict []) : Within R Address).run w = .ok w.heap.size { w with heap := w.heap.push (.dict []) } := rfl
  rw [runRead]
  simp only [pure_bind]
  exact bind_of_ok made

theorem runRead_fresh (w : World κ) (body : List Stmt) (file label : String) (owners : List Value) :
    (runRead call body file label owners none : Within R Value).run w =
      (runRead call body file label owners (some w.heap.size) : Within R Value).run
        { w with heap := w.heap.push (.dict []) } := by
  have made : (alloc (.dict []) : Within R Address).run w = .ok w.heap.size { w with heap := w.heap.push (.dict []) } := rfl
  rw [runRead, runRead]
  simp only [pure_bind]
  exact bind_of_ok made

theorem runRead_alike (there : ∀ a, globals = some a → a < w.heap.size) (plain : t.isPlain = true)
    (sources : List (String × List (List Char))) (file file' label label' : String) (owners owners' : List Value) :
    EndTagged file file' owners owners'
      ((runRead call [t.statement] file label owners globals : Within R Value).run w)
      ((runRead call [t.statement] file' label' owners' globals : Within R Value).run { w with sources }) := by
  have given (w : World κ) (a : Address) (there : a < w.heap.size) : EndTagged file file' owners owners'
      ((runRead call [t.statement] file label owners (some a) : Within R Value).run w)
      ((runRead call [t.statement] file' label' owners' (some a) : Within R Value).run { w with sources }) := by
    rw [runRead_given, runRead_given]
    exact runOver_alike (w := { w with heap := w.heap.push (.dict []) }) Array.getElem?_push_size (Nat.ne_of_lt there)
      plain sources file file' label label' owners owners'
  cases globals with
  | some a => exact given w a (there a rfl)
  | none =>
      rw [runRead_fresh, runRead_fresh]
      refine given { w with heap := w.heap.push (.dict []) } w.heap.size ?_
      rw [Array.size_push]
      exact Nat.lt_succ_self _

/-- Defines no function. -/
def idleText : String :=
  "x = 1\n"

/-- The second line of a label is run. -/
def definingOwner : String :=
  "A\ndef factory(m, e, r):\n    return 2"

/-- Compiles a text that defines no function. -/
def idleRun (owner : String) : EStateM.Result Fault (World Unit) Value :=
  (recompile silent idleText (.str "1") [.str owner] none : Working silent Value).run (World.start [] ())

end Patchwork
