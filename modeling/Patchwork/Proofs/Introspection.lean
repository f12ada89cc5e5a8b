import Patchwork.Proofs.Blocks
import Patchwork.Proofs.Draining
import Patchwork.Proofs.PlainRules
import Patchwork.Proofs.PlainTexts

/-!
The source of recompiled factories. The text of a definition is registered under a label, in lines that more characters
end than those of a script. When the source of its function is asked for, a block is cut out of these lines again.
-/

namespace Patchwork

open Run Script Text

variable {κ : Type} {R : World κ → World κ → Prop} [Still R] {call : Caller κ} {w w' : World κ}

/-! ## Running a definition -/

theorem at?_function {a : Address} {g : Function} (found : w.heap[a]? = some (.function g)) :
    w.heap.at? (.ref a) = some (.function g) :=
  Guard.at?_plain found fun _ _ _ same => by cases same

theorem joined_texts (separator : String) (texts : List String) (w : World κ) :
    (joined separator (texts.map .str) : Within R String).run w = .ok (separator.intercalate texts) w := by
  have each (f : Value × Nat → Within R String) (shows : ∀ s i, f (.str s, i) = pure s) (k : Nat) :
      ((texts.map Value.str).zipIdx k).mapM f = pure texts := by
    induction texts generalizing k with
    | nil => rfl
    | cons s r ih =>
        rw [List.map_cons, List.zipIdx_cons, List.mapM_cons, shows, pure_bind, ih (k + 1), pure_bind]
  have seen : (heap : Within R _).run w = .ok w.heap w := rfl
  rw [joined, Within.run_bind, bind_of_ok seen]
  dsimp only
  rw [each _ fun _ _ => rfl]
  rfl

/-- The text that is compiled for a factory: its own under a label. -/
def labelled (label owners source : String) : String :=
  labelLine label owners ++ "\n" ++ source ++ "\n"

/-- Evaluating the defaults of a definition leaves the texts that are known and the names of the frame as they are. -/
def SparesNames (R : World κ → World κ → Prop) [Still R] (call : Caller κ) [Calls call R]
    (defaults : List (String × Expr)) : Prop :=
  ∀ f (w : World κ) ds w', (evalDefaults call f defaults : Within R _).run w = .ok ds w' →
    w'.sources = w.sources ∧ ∀ d es, f.locals = some d → w.heap[d]? = some (.dict es) → w'.heap[d]? = some (.dict es)

theorem sparesNames_plain [Calls call R] {defaults : List (String × Expr)}
    (plain : (defaults.all fun d => d.2.isConstant || d.2.isName) = true) : SparesNames R call defaults := by
  intro f w ds w' ran
  have more : Grows w ((evalDefaults call f defaults : Within R _).run.after w) := evalDefaults_plain defaults plain w
  rw [after_ok ran] at more
  exact ⟨more.sources, fun d es _ there => more.heap d _ there⟩

variable [Calls call R] {source : String} {id v : Value} {owners : List String} {globals : Option Address}
  {name shown : String} {ps : Params} {defaults : List (String × Expr)} {body : List Stmt} {row : Nat}

/-- A function that a text defines at its top level, before anything is noted on it. -/
structure Bare (file : String) (row : Nat) (g : Function) : Prop where
  attrs : g.attrs = []
  captured : g.captured = []
  file : g.code.file = file
  row : g.code.row = row

theorem storeIn_run (d : Address) (name : String) (v : Value) (w : World κ) :
    (storeIn d name v : Within R Unit).run w =
      .ok () (w.filledAt d (.entries (Value.insert (w.entriesAt d) (.str name) v))) := by
  rw [storeIn, Within.run_bind, bind_of_ok (entries_run d w)]
  rfl

theorem makeFunction_run {f : Frame} (top : f.cells = []) (shown : String) (ps : Params) (body : Body) (row : Nat)
    (given : List (String × Value)) (w : World κ) :
    ∃ g, Bare f.file row g ∧ (makeFunction f shown (Code.of ps body f.file row) given : Within R Value).run w =
      .ok (.ref w.heap.size) { w with heap := w.heap.push (.function g) } := by
  refine ⟨_, ⟨?_, ?_, ?_, ?_⟩, rfl⟩
  · rfl
  · rw [Frame.visible, top]
    rfl
  · rfl
  · rfl

/-- A definition without decorators leaves nothing but its function behind. -/
theorem exec_define_ok {f : Frame} {d : Address} {flow : Flow} {u z : World κ} (locals : f.locals = some d)
    (own : f.declared.contains name = false) (top : f.cells = []) (spares : SparesNames R call defaults)
    (empty : u.heap[d]? = some (.dict []))
    (ran : (exec call f (.define name shown ps defaults [] body row) : Within R Flow).run u = .ok flow z) :
    ∃ b g, flow = .next ∧ z.heap[d]? = some (.dict [(.str name, .ref b)]) ∧ z.heap[b]? = some (.function g) ∧
      Bare f.file row g ∧ z.sources = u.sources := by
  rw [exec, evalItems, pure_bind] at ran
  obtain ⟨given, u₁, evaluated, ran⟩ := bind_ok.mp ran
  obtain ⟨sources, names⟩ := spares f u given u₁ evaluated
  have there := names d [] locals empty
  have room : d < u₁.heap.size := (Array.getElem?_eq_some_iff.mp there).1
  obtain ⟨g, bare, made⟩ := makeFunction_run (R := R) top shown ps (.block body) row given u₁
  rw [Within.run_bind, bind_of_ok made] at ran
  obtain ⟨_, _, decorated, ran⟩ := bind_ok.mp ran
  cases decorated
  obtain ⟨_, _, stored, ran⟩ := bind_ok.mp ran
  cases ran
  rw [store, own, locals] at stored
  have same : u₁.sources = ({ u₁ with heap := u₁.heap.push (.function g) } : World κ).sources := rfl
  have still : ({ u₁ with heap := u₁.heap.push (.function g) } : World κ).heap[d]? = some (.dict []) := by
    refine (Array.getElem?_push_lt room).trans ?_
    rw [← Array.getElem?_eq_getElem room]
    exact there
  have found : ({ u₁ with heap := u₁.heap.push (.function g) } : World κ).heap[u₁.heap.size]? = some (.function g) :=
    Array.getElem?_push_size
  generalize ({ u₁ with heap := u₁.heap.push (.function g) } : World κ) = u₂ at stored same still found
  have stored : EStateM.Result.ok () _ = EStateM.Result.ok () z := (storeIn_run d name _ u₂).symm.trans stored
  cases stored
  refine ⟨u₁.heap.size, g, rfl, ?_, ?_, bare, same.symm.trans sources⟩
  · rw [World.filledAt_here, World.entriesAt, still]
    rfl
  · rw [World.filledAt_other (Nat.ne_of_lt room)]
    exact found

theorem setAttr_owners {b : Address} {g : Function} {owners : List Value} {u : World κ}
    (found : u.heap[b]? = some (.function g)) :
    (setAttr call (.ref b) ownersAttr (.tuple owners) : Within R Unit).run u =
      .ok () (u.filledAt b (.attrs (g.attrs.set ownersAttr (.tuple owners)))) := by
  have seen : (heap : Within R _).run u = .ok u.heap u := rfl
  rw [setAttr, Within.run_bind, bind_of_ok seen]
  simp only [found]
  rfl

/-- A text that is one definition binds its name, and nothing else. -/
theorem runText_defines {a d : Address} {file : String} {u z : World κ} (empty : u.heap[d]? = some (.dict []))
    (other : a ≠ d) (spares : SparesNames R call defaults)
    (done : (runText call [.define name shown ps defaults [] body row] file a d : Within R Unit).run u = .ok () z) :
    ∃ b g, z.entriesAt d = [(.str name, .ref b)] ∧ z.heap[b]? = some (.function g) ∧ Bare file row g ∧
      z.sources = u.sources := by
  rw [runText, Within.run_bind, bind_of_ok (addBuiltins_run a u)] at done
  rw [← World.withBuiltins_other other] at empty
  have sources : (u.withBuiltins a).sources = u.sources := by
    rw [World.withBuiltins]
    split <;> rfl
  generalize u.withBuiltins a = u' at done empty sources
  obtain ⟨flow, _, run, done⟩ := bind_ok.mp done
  cases done
  rw [execAll] at run
  obtain ⟨_, u₁, run, rest⟩ := bind_ok.mp run
  have own : (stmtsNames [.define name shown ps defaults [] body row]).globals.contains name = false := by
    rw [stmtsNames, Names.append_globals, stmtNames_define]
    rfl
  obtain ⟨b, g, rfl, names, found, bare, kept⟩ := exec_define_ok rfl own rfl spares empty run
  cases rest
  exact ⟨b, g, by rw [World.entriesAt, names], found, bare, kept.trans sources⟩

/-- What recompiling a definition leaves: its function, tagged with the owners, and its text under a label. -/
theorem recompile_defines {globals : Option Address}
    (defines : compile? (labelled (w.heap.str id) (", ".intercalate owners) source).toList =
      some [.define name shown ps defaults [] body row])
    (spares : SparesNames R call defaults) (there : ∀ a, globals = some a → a < w.heap.size)
    (ran : (recompile call source id (owners.map .str) globals : Within R Value).run w = .ok v w') :
    ∃ b f g, v = .ref b ∧ w'.heap[b]? = some (.function { g with attrs := [(ownersAttr, .tuple (owners.map .str))] }) ∧
      Bare f row g ∧
      w'.linesOf f = wideLines (labelled (w.heap.str id) (", ".intercalate owners) source).toList := by
  have seen : (str id : Within R _).run w = .ok (w.heap.str id) w := rfl
  have counted : (countRecompiled : Within R _).run w = .ok w.recompiled { w with recompiled := w.recompiled + 1 } := rfl
  rw [recompile, Within.run_bind, bind_of_ok seen, Within.run_bind, bind_of_ok counted, Within.run_bind,
    bind_of_ok (joined_texts _ _ _)] at ran
  dsimp only at ran
  rw [← labelled] at ran
  split at ran
  · cases ran
  rw [defines] at ran
  generalize labelled (w.heap.str id) (", ".intercalate owners) source = text at ran ⊢
  generalize patchedFile (w.heap.str id) w.recompiled = file at ran
  have registered : (registerSource file text : Within R Unit).run { w with recompiled := w.recompiled + 1 } =
      .ok () (World.registered { w with recompiled := w.recompiled + 1 } file text) := rfl
  rw [Within.run_bind, bind_of_ok registered] at ran
  have lines : (World.registered { w with recompiled := w.recompiled + 1 } file text).linesOf file =
      wideLines text.toList := by
    rw [World.linesOf, World.registered, List.find?_cons, beq_self_eq_true]
    rfl
  have room : w.heap.size = (World.registered { w with recompiled := w.recompiled + 1 } file text).heap.size := rfl
  generalize World.registered { w with recompiled := w.recompiled + 1 } file text = u at ran lines room
  cases globals
  case' some given =>
    obtain ⟨a, u', made, ran⟩ := bind_ok.mp ran
    obtain ⟨fresh, same⟩ : a < u'.heap.size ∧ u'.sources = u.sources := by
      cases made
      exact ⟨room ▸ there given rfl, rfl⟩
  case' none =>
    obtain ⟨a, u', made, ran⟩ := bind_ok.mp ran
    obtain ⟨fresh, same⟩ : a < u'.heap.size ∧ u'.sources = u.sources := by
      cases made
      exact ⟨by simp, rfl⟩
  all_goals
    obtain ⟨d, u₁, made', ran⟩ := bind_ok.mp ran
    obtain ⟨empty, other, same'⟩ : u₁.heap[d]? = some (.dict []) ∧ a ≠ d ∧ u₁.sources = u'.sources := by
      cases made'
      exact ⟨Array.getElem?_push_size, Nat.ne_of_lt fresh, rfl⟩
    obtain ⟨⟨⟩, u₂, done, ran⟩ := bind_ok.mp ran
    obtain ⟨b, g, bound, found, bare, same''⟩ := runText_defines empty other spares done
    obtain ⟨_, _, seen, ran⟩ := bind_ok.mp ran
    cases seen
    obtain ⟨es, _, read, ran⟩ := bind_ok.mp ran
    rw [entries_run, bound] at read
    cases read
    have first : ([(Value.str name, Value.ref b)].map (·.2)).find? u₂.heap.isFunction = some (.ref b) := by
      rw [List.map_cons, List.find?_cons, Heap.isFunction, at?_function found]
    dsimp only at ran
    rw [first] at ran
    obtain ⟨_, _, tagged, ran⟩ := bind_ok.mp ran
    cases ran
    rw [setAttr_owners found] at tagged
    cases tagged
    refine ⟨b, file, g, rfl, ?_, bare, ?_⟩
    · rw [World.filledAt_here, found, bare.attrs]
      rfl
    · refine Eq.trans ?_ lines
      rw [World.linesOf, World.linesOf, ← same, ← same', ← same'']
      rfl

/-! ## Reading it back -/

theorem labelled_lines {label owners : String} (unbroken : ∀ c ∈ (labelLine label owners).toList, isLineBreak c = false)
    (ends : source.toList.getLast? = some '\n') :
    wideLines (labelled label owners source).toList =
      ((labelLine label owners).toList ++ ['\n']) :: (wideLines source.toList ++ [['\n']]) := by
  have text : (labelled label owners source).toList =
      ((labelLine label owners).toList ++ ['\n']) ++ (source.toList ++ ['\n']) := by
    simp [labelled, String.toList_append]
  rw [text, wideLines_append (by simp), wideLines_append ends, wideLines, wideLinesFrom_unbroken [] unbroken]
  rfl

/-- Lines that are a block of their own where a blank line follows. -/
def IsBlock (lines : List (List Char)) : Prop :=
  lines.head?.any opensBlock = true ∧ blockLength (lines ++ [['\n']]) = .ok lines.length

theorem take_flatten_inj {lines : List (List Char)} (filled : [] ∉ lines) {m n : Nat} (hm : m ≤ lines.length)
    (hn : n ≤ lines.length) (h : (lines.take m).flatten = (lines.take n).flatten) : m = n := by
  induction lines generalizing m n with
  | nil => exact (Nat.le_zero.mp hm).trans (Nat.le_zero.mp hn).symm
  | cons line r ih =>
      rw [List.mem_cons, not_or] at filled
      cases m with
      | zero =>
          cases n with
          | zero => rfl
          | succ n => simp [Ne.symm filled.1] at h
      | succ m =>
          cases n with
          | zero => simp [Ne.symm filled.1] at h
          | succ n =>
              rw [List.take_succ_cons, List.take_succ_cons, List.flatten_cons, List.flatten_cons] at h
              rw [ih filled.2 (Nat.le_of_succ_le_succ hm) (Nat.le_of_succ_le_succ hn) (List.append_cancel_left h)]

/-- So many of the lines and of the blank one behind them are the text of the lines only if they are all of them. -/
theorem take_blank_iff {lines : List (List Char)} (filled : [] ∉ lines) (n : Nat) :
    ((lines ++ [['\n']]).take n).flatten = lines.flatten ↔ n = lines.length := by
  constructor
  · intro h
    have all : lines.flatten = ((lines ++ [['\n']]).take lines.length).flatten := by rw [List.take_left]
    rw [all, List.take_eq_take_min] at h
    have same := take_flatten_inj (by simpa using filled) (Nat.min_le_right _ _) (by simp) h
    simp only [List.length_append, List.length_singleton] at same
    omega
  · rintro rfl
    rw [List.take_left]

theorem blockAt_iff {label : List Char} {first : Char} (marked : label.head? = some first)
    (other : source.toList.head? ≠ some first) (filled : source.toList ≠ []) (w : World κ) :
    (blockAt (label :: (wideLines source.toList ++ [['\n']])) 2 : Within R String).run w = .ok source w ↔
      IsBlock (wideLines source.toList) := by
  have flat := wideLines_flatten source.toList
  have parts := wideLinesFrom_nonempty [] source.toList
  change [] ∉ wideLines source.toList at parts
  generalize wideLines source.toList = lines at flat parts ⊢
  cases lines with
  | nil => exact absurd flat.symm filled
  | cons line rest =>
      have opening : openingLine? (label :: (line :: rest ++ [['\n']])) 1 =
          if opensBlock line then some 1 else some 0 := rfl
      rw [blockAt, if_neg (by simp), if_neg (by simp), opening, IsBlock]
      have taken {block : List (List Char)} {n : Nat} :
          (pure (String.ofList (block.take n).flatten) : Within R String).run w = .ok source w ↔
            (block.take n).flatten = source.toList := by
        refine ⟨fun h => ?_, fun h => ?_⟩
        · cases h
          exact (String.toList_ofList).symm
        · rw [h, String.ofList_toList]
          rfl
      cases opens : opensBlock line with
      | true =>
          have cut : (label :: (line :: rest ++ [['\n']])).drop 1 = line :: rest ++ [['\n']] := rfl
          simp only [↓reduceIte, cut]
          cases length : blockLength (line :: rest ++ [['\n']]) with
          | error o =>
              refine iff_of_false (fun h => ?_) fun h => ?_
              · cases h
              · cases h.2
          | ok n =>
              refine taken.trans ?_
              rw [← flat, take_blank_iff parts]
              exact ⟨fun h => ⟨opens, congrArg _ h⟩, fun h => Except.ok.inj h.2⟩
      | false =>
          -- the block starts at the label then
          have cut : (label :: (line :: rest ++ [['\n']])).drop 0 = label :: (line :: rest ++ [['\n']]) := rfl
          simp only [Bool.false_eq_true, ↓reduceIte, cut]
          refine iff_of_false (fun h => ?_) fun h => ?_
          · split at h
            · next n _ =>
                have text := taken.mp h
                cases n with
                | zero => exact filled text.symm
                | succ n =>
                    rw [List.take_succ_cons, List.flatten_cons] at text
                    rw [← text, List.head?_append, marked] at other
                    exact other rfl
            · cases h
          · rw [List.head?_cons, Option.any_some, opens] at h
            exact Bool.false_ne_true h.1

/-- A text in which nothing but line feeds ends a line is a block for all who read it, or for none. -/
theorem isBlock_of_plain {lines : List (List Char)} (same : wideLines source.toList = lines)
    (ends : source.toList.getLast? = some '\n') (opens : lines.head?.any opensBlock = true)
    (block : blockLength lines = .ok lines.length) : IsBlock lines := by
  refine ⟨opens, blockLength_blank block fun last h => ?_⟩
  rw [← same] at h
  exact (wideLines_getLast h).trans ends

theorem unbroken_of_all {s : List Char} (h : (s.all fun c => !isLineBreak c) = true) : ∀ c ∈ s, isLineBreak c = false := by
  simpa using h

/-- What all characters of the texts in a label are, and those between them, those of the label are. -/
theorem labelLine_all {p : Char → Bool} {label : String}
    (between : (["# Module ", " - Patched by ", ", "].all fun s => s.toList.all p) = true)
    (within : label.toList.all p = true) (within' : (owners.all fun o => o.toList.all p) = true) :
    (labelLine label (", ".intercalate owners)).toList.all p = true := by
  obtain ⟨start, middle, comma⟩ : "# Module ".toList.all p = true ∧ " - Patched by ".toList.all p = true ∧
      ", ".toList.all p = true := by simpa only [List.all_cons, List.all_nil, Bool.and_true, Bool.and_eq_true] using between
  have names : (", ".intercalate owners).toList.all p = true := by
    induction owners with
    | nil => rfl
    | cons o r ih =>
        rw [List.all_cons, Bool.and_eq_true] at within'
        by_cases more : r = []
        · rw [more, String.intercalate_singleton]
          exact within'.1
        · rw [String.intercalate_cons_of_ne_nil more, String.toList_append, String.toList_append, List.all_append,
            List.all_append, within'.1, comma, ih within'.2]
          rfl
  rw [labelLine, String.toList_append, String.toList_append, String.toList_append, List.all_append, List.all_append,
    List.all_append, start, within, middle, names]
  rfl

theorem label_unbroken {label : String} (within : ∀ c ∈ label.toList, isLineBreak c = false)
    (within' : ∀ o ∈ owners, ∀ c ∈ o.toList, isLineBreak c = false) :
    ∀ c ∈ (labelLine label (", ".intercalate owners)).toList, isLineBreak c = false :=
  unbroken_of_all (labelLine_all (by decide +kernel) (by simpa using within) (by simpa using within'))

theorem normalize_unchanged {policy : Policy} (unchanged : (policy.apply source.toList).1 = source.toList)
    (w : World κ) : ∃ u, (Run.normalize policy source : Within R String).run w = .ok source u ∧
      u.heap = w.heap ∧ u.registries = w.registries := by
  rw [Run.normalize]
  cases applied : policy.apply source.toList with
  | mk text untokenized =>
      rw [applied] at unchanged
      have same : String.ofList text = source := (congrArg String.ofList unchanged).trans String.ofList_toList
      rw [← same]
      cases untokenized with
      | true => exact ⟨_, rfl, rfl, rfl⟩
      | false => exact ⟨w, rfl, rfl, rfl⟩

/-- A function whose text a policy leaves as it is comes to be patched with this text. -/
theorem opens_unchanged {b : Address} {g : Function} {policy : Policy} (dev : Bool) (diffContext : Int)
    (found : w.heap[b]? = some (.function g)) (free : g.captured = [])
    (read : (sourceText (.ref b) : Working call _).run w = .ok source w)
    (unchanged : (policy.apply source.toList).1 = source.toList) :
    ∃ u, Opens call id (.ref b) [] policy dev diffContext w ⟨id, some g.globals, dev, diffContext⟩ source u ∧
      u.registries = w.registries := by
  obtain ⟨u, normal, heap, registries⟩ := normalize_unchanged (R := Acts call) unchanged w
  have closed : closedOver w.heap (.ref b) = [] := by
    unfold closedOver
    dsimp only
    rw [at?_function found]
    simp only [free, List.map_nil, List.mergeSort_nil]
  have text : (normalizedSource policy (.ref b) : Working call _).run w = .ok (some source) u := by
    rw [normalizedSource, run_handle]
    refine handle_of_ok _ ?_
    rw [Within.run_bind, bind_of_ok read, Within.run_bind, bind_of_ok normal]
    rfl
  rw [← heap] at found
  exact ⟨u, ⟨w, u, some g.globals, rfl, closed, text, globalsOf_function found, rfl⟩, registries⟩

/-- With no patches nothing comes of patching but the record. -/
theorem applyPatches_none {n : Nat} {factory : Value} {listeners : List Value} {policy : Policy} {dev : Bool}
    {diffContext : Int} {s : Setup} {code : String} {u : World κ}
    (opens : Opens call id factory listeners policy dev diffContext w s code u) (none : (u.registry n).patches = []) :
    ∃ u', (applyPatches call id factory n listeners policy dev diffContext : Working call _).run w =
      .ok ⟨id, factory, factory, some code, []⟩ u' := by
  have nothing : ((u.noted (.began n)).registry n).patches[0]? = Option.none := by
    rw [World.noted_registry, none]
    rfl
  rw [opens.applyPatches, bind_of_ok ((runPatches_eq u).trans (tryPatches_none nothing))]
  exact ⟨_, rfl⟩

/-- Whether a text is one definition without decorators, on the row behind a label, with constants and names for
defaults. -/
def isPlainDefinition : List Stmt → Bool
  | [.define _ _ _ defaults [] _ row] => row == 2 && defaults.all fun d => d.2.isConstant || d.2.isName
  | _ => false

/-- Recompiles a text for a module in a world where nothing has happened yet. -/
def recompiled (source : String) : EStateM.Result Fault (World Unit) Value :=
  (recompile silent source (.str "m") (["p"].map .str) none : Working silent _).run (World.start [] ())

theorem isPlainDefinition_some {text : List Char} (h : (compile? text).any isPlainDefinition = true) :
    ∃ name shown ps defaults body, compile? text = some [.define name shown ps defaults [] body 2] ∧
      (defaults.all fun d => d.2.isConstant || d.2.isName) = true := by
  obtain ⟨stmts, compiled, plain⟩ := (Option.any_eq_true _ _).mp h
  unfold isPlainDefinition at plain
  split at plain
  · rw [Bool.and_eq_true, beq_iff_eq] at plain
    obtain ⟨rfl, plain⟩ := plain
    exact ⟨_, _, _, _, _, compiled, plain⟩
  · cases plain

/-- Has a bracket in a quoted text, behind a form feed, which ends lines for some. -/
def separatedText : String :=
  "def factory(m, e, r):\n    x = 'a\x0c(b'\n    return x\n"

end Patchwork
