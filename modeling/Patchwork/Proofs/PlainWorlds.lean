import Patchwork.Proofs.Labels
import Patchwork.Proofs.Originals
import Patchwork.Proofs.PureRules

/-!
Worlds in which texts are recompiled that define one function each. Nothing is called there, and what a text becomes
depends on nothing but the text and the owners.
-/

namespace Patchwork

open Run Script

variable {κ : Type} {w : World κ}

theorem patchedFile_toList (id : String) (n : Nat) :
    (patchedFile id n).toList = "<patched module ".toList ++ id.toList ++ " #".toList ++ n.repr.toList ++ ">".toList := by
  delta patchedFile
  simp only [String.toList_append, toString]

/-- The names of the files that recompilations make are long. -/
theorem ne_patchedFile {file : String} (short : file.length < 16) (id : String) (n : Nat) : file ≠ patchedFile id n := by
  rintro rfl
  exact absurd short (Nat.not_lt_of_le (patchedFile_long id n))

/-- The number of a recompilation can be told from the name of its file. -/
theorem patchedFile_number {id id' : String} {n n' : Nat} (same : patchedFile id n = patchedFile id' n') : n = n' := by
  have digits (id : String) (n : Nat) :
      (patchedFile id n).toList.reverse.tail.takeWhile Char.isDigit = (Nat.toDigits 10 n).reverse := by
    have all : ∀ c ∈ (Nat.toDigits 10 n).reverse, c.isDigit = true := fun c hc =>
      Nat.isDigit_of_mem_toDigits (by decide) (by decide) (List.mem_reverse.mp hc)
    have mark : " #".toList.reverse = ['#', ' '] := by decide
    have last : ">".toList.reverse = ['>'] := by decide
    have shown : n.repr.toList = Nat.toDigits 10 n := String.toList_ofList
    rw [patchedFile_toList, shown]
    generalize "<patched module ".toList ++ id.toList = front
    rw [List.reverse_append, last, List.reverse_append, List.reverse_append, mark, List.singleton_append, List.tail_cons,
      List.takeWhile_append_of_pos all]
    exact List.append_nil _
  have equal : (Nat.toDigits 10 n).reverse = (Nat.toDigits 10 n').reverse := by rw [← digits id n, same, digits id' n']
  have read (n : Nat) : Nat.ofDigitChars 10 (Nat.toDigits 10 n) 0 = n := Nat.ofDigitChars_toDigits (by decide) (by decide)
  rw [← read n, List.reverse_injective equal, read n']

/-! ## What a definition leaves -/

section

variable {a d b : Address} {name : String} {g : Function} {owners : List Value}

theorem World.withBuiltins_eq (w : World κ) (a : Address) : w.withBuiltins a = { w with heap := (w.withBuiltins a).heap } := by
  rw [withBuiltins]
  split <;> rfl

theorem World.withBuiltins_dict {es : List (Value × Value)} (there : w.heap[a]? = some (.dict es)) :
    ∃ es', (w.withBuiltins a).heap[a]? = some (.dict es') := by
  rw [withBuiltins]
  split
  · exact ⟨es, there⟩
  · rw [filledAt_here, there]
    exact ⟨_, rfl⟩

theorem World.defining_other (old : b < w.heap.size) (other : b ≠ d) : (w.defining d name g owners).heap[b]? = w.heap[b]? := by
  rw [defining, filledAt_other (Nat.ne_of_gt old), filledAt_other other.symm, Array.getElem?_push_lt old,
    Array.getElem?_eq_getElem old]

theorem World.defining_names {es : List (Value × Value)} (there : w.heap[d]? = some (.dict es)) :
    (w.defining d name g owners).heap[d]? = some (.dict [(.str name, .ref w.heap.size)]) := by
  have room : d < w.heap.size := (Array.getElem?_eq_some_iff.mp there).1
  have kept : (w.heap.push (.function g))[d]? = some (.dict es) := by
    rw [Array.getElem?_push_lt room, ← Array.getElem?_eq_getElem room, there]
  rw [defining, filledAt_other (Nat.ne_of_gt room), filledAt_here, kept]
  rfl

theorem World.defining_size : (w.defining d name g owners).heap.size = w.heap.size + 1 := by
  simp [defining, filledAt]

end

/-! ## Worlds that hold some things -/

namespace Script

/-- Whether a text is one definition without decorators and defaults. -/
def isBareDefinition : List Stmt → Bool
  | [.define _ _ _ [] [] _ _] => true
  | _ => false

theorem isBareDefinition_some {body : List Stmt} (h : isBareDefinition body = true) :
    ∃ t : Definition, body = [t.statement] ∧ t.defaults = [] := by
  unfold isBareDefinition at h
  split at h
  next name shown params body row => exact ⟨⟨name, shown, params, [], body, row⟩, rfl, rfl⟩
  · cases h

end Script

/-- Whether a text defines one function and does nothing else, or cannot be read. -/
def isPlainText (code : String) : Bool :=
  match readSource code with
  | some body => isBareDefinition body
  | none => true

/-- What stays where plain texts are recompiled: a dictionary that they run over, objects and files besides. Some texts are
led to one another by putting one thing in the place of another one. -/
structure PlainSite where
  globals : Address
  objects : List (Address × Object)
  files : List (String × List (List Char))
  texts : List String
  puts : List (String × String)
  apart : ∀ x ∈ objects, x.1 ≠ globals
  own : ∀ f ∈ files, ∀ id n, f.1 ≠ patchedFile id n
  plain : texts.all isPlainText = true
  closed : (puts.all fun p => texts.all fun t => texts.contains (replacedAll p.1 p.2 t)) = true

/-- A rule that puts a text in the place of all others. -/
def puttingRule (find replace : String) : Rule :=
  ⟨.str find, .str replace, .none, .int 0⟩

namespace PlainSite

variable {P : PlainSite}

def rules (P : PlainSite) : List Rule :=
  P.puts.map fun p => puttingRule p.1 p.2

/-- A world with all that, in which no function is from a file that a recompilation will make. -/
structure Holds (P : PlainSite) (w : World Unit) : Prop where
  globals : ∃ es, w.heap[P.globals]? = some (.dict es)
  objects : ∀ x ∈ P.objects, w.heap[x.1]? = some x.2
  files : ∀ f ∈ P.files, w.linesOf f.1 = f.2
  rules : ∀ r ∈ w.rules, r ∈ P.rules
  own : ∀ (a : Address) (f : Function), w.heap[a]? = some (.function f) → ∀ id n, w.recompiled ≤ n → f.code.file ≠ patchedFile id n

theorem Holds.pushed {w : World Unit} (h : P.Holds w) {o : Object} (other : ∀ f : Function, o ≠ .function f) :
    P.Holds { w with heap := w.heap.push o } := by
  have kept {a : Address} {o' : Object} (there : w.heap[a]? = some o') : (w.heap.push o)[a]? = some o' :=
    (Grows.push w o).heap a o' there
  obtain ⟨es, globals⟩ := h.globals
  refine ⟨⟨es, kept globals⟩, fun x hx => kept (h.objects x hx), h.files, h.rules, fun a f there => ?_⟩
  have place : (w.heap.push o)[a]? = if a = w.heap.size then some o else w.heap[a]? := Array.getElem?_push
  rw [place] at there
  split at there
  · exact absurd (Option.some.inj there) (other f)
  · exact h.own a f there

/-- Objects that are no functions, and functions from files with short names. -/
def isShort : Object → Bool
  | .function f => f.code.file.length < 16
  | _ => true

theorem own_of_short {w : World Unit} (short : w.heap.all isShort = true) (a : Address) (f : Function)
    (there : w.heap[a]? = some (.function f)) (id : String) (n : Nat) : f.code.file ≠ patchedFile id n :=
  have one := Array.all_eq_true'.mp short _ (Array.mem_of_getElem? there)
  ne_patchedFile (of_decide_eq_true one) id n

/-- An equal rule puts the same in the place of the same. -/
theorem rules_agreed {r known : Rule} (mem : r ∈ P.rules) (mem' : known ∈ P.rules) (same : r.same known = true) :
    known.replace = r.replace ∧ known.count.integer? = r.count.integer? := by
  obtain ⟨p, -, rfl⟩ := List.mem_map.mp mem
  obtain ⟨p', -, rfl⟩ := List.mem_map.mp mem'
  simp only [Rule.same, Bool.and_eq_true] at same
  exact ⟨Value.eq_of_sameKey_str same.1.1.2, rfl⟩

/-- The realm of a place where nothing that is called does anything. -/
def realm (P : PlainSite) : Realm Unit where
  call := silent
  registry := 1
  rules := P.rules
  texts code := code ∈ P.texts
  names name := name.toList.all isInert = true
  comes := P.Holds
  logged _ h := ⟨h.globals, h.objects, h.files, h.rules, h.own⟩
  matched _ _ h := h.pushed fun _ => Object.noConfusion
  remembered h listed := ⟨h.globals, h.objects, h.files, fun r hr => (List.mem_cons.mp hr).elim (· ▸ listed) (h.rules r), h.own⟩
  noted _ h := ⟨h.globals, h.objects, h.files, h.rules, h.own⟩
  usedUp _ h := ⟨h.globals, h.objects, h.files, h.rules, h.own⟩
  agreed h mem known same := rules_agreed mem (h.rules _ known) same

/-! ## Recompiling plain texts -/

section

variable {w : World Unit} {id code : String} {names : List String} {t : Definition}

/-- Makes a text executable that some owners have made for a module. -/
def remake (P : PlainSite) (id code : String) (names : List String) : Run Unit Value :=
  (recompile silent code (.str id) (names.map .str) (some P.globals) : Calling silent _).run

/-- The world in which a text has been registered for a recompilation, and a dictionary has been made for what it defines. -/
def readied (w : World Unit) (id code : String) (names : List String) : World Unit :=
  let counted : World Unit := { w with recompiled := w.recompiled + 1 }
  let registered := counted.registered (patchedFile id w.recompiled) (labelled id (", ".intercalate names) code)
  { registered with heap := registered.heap.push (.dict []) }

/-- The world in which the definition of a text has been run. -/
def defined (P : PlainSite) (w : World Unit) (id code : String) (names : List String) (t : Definition) : World Unit :=
  ((readied w id code names).withBuiltins P.globals).defining w.heap.size t.name
    (t.function (patchedFile id w.recompiled) P.globals []) (names.map .str)

theorem Holds.remake_run (h : P.Holds w) (inert : Inert id names) (nulls : code.toList.contains '\x00' = false)
    (read : readSource code = some [t.statement]) (bare : t.defaults = []) :
    P.remake id code names w = .ok (.ref (w.heap.size + 1)) (P.defined w id code names t) := by
  have shows : w.heap.str (.str id) = id := rfl
  have label : Inert (w.heap.str (.str id)) names := shows ▸ inert
  have room : P.globals < w.heap.size := by
    obtain ⟨es, there⟩ := h.globals
    exact (Array.getElem?_eq_some_iff.mp there).1
  have plain : t.isPlain = true := by rw [Definition.isPlain, bare]; rfl
  have empty : (readied w id code names).heap[w.heap.size]? = some (.dict []) := Array.getElem?_push_size
  have foreseen : Foreseen ((readied w id code names).withBuiltins P.globals).heap
      (evalDefaults silent (topFrame P.globals w.heap.size) t.defaults : Calling silent _) (.ok []) := by
    rw [bare, evalDefaults]
    exact Foreseen.pure []
  have ran := runOver_define empty (Nat.ne_of_lt room) plain (patchedFile id w.recompiled) id (names.map .str) foreseen
  refine (recompile_run label code (some P.globals)).trans ?_
  rw [nulls, if_neg Bool.false_ne_true, read]
  refine (runRead_given P.globals _ _ _ _ _).trans (ran.trans ?_)
  have size : ((readied w id code names).withBuiltins P.globals).heap.size = w.heap.size + 1 := by
    rw [World.withBuiltins_size]
    exact Array.size_push _
  rw [Definition.ran, size]
  rfl

/-- What is left but for the heap is what there was when the text had been registered. -/
theorem defined_eq : P.defined w id code names t =
    { readied w id code names with heap := (P.defined w id code names t).heap } := by
  rw [defined, World.withBuiltins_eq]
  rfl

theorem readied_size : ((readied w id code names).withBuiltins P.globals).heap.size = w.heap.size + 1 := by
  rw [World.withBuiltins_size]
  exact Array.size_push _

theorem defined_here : (P.defined w id code names t).heap[w.heap.size + 1]? =
    some (.function ((t.function "" P.globals []).tagged (patchedFile id w.recompiled) (names.map .str))) := by
  have size : ((readied w id code names).withBuiltins P.globals).heap.size = w.heap.size + 1 := readied_size
  rw [← size]
  exact World.defining_here (size ▸ Nat.lt_succ_self _)

theorem defined_other {a : Address} (old : a < w.heap.size) (other : a ≠ P.globals) :
    (P.defined w id code names t).heap[a]? = w.heap[a]? := by
  rw [defined, World.defining_other (readied_size ▸ Nat.lt_succ_of_lt old) (Nat.ne_of_lt old),
    World.withBuiltins_other other.symm]
  exact (Array.getElem?_push_lt old).trans (Array.getElem?_eq_getElem old).symm

theorem Holds.defined_globals (h : P.Holds w) :
    ∃ es, (P.defined w id code names t).heap[P.globals]? = some (.dict es) := by
  obtain ⟨es, there⟩ := h.globals
  have room : P.globals < w.heap.size := (Array.getElem?_eq_some_iff.mp there).1
  have kept : (readied w id code names).heap[P.globals]? = some (.dict es) :=
    (Array.getElem?_push_lt room).trans ((Array.getElem?_eq_getElem room).symm.trans there)
  rw [defined, World.defining_other (readied_size ▸ Nat.lt_succ_of_lt room) (Nat.ne_of_lt room)]
  exact World.withBuiltins_dict kept

/-- A function that is left is the new one, or it was there before. -/
theorem Holds.defined_function (h : P.Holds w) {a : Address} {f : Function}
    (there : (P.defined w id code names t).heap[a]? = some (.function f)) :
    (a = w.heap.size + 1 ∧ f.code.file = patchedFile id w.recompiled) ∨ w.heap[a]? = some (.function f) := by
  have bound := (Array.getElem?_eq_some_iff.mp there).1
  rw [defined, World.defining_size, readied_size] at bound
  rcases Nat.lt_or_ge a w.heap.size with old | new
  · refine .inr ?_
    by_cases globals : a = P.globals
    · subst globals
      obtain ⟨es, dict⟩ : ∃ es, (P.defined w id code names t).heap[P.globals]? = some (.dict es) := h.defined_globals
      rw [there] at dict
      cases dict
    · rw [← defined_other old globals, there]
  · by_cases last : a = w.heap.size + 1
    · subst last
      rw [defined_here] at there
      cases there
      exact .inl ⟨rfl, rfl⟩
    · have below : a < w.heap.size + 1 := Nat.lt_of_le_of_ne (Nat.le_of_lt_succ bound) last
      obtain rfl : a = w.heap.size := Nat.le_antisymm (Nat.le_of_lt_succ below) new
      have empty : (readied w id code names).heap[w.heap.size]? = some (.dict []) := Array.getElem?_push_size
      have room : P.globals < w.heap.size := by
        obtain ⟨es, there⟩ := h.globals
        exact (Array.getElem?_eq_some_iff.mp there).1
      rw [← World.withBuiltins_other (Nat.ne_of_lt room)] at empty
      rw [defined, World.defining_names empty] at there
      cases there

theorem readied_lines : (readied w id code names).linesOf (patchedFile id w.recompiled) =
    Text.wideLines (labelled id (", ".intercalate names) code).toList := by
  simp [readied, World.linesOf, World.registered]

theorem readied_linesOf {file : String} (other : ∀ id n, w.recompiled ≤ n → file ≠ patchedFile id n) :
    (readied w id code names).linesOf file = w.linesOf file := by
  have counted : Grows w { w with recompiled := w.recompiled + 1 } := countRecompiled_grows (R := Quiet) w
  exact (counted.registered id (Nat.le_refl _) _).sources file other

theorem Holds.defined (h : P.Holds w) : P.Holds (P.defined w id code names t) where
  globals := h.defined_globals
  objects x hx := by
    have there := h.objects x hx
    rw [defined_other (Array.getElem?_eq_some_iff.mp there).1 (P.apart x hx), there]
  files f hf := by
    rw [defined_eq]
    exact (readied_linesOf fun id n _ => P.own f hf id n).trans (h.files f hf)
  rules r hr := h.rules r (by rwa [defined_eq] at hr)
  own a f there id' n later := by
    rw [defined_eq] at later
    have past : w.recompiled + 1 ≤ n := later
    rcases h.defined_function there with ⟨-, file⟩ | old
    · rw [file]
      intro same
      exact absurd (patchedFile_number same) (Nat.ne_of_lt past)
    · exact h.own a f old id' n (Nat.le_of_succ_le past)

theorem Holds.defined_follows (h : P.Holds w) : P.realm.Follows w (P.defined w id code names t) where
  comes := h.defined
  patches := by
    rw [defined_eq]
    rfl
  shown v shown there := by
    cases v with
    | ref a =>
        simp only [World.shown?] at there ⊢
        split at there
        · next f found =>
            have other : a ≠ P.globals := by
              rintro rfl
              obtain ⟨es, dict⟩ := h.globals
              rw [found] at dict
              cases dict
            rw [defined_other (Array.getElem?_eq_some_iff.mp found).1 other, found, defined_eq]
            simp only
            have lines : ({ readied w id code names with heap := (P.defined w id code names t).heap } : World Unit).linesOf
                f.code.file = w.linesOf f.code.file := readied_linesOf (h.own a f found)
            rw [lines]
            exact there
        · cases there
    | _ => cases there

theorem defined_shown : (P.defined w id code names t).shown? (.ref (w.heap.size + 1)) =
    some (Text.wideLines (labelled id (", ".intercalate names) code).toList, t.row, .tuple (names.map .str)) := by
  rw [World.shown?, defined_here, defined_eq]
  have lines : ({ readied w id code names with heap := (P.defined w id code names t).heap } : World Unit).linesOf
      (patchedFile id w.recompiled) = _ := readied_lines
  rw [← lines]
  rfl

theorem Holds.counted (h : P.Holds w) : P.realm.Follows w { w with recompiled := w.recompiled + 1 } :=
  ⟨⟨⟨h.globals, h.objects, h.files, h.rules, fun a f there id n later => h.own a f there id n (Nat.le_of_succ_le later)⟩,
    fun _ _ h => h⟩, rfl⟩

/-- Recompiling goes by the text and the owners. -/
theorem recompiles (P : PlainSite) (label : id.toList.all isInert = true) (dev : Bool) (diffContext : Int) :
    P.realm.Recompiles ⟨.str id, some P.globals, dev, diffContext⟩ := by
  intro code names w w' mem known first second
  have inert : Inert id names := ⟨label, List.all_eq_true.mpr known⟩
  have shows (w : World Unit) : Inert (w.heap.str (.str id)) names := inert
  have ran (w : World Unit) : P.remake id code names w = _ := recompile_run (shows w) code (some P.globals)
  change P.realm.AgreeAt ShownAlike (P.remake id code names) (P.remake id code names) w w'
  have failing {c c' : Cause} (mild : c.kind.isFatal = false) (mild' : c'.kind.isFatal = false)
      (failed : P.remake id code names w = .error (.failed c) { w with recompiled := w.recompiled + 1 })
      (failed' : P.remake id code names w' = .error (.failed c') { w' with recompiled := w'.recompiled + 1 }) :
      P.realm.AgreeAt ShownAlike (P.remake id code names) (P.remake id code names) w w' :=
    .inr ⟨c, _, c', _, failed, failed', mild, mild', Holds.counted first, Holds.counted second⟩
  cases nulls : code.toList.contains '\x00' with
  | true =>
      simp only [nulls, ↓reduceIte] at ran
      exact failing rfl rfl (ran w) (ran w')
  | false =>
      cases read : readSource code with
      | none =>
          simp only [nulls, read, Bool.false_eq_true, ↓reduceIte] at ran
          exact failing rfl rfl (ran w) (ran w')
      | some body =>
          have plain := List.all_eq_true.mp P.plain code mem
          rw [isPlainText, read] at plain
          obtain ⟨t, rfl, bare⟩ := isBareDefinition_some plain
          exact .inl ⟨_, _, _, _, Holds.remake_run first inert nulls read bare, Holds.remake_run second inert nulls read bare,
            Holds.defined_follows first, Holds.defined_follows second, .inr ⟨_, defined_shown, defined_shown⟩⟩

end

/-! ## Patches that put texts in the place of others -/

theorem pureRule {p : String × String} (mem : p ∈ P.puts) : P.realm.PureRule (puttingRule p.1 p.2) where
  listed := List.mem_map.mpr ⟨p, mem, rfl⟩
  hashable v hv w w' _ _ := by
    rcases List.mem_cons.mp hv with rfl | hv
    · rfl
    rcases List.mem_cons.mp hv with rfl | hv
    · rfl
    rcases List.mem_cons.mp hv with rfl | hv
    · rfl
    · cases List.mem_singleton.mp hv
      rfl
  condition := ⟨true, fun w h => ⟨w, rfl, .refl h⟩⟩
  callable _ _ _ _ := rfl
  answers _ _ _ _ _ _ _ _ callable := absurd callable Bool.false_ne_true
  texts code code' w u v ready text _ readied applied := by
    obtain ⟨finds, literal, count⟩ := Rule.ready_texts rfl rfl readied
    have result : code' = replacedAll p.1 p.2 code := ReadyRule.apply_literal finds literal count applied
    have closed := List.all_eq_true.mp (List.all_eq_true.mp P.closed p mem) code text
    rw [result]
    exact List.contains_iff_mem.mp closed

end PlainSite

/-- A patch of rules that put texts in the place of others. -/
def puttingPatch (owner find : String) (puts : List (String × String)) (applyToAll : Bool) : Patch :=
  { owner := .str owner, find := .str find, rules := puts.map fun p => .rule (puttingRule p.1 p.2), predicate := .none
    group := false, applyToAll, quiet := true }

theorem PlainSite.purePatch {P : PlainSite} {owner : String} (inert : owner.toList.all isInert = true) (find : String)
    {puts : List (String × String)} (known : puts ⊆ P.puts) (applyToAll : Bool) :
    P.realm.PurePatch (puttingPatch owner find puts applyToAll) where
  owner := ⟨owner, rfl, inert⟩
  finds := ⟨.literal find, rfl⟩
  condition := ⟨true, fun w h => ⟨w, rfl, .refl h⟩⟩
  rules item mem := by
    obtain ⟨p, hp, rfl⟩ := List.mem_map.mp mem
    exact ⟨_, rfl, P.pureRule (known hp)⟩

end Patchwork
