import Patchwork.Proofs.KeyForms
import Patchwork.Proofs.Sparing

/-!
Factories that are plain functions, and rules that put one text in the place of another one. What becomes of them can be
told without anything being called.
-/

namespace Patchwork

open Run Script

variable {κ : Type} {R : World κ → World κ → Prop} [Still R] {w v : World κ}

/-- Only an equal text is the same key as a text. -/
theorem Value.eq_of_sameKey_str {s : String} {v : Value} (h : Value.sameKey (.str s) v = true) : v = .str s := by
  cases v with
  | str t => exact congrArg Value.str (by simpa [Value.sameKey] using h : s = t).symm
  | _ => simp [Value.sameKey] at h

/-- A function that is not marked as one is in no wrapper. -/
theorem getAttr?_bare {a : Address} {f : Function}
    (there : w.heap[a]? = some (.function f)) (bare : f.attrs.get? "__wrapped__" = none) :
    (getAttr? (.ref a) "__wrapped__" : Within R _).run w = .ok none w := by
  have seen : (heap : Within R _).run w = .ok w.heap w := rfl
  have itself : w.heap.core (.ref a) = .ref a := by rw [Heap.core, there]
  have method : (builtinMethod (.ref a) "__wrapped__" : Within R Value).run w =
      .error (.failed (.noAttribute (w.heap.kindOf (.ref a)) "__wrapped__")) w := by
    rw [builtinMethod, Within.run_bind, bind_of_ok seen]
    simp [itself, Value.numberPart?, Value.integer?, Heap.typeName, there, methodsOf]
    rfl
  have lacks : (getAttr (.ref a) "__wrapped__" : Within R Value).run w =
      .error (.failed (.noAttribute (w.heap.kindOf (.ref a)) "__wrapped__")) w := by
    rw [getAttr, Within.run_bind, bind_of_ok seen]
    simp only [there, functionAttr?, bare]
    exact method
  rw [getAttr?, run_handle]
  exact handle_of_failed (bind_of_error lacks) rfl

theorem globalsOf_function {a : Address} {f : Function}
    (there : w.heap[a]? = some (.function f)) :
    (globalsOf (.ref a) : Within R _).run w = .ok (some f.globals) w := by
  have seen : (heap : Within R _).run w = .ok w.heap w := rfl
  have read : (getAttr (.ref a) "__globals__" : Within R Value).run w = .ok (.ref f.globals) w := by
    rw [getAttr, Within.run_bind, bind_of_ok seen]
    simp only [there, functionAttr?]
    rfl
  have known : (getAttr? (.ref a) "__globals__" : Within R _).run w = .ok (some (.ref f.globals)) w := by
    rw [getAttr?, run_handle]
    exact handle_of_ok _ (bind_of_ok read)
  exact bind_of_ok known

/-- The text of a function stands in its file. -/
theorem sourceText_function {a : Address} {f : Function}
    (there : w.heap[a]? = some (.function f)) (bare : f.attrs.get? "__wrapped__" = none) :
    (sourceText (.ref a) : Within R String).run w = (blockAt (w.linesOf f.code.file) f.code.row : Within R String).run w := by
  have seen : (heap : Within R _).run w = .ok w.heap w := rfl
  have lines : (sourceLines f.code.file : Within R _).run w = .ok (w.linesOf f.code.file) w := rfl
  have itself : (unwrapped 1000 (.ref a) : Within R Value).run w = .ok (.ref a) w := by
    rw [unwrapped, Within.run_bind, bind_of_ok (getAttr?_bare there bare)]
    rfl
  rw [sourceText, Within.run_bind, bind_of_ok itself, Within.run_bind, bind_of_ok seen]
  simp only [there]
  exact bind_of_ok lines

/-- A text in one line that is a whole block, and that a policy leaves as it is. -/
structure IsLine (policy : Policy) (text : String) : Prop where
  opens : openingLine? [text.toList] 0 = some 0
  whole : (blockLength [text.toList]).toOption = some 1
  same : policy.apply text.toList = (text.toList, false)

theorem normalizedSource_line {policy : Policy} {text : String} {a : Address} {f : Function} (h : IsLine policy text)
    (there : w.heap[a]? = some (.function f)) (bare : f.attrs.get? "__wrapped__" = none) (first : f.code.row = 1)
    (lines : w.linesOf f.code.file = [text.toList]) :
    (normalizedSource policy (.ref a) : Within R _).run w = .ok (some text) w := by
  have block : (blockAt [text.toList] 1 : Within R String).run w = .ok text w := by
    have found := h.whole
    cases length : blockLength [text.toList] with
    | ok n =>
        rw [length] at found
        cases found
        have taken : String.ofList (([text.toList].drop 0).take 1).flatten = text := by simp
        have result : (blockAt [text.toList] 1 : Within R String) = pure (String.ofList (([text.toList].drop 0).take 1).flatten) := by
          simp [blockAt, h.opens, length]
        rw [result, taken]
        rfl
    | error o =>
        rw [length] at found
        cases found
  have read : (sourceText (.ref a) : Within R String).run w = .ok text w := by
    rw [sourceText_function there bare, lines, first]
    exact block
  have normal : (Run.normalize policy text : Within R String).run w = .ok text w := by
    simp only [Run.normalize, h.same, String.ofList_toList]
    rfl
  rw [normalizedSource, run_handle]
  refine handle_of_ok _ ?_
  rw [Within.run_bind, bind_of_ok read, Within.run_bind, bind_of_ok normal]
  rfl

/-- A rule about texts is applied as it stands, but for how its count is written. -/
theorem Rule.ready_texts {r : Rule} {ready : ReadyRule} {find replace : String}
    (finds : r.find = .str find) (replaces : r.replace = .str replace)
    (h : (r.ready : Within R ReadyRule).run w = .ok ready v) :
    ready.matcher = .literal find ∧ ready.replacement = .literal replace ∧ Value.sameKey r.count ready.count = true := by
  rw [Rule.ready] at h
  obtain ⟨_, w₁, -, h⟩ := bind_ok.mp h
  have seen : (world : Within R _).run w₁ = .ok w₁ w₁ := rfl
  rw [Within.run_bind, bind_of_ok seen] at h
  dsimp only at h
  -- an equal rule that was seen before has the same texts
  have same : r.same ((w₁.rules.find? r.same).getD r) = true := by
    cases known : w₁.rules.find? r.same with
    | none => simp [Rule.same, Value.sameKey_refl]
    | some r' => exact List.find?_some known
  generalize (w₁.rules.find? r.same).getD r = r' at h same
  simp only [Rule.same, Bool.and_eq_true, finds, replaces] at same
  obtain ⟨⟨⟨sameFind, sameReplace⟩, -⟩, sameCount⟩ := same
  have find' : r'.find = .str find := Value.eq_of_sameKey_str sameFind
  have replace' : r'.replace = .str replace := Value.eq_of_sameKey_str sameReplace
  have read : (Matcher.of (.str find) : Within R Matcher).run w₁ = .ok (.literal find) w₁ := rfl
  rw [find', Within.run_bind, bind_of_ok read] at h
  simp only [replace'] at h
  split at h
  · obtain ⟨_, w₂, -, h⟩ := bind_ok.mp h
    cases h
    exact ⟨rfl, rfl, sameCount⟩
  · cases h
    exact ⟨rfl, rfl, sameCount⟩

/-- The text with all occurrences of one text replaced by another one. -/
def replacedAll (find replace code : String) : String :=
  let p := (Matcher.literal find).program
  let cs := code.toList
  if cs.length < p.root.width then code
  else
    let changes := (p.occurrences cs none).map fun m => (m, replace.toList)
    String.ofList (Pattern.splice cs 0 (if p.backward then changes.reverse else changes))

theorem limitOf_grows (count : Value) (w : World κ) :
    Grows w ((limitOf count : Within R _).run.after w) := by
  rw [limitOf]
  repeat' split
  all_goals exact Lasting.refl w

/-- Putting a text in the place of others needs nobody to be called. -/
theorem ReadyRule.apply_literal_grows {call : Caller κ} {ready : ReadyRule} {replace : String} (code : String)
    (literal : ready.replacement = .literal replace) (w : World κ) :
    Grows w ((ready.apply call code : Calling call String).run.after w) := by
  rw [ReadyRule.apply]
  refine bind_within (limitOf_grows _) (fun limit w => ?_) w
  simp only [ReadyRule.changes, literal]
  split <;> exact Lasting.refl w

/-- A count that is written in any way as zero stands for all occurrences. -/
theorem ReadyRule.apply_literal {call : Caller κ} {ready : ReadyRule} {find replace code code' : String}
    (finds : ready.matcher = .literal find) (literal : ready.replacement = .literal replace)
    (all : Value.sameKey (.int 0) ready.count = true)
    (h : (ready.apply call code : Calling call String).run w = .ok code' v) : code' = replacedAll find replace code := by
  rw [ReadyRule.apply] at h
  obtain ⟨limit, u, limited, h⟩ := bind_ok.mp h
  have none : limit = none := by
    cases count : ready.count with
    | int n =>
        rw [count, Value.sameKey, beq_iff_eq] at all
        subst all
        rw [count] at limited
        cases limited
        rfl
    | bool b =>
        cases b with
        | true =>
            rw [count] at all
            cases all
        | false =>
            rw [count] at limited
            cases limited
            rfl
    | _ =>
        rw [count] at limited
        cases limited
  subst none
  simp only [ReadyRule.changes, literal, finds] at h
  simp only [replacedAll]
  split at h
  · next short =>
      cases h
      rw [if_pos short]
  · next long =>
      cases h
      rw [if_neg long]

end Patchwork
