import Mathlib.Algebra.Group.Nat.Defs
import Mathlib.Data.List.Pairwise
import Patchwork.Proofs.Keys

/-!
Equality as a key is having the same form: each value has one form that it shares with exactly the values that are
equal to it as keys. So equality as a key is an equivalence.
-/

namespace Patchwork

namespace Number.Binary64

/-! ## Doubles that are whole numbers

A finite double is `m * 2 ^ k / 2 ^ 1074` with `m` below `2 ^ 53`, and `m` is at least `2 ^ 52` unless `k` is zero. Its
bits without the sign are then `k * 2 ^ 52 + m`.
-/

/-- The significand of a double and its exponent, counted from the least one. -/
structure Parts (x : Binary64) (m k : Nat) : Prop where
  below : m < 2 ^ 53
  normal : k = 0 ∨ 2 ^ 52 ≤ m
  body : x.bits.toNat % 2 ^ 63 = k * 2 ^ 52 + m

/-- A larger exponent would need a significand that is too long on the other side. -/
theorem exponent_le {m k m' k' : Nat} (below : m < 2 ^ 53) (normal : k' = 0 ∨ 2 ^ 52 ≤ m')
    (same : m * 2 ^ k = m' * 2 ^ k') : k' ≤ k := by
  by_contra larger
  obtain ⟨d, rfl⟩ : ∃ d, k' = k + (d + 1) := ⟨k' - k - 1, by omega⟩
  have shifted : m' * 2 ^ (k + (d + 1)) = m' * 2 ^ (d + 1) * 2 ^ k := by
    rw [Nat.pow_add, Nat.mul_comm (2 ^ k), Nat.mul_assoc]
  have equal : m = m' * 2 ^ (d + 1) := Nat.mul_right_cancel (Nat.two_pow_pos k) (same.trans shifted)
  have doubled : m' * 2 ^ 1 ≤ m' * 2 ^ (d + 1) :=
    Nat.mul_le_mul_left m' (Nat.pow_le_pow_right (by decide) (Nat.le_add_left 1 d))
  omega

theorem Parts.unique {x y : Binary64} {m k m' k' : Nat} (hx : x.Parts m k) (hy : y.Parts m' k')
    (same : m * 2 ^ k = m' * 2 ^ k') : m = m' ∧ k = k' := by
  have exponents : k = k' :=
    Nat.le_antisymm (exponent_le hy.below hx.normal same.symm) (exponent_le hx.below hy.normal same)
  subst exponents
  exact ⟨Nat.mul_right_cancel (Nat.two_pow_pos k) same, rfl⟩

theorem Parts.isZero {x : Binary64} (h : x.Parts 0 0) : x.isZero = true := by
  rw [Binary64.isZero, Nat.pow_eq, h.body]
  rfl

theorem parts_of_magnitude {x : Binary64} {m : Nat} {e : Int} (h : x.magnitude = .finite m e) :
    ∃ k : Nat, x.Parts m k ∧ e = (k : Int) - 1074 := by
  simp only [magnitude, Nat.pow_eq, Int.ofNat_eq_natCast] at h
  have small := Nat.mod_lt (x.bits.toNat % 2 ^ 63) (Nat.two_pow_pos 52)
  have whole := Nat.div_add_mod (x.bits.toNat % 2 ^ 63) (2 ^ 52)
  split at h
  · split at h <;> cases h
  · next special =>
    split at h
    · next zero =>
      cases h
      exact ⟨0, ⟨by omega, .inl rfl, by omega⟩, rfl⟩
    · next positive =>
      cases h
      exact ⟨x.bits.toNat % 2 ^ 63 / 2 ^ 52 - 1, ⟨by omega, .inr (by omega), by omega⟩, by omega⟩

theorem scaled_spec (m : Nat) {k s u : Nat} {e : Int} (hu : u = 2 ^ s) (he : e = (k : Int) - s) :
    (scaled m 1 e).1 * u = m * 2 ^ k * (scaled m 1 e).2 ∧ 0 < (scaled m 1 e).2 := by
  subst hu
  simp only [scaled, Nat.pow_eq]
  split
  · next whole =>
    have steps : e.toNat + s = k := by omega
    refine ⟨?_, Nat.one_pos⟩
    rw [Nat.mul_one, Nat.mul_assoc, ← Nat.pow_add, steps]
  · next part =>
    have steps : k + (-e).toNat = s := by omega
    refine ⟨?_, Nat.mul_pos Nat.one_pos (Nat.two_pow_pos _)⟩
    rw [Nat.one_mul, Nat.mul_assoc, ← Nat.pow_add, steps]

/-- One as a multiple of the least positive double. -/
def unit : Nat := 2 ^ 1074

/-- A double that equals a whole number has parts that give its absolute value. -/
theorem parts_of_toInt? {x : Binary64} {n : Int} (h : x.toInt? = some n) :
    ∃ m k a, x.Parts m k ∧ a * unit = m * 2 ^ k ∧ n = if x.isNegative then -Int.ofNat a else Int.ofNat a := by
  simp only [toInt?, fraction] at h
  split at h
  · next m e finite =>
    obtain ⟨k, parts, exponent⟩ := parts_of_magnitude finite
    obtain ⟨value, positive⟩ := scaled_spec m (s := 1074) unit.eq_1 exponent
    obtain ⟨divides, h⟩ := Option.ite_none_right_eq_some.mp h
    refine ⟨m, k, _, parts, ?_, (Option.some.inj h).symm⟩
    obtain ⟨a, is⟩ := Nat.dvd_of_mod_eq_zero divides
    rw [is, Nat.mul_div_cancel_left a positive]
    rw [is, Nat.mul_assoc, Nat.mul_comm (m * 2 ^ k)] at value
    exact Nat.mul_left_cancel positive value
  · cases h

theorem isNan_of_toInt? {x : Binary64} {n : Int} (h : x.toInt? = some n) : x.isNan = false := by
  simp only [toInt?] at h
  split at h
  · next m e finite => rw [isNan, finite]; rfl
  · cases h

/-- Doubles that equal the same whole number are equal. -/
theorem equals_of_toInt? {x y : Binary64} {n : Int} (hx : x.toInt? = some n) (hy : y.toInt? = some n) :
    x.equals y = true := by
  obtain ⟨m, k, a, parts, value, sign⟩ := parts_of_toInt? hx
  obtain ⟨m', k', a', parts', value', sign'⟩ := parts_of_toInt? hy
  have signs := sign.symm.trans sign'
  simp only [Int.ofNat_eq_natCast] at signs
  have absolute : a = a' := by
    split at signs <;> split at signs <;> omega
  subst absolute
  obtain ⟨rfl, rfl⟩ := parts.unique parts' (value.symm.trans value')
  rw [equals, isNan_of_toInt? hx, isNan_of_toInt? hy]
  by_cases zero : a = 0
  · have none : m = 0 := by
      rw [zero, Nat.zero_mul] at value
      exact (Nat.mul_eq_zero.mp value.symm).resolve_right (Nat.ne_of_gt (Nat.two_pow_pos k))
    have least : k = 0 := by
      have := parts.normal
      omega
    subst none least
    simp [parts.isZero, parts'.isZero]
  · have negative : x.isNegative = true ↔ y.isNegative = true := by
      cases hn : x.isNegative <;> cases hn' : y.isNegative <;> simp [hn, hn'] at signs ⊢ <;> omega
    simp only [isNegative, Nat.pow_eq, decide_eq_true_eq] at negative
    have bodies := parts.body.trans parts'.body.symm
    have small := x.bits.toNat_lt
    have small' := y.bits.toNat_lt
    have same : x.bits.toNat = y.bits.toNat := by omega
    simp [UInt64.toNat_inj.mp same]

theorem toInt?_of_isZero {x : Binary64} (h : x.isZero = true) : x.toInt? = some 0 := by
  simp only [isZero, Nat.pow_eq, beq_iff_eq] at h
  have zero : x.magnitude = .finite 0 (-1074) := by
    simp [magnitude, h]
  have none : (fraction 0 (-1074)).1 = 0 := rfl
  simp only [toInt?, zero, none, Nat.zero_mod, Nat.zero_div, if_true]
  simp

theorem isNan_of_isZero {x : Binary64} (h : x.isZero = true) : x.isNan = false :=
  isNan_of_toInt? (toInt?_of_isZero h)

theorem equals_iff {x y : Binary64} :
    x.equals y = true ↔ x.isNan = false ∧ y.isNan = false ∧ (x = y ∨ x.isZero = true ∧ y.isZero = true) := by
  cases x
  cases y
  simp [equals, and_assoc]

end Number.Binary64

/-! ## Flags -/

/-- All flags. -/
def Pattern.Flag.all : List Flag :=
  [.ascii, .bestMatch, .dotAll, .enhanceMatch, .fullCase, .ignoreCase, .locale, .multiline, .posix, .reverse, .template,
    .unicode, .verbose, .versionZero, .versionOne, .word]

namespace Pattern.Flags

/-- The flags in a fixed order. -/
def inOrder (flags : Flags) : Flags :=
  Flag.all.filter flags.contains

theorem mem_inOrder {flags : Flags} {f : Flag} : f ∈ flags.inOrder ↔ f ∈ flags := by
  have listed : f ∈ Flag.all := by cases f <;> decide
  simp [inOrder, listed]

theorem same_iff {a b : Flags} : same a b = true ↔ a.inOrder = b.inOrder := by
  constructor
  · intro h
    simp only [same, Bool.and_eq_true, List.all_eq_true, List.contains_iff_mem] at h
    exact List.filter_congr fun f _ => by
      simp only [List.contains_eq_mem, decide_eq_decide]
      exact ⟨h.1 f, h.2 f⟩
  · intro h
    have members : ∀ f, f ∈ a ↔ f ∈ b := fun f => by rw [← mem_inOrder, h, mem_inOrder]
    simp only [same, Bool.and_eq_true, List.all_eq_true, List.contains_iff_mem]
    exact ⟨fun f => (members f).mp, fun f => (members f).mpr⟩

end Pattern.Flags

namespace Value

open Number

/-! ## Numbers -/

/-- The form of a double: a whole number where it equals one. -/
def realForm (x : Binary64) : Value :=
  match x.toInt? with
  | some n => int n
  | Option.none => float x

/-- The form of a complex number: that of its real part where it equals that. -/
def complexForm (z : Number.Complex) : Value :=
  if z.isReal && !z.re.isNan then realForm z.re
  else if z.re.isZero && !z.im.isNan then complex ⟨.signed false 0, z.im⟩
  else complex z

theorem realForm_eq_int {x : Binary64} {n : Int} : realForm x = int n ↔ x.toInt? = some n := by
  cases h : x.toInt? <;> simp [realForm, h]

theorem realForm_eq_iff {x y : Binary64} : realForm x = realForm y ↔ x.equals y = true ∨ x = y := by
  constructor
  · intro h
    cases hx : x.toInt? with
    | some n => exact .inl (Binary64.equals_of_toInt? hx (realForm_eq_int.mp (by rw [← h, realForm, hx])))
    | none => cases hy : y.toInt? <;> simp_all [realForm]
  · rintro (h | rfl)
    · rcases (Binary64.equals_iff.mp h).2.2 with rfl | ⟨hx, hy⟩
      · rfl
      · rw [realForm_eq_int.mpr (Binary64.toInt?_of_isZero hx), realForm_eq_int.mpr (Binary64.toInt?_of_isZero hy)]
    · rfl

theorem realForm_ne_complex {x : Binary64} {z : Number.Complex} : realForm x ≠ complex z := by
  cases h : x.toInt? <;> simp [realForm, h]

/-- The forms of complex numbers that are not real differ from those of all doubles. -/
theorem complexForm_eq_real_iff {z : Number.Complex} {v : Value} (hv : ∀ w, v ≠ complex w) :
    complexForm z = v ↔ z.isReal = true ∧ z.re.isNan = false ∧ realForm z.re = v := by
  simp only [complexForm]
  split
  · next real => simp_all
  · next other =>
    simp only [Bool.and_eq_true, Bool.not_eq_true'] at other
    split <;> simp [(hv _).symm] <;> tauto

/-- What the forms of numbers are. -/
def isNumber : Value → Bool
  | int _ | float _ | complex _ => true
  | _ => false

theorem isNumber_realForm (x : Binary64) : (realForm x).isNumber = true := by
  rw [realForm]
  split <;> rfl

theorem isNumber_complexForm (z : Number.Complex) : (complexForm z).isNumber = true := by
  rw [complexForm]
  split
  · exact isNumber_realForm _
  · split <;> rfl

theorem ne_realForm {v : Value} {x : Binary64} (h : ¬ v.isNumber = true) : v ≠ realForm x := by
  rintro rfl
  exact h (isNumber_realForm x)

theorem ne_complexForm {v : Value} {z : Number.Complex} (h : ¬ v.isNumber = true) : v ≠ complexForm z := by
  rintro rfl
  exact h (isNumber_complexForm z)

theorem complexForm_eq_iff {z w : Number.Complex} : complexForm z = complexForm w ↔ z.equals w = true ∨ z = w := by
  have positive : (Binary64.signed false 0).isZero = true := by decide
  have number {x : Binary64} (h : x.isZero = true) : x.isNan = false := Binary64.isNan_of_isZero h
  have parts : z = w ↔ z.re = w.re ∧ z.im = w.im := by
    cases z
    cases w
    simp
  by_cases real : w.isReal = true ∧ w.re.isNan = false
  · have form : complexForm w = realForm w.re := by simp [complexForm, real]
    rw [form, complexForm_eq_real_iff fun _ => realForm_ne_complex, realForm_eq_iff]
    grind [Number.Complex.equals, Number.Complex.isReal, Binary64.equals_iff]
  · by_cases real' : z.isReal = true ∧ z.re.isNan = false
    · have form : complexForm z = realForm z.re := by simp [complexForm, real']
      rw [form, eq_comm, complexForm_eq_real_iff fun _ => realForm_ne_complex]
      grind [Number.Complex.equals, Number.Complex.isReal, Binary64.equals_iff]
    · grind [complexForm, Number.Complex.equals, Number.Complex.isReal, Binary64.equals_iff]

/-! ## All values -/

mutual

/-- The form that a value shares with all values that are equal to it as keys. -/
def keyForm : Value → Value
  | none => none
  | bool b => int (if b then 1 else 0)
  | int n => int n
  | float x => realForm x
  | complex z => complexForm z
  | str s => str s
  | bytes data => bytes data
  | tuple vs => tuple (keyForms vs)
  | pattern p => pattern { p with flags := p.flags.inOrder }
  | native n => native n
  | failure k vs => failure k (keyForms vs)
  | bound r name => bound (keyForm r) name
  | method r f => method (keyForm r) (keyForm f)
  | ref a => ref a

def keyForms : List Value → List Value
  | [] => []
  | v :: vs => keyForm v :: keyForms vs

end

theorem sameKey_int_iff (n : Int) (w : Value) : sameKey (int n) w = true ↔ int n = keyForm w := by
  cases w with
  | bool b => rw [sameKey, keyForm, beq_iff_eq, int.injEq, eq_comm]
  | int m => rw [sameKey, keyForm, beq_iff_eq, int.injEq]
  | float x => rw [sameKey, keyForm, floatIsInt, beq_iff_eq, ← realForm_eq_int, eq_comm]
  | complex z =>
      rw [sameKey, keyForm, floatIsInt, Bool.and_eq_true, beq_iff_eq, eq_comm (a := int n),
        complexForm_eq_real_iff fun _ => Value.noConfusion, realForm_eq_int]
      exact ⟨fun h => ⟨h.1, Binary64.isNan_of_toInt? h.2, h.2⟩, fun h => ⟨h.1, h.2.2⟩⟩
  | _ => simp [sameKey, keyForm]

theorem sameKey_bool_iff (b : Bool) (w : Value) :
    sameKey (bool b) w = true ↔ int (if b then 1 else 0) = keyForm w := by
  rw [← sameKey_int_iff]
  cases w with
  | bool c => cases b <;> cases c <;> simp [sameKey]
  | _ => simp only [sameKey]

theorem sameKey_float_iff (x : Binary64) (w : Value) : sameKey (float x) w = true ↔ realForm x = keyForm w := by
  cases w with
  | bool b => rw [sameKey, keyForm, floatIsInt, beq_iff_eq, realForm_eq_int]
  | int m => rw [sameKey, keyForm, floatIsInt, beq_iff_eq, realForm_eq_int]
  | float y => rw [sameKey, keyForm, Bool.or_eq_true, beq_iff_eq, realForm_eq_iff]
  | complex z =>
      rw [sameKey, keyForm, eq_comm (a := realForm x), complexForm_eq_real_iff fun _ => realForm_ne_complex,
        realForm_eq_iff]
      grind [Binary64.equals_iff]
  | _ => cases h : x.toInt? <;> simp [sameKey, keyForm, realForm, h]

theorem sameKey_complex_iff (z : Number.Complex) (w : Value) :
    sameKey (complex z) w = true ↔ complexForm z = keyForm w := by
  cases w with
  | bool b =>
      have turned : sameKey (complex z) (bool b) = sameKey (bool b) (complex z) := by rw [sameKey, sameKey]
      rw [turned, sameKey_bool_iff]
      exact eq_comm
  | int m =>
      have turned : sameKey (complex z) (int m) = sameKey (int m) (complex z) := by rw [sameKey, sameKey]
      rw [turned, sameKey_int_iff]
      exact eq_comm
  | float y =>
      have turned : sameKey (complex z) (float y) = sameKey (float y) (complex z) := by rw [sameKey, sameKey]
      rw [turned, sameKey_float_iff]
      exact eq_comm
  | complex y => rw [sameKey, keyForm, Bool.or_eq_true, beq_iff_eq, complexForm_eq_iff]
  | _ =>
    rw [keyForm, complexForm_eq_real_iff fun _ => Value.noConfusion]
    cases h : z.re.toInt? <;> simp [sameKey, realForm, h]

mutual

/-- Equality as a key is having the same form. -/
theorem sameKey_iff : (v w : Value) → (sameKey v w = true ↔ keyForm v = keyForm w)
  | .bool b, w => sameKey_bool_iff b w
  | .int n, w => sameKey_int_iff n w
  | .float x, w => sameKey_float_iff x w
  | .complex z, w => sameKey_complex_iff z w
  | .none, w | .str _, w | .bytes _, w | .native _, w | .ref _, w => by
      cases w <;> simp [sameKey, keyForm, isNumber, ne_realForm, ne_complexForm]
  | .tuple vs, w => by
      cases w <;> simp [sameKey, keyForm, isNumber, ne_realForm, ne_complexForm, sameKeys_iff vs]
  | .pattern p, w => by
      cases w <;> simp [sameKey, keyForm, isNumber, ne_realForm, ne_complexForm, Pattern.same, Pattern.Flags.same_iff,
        and_assoc]
  | .failure k vs, w => by
      cases w <;> simp [sameKey, keyForm, isNumber, ne_realForm, ne_complexForm, sameKeys_iff vs]
  | .bound r name, w => by
      cases w <;> simp [sameKey, keyForm, isNumber, ne_realForm, ne_complexForm, sameKey_iff r]
  | .method r f, w => by
      cases w <;> simp [sameKey, keyForm, isNumber, ne_realForm, ne_complexForm, sameKey_iff r, sameKey_iff f]

theorem sameKeys_iff : (vs ws : List Value) → (sameKeys vs ws = true ↔ keyForms vs = keyForms ws)
  | [], ws => by cases ws <;> simp [sameKeys, keyForms]
  | v :: vs, ws => by cases ws <;> simp [sameKeys, keyForms, sameKey_iff v, sameKeys_iff vs]

end

theorem sameKey_symm {v w : Value} (h : sameKey v w = true) : sameKey w v = true :=
  (sameKey_iff w v).mpr ((sameKey_iff v w).mp h).symm

theorem sameKey_trans {u v w : Value} (first : sameKey u v = true) (second : sameKey v w = true) :
    sameKey u w = true :=
  (sameKey_iff u w).mpr (((sameKey_iff u v).mp first).trans ((sameKey_iff v w).mp second))

/-! ## Entries under different keys -/

section

variable {α : Type} {entries : List (Value × α)} {key : Value} {value : α} {e : Value × α}

/-- No two entries have equal keys. -/
def Apart (entries : List (Value × α)) : Prop :=
  entries.Pairwise fun e f => sameKey e.1 f.1 = false

/-- Different keys are so both ways. -/
instance : Std.Symm fun e f : Value × α => sameKey e.1 f.1 = false where
  symm e f other := by
    rw [← Bool.not_eq_true] at other ⊢
    exact fun h => other (sameKey_symm h)

namespace Apart

theorem unique {f : Value × α} (apart : Apart entries) (he : e ∈ entries) (hf : f ∈ entries)
    (same : sameKey e.1 f.1 = true) : e = f := by
  by_contra differ
  have other : sameKey e.1 f.1 = false := List.Pairwise.forall apart he hf differ
  exact absurd (same.symm.trans other) (by decide)

theorem erase (apart : Apart entries) (key : Value) : Apart (erase entries key) :=
  List.Pairwise.filter _ apart

theorem lookup? (apart : Apart entries) (he : e ∈ entries) (same : sameKey e.1 key = true) :
    lookup? entries key = some e.2 := by
  rw [Value.lookup?]
  cases found : entries.find? fun f => sameKey f.1 key with
  | none => exact absurd same (List.find?_eq_none.mp found e he)
  | some f =>
      have same' := List.find?_some found
      rw [apart.unique (List.mem_of_find?_eq_some found) he (sameKey_trans same' (sameKey_symm same))]
      rfl

end Apart

theorem mem_insert_of_other (he : e ∈ entries) (other : sameKey e.1 key = false) : e ∈ insert entries key value := by
  induction entries with
  | nil => cases he
  | cons first rest ih =>
      rw [insert]
      rcases List.mem_cons.mp he with rfl | he
      · rw [other]
        exact List.mem_cons_self
      · split
        · exact List.mem_cons_of_mem _ he
        · exact List.mem_cons_of_mem _ (ih he)

/-- An entry of a list into which a value was inserted has that value under an equal key, or was there under another
one. -/
theorem mem_insert_apart (apart : Apart entries) (he : e ∈ insert entries key value) :
    e.2 = value ∧ sameKey e.1 key = true ∨ e ∈ entries ∧ sameKey e.1 key = false := by
  induction entries with
  | nil =>
      rw [List.mem_singleton.mp he]
      exact .inl ⟨rfl, sameKey_refl key⟩
  | cons first rest ih =>
      obtain ⟨different, apart⟩ := List.pairwise_cons.mp apart
      rw [insert] at he
      split at he
      · next same =>
        rcases List.mem_cons.mp he with rfl | he
        · exact .inl ⟨rfl, same⟩
        · refine .inr ⟨List.mem_cons_of_mem _ he, ?_⟩
          rw [← Bool.not_eq_true]
          exact fun h => absurd (sameKey_trans same (sameKey_symm h)) (by simp [different e he])
      · next other =>
        rcases List.mem_cons.mp he with rfl | he
        · exact .inr ⟨List.mem_cons_self, Bool.not_eq_true _ ▸ other⟩
        · exact (ih apart he).imp_right fun h => ⟨List.mem_cons_of_mem _ h.1, h.2⟩

theorem Apart.insert (apart : Apart entries) (key : Value) (value : α) : Apart (insert entries key value) := by
  induction entries with
  | nil => exact List.pairwise_singleton _ _
  | cons first rest ih =>
      obtain ⟨different, apart⟩ := List.pairwise_cons.mp apart
      rw [Value.insert]
      split
      · exact List.pairwise_cons.mpr ⟨different, apart⟩
      · next other =>
        refine List.pairwise_cons.mpr ⟨fun e he => ?_, ih apart⟩
        rcases mem_insert_apart apart he with ⟨_, same⟩ | ⟨old, _⟩
        · rw [← Bool.not_eq_true]
          exact fun h => other (sameKey_trans h same)
        · exact different e old

theorem insert_new (new : ∀ e ∈ entries, sameKey e.1 key = false) : insert entries key value = entries ++ [(key, value)] := by
  induction entries with
  | nil => rfl
  | cons first rest ih =>
      rw [insert, new first List.mem_cons_self, if_neg Bool.false_ne_true, ih fun e he => new e (List.mem_cons_of_mem _ he)]
      rfl

theorem insert_again (there : hasKey entries key = true) : (insert entries key value).map (·.1) = entries.map (·.1) := by
  induction entries with
  | nil => cases there
  | cons first rest ih =>
      rw [insert]
      split
      · rfl
      · next other =>
        rw [hasKey, List.any_cons, Bool.or_eq_true, or_iff_right other] at there
        rw [List.map_cons, List.map_cons, ih there]

/-- Entries that are inserted one after the other are there in that order if no two have equal keys. -/
theorem foldl_insert (done : List (Value × α)) (apart : Apart (done ++ entries)) :
    entries.foldl (fun d e => insert d e.1 e.2) done = done ++ entries := by
  induction entries generalizing done with
  | nil => rw [List.append_nil]; rfl
  | cons first rest ih =>
      have new : ∀ e ∈ done, sameKey e.1 first.1 = false := fun e he =>
        (List.pairwise_append.mp apart).2.2 e he first List.mem_cons_self
      rw [List.foldl_cons, insert_new new, ih _ (by rwa [List.append_assoc]), List.append_assoc]
      rfl

/-- Whether entries are apart is a matter of their keys. -/
theorem Apart.of_keys {β : Type} {others : List (Value × β)} (apart : Apart entries)
    (same : others.map (·.1) = entries.map (·.1)) : Apart others := by
  have keys : (entries.map (·.1)).Pairwise fun k l => sameKey k l = false := List.pairwise_map.mpr apart
  rw [← same] at keys
  exact List.pairwise_map.mp keys

end

end Value

end Patchwork
