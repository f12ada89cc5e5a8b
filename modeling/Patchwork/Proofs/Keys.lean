import Mathlib.Data.List.Nodup
import Patchwork.Value.Basic

/-!
Equality as a key, and lists of entries under keys.
-/

namespace Patchwork

theorem Pattern.Flags.same_refl (a : Flags) : Flags.same a a = true := by
  simp [Flags.same]

namespace Value

mutual

theorem sameKey_refl : (v : Value) → sameKey v v = true
  | .none => rfl
  | .bool b => beq_self_eq_true b
  | .int n => beq_self_eq_true n
  | .float x => by rw [sameKey, beq_self_eq_true, Bool.or_true]
  | .complex x => by rw [sameKey, beq_self_eq_true, Bool.or_true]
  | .str s => beq_self_eq_true s
  | .bytes data => beq_self_eq_true data
  | .tuple vs => sameKeys_refl vs
  | .pattern p => by simp [sameKey, Pattern.same, Pattern.Flags.same_refl]
  | .native n => beq_self_eq_true n
  | .failure k vs => by rw [sameKey, beq_self_eq_true, sameKeys_refl vs, Bool.true_and]
  | .bound r name => by rw [sameKey, sameKey_refl r, beq_self_eq_true, Bool.true_and]
  | .method r f => by rw [sameKey, sameKey_refl r, sameKey_refl f, Bool.true_and]
  | .ref a => beq_self_eq_true a

theorem sameKeys_refl : (vs : List Value) → sameKeys vs vs = true
  | [] => rfl
  | v :: vs => by rw [sameKeys, sameKey_refl v, sameKeys_refl vs, Bool.true_and]

end

variable {α : Type}

theorem mem_insert {e : Value × α} {key : Value} {value : α} :
    {entries : List (Value × α)} → e ∈ insert entries key value → e ∈ entries ∨ e.2 = value
  | [], h => .inr (by rw [List.mem_singleton.mp h])
  | first :: rest, h => by
      rw [insert] at h
      split at h
      · rcases List.mem_cons.mp h with rfl | h
        · exact .inr rfl
        · exact .inl (List.mem_cons_of_mem _ h)
      · rcases List.mem_cons.mp h with rfl | h
        · exact .inl List.mem_cons_self
        · exact (mem_insert h).imp_left (List.mem_cons_of_mem _)

/-- What tells entries apart still does so after the insertion of a value that is told apart from all others. -/
theorem insert_nodup {β : Type} (g : α → β) {key : Value} {value : α} :
    {entries : List (Value × α)} → (entries.map fun e => g e.2).Nodup →
      g value ∉ entries.map (fun e => g e.2) → ((insert entries key value).map fun e => g e.2).Nodup
  | [], _, _ => List.nodup_singleton _
  | first :: rest, single, new => by
      rw [List.map_cons, List.nodup_cons] at single
      rw [List.map_cons, List.mem_cons, not_or] at new
      rw [insert]
      split
      · exact List.nodup_cons.mpr ⟨new.2, single.2⟩
      · refine List.nodup_cons.mpr ⟨fun h => ?_, insert_nodup g single.2 new.2⟩
        obtain ⟨e, he, same⟩ := List.mem_map.mp h
        rcases mem_insert he with old | rfl
        · exact single.1 (List.mem_map.mpr ⟨e, old, same⟩)
        · exact new.1 same

theorem mem_erase {e : Value × α} {key : Value} {entries : List (Value × α)} :
    e ∈ erase entries key ↔ e ∈ entries ∧ sameKey e.1 key = false := by
  rw [erase, List.mem_filter, Bool.not_eq_true']

theorem lookup?_insert_self {key : Value} {value : α} :
    {entries : List (Value × α)} → lookup? (insert entries key value) key = some value
  | [] => by simp [insert, lookup?, sameKey_refl]
  | first :: rest => by
      rw [insert]
      split
      · next same => simp [lookup?, same]
      · next other =>
          have ih : lookup? (insert rest key value) key = some value := lookup?_insert_self
          simpa [lookup?, List.find?_cons, other] using ih

theorem lookup?_entry {entries : List (Value × α)} {key : Value} {value : α}
    (h : lookup? entries key = some value) : ∃ k, (k, value) ∈ entries ∧ sameKey k key = true := by
  obtain ⟨e, found, rfl⟩ := Option.map_eq_some_iff.mp h
  have same := List.find?_some found
  exact ⟨e.1, List.mem_of_find?_eq_some found, same⟩

theorem lookup?_mem {entries : List (Value × α)} {key : Value} {value : α}
    (h : lookup? entries key = some value) : ∃ k, (k, value) ∈ entries := by
  obtain ⟨k, there, _⟩ := lookup?_entry h
  exact ⟨k, there⟩

end Value

end Patchwork
