import Patchwork.Proofs.TableRuns

/-!
Missing keys. The methods that a table shares with other mappings take any failure for a missing key as a sign that there is
no entry. Where the patcher fails so, they take an entry that is there for a missing one.
-/

namespace Patchwork.Table

open Run

variable {κ : Type} {R : World κ → World κ → Prop} [Moves R] {call patch : Caller κ} {a : Address} {key : Value}
  {u v w : World κ}

/-- Failures that say that a key is missing. -/
def SaysMissing (c : Cause) : Prop :=
  c.kind.isA .key = true ∧ c.kind.isFatal = false

theorem type_saysMissing {c : Cause} (type : c.kind = .type) : ¬ SaysMissing c := by
  have other : ErrorKind.isA .type .key = false := by decide
  rw [SaysMissing, type, other]
  exact fun missing => Bool.false_ne_true missing.1

/-- The patcher is called for an entry that is there, and fails for a missing key. -/
def Misleads (patch : Caller κ) (a : Address) (key : Value) (w u : World κ) : Prop :=
  ∃ factory c, (w.heap.table a).get? key = some factory ∧ (w.heap.table a).isFresh key factory = true ∧
    patch (w.heap.table a).patcher (.of [.ref a, key, factory]) (w.replaced a (.table ((w.heap.table a).process key))) =
      .error (.failed c) u ∧ SaysMissing c

theorem Misleads.isModuleId (h : Misleads patch a key w u) : isModuleId key = true := by
  obtain ⟨factory, c, -, fresh, -⟩ := h
  simp only [isFresh, Bool.and_eq_true] at fresh
  exact fresh.1.2

variable [Calls patch R]

/-- A read finds the key of an entry missing exactly if the patcher does. -/
theorem read_missing_iff (hashable : w.heap.unhashable? key = none) (present : (w.heap.table a).get? key ≠ none) :
    (∃ c, (read patch a key : Within R Value).run w = .error (.failed c) u ∧ SaysMissing c) ↔ Misleads patch a key w u := by
  rw [read_run, hashable]
  cases stored : (w.heap.table a).get? key with
  | none => exact absurd stored present
  | some factory =>
      dsimp only
      by_cases fresh : (w.heap.table a).isFresh key factory = true
      · rw [if_pos fresh]
        constructor
        · rintro ⟨c, failed, missing⟩
          exact ⟨factory, c, stored, fresh, failed, missing⟩
        · rintro ⟨factory', c, stored', -, failed, missing⟩
          obtain rfl : factory = factory' := Option.some.inj (stored.symm.trans stored')
          exact ⟨c, failed, missing⟩
      · rw [if_neg fresh]
        constructor
        · rintro ⟨c, failed, -⟩
          cases failed
        · rintro ⟨factory', c, stored', fresh', -⟩
          obtain rfl : factory = factory' := Option.some.inj (stored.symm.trans stored')
          exact absurd fresh' fresh

theorem read?_of_missing {c : Cause} (failed : (read patch a key : Within R Value).run w = .error (.failed c) u)
    (missing : SaysMissing c) : (read? patch a key : Within R (Option Value)).run w = .ok none u := by
  have found : (do pure (some (← read patch a key)) : Within R (Option Value)).run w = .error (.failed c) u :=
    bind_of_error failed
  rw [read?, run_handle, handle_of_failed found missing.2, if_pos missing.1]
  rfl

theorem read?_of_not_missing
    (none : ∀ c u, (read patch a key : Within R Value).run w = .error (.failed c) u → ¬ SaysMissing c) :
    (read? patch a key : Within R (Option Value)).run w = (do pure (some (← read patch a key)) : Within R _).run w := by
  rw [read?, run_handle]
  cases result : (read patch a key : Within R Value).run w with
  | ok v u =>
      have found : (do pure (some (← read patch a key)) : Within R (Option Value)).run w = .ok (some v) u := bind_of_ok result
      exact (handle_of_ok _ found).trans found.symm
  | error e u =>
      have found : (do pure (some (← read patch a key)) : Within R (Option Value)).run w = .error e u := bind_of_error result
      rw [found]
      cases e with
      | exhausted => exact handle_of_exhausted _ found
      | failed c =>
          by_cases fatal : c.kind.isFatal = true
          · exact handle_of_fatal _ found fatal
          · have mild := Bool.eq_false_iff.mpr fatal
            have other : ¬ c.kind.isA .key = true := fun key => none c u result ⟨key, mild⟩
            rw [handle_of_failed found mild, if_neg other]
            rfl

theorem store_run (hashable : w.heap.unhashable? key = none) (value : Value) :
    (store a key value : Within R Unit).run w = .ok () (w.replaced a (.table ((w.heap.table a).set key value))) := by
  rw [store, Within.run_bind, bind_of_ok (checkKey_ok hashable), Within.run_bind, bind_of_ok (tableAt_run a w)]
  rfl

/-! ## Methods with something to fall back on -/

section

variable [Calls call R] (d : Value)

/-- Where the patcher misleads them, the methods fall back. -/
theorem fall_back (h : Misleads patch a key w u) :
    (callMethod call patch a "get" (.of [key, d]) : Within R Value).run w = .ok d u ∧
      (callMethod call patch a "pop" (.of [key, d]) : Within R Value).run w = .ok d u ∧
      (callMethod call patch a "setdefault" (.of [key, d]) : Within R Value).run w =
        .ok d (u.replaced a (.table ((u.heap.table a).set key d))) := by
  have hashable (h' : Heap) : h'.unhashable? key = none := isModuleId_hashable h' h.isModuleId
  have present : (w.heap.table a).get? key ≠ none := by
    obtain ⟨factory, c, stored, -⟩ := h
    simp [stored]
  obtain ⟨c, failed, missing⟩ := (read_missing_iff (R := R) (hashable _) present).mpr h
  have none := read?_of_missing failed missing
  have stored : (readOrStore patch a key d : Within R Value).run w =
      .ok d (u.replaced a (.table ((u.heap.table a).set key d))) := by
    rw [readOrStore, Within.run_bind, bind_of_ok none]
    exact bind_of_ok (store_run (hashable _) d)
  exact ⟨bind_of_ok none, bind_of_ok none, stored⟩

/-- Where it does not, they do what reading does. -/
theorem read_through (hashable : w.heap.unhashable? key = none) (present : (w.heap.table a).get? key ≠ none)
    (honest : ∀ u, ¬ Misleads patch a key w u) :
    (callMethod call patch a "get" (.of [key, d]) : Within R Value).run w = (read patch a key : Within R Value).run w ∧
      (callMethod call patch a "pop" (.of [key, d]) : Within R Value).run w =
        (callMethod call patch a "pop" (.of [key]) : Within R Value).run w ∧
      (callMethod call patch a "setdefault" (.of [key, d]) : Within R Value).run w =
        (read patch a key : Within R Value).run w := by
  have same : (read? patch a key : Within R (Option Value)).run w =
      (do pure (some (← read patch a key)) : Within R (Option Value)).run w :=
    read?_of_not_missing fun c u failed missing =>
      honest u ((read_missing_iff (R := R) hashable present).mp ⟨c, failed, missing⟩)
  have gets : (do pure ((← read? patch a key).getD d) : Within R Value).run w = (read patch a key : Within R Value).run w := by
    cases result : (read patch a key : Within R Value).run w with
    | ok v u => exact bind_of_ok (same.trans (bind_of_ok result))
    | error e u => exact bind_of_error (same.trans (bind_of_error result))
  have takes : (take patch a key (some d) : Within R Value).run w = (take patch a key none : Within R Value).run w := by
    rw [take, take, Within.run_bind, Within.run_bind]
    cases result : (read patch a key : Within R Value).run w with
    | ok v u => rw [bind_of_ok (same.trans (bind_of_ok result)), bind_of_ok result]
    | error e u => rw [bind_of_error (same.trans (bind_of_error result)), bind_of_error result]
  have stores : (readOrStore patch a key d : Within R Value).run w = (read patch a key : Within R Value).run w := by
    rw [readOrStore, Within.run_bind]
    cases result : (read patch a key : Within R Value).run w with
    | ok v u => exact bind_of_ok (same.trans (bind_of_ok result))
    | error e u => exact bind_of_error (same.trans (bind_of_error result))
  exact ⟨gets, takes, stores⟩

end

/-! ## Taking entries until a key is missing -/

theorem contains_iff {t : Table} : t.contains key = true ↔ t.get? key ≠ none := by
  rw [contains, get?, Value.hasKey, Value.lookup?, ne_eq, Option.map_eq_none_iff, List.find?_eq_none, List.any_eq_true]
  simp

theorem remove_run (hashable : w.heap.unhashable? key = none) :
    (remove a key : Within R Unit).run w =
      if (w.heap.table a).isPinned key then .error (.failed (.pinnedEntry key)) w
      else if (w.heap.table a).contains key then .ok () (w.replaced a (.table ((w.heap.table a).erase key)))
      else .error (.failed (.noKey key)) w := by
  rw [remove, Within.run_bind, bind_of_ok (checkKey_ok hashable), Within.run_bind, bind_of_ok (tableAt_run a w)]
  dsimp only
  by_cases pinned : (w.heap.table a).isPinned key = true
  · rw [if_pos pinned, if_pos pinned]
    rfl
  · rw [if_neg pinned, if_neg pinned]
    split <;> rfl

theorem remove_missing {c : Cause} (h : (remove a key : Within R Unit).run w = .error (.failed c) u) (missing : SaysMissing c) :
    u = w ∧ (w.heap.table a).get? key = none := by
  cases hashable : w.heap.unhashable? key with
  | some type =>
      rw [remove, Within.run_bind, bind_of_error (checkKey_failed hashable)] at h
      cases h
      exact absurd missing (type_saysMissing rfl)
  | none =>
      rw [remove_run hashable] at h
      split at h
      · cases h
        exact absurd missing (type_saysMissing rfl)
      · split at h
        · cases h
        · next absent =>
            cases h
            exact ⟨rfl, by simpa [contains_iff] using absent⟩

theorem get_of_mem_keys {t : Table} (listed : key ∈ t.keys) : t.get? key ≠ none := by
  obtain ⟨e, stored, rfl⟩ := List.mem_map.mp (List.mem_filter.mp listed).1
  rw [← contains_iff, contains, Value.hasKey, List.any_eq_true]
  exact ⟨e, stored, Value.sameKey_refl e.1⟩

/-- The first listed entry is not taken because its patcher misleads, or took the entry out itself. -/
def Loses (patch : Caller κ) [Calls patch R] (a : Address) (w u : World κ) : Prop :=
  ∃ key, (w.heap.table a).keys.head? = some key ∧
    (Misleads patch a key w u ∨
      ∃ x, (read patch a key : Within R Value).run w = .ok x u ∧ (u.heap.table a).get? key = none)

theorem takeFirst_missing {c : Cause} (h : (takeFirst patch a : Within R (Value × Value)).run w = .error (.failed c) u)
    (missing : SaysMissing c) : (w.heap.table a).keys = [] ∧ u = w ∨ Loses (R := R) patch a w u := by
  rw [takeFirst, Within.run_bind, bind_of_ok (tableAt_run a w)] at h
  cases listed : (w.heap.table a).keys with
  | nil =>
      rw [listed] at h
      cases h
      exact .inl ⟨rfl, rfl⟩
  | cons key rest =>
      rw [listed] at h
      refine .inr ⟨key, by rw [listed]; rfl, ?_⟩
      have present : (w.heap.table a).get? key ≠ none := get_of_mem_keys (listed ▸ List.mem_cons_self)
      cases result : (read patch a key : Within R Value).run w with
      | error e u' =>
          rw [Within.run_bind, bind_of_error result] at h
          cases h
          have hashable : w.heap.unhashable? key = none := by
            cases type : w.heap.unhashable? key with
            | none => rfl
            | some type' =>
                rw [read_run, type] at result
                cases result
                exact absurd missing (type_saysMissing rfl)
          exact .inl ((read_missing_iff (R := R) hashable present).mp ⟨c, result, missing⟩)
      | ok x u' =>
          rw [Within.run_bind, bind_of_ok result, Within.run_bind] at h
          cases removed : (remove a key : Within R Unit).run u' with
          | ok _ v =>
              rw [bind_of_ok removed] at h
              cases h
          | error e v =>
              rw [bind_of_error removed] at h
              cases h
              obtain ⟨rfl, gone⟩ := remove_missing removed missing
              exact .inr ⟨x, rfl, gone⟩

/-- First listed entries are taken, one after the other. -/
inductive Takes (R : World κ → World κ → Prop) [Moves R] (patch : Caller κ) [Calls patch R] (a : Address) :
    World κ → World κ → Prop
  | start (w : World κ) : Takes R patch a w w
  | more {e : Value × Value} {u v w : World κ} : (takeFirst patch a : Within R (Value × Value)).run u = .ok e v →
      Takes R patch a v w → Takes R patch a u w

theorem clearFrom_length_run (n : Nat) (w : World κ) :
    (do clearFrom patch a ((← tableAt a).factories.length + n) : Within R Unit).run w =
      (clearFrom patch a ((w.heap.table a).factories.length + n) : Within R Unit).run w := by
  rw [Within.run_bind, bind_of_ok (tableAt_run a w)]

-- the number of rounds stays folded: with it spelled out these two would be compared round by round
theorem clear_run (w : World κ) : ∃ n, 0 < n ∧ (clear patch a : Within R Unit).run w =
    (clearFrom patch a ((w.heap.table a).factories.length + n) : Within R Unit).run w :=
  ⟨1000000, by decide, clearFrom_length_run 1000000 w⟩

theorem clearFrom_of_ok {fuel : Nat} {e : Value × Value}
    (first : (takeFirst patch a : Within R (Value × Value)).run w = .ok e v) :
    (clearFrom patch a (fuel + 1) : Within R Unit).run w = (clearFrom patch a fuel : Within R Unit).run v := by
  have taken : (do let _ ← takeFirst patch a; pure false : Within R Bool).run w = .ok false v := bind_of_ok first
  rw [clearFrom, Within.run_bind, run_handle, bind_of_ok (handle_of_ok _ taken)]
  rfl

/-- Clearing ends well when an entry cannot be taken for a missing key. -/
theorem clearFrom_of_missing {fuel : Nat} {c : Cause}
    (first : (takeFirst patch a : Within R (Value × Value)).run w = .error (.failed c) u) (missing : SaysMissing c) :
    (clearFrom patch a (fuel + 1) : Within R Unit).run w = .ok () u := by
  have failed : (do let _ ← takeFirst patch a; pure false : Within R Bool).run w = .error (.failed c) u := bind_of_error first
  rw [clearFrom, Within.run_bind, run_handle]
  refine (bind_of_ok (a := true) (v := u) ?_).trans rfl
  rw [handle_of_failed failed missing.2, if_pos missing.1]
  rfl

theorem clearFrom_of_error {fuel : Nat} {e : Fault}
    (first : (takeFirst patch a : Within R (Value × Value)).run w = .error e u) (other : ∀ c, e = .failed c → ¬ SaysMissing c) :
    (clearFrom patch a (fuel + 1) : Within R Unit).run w = .error e u := by
  have failed : (do let _ ← takeFirst patch a; pure false : Within R Bool).run w = .error e u := bind_of_error first
  rw [clearFrom, Within.run_bind, run_handle]
  refine bind_of_error ?_
  cases e with
  | exhausted => exact handle_of_exhausted _ failed
  | failed c =>
      by_cases fatal : c.kind.isFatal = true
      · exact handle_of_fatal _ failed fatal
      · have mild := Bool.eq_false_iff.mpr fatal
        rw [handle_of_failed failed mild, if_neg fun missing => other c rfl ⟨missing, mild⟩]
        rfl

theorem clearFrom_ok {fuel : Nat} (h : (clearFrom patch a fuel : Within R Unit).run w = .ok () u) :
    ∃ v c, Takes R patch a w v ∧
      (takeFirst patch a : Within R (Value × Value)).run v = .error (.failed c) u ∧ SaysMissing c := by
  induction fuel generalizing w with
  | zero => cases h
  | succ fuel ih =>
      cases first : (takeFirst patch a : Within R (Value × Value)).run w with
      | ok e x =>
          rw [clearFrom_of_ok first] at h
          obtain ⟨y, c, taken, last⟩ := ih h
          exact ⟨y, c, .more first taken, last⟩
      | error e x =>
          by_cases missing : ∃ c, e = .failed c ∧ SaysMissing c
          · obtain ⟨c, rfl, missing⟩ := missing
            rw [clearFrom_of_missing first missing] at h
            cases h
            exact ⟨w, c, .start w, first, missing⟩
          · rw [clearFrom_of_error first fun c same h => missing ⟨c, same, h⟩] at h
            cases h

/-- The methods that may fall back on something else do so for an entry that is there exactly if it is fresh and its patcher
fails for a missing key. Without that they do what reading does, and clearing leaves something listed only if the patcher of
the last entry misled it or took that entry out itself. -/
theorem falls_back_iff [Calls call R] (hashable : w.heap.unhashable? key = none) (present : (w.heap.table a).contains key = true)
    (d : Value) :
    (∀ u, Misleads patch a key w u →
      (callMethod call patch a "get" (.of [key, d]) : Within R Value).run w = .ok d u ∧
      (callMethod call patch a "pop" (.of [key, d]) : Within R Value).run w = .ok d u ∧
      (callMethod call patch a "setdefault" (.of [key, d]) : Within R Value).run w =
        .ok d (u.replaced a (.table ((u.heap.table a).set key d)))) ∧
    ((∀ u, ¬ Misleads patch a key w u) →
      (callMethod call patch a "get" (.of [key, d]) : Within R Value).run w = (read patch a key : Within R Value).run w ∧
      (callMethod call patch a "pop" (.of [key, d]) : Within R Value).run w =
        (callMethod call patch a "pop" (.of [key]) : Within R Value).run w ∧
      (callMethod call patch a "setdefault" (.of [key, d]) : Within R Value).run w =
        (read patch a key : Within R Value).run w) ∧
    ∀ u, (callMethod call patch a "clear" (.of []) : Within R Value).run w = .ok .none u →
      (u.heap.table a).keys = [] ∨ ∃ v, Takes R patch a w v ∧ Loses (R := R) patch a v u := by
  refine ⟨fun u misled => fall_back d misled, read_through d hashable (contains_iff.mp present), fun u cleared => ?_⟩
  have same : (callMethod call patch a "clear" (.of []) : Within R Value).run w =
      (do clear patch a; pure .none : Within R Value).run w := by simp only [callMethod]
  rw [same] at cleared
  obtain ⟨_, v, run, ended⟩ := bind_ok.mp cleared
  cases ended
  obtain ⟨n, -, rounds⟩ := @clear_run _ R _ patch a _ w
  rw [rounds] at run
  obtain ⟨v, c, taken, failed, missing⟩ := clearFrom_ok run
  rcases takeFirst_missing failed missing with ⟨empty, rfl⟩ | lost
  · exact .inl empty
  · exact .inr ⟨v, taken, lost⟩

/-! ## A patcher that misleads -/

/-- Calls that all fail alike. -/
def refusing (c : Cause) : Caller κ :=
  fun _ _ => throw (.failed c)

instance (c : Cause) : Calls (refusing c) R where
  called _ _ w := Lasting.refl w

/-- Calls that all fail for a missing key. -/
abbrev misleading : Caller Unit :=
  refusing (.raised .key [])

/-- A world with a table of one module that nobody has read. -/
def unread : World Unit :=
  World.furnished [] () [.table (.of [(.str "1", .str "factory")] .none)]

/-- The place of the table there. -/
def unreadPlace : Address :=
  (World.start [] ()).heap.size

theorem unread_misled :
    Misleads misleading unreadPlace (.str "1") unread
      (unread.replaced unreadPlace (.table ((unread.heap.table unreadPlace).process (.str "1")))) :=
  ⟨.str "factory", .raised .key [], rfl, by decide +kernel, rfl, rfl, rfl⟩

theorem falls_back_unread :
    (unread.heap.table unreadPlace).contains (.str "1") = true ∧ ∃ u,
      (callMethod misleading misleading unreadPlace "get" (.of [.str "1", .str "d"]) : Within Beside Value).run unread =
        .ok (.str "d") u :=
  ⟨rfl, _, ((falls_back_iff (R := Beside) rfl rfl (.str "d")).1 _ unread_misled).1⟩

/-- A module that is there is missed, and its factory is lost. -/
theorem present_key_missed :
    (unread.heap.table unreadPlace).get? (.str "1") = some (.str "factory") ∧
      ∃ u, (callMethod misleading misleading unreadPlace "setdefault" (.of [.str "1", .str "d"]) : Within Beside Value).run
          unread = .ok (.str "d") u ∧ (u.heap.table unreadPlace).get? (.str "1") = some (.str "d") :=
  ⟨rfl, _, (fall_back (.str "d") unread_misled).2.2, rfl⟩

end Patchwork.Table
