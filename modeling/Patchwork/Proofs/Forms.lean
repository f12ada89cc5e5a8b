import Patchwork.Log.Layout

/-!
Formats one behind the other. A format that can be filled in by itself is filled in the same way in front of other text: each
of its fields ends where it would have ended.
-/

namespace Patchwork

theorem Except.bind_ok {ε α β : Type} {m : Except ε α} {f : α → Except ε β} {b : β} :
    (m >>= f) = .ok b ↔ ∃ a, m = .ok a ∧ f a = .ok b := by
  cases m <;> simp [bind, Except.bind]

theorem Except.map_ok {ε α β : Type} {m : Except ε α} {f : α → β} {b : β} :
    m.map f = .ok b ↔ ∃ a, m = .ok a ∧ f a = b := by
  cases m <;> simp [Except.map]

/-- What a class takes ends in front of other text, if it ends before it or the other text begins with none of the class. -/
theorem Text.span_append {p : Char → Bool} {a r : List Char} (ends : a.dropWhile p ≠ [] ∨ r.takeWhile p = []) :
    (a ++ r).takeWhile p = a.takeWhile p ∧ (a ++ r).dropWhile p = a.dropWhile p ++ r := by
  induction a with
  | nil =>
      have apart : r.takeWhile p = [] := ends.resolve_left (absurd rfl)
      have whole := List.takeWhile_append_dropWhile (p := p) (l := r)
      rw [apart, List.nil_append] at whole
      exact ⟨apart, whole⟩
  | cons c a ih =>
      cases pass : p c with
      | true =>
          rw [List.dropWhile_cons_of_pos pass] at ends
          simp [pass, ih ends]
      | false => simp [pass]

/-! ## Percent style -/

namespace Percent

variable {h : Heap} {v : Conversion} {s s' : Supply} {a b r out : List Char} {c : Char} {n : Option Int}

theorem keyFrom_append (depth : Nat) (found : keyFrom depth a = some (out, b)) :
    keyFrom depth (a ++ r) = some (out, b ++ r) := by
  fun_induction keyFrom depth a generalizing out b with
  | case1 => cases found
  | case3 q =>
      cases found
      rfl
  | _ =>
      rename_i ih
      obtain ⟨⟨key, rest⟩, inner, eq⟩ := Option.map_eq_some_iff.mp found
      cases eq
      simp [keyFrom, ih inner]

/-- Flags end at what is no flag, whatever stands behind it. -/
theorem flagsFrom_append (more : (flagsFrom v a).2 ≠ []) (r : List Char) :
    flagsFrom v (a ++ r) = ((flagsFrom v a).1, (flagsFrom v a).2 ++ r) := by
  fun_induction flagsFrom v a with
  | case6 v q left plus blank alternate zero =>
      cases q with
      | nil => exact absurd rfl more
      | cons c q =>
          rw [List.cons_append, flagsFrom]
          all_goals intro q' eq; cases eq
          · exact left q rfl
          · exact plus q rfl
          · exact blank q rfl
          · exact alternate q rfl
          · exact zero q rfl
  | _ => simp_all [flagsFrom]

theorem keyed_append (found : keyed s a = .ok (s', b)) (more : b ≠ []) (r : List Char) : keyed s (a ++ r) = .ok (s', b ++ r) := by
  cases a with
  | nil =>
      cases found
      exact absurd rfl more
  | cons c q =>
      by_cases opens : c = '('
      · subst opens
        rw [List.cons_append]
        rw [keyed] at found ⊢
        cases key : keyFrom 0 q with
        | none => cases named : s.named <;> simp [key, named] at found
        | some k =>
            rw [keyFrom_append 0 key]
            rw [key] at found
            cases named : s.named with
            | none => simp [named] at found
            | some find =>
                simp only [named] at found ⊢
                cases value : find (String.ofList k.1) with
                | none => simp [value] at found
                | some v =>
                    simp only [value] at found ⊢
                    cases found
                    rfl
      · rw [keyed.eq_2 _ _ fun q' eq => opens (List.cons.inj eq).1] at found
        cases found
        exact keyed.eq_2 _ _ fun q' eq => opens (List.cons.inj eq).1

/-- A number ends at what is no digit, whatever stands behind it. -/
theorem count_append {limit : CountLimit} (found : count limit s a = .ok (n, s', b)) (more : b ≠ []) (r : List Char) :
    count limit s (a ++ r) = .ok (n, s', b ++ r) := by
  cases a with
  | nil =>
      cases found
      exact absurd rfl more
  | cons c q =>
      by_cases star : c = '*'
      · subst star
        rw [count] at found
        obtain ⟨⟨v, s''⟩, next, found⟩ := Except.bind_ok.mp found
        rw [List.cons_append, count, next]
        refine Except.bind_ok.mpr ⟨_, rfl, ?_⟩
        cases whole : v.integer? with
        | none => simp [whole] at found
        | some m =>
            simp only [whole] at found ⊢
            split at found
            · cases found
            · next inside =>
                cases found
                rw [if_neg inside]
      · rw [count.eq_2 _ _ _ fun q' eq => star (List.cons.inj eq).1] at found
        rw [count.eq_2 _ _ (c :: q ++ r) fun q' eq => star (List.cons.inj eq).1]
        have rest : (c :: q).dropWhile Char.isDigit ≠ [] := by
          intro none
          dsimp only at found
          split at found
          · next empty =>
            cases found
            rw [List.isEmpty_iff] at empty
            have := List.takeWhile_append_dropWhile (p := Char.isDigit) (l := c :: q)
            simp [none, empty] at this
          · split at found
            · cases found
            · cases found
              exact more none
        obtain ⟨taken, dropped⟩ := Text.span_append (r := r) (.inl rest)
        dsimp only at found ⊢
        rw [taken, dropped]
        split at found
        · next empty =>
          cases found
          rw [if_pos empty]
        · next digits =>
          split at found
          · cases found
          · next small =>
            cases found
            rw [if_neg digits, if_neg small]

theorem precisionFrom_append {v' : Conversion} (found : precisionFrom v s a = .ok (v', s', b)) (more : b ≠ []) (r : List Char) :
    precisionFrom v s (a ++ r) = .ok (v', s', b ++ r) := by
  cases a with
  | nil =>
      cases found
      exact absurd rfl more
  | cons c q =>
      by_cases point : c = '.'
      · subst point
        rw [precisionFrom] at found
        obtain ⟨⟨n, s'', q'⟩, counted, found⟩ := Except.bind_ok.mp found
        cases found
        rw [List.cons_append, precisionFrom, count_append counted more r]
        rfl
      · rw [precisionFrom.eq_2 _ _ _ fun q' eq => point (List.cons.inj eq).1] at found
        cases found
        exact precisionFrom.eq_2 _ _ _ fun q' eq => point (List.cons.inj eq).1

theorem behindSize_append (more : behindSize a ≠ []) (r : List Char) : behindSize (a ++ r) = behindSize a ++ r := by
  cases a with
  | nil => exact absurd rfl more
  | cons c q =>
      simp only [List.cons_append, behindSize]
      split <;> rfl

/-- A conversion with its end is the same in front of other text, which makes the format longer. -/
theorem convert_append {length : Nat} (done : convert h length s a = .ok (out, s', b)) (r : List Char) :
    convert h (length + r.length) s (a ++ r) = .ok (out, s', b ++ r) := by
  rw [convert] at done ⊢
  obtain ⟨⟨s1, a1⟩, key, done⟩ := Except.bind_ok.mp done
  dsimp only at done
  obtain ⟨⟨n, s2, a2⟩, width, done⟩ := Except.bind_ok.mp done
  dsimp only at done
  obtain ⟨⟨v3, s3, a3⟩, precision, done⟩ := Except.bind_ok.mp done
  dsimp only at done
  -- There is something behind each stage, because the last one finds its letter.
  have rest3 : behindSize a3 ≠ [] := by
    intro none
    simp [none] at done
  have rest2 : a3 ≠ [] := by
    rintro rfl
    exact rest3 rfl
  have rest1 : a2 ≠ [] := by
    rintro rfl
    cases precision
    exact rest2 rfl
  have rest0 : (flagsFrom .plain a1).2 ≠ [] := by
    intro none
    rw [none] at width
    cases width
    exact rest1 rfl
  have rest : a1 ≠ [] := by
    rintro rfl
    exact rest0 rfl
  refine Except.bind_ok.mpr ⟨_, keyed_append key rest r, ?_⟩
  dsimp only
  rw [flagsFrom_append rest0 r]
  refine Except.bind_ok.mpr ⟨_, count_append width rest1 r, ?_⟩
  refine Except.bind_ok.mpr ⟨_, precisionFrom_append precision rest2 r, ?_⟩
  dsimp only
  rw [behindSize_append rest3 r]
  cases size : behindSize a3 with
  | nil => exact absurd size rest3
  | cons c q =>
      rw [size] at done
      rw [List.cons_append]
      have place : length + r.length - (c :: (q ++ r)).length = length - (c :: q).length := by
        simp only [List.length_cons, List.length_append]
        omega
      obtain ⟨⟨arg, s4⟩, next, done⟩ := Except.bind_ok.mp done
      refine Except.bind_ok.mpr ⟨_, next, ?_⟩
      dsimp only at done ⊢
      split at done
      · obtain ⟨_, -, done⟩ := Except.bind_ok.mp done
        cases done
      · next narrow =>
        obtain ⟨text, wrote, done⟩ := Except.bind_ok.mp done
        cases done
        rw [if_neg narrow, place, wrote]
        rfl

/-! What a stage leaves is an end of what it was given, and the same names. -/

theorem keyFrom_suffix (depth : Nat) (found : keyFrom depth a = some (out, b)) : b <:+ a := by
  fun_induction keyFrom depth a generalizing out b with
  | case1 => cases found
  | case3 q =>
      cases found
      exact List.suffix_cons _ _
  | _ =>
      rename_i ih
      obtain ⟨⟨key, rest⟩, inner, eq⟩ := Option.map_eq_some_iff.mp found
      cases eq
      exact (ih inner).trans (List.suffix_cons _ _)

theorem keyed_leaves (found : keyed s a = .ok (s', b)) : b <:+ a ∧ s'.named = s.named := by
  unfold keyed at found
  split at found
  · next q =>
    cases key : keyFrom 0 q with
    | none => cases named : s.named <;> simp [key, named] at found
    | some k =>
        have inner : k.2 <:+ q := keyFrom_suffix 0 key
        rw [key] at found
        cases named : s.named with
        | none => simp [named] at found
        | some find =>
            simp only [named] at found
            cases value : find (String.ofList k.1) with
            | none => simp [value] at found
            | some v =>
                simp only [value] at found
                cases found
                exact ⟨inner.trans (List.suffix_cons _ _), rfl⟩
  · cases found
    exact ⟨List.suffix_rfl, rfl⟩

theorem flagsFrom_suffix : (flagsFrom v a).2 <:+ a := by
  fun_induction flagsFrom v a with
  | case6 => exact List.suffix_rfl
  | _ => exact List.IsSuffix.trans ‹_› (List.suffix_cons _ _)

theorem Supply.next_named {arg : Value} (next : s.next = .ok (arg, s')) : s'.named = s.named := by
  unfold Supply.next at next
  split at next
  · cases next
    rfl
  · cases next

theorem count_leaves {limit : CountLimit} (found : count limit s a = .ok (n, s', b)) : b <:+ a ∧ s'.named = s.named := by
  unfold count at found
  split at found
  · obtain ⟨⟨v, s''⟩, next, found⟩ := Except.bind_ok.mp found
    cases whole : v.integer? with
    | none => simp [whole] at found
    | some m =>
        simp only [whole] at found
        split at found
        · cases found
        · cases found
          exact ⟨List.suffix_cons _ _, Supply.next_named next⟩
  · dsimp only at found
    split at found
    · cases found
      exact ⟨List.suffix_rfl, rfl⟩
    · split at found
      · cases found
      · cases found
        exact ⟨List.dropWhile_suffix _, rfl⟩

theorem precisionFrom_leaves {v' : Conversion} (found : precisionFrom v s a = .ok (v', s', b)) :
    b <:+ a ∧ s'.named = s.named := by
  unfold precisionFrom at found
  split at found
  · obtain ⟨⟨n, s'', q'⟩, counted, found⟩ := Except.bind_ok.mp found
    cases found
    obtain ⟨ending, named⟩ := count_leaves counted
    exact ⟨ending.trans (List.suffix_cons _ _), named⟩
  · cases found
    exact ⟨List.suffix_rfl, rfl⟩

theorem behindSize_suffix : behindSize a <:+ a := by
  cases a with
  | nil => exact List.suffix_rfl
  | cons c q =>
      rw [behindSize]
      split
      · exact List.suffix_cons c q
      · exact List.suffix_rfl

/-- A conversion takes at least its letter. -/
theorem convert_leaves {length : Nat} (done : convert h length s a = .ok (out, s', b)) :
    (∃ c, c :: b <:+ a) ∧ s'.named = s.named := by
  rw [convert] at done
  obtain ⟨⟨s1, a1⟩, key, done⟩ := Except.bind_ok.mp done
  dsimp only at done
  obtain ⟨⟨n, s2, a2⟩, width, done⟩ := Except.bind_ok.mp done
  dsimp only at done
  obtain ⟨⟨v3, s3, a3⟩, precision, done⟩ := Except.bind_ok.mp done
  dsimp only at done
  obtain ⟨keyEnd, keyNamed⟩ := keyed_leaves key
  obtain ⟨widthEnd, widthNamed⟩ := count_leaves width
  obtain ⟨precisionEnd, precisionNamed⟩ := precisionFrom_leaves precision
  have stages : behindSize a3 <:+ a :=
    behindSize_suffix.trans <| precisionEnd.trans <| widthEnd.trans <| flagsFrom_suffix.trans keyEnd
  cases size : behindSize a3 with
  | nil => simp [size] at done
  | cons c q =>
      rw [size] at done stages
      obtain ⟨⟨arg, s4⟩, next, done⟩ := Except.bind_ok.mp done
      dsimp only at done
      split at done
      · obtain ⟨_, -, done⟩ := Except.bind_ok.mp done
        cases done
      · obtain ⟨text, -, done⟩ := Except.bind_ok.mp done
        cases done
        exact ⟨⟨c, stages⟩, by rw [Supply.next_named next, precisionNamed, widthNamed, keyNamed]⟩

/-- A format that can be written out is written out the same way in front of another, which goes on with the supply that is
left. -/
theorem writtenFrom_append {length fuel : Nat} (done : writtenFrom h length fuel s a = .ok (out, s'))
    (enough : a.length < fuel) (r : List Char) :
    s'.named = s.named ∧ ∃ fuel', r.length < fuel' ∧ writtenFrom h (length + r.length) (fuel + r.length) s (a ++ r) =
      (writtenFrom h (length + r.length) fuel' s' r).map fun w => (out ++ w.1, w.2) := by
  fun_induction writtenFrom h length fuel s a generalizing out s' with
  | case1 => cases enough
  | case2 fuel s =>
      cases done
      refine ⟨rfl, fuel + 1 + r.length, by omega, ?_⟩
      rw [List.nil_append]
      cases writtenFrom h (length + r.length) (fuel + 1 + r.length) s r <;> rfl
  | case3 fuel s q ih =>
      obtain ⟨⟨more, s''⟩, rest, done⟩ := Except.bind_ok.mp done
      cases done
      obtain ⟨named, fuel', large, written⟩ := ih rest (by simp at enough; omega)
      refine ⟨named, fuel', large, ?_⟩
      rw [show fuel + 1 + r.length = (fuel + r.length) + 1 by omega, List.cons_append, List.cons_append, writtenFrom, written]
      cases writtenFrom h (length + r.length) fuel' s' r <;> rfl
  | case4 fuel s q single ih =>
      obtain ⟨⟨text, s1, b⟩, conversion, done⟩ := Except.bind_ok.mp done
      dsimp only at done
      obtain ⟨⟨more, s2⟩, rest, done⟩ := Except.bind_ok.mp done
      cases done
      obtain ⟨⟨c, taken⟩, kept⟩ := convert_leaves conversion
      have shorter := taken.length_le
      simp only [List.length_cons] at enough shorter
      obtain ⟨named, fuel', large, written⟩ := ih _ _ rest (by omega)
      refine ⟨named.trans kept, fuel', large, ?_⟩
      rw [show fuel + 1 + r.length = (fuel + r.length) + 1 by omega, List.cons_append, writtenFrom, convert_append conversion r]
      · simp only [bind, Except.bind, written]
        cases writtenFrom h (length + r.length) fuel' s2 r <;> simp [Except.map]
      · intro r' eq
        cases q with
        | nil => cases taken.length_le
        | cons d q => exact single q (congrArg (· :: q) (List.cons.inj eq).1)
  | case5 fuel s c q double mark ih =>
      obtain ⟨⟨more, s''⟩, rest, done⟩ := Except.bind_ok.mp done
      cases done
      simp only [List.length_cons] at enough
      obtain ⟨named, fuel', large, written⟩ := ih rest (by omega)
      refine ⟨named, fuel', large, ?_⟩
      rw [show fuel + 1 + r.length = (fuel + r.length) + 1 by omega, List.cons_append, writtenFrom, written]
      · cases writtenFrom h (length + r.length) fuel' s' r <;> rfl
      · exact fun _ plain _ => mark plain
      · exact mark

@[simp]
theorem Conversion.padded_plain (zeros : Bool) (lead body : List Char) : plain.padded zeros lead body = lead ++ body := by
  simp [padded, plain]

theorem Conversion.write_text (place : Nat) (m : String) : plain.write h 's' place (.str m) = .ok m.toList :=
  (congrArg Except.ok (padded_plain false [] m.toList) :)

/-- The reference to a text by its name is that text. -/
theorem convert_text {length : Nat} {find : String → Option Value} {m : String} (supply : s.named = some find)
    (key : keyFrom 0 a = some (out, 's' :: r)) (found : find (String.ofList out) = some (.str m)) :
    convert h length s ('(' :: a) = .ok (m.toList, { s with left := [] }, r) := by
  have named : keyed s ('(' :: a) = .ok ({ s with left := [.str m] }, 's' :: r) := by
    simp [keyed, key, supply, found]
  rw [convert, named]
  change (Conversion.plain.write h 's' (length - ('s' :: r).length) (.str m) >>= fun text =>
    .ok (text, ({ s with left := [] } : Supply), r)) = _
  rw [Conversion.write_text]
  rfl

/-- A format by names that begins with one that can be written out, followed by a reference to a text. -/
theorem writtenNamed_front {front back p : List Char} {whole : Value} {find : String → Option Value} {m : String}
    (name : List Char) (lead : writtenNamed h front whole find = .ok p)
    (key : keyFrom 0 (name ++ ')' :: 's' :: back) = some (name, 's' :: back))
    (found : find (String.ofList name) = some (.str m))
    (done : writtenNamed h (front ++ '%' :: '(' :: (name ++ ')' :: 's' :: back)) whole find = .ok out) :
    ∃ suffix, out = p ++ m.toList ++ suffix := by
  rw [writtenNamed] at lead done
  obtain ⟨⟨_, s'⟩, first, lead⟩ := Except.bind_ok.mp lead
  cases lead
  obtain ⟨named, fuel, large, both⟩ := writtenFrom_append first (Nat.lt_succ_self _) ('%' :: '(' :: (name ++ ')' :: 's' :: back))
  rw [List.length_append, Nat.add_right_comm, both] at done
  cases fuel with
  | zero => cases large
  | succ fuel =>
      rw [writtenFrom, convert_text named key found] at done
      · obtain ⟨⟨text, s''⟩, written, done⟩ := Except.bind_ok.mp done
        cases done
        obtain ⟨⟨rest, s3⟩, written, eq⟩ := Except.map_ok.mp written
        obtain ⟨_, reference, written⟩ := Except.bind_ok.mp written
        cases reference
        obtain ⟨⟨more, s4⟩, -, written⟩ := Except.bind_ok.mp written
        cases written
        cases eq
        exact ⟨more, List.append_assoc _ _ _ |>.symm⟩
      · simp

end Percent

/-! ## Brace style -/

namespace Text

variable {a b r out : List Char}

theorem untilBrace_append (depth : Nat) (found : untilBrace depth a = some (out, b)) (r : List Char) :
    untilBrace depth (a ++ r) = some (out, b ++ r) := by
  fun_induction untilBrace depth a generalizing out b with
  | case1 => cases found
  | case3 q =>
      cases found
      rfl
  | _ =>
      rename_i ih
      obtain ⟨⟨inside, rest⟩, inner, eq⟩ := Option.map_eq_some_iff.mp found
      cases eq
      simp [untilBrace, ih inner]

theorem fieldName_append (bracketed : Bool) (found : fieldName bracketed a = .ok (out, b)) (r : List Char) :
    fieldName bracketed (a ++ r) = .ok (out, b ++ r) := by
  induction a generalizing bracketed out b with
  | nil => cases found
  | cons c q ih =>
      rw [List.cons_append]
      rw [fieldName] at found ⊢
      split at found
      · next inside =>
        obtain ⟨⟨name, rest⟩, inner, found⟩ := Except.bind_ok.mp found
        cases found
        rw [if_pos inside, ih _ inner]
        rfl
      · next outside =>
        rw [if_neg outside]
        split at found
        · cases found
        · next plain =>
          rw [if_neg plain]
          split at found
          · next ends =>
            cases found
            rw [if_pos ends]
            rfl
          · next goes =>
            obtain ⟨⟨name, rest⟩, inner, found⟩ := Except.bind_ok.mp found
            cases found
            rw [if_neg goes, ih _ inner]
            rfl

/-- Behind a name there is what ended it. -/
theorem fieldName_rest (bracketed : Bool) (found : fieldName bracketed a = .ok (out, b)) : ∃ c q, b = c :: q := by
  induction a generalizing bracketed out b with
  | nil => cases found
  | cons c q ih =>
      rw [fieldName] at found
      split at found
      · obtain ⟨⟨name, rest⟩, inner, found⟩ := Except.bind_ok.mp found
        cases found
        exact ih _ inner
      · split at found
        · cases found
        · split at found
          · cases found
            exact ⟨c, q, rfl⟩
          · obtain ⟨⟨name, rest⟩, inner, found⟩ := Except.bind_ok.mp found
            cases found
            exact ih _ inner

theorem braceField_append {part : FormPart} (found : braceField a = .ok (part, b)) (r : List Char) :
    braceField (a ++ r) = .ok (part, b ++ r) := by
  rw [braceField] at found ⊢
  obtain ⟨⟨name, rest⟩, named, found⟩ := Except.bind_ok.mp found
  refine Except.bind_ok.mpr ⟨_, fieldName_append false named r, ?_⟩
  obtain ⟨c, q, rfl⟩ := fieldName_rest false named
  dsimp only at found ⊢
  split at found
  · cases found
  · cases found
  · next eq =>
    cases found
    rw [eq]
    rfl
  · next c q eq =>
    rw [eq]
    cases spec : untilBrace 0 q with
    | none => simp [spec] at found
    | some w =>
        rw [spec] at found
        cases found
        simp [untilBrace_append 0 spec]
  · cases found
  · next q eq =>
    rw [eq]
    cases spec : untilBrace 0 q with
    | none => simp [spec] at found
    | some w =>
        rw [spec] at found
        cases found
        simp [untilBrace_append 0 spec]
  · next _ _ _ _ bang colon =>
    cases found
    rw [List.cons_append]
    split <;> simp_all

theorem untilBrace_suffix (depth : Nat) (found : untilBrace depth a = some (out, b)) : b <:+ a := by
  fun_induction untilBrace depth a generalizing out b with
  | case1 => cases found
  | case3 q =>
      cases found
      exact List.suffix_cons _ _
  | _ =>
      rename_i ih
      obtain ⟨⟨inside, rest⟩, inner, eq⟩ := Option.map_eq_some_iff.mp found
      cases eq
      exact (ih inner).trans (List.suffix_cons _ _)

theorem fieldName_suffix (bracketed : Bool) (found : fieldName bracketed a = .ok (out, b)) : b <:+ a := by
  induction a generalizing bracketed out b with
  | nil => cases found
  | cons c q ih =>
      rw [fieldName] at found
      split at found
      · obtain ⟨⟨name, rest⟩, inner, found⟩ := Except.bind_ok.mp found
        cases found
        exact (ih _ inner).trans (List.suffix_cons _ _)
      · split at found
        · cases found
        · split at found
          · cases found
            exact List.suffix_rfl
          · obtain ⟨⟨name, rest⟩, inner, found⟩ := Except.bind_ok.mp found
            cases found
            exact (ih _ inner).trans (List.suffix_cons _ _)

theorem braceField_suffix {part : FormPart} (found : braceField a = .ok (part, b)) : b <:+ a := by
  rw [braceField] at found
  obtain ⟨⟨name, rest⟩, named, found⟩ := Except.bind_ok.mp found
  refine List.IsSuffix.trans ?_ (fieldName_suffix false named)
  dsimp only at found
  split at found
  · cases found
  · cases found
  · cases found
    exact ⟨['!', _, '\x7d'], rfl⟩
  · next c q =>
    cases spec : untilBrace 0 q with
    | none => simp [spec] at found
    | some w =>
        rw [spec] at found
        cases found
        exact (untilBrace_suffix 0 spec).trans ⟨['!', c, ':'], rfl⟩
  · cases found
  · next q =>
    cases spec : untilBrace 0 q with
    | none => simp [spec] at found
    | some w =>
        rw [spec] at found
        cases found
        exact (untilBrace_suffix 0 spec).trans (List.suffix_cons _ _)
  · cases found
    exact List.drop_suffix 1 _

/-- A form without a fault in front of another is read the same way. -/
theorem braceParts_append {fuel : Nat} (whole : ∀ text, .broken text ∉ braceParts fuel a) (enough : a.length < fuel)
    (r : List Char) :
    ∃ fuel', r.length < fuel' ∧ braceParts (fuel + r.length) (a ++ r) = braceParts fuel a ++ braceParts fuel' r := by
  fun_induction braceParts fuel a with
  | case1 => cases enough
  | case2 fuel => exact ⟨fuel + 1 + r.length, by omega, rfl⟩
  | case3 fuel q ih =>
      obtain ⟨fuel', large, parts⟩ := ih (fun text here => whole text (.tail _ here)) (by simp at enough; omega)
      refine ⟨fuel', large, ?_⟩
      rw [Nat.succ_add]
      simp [braceParts, parts]
  | case4 fuel q ih =>
      obtain ⟨fuel', large, parts⟩ := ih (fun text here => whole text (.tail _ here)) (by simp at enough; omega)
      refine ⟨fuel', large, ?_⟩
      rw [Nat.succ_add]
      simp [braceParts, parts]
  | case5 => exact absurd (List.mem_singleton.mpr rfl) (whole _)
  | case6 => exact absurd (List.mem_singleton.mpr rfl) (whole _)
  | case7 fuel q double single part b field ih =>
      have shorter := (braceField_suffix field).length_le
      simp only [List.length_cons] at enough
      obtain ⟨fuel', large, parts⟩ := ih (fun text here => whole text (.tail _ here)) (by omega)
      refine ⟨fuel', large, ?_⟩
      rw [Nat.succ_add, List.cons_append, braceParts, braceField_append field r]
      · simp only [parts]
        rfl
      · intro r' eq
        cases q with
        | nil => exact single rfl
        | cons d q => exact double q (congrArg (· :: q) (List.cons.inj eq).1)
      · intro none
        exact single (List.append_eq_nil_iff.mp none).1
  | case8 => exact absurd (List.mem_singleton.mpr rfl) (whole _)
  | case9 fuel c q _ _ _ closes opens ih =>
      simp only [List.length_cons] at enough
      obtain ⟨fuel', large, parts⟩ := ih (fun text here => whole text (.tail _ here)) (by omega)
      refine ⟨fuel', large, ?_⟩
      rw [Nat.succ_add, List.cons_append, braceParts, parts]
      · rfl
      · exact fun _ eq _ => opens eq
      · exact fun _ eq _ => closes eq
      · exact fun eq _ => opens eq
      · exact closes
      · exact opens

/-! ## Dollar style -/

/-- A form without a fault in front of one that does not go on with a name is read the same way. -/
theorem dollarParts_append {fuel : Nat} (whole : .bare ∉ dollarParts fuel a) (enough : a.length < fuel)
    (apart : r.takeWhile isFieldChar = []) :
    ∃ fuel', r.length < fuel' ∧ dollarParts (fuel + r.length) (a ++ r) = dollarParts fuel a ++ dollarParts fuel' r := by
  fun_induction dollarParts fuel a with
  | case1 => cases enough
  | case2 fuel => exact ⟨fuel + 1 + r.length, by omega, rfl⟩
  | case3 fuel q ih =>
      obtain ⟨fuel', large, parts⟩ := ih (fun here => whole (.tail _ here)) (by simp at enough; omega)
      refine ⟨fuel', large, ?_⟩
      rw [Nat.succ_add]
      simp [dollarParts, parts]
  | case4 fuel q name c tail b behind eq starts ih =>
      obtain ⟨taken, dropped⟩ := span_append (r := r) (.inl (behind ▸ List.cons_ne_nil _ _))
      have shorter := (List.dropWhile_suffix (l := q) isFieldChar).length_le
      rw [behind] at shorter
      simp only [List.length_cons] at enough shorter
      obtain ⟨fuel', large, parts⟩ := ih (fun here => whole (.tail _ here)) (by omega)
      refine ⟨fuel', large, ?_⟩
      change q.takeWhile isFieldChar = c :: tail at eq
      rw [eq] at taken
      rw [behind] at dropped
      rw [Nat.succ_add, List.cons_append, List.cons_append, dollarParts, taken, dropped]
      simp [starts, parts, name, eq]
  | case5 => exact absurd (.head _) whole
  | case6 => exact absurd (.head _) whole
  | case7 fuel q double brace name c tail eq starts ih =>
      obtain ⟨taken, dropped⟩ := span_append (a := q) (.inr apart)
      have shorter := (List.dropWhile_suffix (l := q) isFieldChar).length_le
      simp only [List.length_cons] at enough
      obtain ⟨fuel', large, parts⟩ := ih (fun here => whole (.tail _ here)) (by omega)
      refine ⟨fuel', large, ?_⟩
      change q.takeWhile isFieldChar = c :: tail at eq
      cases q with
      | nil => cases eq
      | cons d q =>
          rw [Nat.succ_add, List.cons_append, dollarParts, taken, dropped, eq]
          · simp [starts, parts, name, eq]
          · exact fun _ same => double q (congrArg (· :: q) (List.cons.inj same).1)
          · exact fun _ same => brace q (congrArg (· :: q) (List.cons.inj same).1)
  | case8 => exact absurd (.head _) whole
  | case9 => exact absurd (.head _) whole
  | case10 fuel c q _ _ mark ih =>
      simp only [List.length_cons] at enough
      obtain ⟨fuel', large, parts⟩ := ih (fun here => whole (.tail _ here)) (by omega)
      refine ⟨fuel', large, ?_⟩
      rw [Nat.succ_add, List.cons_append, dollarParts, parts]
      · rfl
      · exact fun _ eq _ => mark eq
      · exact fun _ eq _ => mark eq
      · exact mark

end Text

end Patchwork
