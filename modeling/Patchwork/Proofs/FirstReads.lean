import Patchwork.Proofs.KeyForms
import Patchwork.Proofs.TableRuns

/-!
When tables call their patchers. Code that works on tables may go on in any way from what an operation gave, and the
patchers are such code themselves; still each entry is patched once at most.
-/

namespace Patchwork

open Run

variable {κ : Type}

/-! ## Sets of keys -/

namespace Table

variable {values : List Value} {key key' : Value}

theorem holds_congr (same : Value.sameKey key key' = true) (h : holds values key = true) : holds values key' = true := by
  obtain ⟨v, there, equal⟩ := List.any_eq_true.mp h
  exact List.any_eq_true.mpr ⟨v, there, Value.sameKey_trans equal same⟩

theorem holds_addKey (h : holds values key = true) : holds (addKey values key') key = true := by
  rw [addKey]
  split
  · exact h
  · rw [holds, List.any_append, Bool.or_eq_true]
    exact .inl h

theorem holds_addKey_self (values : List Value) (key : Value) : holds (addKey values key) key = true := by
  rw [addKey]
  split
  · next there => exact there
  · simp [holds, Value.sameKey_refl]

end Table

/-! ## Calls that are noted -/

/-- A call of a patcher, with all objects as they are when it is made. -/
structure Note where
  callee : Value
  args : Arguments
  heap : Heap

namespace Note

/-- The table whose patcher is called. -/
def place (e : Note) : Address :=
  match e.args.positional with
  | .ref a :: _ => a
  | _ => 0

def key (e : Note) : Value :=
  e.args.positional.getD 1 .none

def factory (e : Note) : Value :=
  e.args.positional.getD 2 .none

/-- The patcher of a table is called for an entry that is there and may be patched, with the factory that is stored
under its key, and the key counts as processed by then. -/
structure Proper (e : Note) : Prop where
  args : e.args = .of [.ref e.place, e.key, e.factory]
  callee : e.callee = (e.heap.table e.place).patcher
  stored : (e.heap.table e.place).get? e.key = some e.factory
  factory : e.factory ≠ .none
  module : isModuleId e.key = true
  processed : (e.heap.table e.place).isProcessed e.key = true

/-- Two calls are for different tables or for different keys. -/
def Apart (e e' : Note) : Prop :=
  e.place = e'.place → Value.sameKey e.key e'.key = false

end Note

/-- What the surroundings keep, the calls that were noted, and whether one was cut off for its depth. -/
structure Watched (κ : Type) where
  rest : κ
  notes : List Note
  cut : Bool

/-- Notes a call before it is made. -/
def noting (call : Caller (Watched κ)) : Caller (Watched κ) := fun f args => do
  modify fun w => { w with host := { w.host with notes := ⟨f, args, w.heap⟩ :: w.host.notes } }
  call f args

/-- The note of the call in which a table patches an entry. -/
def World.patchNote (w : World (Watched κ)) (a : Address) (key factory : Value) : Note where
  callee := (w.heap.table a).patcher
  args := .of [.ref a, key, factory]
  heap := (w.replaced a (.table ((w.heap.table a).process key))).heap

/-- The world in which a patcher that is noted runs for an entry. -/
def World.patching (w : World (Watched κ)) (a : Address) (key factory : Value) : World (Watched κ) :=
  { w.replaced a (.table ((w.heap.table a).process key)) with
    host := { w.host with notes := w.patchNote a key factory :: w.host.notes } }

/-- A call that is cut off. -/
def cutOff : Caller (Watched κ) := fun _ _ => do
  modify fun w => { w with host := { w.host with cut := true } }
  throw .exhausted

/-! ## Code that works on tables -/

/-- All tables stay as they are, and so does all that was noted. -/
structure Clear (w w' : World (Watched κ)) : Prop where
  tables : ∀ (a : Address) (t : Table), w.heap[a]? = some (.table t) → w'.heap[a]? = some (.table t)
  notes : w'.host.notes = w.host.notes
  cut : w'.host.cut = w.host.cut

/-- Code uses tables by their operations, and may do all else that leaves them as they are; what it does next depends on
what it got. -/
inductive Client (κ : Type) where
  | done (result : Except Fault Value)
  | act (f : World (Watched κ) → World (Watched κ)) (clear : ∀ w, Clear w (f w))
      (next : World (Watched κ) → Client κ)
  | use (o : Table.Op) (a : Address) (next : Except Fault Value → Client κ)

/-- How a computation ends, as a value. -/
def Run.outcome {α : Type} (m : Run κ α) : Run κ (Except Fault α) := fun w =>
  match m w with
  | .ok x v => .ok (.ok x) v
  | .error e v => .ok (.error e) v

/-- Every change of the world. -/
def Anyhow (_ _ : World κ) : Prop :=
  True

instance : Moves (Anyhow (κ := κ)) where
  refl _ := trivial
  trans _ _ := trivial
  beside _ := trivial

instance (call : Caller κ) : Calls call Anyhow where
  called _ _ _ := trivial

/-- Runs code; tables call their patchers with `patch`, and all else with `call`. -/
def Client.run (call patch : Caller (Watched κ)) : Client κ → Run (Watched κ) Value
  | done (.ok v) => pure v
  | done (.error e) => throw e
  | act f _ next => do
    modify f
    (next (← get)).run call patch
  | use o a next => do
    let result ← Run.outcome (o.on call patch a : Within Anyhow Value).run
    (next result).run call patch

/-- Calls of code that may nest as deeply as the fuel says, in operations on tables and in their patchers. -/
def playWithin (code : Value → Arguments → Client κ) : Nat → Caller (Watched κ)
  | 0 => cutOff
  | fuel + 1 => fun f args => (code f args).run (playWithin code fuel) (noting (playWithin code fuel))

/-- Calls of code that nest in patchers only; all else that tables call is given. -/
def patchWithin (other : Caller (Watched κ)) (code : Value → Arguments → Client κ) : Nat → Caller (Watched κ)
  | 0 => cutOff
  | fuel + 1 => fun f args => (code f args).run other (noting (patchWithin other code fuel))

/-! ## What code keeps -/

section

variable {Q : World (Watched κ) → World (Watched κ) → Prop} [Lasting Q] {call patch : Caller (Watched κ)}

theorem outcome_after {α : Type} (m : Run κ α) (w : World κ) : (Run.outcome m).after w = m.after w := by
  simp only [Run.outcome, Run.after]
  cases m w <;> rfl

/-- Code keeps what table operations and all that leaves the tables alone keep. -/
theorem Client.keeps_admitted (admits : Admits call patch Anyhow Q) (clear : ∀ {w w'}, Clear w w' → Q w w')
    (c : Client κ) : ∀ w, Q w ((c.run call patch).after w) := by
  induction c with
  | done result => cases result <;> exact fun w => Lasting.refl w
  | act f aside next ih =>
      refine bind_within (fun w => clear (aside w)) fun _ => ?_
      exact bind_within (fun w => Lasting.refl w) fun w => ih w
  | use o a next ih =>
      refine bind_within (fun w => ?_) ih
      rw [outcome_after]
      exact Table.Op.keeps_admitted admits a o w

theorem Client.keeps (allows : Allows call patch Anyhow Q) (clear : ∀ {w w'}, Clear w w' → Q w w') (c : Client κ) :
    ∀ w, Q w ((c.run call patch).after w) :=
  c.keeps_admitted allows.admits clear

end

/-! ## At most one call for each key -/

section

variable {w w' : World (Watched κ)} {a b : Address} {t : Table} {key key' : Value}

/-- Keys that count as processed do so from then on, and the patchers were called for keys that did not, for no key
twice. -/
structure Fair (w w' : World (Watched κ)) : Prop where
  grows : ∀ a key, (w.heap.table a).isProcessed key = true → (w'.heap.table a).isProcessed key = true
  noted : ∃ new, w'.host.notes = new ++ w.host.notes ∧
    (∀ e ∈ new, e.Proper ∧ (w.heap.table e.place).isProcessed e.key = false ∧
      (w'.heap.table e.place).isProcessed e.key = true) ∧
    new.Pairwise Note.Apart

theorem isProcessed_congr (same : Value.sameKey key key' = true) (h : t.isProcessed key = true) :
    t.isProcessed key' = true :=
  Table.holds_congr same h

theorem process_isProcessed (t : Table) (key : Value) : (t.process key).isProcessed key = true :=
  Table.holds_addKey_self t.processed key

theorem process_grows (h : t.isProcessed key = true) : (t.process key').isProcessed key = true :=
  Table.holds_addKey h

/-- An empty table holds nothing, so what holds something is there. -/
theorem table_there {h : Heap} (holds : (h.table a).isProcessed key = true ∨ ∃ v, (h.table a).get? key = some v) :
    h[a]? = some (.table (h.table a)) := by
  simp only [Heap.table] at holds ⊢
  split
  · next found => exact found
  · next none =>
      split at holds
      · next t found => exact absurd found (none t)
      · rcases holds with processed | ⟨v, stored⟩
        · cases processed
        · cases stored

theorem table_replaced (w : World κ) (a b : Address) (t : Table) :
    (w.replaced a (.table t)).heap.table b = if a = b ∧ a < w.heap.size then t else w.heap.table b := by
  simp only [Heap.table, World.replaced, Array.getElem?_setIfInBounds]
  by_cases same : a = b
  · subst same
    by_cases bound : a < w.heap.size
    · simp [bound]
    · simp [bound]
  · simp [same]

/-- Where nothing is noted, it is enough that what counts as processed does so later. -/
theorem Fair.of_notes
    (grows : ∀ a key, (w.heap.table a).isProcessed key = true → (w'.heap.table a).isProcessed key = true)
    (notes : w'.host.notes = w.host.notes) : Fair w w' :=
  ⟨grows, [], notes, fun _ he => absurd he List.not_mem_nil, .nil⟩

instance : Lasting (Fair (κ := κ)) where
  refl _ := .of_notes (fun _ _ h => h) rfl
  trans := by
    intro u v w ⟨grows, new, noted, each, apart⟩ ⟨grows', new', noted', each', apart'⟩
    refine ⟨fun a key h => grows' a key (grows a key h), new' ++ new, ?_, fun e he => ?_, ?_⟩
    · rw [noted', noted, List.append_assoc]
    · rcases List.mem_append.mp he with later | before
      · obtain ⟨proper, fresh, processed⟩ := each' e later
        refine ⟨proper, ?_, processed⟩
        by_contra there
        rw [Bool.not_eq_false] at there
        exact absurd (grows _ _ there) (by simp [fresh])
      · obtain ⟨proper, fresh, processed⟩ := each e before
        exact ⟨proper, fresh, grows' _ _ processed⟩
    · refine List.pairwise_append.mpr ⟨apart', apart, fun e' he' e he place => ?_⟩
      obtain ⟨-, fresh, -⟩ := each' e' he'
      obtain ⟨-, -, processed⟩ := each e he
      by_contra same
      rw [Bool.not_eq_false] at same
      rw [place] at fresh
      exact absurd (isProcessed_congr (Value.sameKey_symm same) processed) (by simp [fresh])

theorem Clear.fair (h : Clear w w') : Fair w w' := by
  refine .of_notes (fun a key processed => ?_) h.notes
  rw [Heap.table_at (h.tables a _ (table_there (.inl processed)))]
  exact processed

theorem Quiet.clear (h : Quiet w w') : Clear w w' := by
  refine ⟨fun a t there => ?_, by rw [h.host], by rw [h.host]⟩
  obtain ⟨o, there', same⟩ := h.heap a _ there
  cases o <;> cases same
  exact there'

/-- A table takes the place of another one, and what counts as processed still does. -/
theorem replaced_grows (h : ∀ key, (w.heap.table a).isProcessed key = true → t.isProcessed key = true) (b : Address)
    (key : Value) (processed : (w.heap.table b).isProcessed key = true) :
    ((w.replaced a (.table t)).heap.table b).isProcessed key = true := by
  rw [table_replaced]
  split
  · next here => exact h key (here.1 ▸ processed)
  · exact processed

/-- What a read of a fresh entry does before the patcher runs is fair: it marks the entry, and the call is noted. -/
theorem patching_fair {factory : Value} (stored : (w.heap.table a).get? key = some factory)
    (fresh : (w.heap.table a).isFresh key factory = true) : Fair w (w.patching a key factory) := by
  have bound : a < w.heap.size := (Array.getElem?_eq_some_iff.mp (table_there (.inr ⟨_, stored⟩))).1
  have table : (w.patching a key factory).heap.table a = (w.heap.table a).process key := by
    rw [World.patching, table_replaced, if_pos ⟨rfl, bound⟩]
  simp only [Table.isFresh, Bool.and_eq_true, Bool.not_eq_true'] at fresh
  obtain ⟨⟨some, module⟩, unprocessed⟩ := fresh
  refine ⟨fun b k => replaced_grows (fun _ => process_grows) b k, [w.patchNote a key factory], rfl, fun e he => ?_,
    List.pairwise_singleton _ _⟩
  obtain rfl := List.mem_singleton.mp he
  have proper : (w.patchNote a key factory).Proper := by
    refine ⟨rfl, ?_, ?_, ?_, module, ?_⟩
    · exact (congrArg Table.patcher table).symm
    · exact (congrArg (Table.get? · key) table).trans stored
    · rintro rfl
      cases some
    · exact (congrArg (Table.isProcessed · key) table).trans (process_isProcessed _ _)
  exact ⟨proper, unprocessed, proper.processed⟩

variable {call patch : Caller (Watched κ)}

/-- A read keeps what a noted call of the patcher keeps. -/
theorem read_keeps {Q Q' : World (Watched κ) → World (Watched κ) → Prop} [Lasting Q]
    (noted : ∀ {w z : World (Watched κ)} {a : Address} {key factory : Value},
      (w.heap.table a).get? key = some factory → (w.heap.table a).isFresh key factory = true →
        Q' (w.patching a key factory) z → Q w z)
    (hp : patch.Keeps Q') (a : Address) (key : Value) :
    (Table.read (noting patch) a key : Within Anyhow Value).Keeps Q := by
  intro w
  have run := read_run (R := Anyhow) (noting patch) a key w
  cases hashable : w.heap.unhashable? key with
  | some type =>
      rw [hashable] at run
      rw [after_error run]
      exact Lasting.refl w
  | none =>
      cases stored : (w.heap.table a).get? key with
      | none =>
          rw [hashable, stored] at run
          rw [after_error run]
          exact Lasting.refl w
      | some factory =>
          rw [hashable, stored] at run
          cases fresh : (w.heap.table a).isFresh key factory with
          | false =>
              simp only [fresh, Bool.false_eq_true, ↓reduceIte] at run
              rw [after_ok run]
              exact Lasting.refl w
          | true =>
              simp only [fresh, ↓reduceIte] at run
              have rest : (Table.read (noting patch) a key : Within Anyhow Value).run.after w =
                  (patch (w.heap.table a).patcher (.of [.ref a, key, factory])).after (w.patching a key factory) := by
                rw [Run.after, run]
                rfl
              rw [rest]
              exact noted stored fresh (hp _ _ _)

theorem fair_allows (hc : call.Keeps Fair) (hp : patch.Keeps Fair) : Allows call (noting patch) Anyhow Fair where
  quiet h := h.clear.fair
  written same := .of_notes (replaced_grows fun key h => by rwa [Table.isProcessed, same]) rfl
  called := hc
  read := read_keeps (fun stored fresh rest => Lasting.trans (patching_fair stored fresh) rest) hp

theorem cutOff_fair : Caller.Keeps (cutOff (κ := κ)) Fair :=
  fun _ _ _ => .of_notes (fun _ _ h => h) rfl

/-- However code nests, it is fair. -/
theorem playWithin_fair (code : Value → Arguments → Client κ) : (fuel : Nat) → (playWithin code fuel).Keeps Fair
  | 0 => cutOff_fair
  | fuel + 1 => fun f args w =>
      (code f args).keeps (fair_allows (playWithin_fair code fuel) (playWithin_fair code fuel)) Clear.fair w

theorem patchWithin_fair {other : Caller (Watched κ)} (ho : other.Keeps Clear) (code : Value → Arguments → Client κ) :
    (fuel : Nat) → (patchWithin other code fuel).Keeps Fair
  | 0 => cutOff_fair
  | fuel + 1 => fun f args w =>
      (code f args).keeps (fair_allows (fun f args w => (ho f args w).fair) (patchWithin_fair ho code fuel)) Clear.fair w

end

/-! ## How deeply patchers nest -/

section

/-- A call was cut off only if this many calls of patchers were noted. -/
def Deep (n : Nat) (w w' : World (Watched κ)) : Prop :=
  ∃ new, w'.host.notes = new ++ w.host.notes ∧ (w'.host.cut = true → w.host.cut = true ∨ n ≤ new.length)

variable {n : Nat} {w w' : World (Watched κ)}

instance : Lasting (Deep (κ := κ) n) where
  refl _ := ⟨[], rfl, .inl⟩
  trans := by
    rintro u v w ⟨new, noted, cut⟩ ⟨new', noted', cut'⟩
    refine ⟨new' ++ new, by rw [noted', noted, List.append_assoc], fun off => ?_⟩
    rw [List.length_append]
    rcases cut' off with before | enough
    · exact (cut before).imp_right fun h => Nat.le_add_left_of_le h
    · exact .inr (Nat.le_add_right_of_le enough)

theorem Clear.deep (h : Clear w w') : Deep n w w' :=
  ⟨[], h.notes, fun off => .inl (h.cut ▸ off)⟩

theorem deep_allows {other patch : Caller (Watched κ)} (ho : other.Keeps Clear) (hp : patch.Keeps (Deep n)) :
    Allows other (noting patch) Anyhow (Deep (n + 1)) where
  quiet h := h.clear.deep
  written _ := ⟨[], rfl, .inl⟩
  called f args w := (ho f args w).deep
  read := by
    refine read_keeps (fun {w z a key factory} _ _ rest => ?_) hp
    obtain ⟨new, noted, cut⟩ := rest
    refine ⟨new ++ [w.patchNote a key factory], by rw [noted, List.append_assoc]; rfl, fun off => ?_⟩
    rw [List.length_append]
    exact (cut off).imp_right Nat.succ_le_succ

theorem patchWithin_deep {other : Caller (Watched κ)} (ho : other.Keeps Clear) (code : Value → Arguments → Client κ) :
    (fuel : Nat) → (patchWithin other code fuel).Keeps (Deep fuel)
  | 0 => fun _ _ _ => ⟨[], rfl, fun _ => .inr (Nat.le_refl 0)⟩
  | fuel + 1 => fun f args w =>
      (code f args).keeps (deep_allows ho (patchWithin_deep ho code fuel)) Clear.deep w

end

/-! ## How many calls there can be -/

/-- The keys of a table that do not count as processed. -/
def Table.unprocessed (t : Table) : List Value :=
  (t.factories.map (·.1)).filter fun key => !t.isProcessed key

section

variable {w w' : World (Watched κ)} {a : Address} {new : List Note}

/-- When the patcher of a table was called, the table had no keys but those that it has in some world. -/
def AddsNone (a : Address) (w : World (Watched κ)) (new : List Note) : Prop :=
  ∀ e ∈ new, e.place = a → ∀ key, (e.heap.table a).contains key = true → (w.heap.table a).contains key = true

/-- Calls for different keys need a key each. -/
theorem length_le_of_apart {keys : List Value} (apart : new.Pairwise Note.Apart) (place : ∀ e ∈ new, e.place = a)
    (keyed : ∀ e ∈ new, ∃ key ∈ keys, Value.sameKey key e.key = true) : new.length ≤ keys.length := by
  induction new generalizing keys with
  | nil => exact Nat.zero_le _
  | cons e new ih =>
      obtain ⟨others, apart⟩ := List.pairwise_cons.mp apart
      obtain ⟨key, there, same⟩ := keyed e List.mem_cons_self
      obtain ⟨before, behind, rfl⟩ := List.append_of_mem there
      have rest : ∀ e' ∈ new, ∃ key' ∈ before ++ behind, Value.sameKey key' e'.key = true := by
        intro e' he'
        obtain ⟨key', there', same'⟩ := keyed e' (List.mem_cons_of_mem _ he')
        refine ⟨key', ?_, same'⟩
        rcases List.mem_append.mp there' with h | h
        · exact List.mem_append_left _ h
        · rcases List.mem_cons.mp h with rfl | h
          · have here := (place e List.mem_cons_self).trans (place e' (List.mem_cons_of_mem _ he')).symm
            have different := others e' he' here
            rw [Value.sameKey_trans (Value.sameKey_symm same) same'] at different
            cases different
          · exact List.mem_append_right _ h
      have bound := ih apart (fun e' he' => place e' (List.mem_cons_of_mem _ he')) rest
      rw [List.length_append] at bound ⊢
      rw [List.length_cons, List.length_cons]
      omega

theorem contains_of_stored {t : Table} {key factory : Value} (h : t.get? key = some factory) :
    t.contains key = true := by
  obtain ⟨k, there, same⟩ := Value.lookup?_entry h
  exact List.any_eq_true.mpr ⟨(k, factory), there, same⟩

/-- As long as no keys come in, there are no more calls than keys that do not count as processed. -/
theorem fair_bound (each : ∀ e ∈ new, e.Proper ∧ (w.heap.table e.place).isProcessed e.key = false)
    (apart : new.Pairwise Note.Apart) (none : AddsNone a w new) :
    (new.filter (·.place = a)).length ≤ (w.heap.table a).unprocessed.length := by
  have here : ∀ e ∈ new.filter (·.place = a), e ∈ new ∧ e.place = a := fun e he => by simpa using he
  refine length_le_of_apart (apart.filter _) (fun e he => (here e he).2) fun e he => ?_
  obtain ⟨he, place⟩ := here e he
  obtain ⟨proper, unprocessed⟩ := each e he
  have stored := none e he place e.key (place ▸ contains_of_stored proper.stored)
  obtain ⟨⟨key, factory⟩, there, same⟩ := List.any_eq_true.mp stored
  refine ⟨key, List.mem_filter.mpr ⟨List.mem_map_of_mem there, ?_⟩, same⟩
  rw [Bool.not_eq_true']
  by_contra processed
  rw [Bool.not_eq_false] at processed
  rw [place, isProcessed_congr same processed] at unprocessed
  cases unprocessed

end

/-! ## All together -/

/-- How tables call their patchers, in all code that works on them. (1) A read by key calls the patcher exactly if the
key is there, a module id, not yet processed and not bound to nothing, and with what it is bound to. (2) Silent
operations call nothing. (3) Whatever reads by key keep, and single changes, quiet changes and calls of other code do,
all operations keep: no other one calls the patcher. (4) However operations nest in patchers and in what else is called,
and however these end, the patcher of a table is called for no two equal keys, and for none that counts as processed
before; there are no more calls than keys that do not, unless keys come in. (5) So patchers that bring in no keys nest no
deeper than that. -/
theorem patchers_called_once :
    (∀ (patch : Caller κ) a key (w : World κ),
      (Table.read patch a key : Within Anyhow Value).run w = match w.heap.unhashable? key, (w.heap.table a).get? key with
        | some type, _ => .error (.failed (.unhashable type)) w
        | none, none => .error (.failed (.noKey key)) w
        | none, some factory =>
          if (w.heap.table a).isFresh key factory then
            patch (w.heap.table a).patcher (.of [.ref a, key, factory])
              (w.replaced a (.table ((w.heap.table a).process key)))
          else .ok factory w) ∧
    (∀ (call patch call' patch' : Caller κ) a t (w : World κ) (o : Table.Op), w.heap[a]? = some (.table t) →
      o.isSilent = true →
      (o.on call patch a : Within Anyhow Value).run w = (o.on call' patch' a : Within Anyhow Value).run w) ∧
    (∀ (call patch : Caller κ) (Q : World κ → World κ → Prop) [Lasting Q], Allows call patch Anyhow Q →
      ∀ a (o : Table.Op), (o.on call patch a : Within Anyhow Value).Keeps Q) ∧
    (∀ (code : Value → Arguments → Client κ) depth (c : Client κ) (w : World (Watched κ)),
      ∃ new, ((c.run (playWithin code depth) (noting (playWithin code depth))).after w).host.notes =
          new ++ w.host.notes ∧
        (∀ e ∈ new, e.Proper ∧ (w.heap.table e.place).isProcessed e.key = false) ∧ new.Pairwise Note.Apart ∧
        ∀ a, AddsNone a w new → (new.filter (·.place = a)).length ≤ (w.heap.table a).unprocessed.length) ∧
    ∀ (other : Caller (Watched κ)) (code : Value → Arguments → Client κ) depth (c : Client κ) (w : World (Watched κ)) a,
      other.Keeps Clear → (w.heap.table a).unprocessed.length ≤ depth →
      ∃ new, ((c.run other (noting (patchWithin other code depth))).after w).host.notes = new ++ w.host.notes ∧
        ((∀ e ∈ new, e.place = a) → AddsNone a w new →
          ((c.run other (noting (patchWithin other code depth))).after w).host.cut = true → w.host.cut = true) := by
  refine ⟨fun patch a key w => read_run patch a key w, ?_, ?_, ?_, ?_⟩
  · exact fun call patch call' patch' a t w o there silent => Table.Op.silent_run there silent
  · exact fun call patch Q _ allows a o => Table.Op.keeps allows a o
  · intro code depth c w
    have play := playWithin_fair code depth
    obtain ⟨-, new, noted, each, apart⟩ := c.keeps (fair_allows play play) Clear.fair w
    have each : ∀ e ∈ new, e.Proper ∧ (w.heap.table e.place).isProcessed e.key = false :=
      fun e he => ⟨(each e he).1, (each e he).2.1⟩
    exact ⟨new, noted, each, apart, fun a none => fair_bound each apart none⟩
  · intro other code depth c w a clear enough
    obtain ⟨-, new, noted, each, apart⟩ :=
      c.keeps (fair_allows (fun f args w => (clear f args w).fair) (patchWithin_fair clear code depth)) Clear.fair w
    obtain ⟨new', noted', cut⟩ := c.keeps (deep_allows clear (patchWithin_deep clear code depth)) Clear.deep w
    obtain rfl := List.append_cancel_right (noted.symm.trans noted')
    refine ⟨new, noted, fun place none off => (cut off).resolve_right fun deep => ?_⟩
    have bound := fair_bound (fun e he => ⟨(each e he).1, (each e he).2.1⟩) apart none
    rw [List.filter_eq_self.mpr fun e he => decide_eq_true (place e he)] at bound
    omega

/-! ## A patcher that reads its own entry -/

/-- A patcher that reads the entry it is called for, and fails. -/
def rereading : Value → Arguments → Client Unit := fun _ args =>
  match args.positional with
  | [.ref a, key, _] => .use (.method "__getitem__" (.of [key])) a fun _ => .done (.error .exhausted)
  | _ => .done (.ok .none)

/-- Code that reads an entry twice. -/
def readTwice : Client Unit :=
  .use (.method "__getitem__" (.of [.str "1"])) plainFactoryPlace fun _ =>
    .use (.method "__getitem__" (.of [.str "1"])) plainFactoryPlace .done

def watched : World (Watched Unit) :=
  World.furnished [] ⟨(), [], false⟩ [.table plainTable]

/-- What else is called there does nothing. -/
def idle : Caller (Watched Unit) :=
  fun _ _ => pure .none

/-- The patcher is called for one of the two reads, and not for the read inside; nothing is cut off. -/
theorem patchers_called_once_rereading :
    ((readTwice.run idle (noting (patchWithin idle rereading 1))).after watched).host.notes =
        [watched.patchNote plainFactoryPlace (.str "1") (.ref plainFactoryPlace)] ∧
      ((readTwice.run idle (noting (patchWithin idle rereading 1))).after watched).host.cut = false := by
  have notes : ((readTwice.run idle (noting (patchWithin idle rereading 1))).after watched).host.notes =
      [watched.patchNote plainFactoryPlace (.str "1") (.ref plainFactoryPlace)] := rfl
  obtain ⟨-, -, -, -, ends⟩ := patchers_called_once (κ := Unit)
  obtain ⟨new, noted, uncut⟩ := ends idle rereading 1 readTwice watched plainFactoryPlace
    (fun _ _ _ => ⟨fun _ _ there => there, rfl, rfl⟩) (by decide +kernel)
  obtain rfl : [watched.patchNote plainFactoryPlace (.str "1") (.ref plainFactoryPlace)] = new :=
    (notes.symm.trans noted).trans (List.append_nil new)
  refine ⟨notes, ?_⟩
  by_contra cut
  rw [Bool.not_eq_false] at cut
  have before : watched.host.cut = true := by
    refine uncut (fun e he => ?_) (fun e he _ key there => ?_) cut
    · rw [List.mem_singleton.mp he]
      rfl
    · rw [List.mem_singleton.mp he] at there
      exact there
  cases before

end Patchwork
