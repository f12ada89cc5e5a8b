import Patchwork.Proofs.Assigning
import Patchwork.Proofs.Fallback

/-!
Which runtimes the hooks take. Each of the two hooks takes the first runtime that passes its checks, whatever the other
one has taken. So both take the same one only if it is the first for both.
-/

namespace Patchwork

open Run

variable {κ : Type} {outside : Surroundings κ} {u v w z : World κ} {x : Assignment κ} {a : Address}
  {i : Interceptor}

/-! ## Any number of assignments -/

/-- Assignments one after the other, and between them whatever leaves the hooks alone. They reach no hooks but the given
ones. -/
inductive Boots (outside : Surroundings κ) (hooks : List Address) :
    World κ → List (Assignment κ) → World κ → Prop where
  | done {u v : World κ} : HooksKept u v → Boots outside hooks u [] v
  | assign {u w : World κ} {y : Assignment κ} {ys : List (Assignment κ)} :
      HooksKept u y.world → y.Alone outside → (∀ a i, y.hook? = some (a, i) → a ∈ hooks) →
      Boots outside hooks (y.after outside) ys w → Boots outside hooks u (y :: ys) w

/-- A hook waits for the genuine runtime. -/
structure World.Awaits (w : World κ) (a : Address) (i : Interceptor) : Prop where
  found : w.heap[a]? = some (.interceptor i)
  waiting : i.committed = false

theorem World.Awaits.same (waits : w.Awaits a i) : { i with committed := false } = i := by
  rw [← waits.waiting]

theorem World.Awaits.kept (waits : w.Awaits a i) : w.heap[a]? = some (.interceptor { i with committed := false }) := by
  rw [waits.same, waits.found]

/-- Two hooks of one registry, on the module table and on the chunks-loaded callback, wait for the genuine runtime. -/
structure BothWait (n : Nat) (first second : Address) (i j : Interceptor) (w : World κ) : Prop where
  table : w.Awaits first i
  chunks : w.Awaits second j
  ofTable : i.commitment = .table
  ofChunks : ∃ attr, j.commitment = .chunks attr
  tableOf : i.registry = n
  chunksOf : j.registry = n

/-- A hook has committed. -/
def World.HasCommitted (w : World κ) (a : Address) : Prop :=
  ∃ i, w.heap[a]? = some (.interceptor i) ∧ i.committed = true

/-- The table of a registry comes from a runtime. -/
def TableFrom (outside : Surroundings κ) (n : Nat) (xs : List (Assignment κ)) (runtime : Address) : Prop :=
  ∃ x ∈ xs, x.HandsOver outside n ∧ x.runtime = runtime

/-- The callback of a runtime has been wrapped, so that the runtime is exposed later. -/
def WrappedOn (outside : Surroundings κ) (n : Nat) (xs : List (Assignment κ)) (runtime : Address) : Prop :=
  ∃ x ∈ xs, x.Wraps outside n ∧ x.runtime = runtime

/-- The first one in a list with a property. -/
def FirstWith {α : Type} (p : α → Prop) (xs : List α) (x : α) : Prop :=
  ∃ before rest, xs = before ++ x :: rest ∧ p x ∧ ∀ y ∈ before, ¬ p y

theorem FirstWith.unique {α : Type} {p : α → Prop} {xs : List α} {x y : α} (first : FirstWith p xs x)
    (other : FirstWith p xs y) : x = y := by
  obtain ⟨before, rest, split, holds, none⟩ := first
  obtain ⟨before', rest', split', holds', none'⟩ := other
  rw [split] at split'
  rcases List.append_eq_append_iff.mp split' with ⟨more, grown, left⟩ | ⟨more, grown, left⟩
  · cases more with
    | nil => exact (List.cons.inj left).1
    | cons z more =>
        cases left
        exact absurd holds (none' x (grown ▸ List.mem_append_right _ List.mem_cons_self))
  · cases more with
    | nil => exact (List.cons.inj left).1.symm
    | cons z more =>
        cases left
        exact absurd holds' (none y (grown ▸ List.mem_append_right _ List.mem_cons_self))

theorem FirstWith.exists {α : Type} {p : α → Prop} :
    {xs : List α} → {x : α} → x ∈ xs → p x → ∃ y, FirstWith p xs y
  | y :: ys, x, mem, holds => by
      by_cases here : p y
      · exact ⟨y, [], ys, rfl, here, fun _ h => absurd h List.not_mem_nil⟩
      · rcases List.mem_cons.mp mem with rfl | mem
        · exact absurd holds here
        · obtain ⟨z, before, rest, split, holds', none⟩ := FirstWith.exists mem holds
          refine ⟨z, y :: before, rest, by rw [split]; rfl, holds', fun a ha => ?_⟩
          rcases List.mem_cons.mp ha with rfl | ha
          · exact here
          · exact none a ha

namespace Boots

variable {hooks : List Address} {xs before rest : List (Assignment κ)} {n : Nat} {c : Bool}

theorem after_kept (kept : HooksKept u v) (boots : Boots outside hooks v xs w) : Boots outside hooks u xs w := by
  cases boots with
  | done kept' => exact .done (Lasting.trans kept kept')
  | assign kept' alone reach boots => exact .assign (Lasting.trans kept kept') alone reach boots

/-- What comes before an assignment, the assignment, and what comes after it. -/
theorem split : {before : List (Assignment κ)} → {u : World κ} → Boots outside hooks u (before ++ x :: rest) w →
    Boots outside hooks u before x.world ∧ x.Alone outside ∧ (∀ a i, x.hook? = some (a, i) → a ∈ hooks) ∧
      Boots outside hooks (x.after outside) rest w
  | [], _, boots => by
      cases boots with
      | assign kept alone reach boots => exact ⟨.done kept, alone, reach, boots⟩
  | y :: ys, _, boots => by
      cases boots with
      | assign kept alone reach boots =>
          obtain ⟨first, rest⟩ := boots.split
          exact ⟨.assign kept alone reach first, rest⟩

/-- A hook has committed exactly if an assignment that reached it has passed its checks. -/
theorem hook (boots : Boots outside hooks u xs w)
    (before : u.heap[a]? = some (.interceptor { i with committed := c })) :
    ∃ c', w.heap[a]? = some (.interceptor { i with committed := c' }) ∧
      (c' = true ↔ c = true ∨ ∃ x ∈ xs, x.Accepted outside a) := by
  induction boots generalizing c with
  | done kept =>
      refine ⟨c, kept.hooks a _ before, .inl, fun or => or.elim id ?_⟩
      rintro ⟨x, mem, -⟩
      cases mem
  | assign kept alone _ _ ih =>
      obtain ⟨c', between, taken⟩ := alone.hook (kept.hooks a _ before)
      obtain ⟨c'', after, more⟩ := ih between
      refine ⟨c'', after, ?_⟩
      simp only [more, taken, List.mem_cons, exists_eq_or_imp, or_assoc]

theorem placed (boots : Boots outside hooks u xs w) (placed : u.Placed n) : w.Placed n := by
  induction boots with
  | done kept => exact placed.kept kept
  | assign kept alone _ _ ih => exact ih ((placed.kept kept).after alone)

/-- The assignments that a hook takes are those that pass its checks first. -/
theorem takes_iff_first (boots : Boots outside hooks u (before ++ x :: rest) w) (waits : u.Awaits a i) :
    x.Takes outside a i ↔ x.Accepted outside a ∧ ∀ y ∈ before, ¬ y.Accepted outside a := by
  obtain ⟨first, -⟩ := boots.split
  obtain ⟨c, at_, taken⟩ := first.hook waits.kept
  constructor
  · rintro ⟨reached, waiting, accepted⟩
    have found := (Assignment.hook?_eq_some reached).1
    rw [at_] at found
    cases c with
    | false =>
        refine ⟨accepted, fun y mem passed => ?_⟩
        exact absurd (taken.mpr (.inr ⟨y, mem, passed⟩)) Bool.false_ne_true
    | true =>
        rw [← Object.interceptor.inj (Option.some.inj found)] at waiting
        cases waiting
  · rintro ⟨accepted, none⟩
    obtain ⟨⟨j, reached⟩, passed⟩ := accepted
    have found := (Assignment.hook?_eq_some reached).1
    rw [at_] at found
    cases found
    cases c with
    | false => exact ⟨waits.same ▸ reached, waits.waiting, ⟨_, reached⟩, passed⟩
    | true =>
        rcases taken.mp rfl with early | ⟨y, mem, early⟩
        · cases early
        · exact absurd early (none y mem)

/-- What takes an assignment is the hook as it was installed. -/
theorem takes_awaited {j : Interceptor} (boots : Boots outside hooks u (before ++ x :: rest) w) (waits : u.Awaits a i)
    (takes : x.Takes outside a j) : j = i := by
  obtain ⟨first, -⟩ := boots.split
  obtain ⟨c, at_, -⟩ := first.hook waits.kept
  have found := (Assignment.hook?_eq_some takes.1).1
  rw [at_] at found
  cases found
  have waiting : c = false := takes.2.1
  rw [waiting, waits.same]

theorem committed_iff (boots : Boots outside hooks u xs w) (waits : u.Awaits a i) :
    w.HasCommitted a ↔ ∃ x ∈ xs, x.Accepted outside a := by
  obtain ⟨c, now, taken⟩ := boots.hook waits.kept
  constructor
  · rintro ⟨j, found, committed⟩
    rw [now] at found
    cases found
    exact (taken.mp committed).resolve_left Bool.false_ne_true
  · exact fun accepted => ⟨_, now, taken.mpr (.inr accepted)⟩

section

variable {first second : Address} {i j : Interceptor} 

/-- The table of a registry is that of the runtime whose assignment passes the checks of its hook first. -/
theorem handsOver_iff (boots : Boots outside [first, second] u xs w) (both : BothWait n first second i j u)
    (placed : u.Placed n) :
    x ∈ xs ∧ x.HandsOver outside n ↔ FirstWith (·.Accepted outside first) xs x ∧ x.Returns outside := by
  constructor
  · rintro ⟨mem, z, returned, changed, -⟩
    obtain ⟨before, rest, rfl⟩ := List.append_of_mem mem
    obtain ⟨-, alone, reach, -⟩ := boots.split
    have differs : ((x.after outside).registry n).modules ≠ (x.world.registry n).modules := by
      rwa [Assignment.after, after_ok returned]
    obtain ⟨a, k, takes, ofTable, -, -⟩ := alone.modules_changed differs
    rcases List.mem_cons.mp (reach a k takes.1) with rfl | other
    · cases boots.takes_awaited both.table takes
      exact ⟨⟨before, rest, rfl, (boots.takes_iff_first both.table).mp takes⟩, z, returned⟩
    · cases List.mem_singleton.mp other
      cases boots.takes_awaited both.chunks takes
      obtain ⟨attr, ofChunks⟩ := both.ofChunks
      rw [ofChunks] at ofTable
      cases ofTable
  · rintro ⟨⟨before, rest, rfl, accepted⟩, returns⟩
    obtain ⟨start, alone, -, -⟩ := boots.split
    have takes := (boots.takes_iff_first both.table).mpr accepted
    have there := start.placed placed
    obtain rfl := both.tableOf
    exact ⟨List.mem_append_right _ List.mem_cons_self, takes.handsOver alone both.ofTable there returns⟩

/-- The callback that is wrapped is that of the runtime whose assignment passes the checks of its hook first. -/
theorem wraps_iff (boots : Boots outside [first, second] u xs w) (both : BothWait n first second i j u) :
    x ∈ xs ∧ x.Wraps outside n ↔ FirstWith (·.Accepted outside second) xs x ∧ x.Returns outside := by
  constructor
  · rintro ⟨mem, wraps⟩
    obtain ⟨before, rest, rfl⟩ := List.append_of_mem mem
    obtain ⟨-, alone, reach, -⟩ := boots.split
    obtain ⟨a, k, attr, takes, ofChunks, -⟩ := alone.wraps_taken wraps
    rcases List.mem_cons.mp (reach a k takes.1) with rfl | other
    · cases boots.takes_awaited both.table takes
      rw [both.ofTable] at ofChunks
      cases ofChunks
    · cases List.mem_singleton.mp other
      cases boots.takes_awaited both.chunks takes
      obtain ⟨z, _, _, _, returned, -⟩ := wraps
      exact ⟨⟨before, rest, rfl, (boots.takes_iff_first both.chunks).mp takes⟩, z, returned⟩
  · rintro ⟨⟨before, rest, rfl, accepted⟩, returns⟩
    obtain ⟨-, alone, -, -⟩ := boots.split
    have takes := (boots.takes_iff_first both.chunks).mpr accepted
    obtain ⟨attr, ofChunks⟩ := both.ofChunks
    obtain rfl := both.chunksOf
    exact ⟨List.mem_append_right _ List.mem_cons_self, takes.wraps alone ofChunks returns⟩

/-- A registry keeps the table that its hook has taken. -/
theorem modules_stay (boots : Boots outside [first, second] u xs w)
    (committed : u.heap[first]? = some (.interceptor { i with committed := true }))
    (other : ∃ c, u.heap[second]? = some (.interceptor { j with committed := c }))
    (chunks : ∃ attr, j.commitment = .chunks attr) : (w.registry n).modules = (u.registry n).modules := by
  induction boots with
  | done kept => exact kept.modules n
  | @assign u w y ys kept alone reach _ ih =>
      obtain ⟨c, other⟩ := other
      obtain ⟨c', committed', taken⟩ := alone.hook (kept.hooks _ _ committed)
      cases taken.mpr (.inl rfl)
      obtain ⟨c'', other', -⟩ := alone.hook (kept.hooks _ _ other)
      rw [ih committed' ⟨c'', other'⟩, ← kept.modules n]
      refine Decidable.byContradiction fun changed => ?_
      obtain ⟨a, k, takes, table, -, -⟩ := alone.modules_changed changed
      have found := (Assignment.hook?_eq_some takes.1).1
      rcases List.mem_cons.mp (reach a k takes.1) with rfl | second
      · rw [kept.hooks _ _ committed] at found
        cases found
        cases takes.2.1
      · cases List.mem_singleton.mp second
        rw [kept.hooks _ _ other] at found
        cases found
        obtain ⟨attr, ofChunks⟩ := chunks
        rw [ofChunks] at table
        cases table

theorem tableFrom_iff (boots : Boots outside [first, second] u xs w) (both : BothWait n first second i j u)
    (placed : u.Placed n) (isFirst : FirstWith (·.Accepted outside first) xs x) (r : Address) :
    TableFrom outside n xs r ↔ x.Returns outside ∧ r = x.runtime := by
  constructor
  · rintro ⟨y, mem, h, rfl⟩
    obtain ⟨isFirst', returns⟩ := (boots.handsOver_iff both placed).mp ⟨mem, h⟩
    cases isFirst.unique isFirst'
    exact ⟨returns, rfl⟩
  · rintro ⟨returns, rfl⟩
    obtain ⟨mem, h⟩ := (boots.handsOver_iff both placed).mpr ⟨isFirst, returns⟩
    exact ⟨x, mem, h, rfl⟩

theorem wrappedOn_iff (boots : Boots outside [first, second] u xs w) (both : BothWait n first second i j u)
    (isFirst : FirstWith (·.Accepted outside second) xs x) (s : Address) :
    WrappedOn outside n xs s ↔ x.Returns outside ∧ s = x.runtime := by
  constructor
  · rintro ⟨y, mem, h, rfl⟩
    obtain ⟨isFirst', returns⟩ := (boots.wraps_iff both).mp ⟨mem, h⟩
    cases isFirst.unique isFirst'
    exact ⟨returns, rfl⟩
  · rintro ⟨returns, rfl⟩
    obtain ⟨mem, h⟩ := (boots.wraps_iff both).mpr ⟨isFirst, returns⟩
    exact ⟨x, mem, h, rfl⟩

/-- The table that a runtime got in place of its own stays that of the registry. -/
theorem held (boots : Boots outside [first, second] u xs w) (both : BothWait n first second i j u)
    (placed : u.Placed n) (isFirst : FirstWith (·.Accepted outside first) xs x) (returns : x.Returns outside) :
    x.held? (x.after outside) = some (w.registry n).modules := by
  obtain ⟨-, z, returned, -, held⟩ := (boots.handsOver_iff both placed).mpr ⟨isFirst, returns⟩
  obtain ⟨before, rest, rfl, accepted⟩ := isFirst
  obtain ⟨start, alone, -, stays⟩ := boots.split
  obtain ⟨c, other, -⟩ := start.hook both.chunks.kept
  obtain ⟨c', other', -⟩ := alone.hook other
  have takes := (boots.takes_iff_first both.table).mpr accepted
  have stay := stays.modules_stay (n := n) (takes.committed alone).here ⟨c', other'⟩ both.ofChunks
  rw [stay, Assignment.after, after_ok returned, held]

end

end Boots

/-! ## The two hooks -/

section

variable {R : World κ → World κ → Prop} [Moves R] {cls base : Address} {name : String} {matcher : RuntimeMatcher}
  {commitment : Commitment} {n : Nat} {names : List String} {tableAttr chunksAttr : String}

theorem installHook_ok (h : (installHook cls name matcher commitment n : Within R _).run w = .ok a z) :
    Quiet w z ∧
      ∃ previous, z.heap[a]? = some (.interceptor ⟨cls, name, matcher, commitment, n, false, previous⟩) := by
  obtain ⟨attrs, own⟩ := classAttrs_run (R := R) cls w
  rw [installHook, Within.run_bind, bind_of_ok own] at h
  obtain ⟨b, v, allocated, h⟩ := bind_ok.mp h
  obtain ⟨⟨⟩, y, changed, h⟩ := bind_ok.mp h
  obtain ⟨y', changed', quiet⟩ := setClassAttrs_quiet (R := R) cls (attrs.set name (.ref b)) v
  rw [changed] at changed'
  cases changed'
  cases h
  cases allocated
  have hook := quiet.hooksKept.hooks _ _ Array.getElem?_push_size
  exact ⟨Lasting.trans ((alloc _ : Quietly κ _).within w) quiet, _, hook⟩

theorem installHooks_ok (h : (installHooks base matcher n tableAttr chunksAttr : Within R _).run w = .ok names u) :
    ∃ first second i j, u.hooks = some ⟨base, matcher, n, [first, second]⟩ ∧ BothWait n first second i j u := by
  rw [installHooks] at h
  obtain ⟨⟨⟩, v, -, h⟩ := bind_ok.mp h
  obtain ⟨first, v₁, installed, h⟩ := bind_ok.mp h
  obtain ⟨second, v₂, installed', h⟩ := bind_ok.mp h
  obtain ⟨-, previous, found⟩ := installHook_ok installed
  obtain ⟨quiet, previous', found'⟩ := installHook_ok installed'
  cases h
  refine ⟨first, second, ⟨base, tableAttr, matcher, .table, n, false, previous⟩,
    ⟨base, chunksAttr, matcher, .chunks chunksAttr, n, false, previous'⟩, rfl, ?_⟩
  exact ⟨⟨quiet.hooksKept.hooks _ _ found, rfl⟩, ⟨found', rfl⟩, rfl, ⟨chunksAttr, rfl⟩, rfl, rfl⟩

/-- Each hook commits to the first runtime whose assignment passes its checks, whatever the other hook does. Once both
have committed, the table of the registry is that of the first one for the table, and the wrapped callback is that of
the first one for the callback. So they are of the same runtime exactly if these two assignments are. -/
theorem hooks_commit_apart
    (installed : (installHooks base matcher n tableAttr chunksAttr : Within R _).run w = .ok names u)
    (placed : u.Placed n) :
    ∃ first second, u.hooks = some ⟨base, matcher, n, [first, second]⟩ ∧
      ∀ {xs v}, Boots outside [first, second] u xs v →
        (∀ a ∈ [first, second], v.HasCommitted a ↔ ∃ x ∈ xs, x.Accepted outside a) ∧
        (v.HasCommitted first → v.HasCommitted second → ∃ x y,
          FirstWith (·.Accepted outside first) xs x ∧ FirstWith (·.Accepted outside second) xs y ∧
          (x.Returns outside → x.held? (x.after outside) = some (v.registry n).modules) ∧
          (∀ r, TableFrom outside n xs r ↔ x.Returns outside ∧ r = x.runtime) ∧
          (∀ s, WrappedOn outside n xs s ↔ y.Returns outside ∧ s = y.runtime) ∧
          ∀ r s, TableFrom outside n xs r → WrappedOn outside n xs s → (r = s ↔ x.runtime = y.runtime)) := by
  obtain ⟨first, second, i, j, set, both⟩ := installHooks_ok installed
  refine ⟨first, second, set, fun {xs v} boots => ?_⟩
  have committed (a : Address) (mem : a ∈ [first, second]) :
      v.HasCommitted a ↔ ∃ x ∈ xs, x.Accepted outside a := by
    rcases List.mem_cons.mp mem with rfl | mem
    · exact boots.committed_iff both.table
    · exact List.mem_singleton.mp mem ▸ boots.committed_iff both.chunks
  refine ⟨committed, fun taken taken' => ?_⟩
  obtain ⟨x, mem, passed⟩ := (committed first List.mem_cons_self).mp taken
  obtain ⟨y, mem', passed'⟩ := (committed second (List.mem_cons_of_mem _ List.mem_cons_self)).mp taken'
  obtain ⟨x, isFirst⟩ := FirstWith.exists (p := (·.Accepted outside first)) mem passed
  obtain ⟨y, isFirst'⟩ := FirstWith.exists (p := (·.Accepted outside second)) mem' passed'
  have tables := boots.tableFrom_iff both placed isFirst
  have wraps := boots.wrappedOn_iff both isFirst'
  refine ⟨x, y, isFirst, isFirst', boots.held both placed isFirst, tables, wraps, fun r s ofTable ofChunks => ?_⟩
  rw [((tables r).mp ofTable).2, ((wraps s).mp ofChunks).2]

end

/-! ## Two runtimes that both look genuine -/

/-- A class with a loader that looks genuine, two runtimes of it, a module table and a callback; what is assigned comes
from the host. -/
def twoRuntimes : World Unit :=
  { World.furnished [] () [.token "gather()",
      .class ⟨"Base", "Base", "host", [], [("load_chunk", .ref (loadedPlace 0))]⟩,
      .instance (loadedPlace 1) [] none, .instance (loadedPlace 1) [] none, .dict [],
      .external 0 "on_chunks_loaded"] with frames := ["host.py"] }

def inert : Surroundings Unit :=
  fun _ _ _ => pure .none

/-- The world with both hooks on the class. -/
def twoHooked : World Unit :=
  (installHooks (loadedPlace 1) { markers := ["host.py"] } 1 standardTableAttr standardChunksAttr :
    Within Beside _).run.after twoRuntimes

/-- One runtime gets its module table. -/
def tableAssignment : Assignment Unit where
  world := twoHooked
  depth := 9
  runtime := loadedPlace 2
  name := standardTableAttr
  value := .ref (loadedPlace 4)
  present := by
    rintro b h
    cases h
    decide +kernel

/-- Then the other one gets its callback. -/
def chunksAssignment : Assignment Unit where
  world := tableAssignment.after inert
  depth := 9
  runtime := loadedPlace 3
  name := standardChunksAttr
  value := .ref (loadedPlace 5)
  present := by
    rintro b h
    cases h
    decide +kernel

theorem tableAssignment_hook : tableAssignment.hook? = some (loadedPlace 6,
    ⟨loadedPlace 1, standardTableAttr, { markers := ["host.py"] }, .table, 1, false, none⟩) :=
  rfl

theorem chunksAssignment_hook : chunksAssignment.hook? = some (loadedPlace 7,
    ⟨loadedPlace 1, standardChunksAttr, { markers := ["host.py"] }, .chunks standardChunksAttr, 1, false, none⟩) :=
  rfl

theorem tableAssignment_check : tableAssignment.check inert tableAssignment.world = .ok true tableAssignment.world :=
  rfl

theorem chunksAssignment_check :
    chunksAssignment.check inert chunksAssignment.world = .ok true chunksAssignment.world :=
  rfl

theorem twoRuntimes_boot : Boots inert [loadedPlace 6, loadedPlace 7] twoHooked [tableAssignment, chunksAssignment]
    (chunksAssignment.after inert) := by
  refine .assign (Lasting.refl _) ⟨?_, ?_⟩ ?_ (.assign (Lasting.refl _) ⟨?_, ?_⟩ ?_ (.done (Lasting.refl _)))
  · rw [after_ok tableAssignment_check]
    exact Lasting.refl _
  · intro a i v h ran _
    rw [tableAssignment_hook] at h
    rw [tableAssignment_check] at ran
    cases h
    cases ran
    -- Reading a dictionary calls nothing, and emptying it only fills it anew.
    exact ((do
      log .info "Found module factory table on Base"
      write (loadedPlace 4) (.entries []) : Quietly Unit Unit).within _).hooksKept
  · intro a i h
    rw [tableAssignment_hook] at h
    cases h
    exact List.mem_cons_self
  · rw [after_ok chunksAssignment_check]
    exact Lasting.refl _
  · intro a i v h _ table
    rw [chunksAssignment_hook] at h
    cases h
    cases table
  · intro a i h
    rw [chunksAssignment_hook] at h
    cases h
    exact List.mem_cons_of_mem _ List.mem_cons_self

theorem twoRuntimes_committed : (chunksAssignment.after inert).HasCommitted (loadedPlace 6) ∧
    (chunksAssignment.after inert).HasCommitted (loadedPlace 7) :=
  ⟨⟨_, rfl, rfl⟩, ⟨_, rfl, rfl⟩⟩

theorem hooks_commit_apart_twoRuntimes : ∃ x y,
    FirstWith (·.Accepted inert (loadedPlace 6)) [tableAssignment, chunksAssignment] x ∧
    FirstWith (·.Accepted inert (loadedPlace 7)) [tableAssignment, chunksAssignment] y ∧
    ∀ r s, TableFrom inert 1 [tableAssignment, chunksAssignment] r →
      WrappedOn inert 1 [tableAssignment, chunksAssignment] s → (r = s ↔ x.runtime = y.runtime) := by
  have placed : twoHooked.Placed 1 := by
    refine ⟨by decide +kernel, fun b held => ?_⟩
    have none : (twoHooked.registry 1).modules = .none := by decide +kernel
    rw [none] at held
    cases held
  have installed : (installHooks (loadedPlace 1) { markers := ["host.py"] } 1 standardTableAttr standardChunksAttr :
      Within Beside _).run twoRuntimes = .ok ["modules", "on_chunks_loaded"] twoHooked := rfl
  obtain ⟨first, second, set, all⟩ := hooks_commit_apart installed placed
  cases set
  obtain ⟨x, y, isFirst, isFirst', -, -, -, same⟩ :=
    (all twoRuntimes_boot).2 twoRuntimes_committed.1 twoRuntimes_committed.2
  exact ⟨x, y, isFirst, isFirst', same⟩

/-- Both hooks have committed, but to different runtimes. -/
theorem hooks_commit_to_two :
    Boots inert [loadedPlace 6, loadedPlace 7] twoHooked [tableAssignment, chunksAssignment]
      (chunksAssignment.after inert) ∧
    (chunksAssignment.after inert).HasCommitted (loadedPlace 6) ∧
    (chunksAssignment.after inert).HasCommitted (loadedPlace 7) ∧
    TableFrom inert 1 [tableAssignment, chunksAssignment] (loadedPlace 2) ∧
    WrappedOn inert 1 [tableAssignment, chunksAssignment] (loadedPlace 3) ∧
    loadedPlace 2 ≠ loadedPlace 3 := by
  have handsOver : tableAssignment.HandsOver inert 1 := by
    refine ⟨_, rfl, ?_, ?_⟩ <;> decide +kernel
  have wraps : chunksAssignment.Wraps inert 1 := by
    refine ⟨_, _, _, _, rfl, rfl, ?_, rfl, rfl⟩
    decide +kernel
  refine ⟨twoRuntimes_boot, twoRuntimes_committed.1, twoRuntimes_committed.2, ?_, ?_, by decide⟩
  · exact ⟨tableAssignment, List.mem_cons_self, handsOver, rfl⟩
  · exact ⟨chunksAssignment, List.mem_cons_of_mem _ List.mem_cons_self, wraps, rfl⟩

end Patchwork
