import Patchwork.Proofs.Uses

/-!
Hooks on one class, put there and taken off by any number of sets in any order. Those on one attribute make a stack: each
remembers what it covers, and only the topmost one stands on the class. Taking a set off removes from each stack the topmost
hook if it belongs to the set, and nothing else.
-/

namespace Patchwork

open Run

variable {κ : Type} {outside : Surroundings κ} {u v w w' : World κ} {a b base : Address} {name : String} {i : Interceptor}
  {k : ClassObject} {set set' : HookSet}

/-! ## Sets of hooks -/

section

variable {R : World κ → World κ → Prop} [Moves R]

/-- Installing the hooks on a class is to begin a set, and to register one hook for the table and one for the callback. -/
theorem installHooks_eq (base : Address) (matcher : RuntimeMatcher) (registry : Nat) (tableAttr chunksAttr : String) :
    (installHooks base matcher registry tableAttr chunksAttr : Within R (List String)) = (do
      uninstallHooks
      let set ← HookSet.registerTable ⟨base, matcher, registry, []⟩ tableAttr
      let set ← set.registerChunks chunksAttr
      setHooks (some set)
      let name := match (← objectAt? base) with
        | some (.class c) => c.name
        | _ => ""
      log .info s!"Runtime hooks installed on {name}"
      pure [tableAttr, chunksAttr]) := by
  simp only [installHooks, HookSet.registerTable, HookSet.registerChunks, HookSet.register, bind_assoc, pure_bind]
  rfl

/-- Taking off all hooks that are installed is to take off their set, and to forget it. -/
theorem uninstallHooks_eq : (uninstallHooks : Within R Unit) = (do
      match (← world).hooks with
      | none => pure ()
      | some set =>
        let _ ← set.uninstall
        setHooks none
        log .info "Runtime hooks uninstalled") := by
  rw [uninstallHooks]
  refine bind_congr fun w => ?_
  cases w.hooks with
  | none => rfl
  | some set => simp only [HookSet.uninstall, bind_assoc, pure_bind]

theorem HookSet.register_run (there : w.heap[set.base]? = some (.class k)) (name : String) (commitment : Commitment) :
    (set.register name commitment : Within R HookSet).run w =
      .ok { set with hooks := set.hooks ++ [w.heap.size] }
        (w.hooked set.base k ⟨set.base, name, set.matcher, commitment, set.registry, false, w.own set.base name⟩) := by
  rw [register, Within.run_bind, bind_of_ok (installHook_run there)]
  rfl

end

/-! ## Stacks -/

/-- The hooks on each attribute that have neither committed nor been taken off, the latest first. -/
abbrev Stacks :=
  String → List Address

/-- What happens to the hooks on a class. -/
inductive HookEvent where
  | registered (set : Nat) (name : String) (a : Address)
  | committed (name : String) (a : Address)
  /-- A set is taken off the class; these were its hooks. -/
  | uninstalled (set : Nat) (hooks : List Address)

/-- What is left of a stack when some hooks are taken off: the topmost one goes if it is among them, all others stay. -/
def untopped (hooks : List Address) : List Address → List Address
  | [] => []
  | a :: rest => if a ∈ hooks then rest else a :: rest

theorem untopped_same {hooks l : List Address} (top : ∀ a rest, l = a :: rest → a ∉ hooks) : untopped hooks l = l := by
  cases l with
  | nil => rfl
  | cons a rest => rw [untopped, if_neg (top a rest rfl)]

theorem mem_untopped {hooks l : List Address} : b ∈ untopped hooks l ↔ b ∈ l ∧ (b ∈ hooks → b ∈ l.tail) := by
  cases l with
  | nil => simp [untopped]
  | cons c rest =>
      rw [untopped, List.tail_cons]
      split
      · next top =>
          refine ⟨fun mem => ⟨List.mem_cons_of_mem c mem, fun _ => mem⟩, fun ⟨mem, below⟩ => ?_⟩
          rcases List.mem_cons.mp mem with rfl | mem
          · exact below top
          · exact mem
      · next other =>
          refine ⟨fun mem => ⟨mem, fun own => (List.mem_cons.mp mem).resolve_left ?_⟩, And.left⟩
          rintro rfl
          exact other own

/-- Below the topmost hook there are only earlier ones, so that later ones are not found there. -/
theorem untopped_cons {hooks l : List Address} (sorted : l.Pairwise (· > ·)) (later : ∀ b ∈ hooks, a < b) :
    untopped hooks (untopped [a] l) = untopped (a :: hooks) l := by
  cases l with
  | nil => rfl
  | cons c rest =>
      by_cases same : c = a
      · subst same
        rw [untopped, untopped, if_pos (List.mem_singleton_self c), if_pos List.mem_cons_self]
        refine untopped_same fun b _ first mem => ?_
        have less := List.rel_of_pairwise_cons sorted (first ▸ List.mem_cons_self)
        exact Nat.lt_asymm (later b mem) less
      · have stays : untopped [a] (c :: rest) = c :: rest := by
          refine untopped_same fun b _ first mem => same ?_
          cases first
          exact List.mem_singleton.mp mem
        rw [stays]
        simp only [untopped, List.mem_cons, same, false_or]

def HookEvent.on (s : Stacks) : HookEvent → Stacks
  | registered _ name a => fun n => if n = name then a :: s n else s n
  | committed name _ => fun n => if n = name then (s n).tail else s n
  | uninstalled _ hooks => fun n => untopped hooks (s n)

/-- The stacks after some events. -/
def stacksAfter (es : List HookEvent) : Stacks :=
  es.foldl HookEvent.on fun _ => []

theorem stacksAfter_snoc (es : List HookEvent) (e : HookEvent) : stacksAfter (es ++ [e]) = e.on (stacksAfter es) := by
  rw [stacksAfter, List.foldl_append]
  rfl

/-- What a class has in the place of a stack: the topmost hook, or what it had before all of them. -/
def standing (u : World κ) (base : Address) (name : String) : List Address → Option Value
  | [] => u.own base name
  | a :: _ => some (.ref a)

/-- A hook on a class is there. -/
def World.HasHook (w : World κ) (base a : Address) : Prop :=
  ∃ i, w.heap[a]? = some (.interceptor i) ∧ i.owner = base

theorem World.HasHook.bound (has : w.HasHook base a) : a < w.heap.size := by
  obtain ⟨i, there, -⟩ := has
  exact (Array.getElem?_eq_some_iff.mp there).1

theorem World.HasHook.beside (has : w.HasHook base a) (here : ∃ k, w.heap[base]? = some (.class k))
    (same : a ≠ base → w'.heap[a]? = w.heap[a]?) : w'.HasHook base a := by
  obtain ⟨i, there, owner⟩ := has
  refine ⟨i, (same ?_).trans there, owner⟩
  rintro rfl
  obtain ⟨k, here⟩ := here
  cases there.symm.trans here

/-- The hooks on a class are those of the stacks. Each waits, and remembers what stands below it; those that came later have
larger places. -/
structure Stacked (base : Address) (u : World κ) (s : Stacks) (w : World κ) : Prop where
  here : ∃ k, w.heap[base]? = some (.class k)
  own : ∀ name, w.own base name = standing u base name (s name)
  hooks : ∀ {name a rest}, a :: rest <:+ s name → ∃ i, w.heap[a]? = some (.interceptor i) ∧ i.owner = base ∧
    i.name = name ∧ i.committed = false ∧ i.previous = standing u base name rest
  sorted : ∀ name, (s name).Pairwise (· > ·)
  fresh : ∀ {name a}, a ∈ s name → u.heap.size ≤ a
  room : u.heap.size ≤ w.heap.size
  old : ∀ a < u.heap.size, w.HasHook base a → u.HasHook base a

namespace Stacked

variable {s : Stacks} {rest : List Address}

/-- A hook is on one attribute only. -/
theorem name_eq (stacked : Stacked base u s w) (mem : a ∈ s name) (there : w.heap[a]? = some (.interceptor i)) :
    i.name = name := by
  obtain ⟨before, rest, split⟩ := List.append_of_mem mem
  obtain ⟨j, found, -, named, -⟩ := stacked.hooks ⟨before, split.symm⟩
  rw [there] at found
  cases found
  exact named

theorem own_top (stacked : Stacked base u s w) (top : s name = a :: rest) : w.own base name = some (.ref a) := by
  rw [stacked.own, top]
  rfl

theorem bound (stacked : Stacked base u s w) (mem : a ∈ s name) : a < w.heap.size := by
  obtain ⟨before, rest, split⟩ := List.append_of_mem mem
  obtain ⟨j, found, -⟩ := stacked.hooks ⟨before, split.symm⟩
  exact (Array.getElem?_eq_some_iff.mp found).1

/-- Where no hook is on the stack of an attribute, the class has none of those that came later. -/
theorem own_ne (stacked : Stacked base u s w) (present : ∀ name b, u.own base name = some (.ref b) → b < u.heap.size)
    (later : u.heap.size ≤ a) (top : ∀ rest, s name ≠ a :: rest) : w.own base name ≠ some (.ref a) := by
  rw [stacked.own]
  cases has : s name with
  | nil => exact fun before => Nat.not_lt.mpr later (present name a before)
  | cons b rest =>
      rintro ⟨⟩
      exact top rest has

/-- A hook that stands on the class is the topmost one of its stack, if the class had none to begin with. -/
theorem top_of_own (stacked : Stacked base u s w) (free : ∀ name b, u.own base name = some (.ref b) → b < u.heap.size ∧
    ¬ u.HasHook base b) (has : w.HasHook base a) (own : w.own base name = some (.ref a)) : ∃ rest, s name = a :: rest := by
  rw [stacked.own] at own
  cases on : s name with
  | nil =>
      rw [on] at own
      obtain ⟨bound, none⟩ := free name a own
      exact absurd (stacked.old a bound has) none
  | cons b rest =>
      rw [on] at own
      cases own
      exact ⟨rest, rfl⟩

/-- The topmost hook goes off its stack, and the class gets what it covered. -/
theorem popped (stacked : Stacked base u s w) (top : s name = a :: rest) (room : w.heap.size ≤ w'.heap.size)
    (here : ∃ k, w'.heap[base]? = some (.class k))
    (own : ∀ n, w'.own base n = if n = name then standing u base name rest else w.own base n)
    (others : ∀ b, b ≠ a → ∀ i, w'.heap[b]? = some (.interceptor i) ↔ w.heap[b]? = some (.interceptor i)) :
    Stacked base u (fun n => if n = name then rest else s n) w' where
  here := here
  own n := by
    rw [own]
    split
    · next same => rw [same]
    · exact stacked.own n
  hooks {n b below} suffix := by
    have sub : b :: below <:+ s n ∧ b ≠ a := by
      split at suffix
      · next same =>
          subst same
          have sorted := stacked.sorted n
          rw [top] at sorted ⊢
          have less := List.rel_of_pairwise_cons sorted (suffix.subset List.mem_cons_self)
          exact ⟨suffix.trans (List.suffix_cons a rest), Nat.ne_of_lt less⟩
      · next other =>
          refine ⟨suffix, ?_⟩
          rintro rfl
          obtain ⟨i, found, -, named, -⟩ := stacked.hooks suffix
          obtain ⟨j, found', -, named', -⟩ := stacked.hooks (show b :: rest <:+ s name from ⟨[], top.symm⟩)
          rw [found] at found'
          cases found'
          exact other (named.symm.trans named')
    obtain ⟨i, found, rest⟩ := stacked.hooks sub.1
    exact ⟨i, (others b sub.2 i).mpr found, rest⟩
  sorted n := by
    split
    · have sorted := stacked.sorted name
      rw [top] at sorted
      exact sorted.of_cons
    · exact stacked.sorted n
  fresh {n b} mem := by
    split at mem
    · exact stacked.fresh (show b ∈ s name from top ▸ List.mem_cons_of_mem a mem)
    · exact stacked.fresh mem
  room := Nat.le_trans stacked.room room
  old b bound has := by
    obtain ⟨i, found, owner⟩ := has
    have other : b ≠ a := by
      rintro rfl
      exact Nat.not_lt.mpr (stacked.fresh (show b ∈ s name from top ▸ List.mem_cons_self)) bound
    exact stacked.old b bound ⟨i, (others b other i).mp found, owner⟩

/-- A new hook goes on top of the stack of its attribute. -/
theorem registered (stacked : Stacked base u s w) (there : w.heap[base]? = some (.class k)) (matcher : RuntimeMatcher)
    (commitment : Commitment) (registry : Nat) :
    Stacked base u (fun n => if n = name then w.heap.size :: s n else s n)
      (w.hooked base k ⟨base, name, matcher, commitment, registry, false, w.own base name⟩) where
  here := ⟨_, World.hooked_class there⟩
  own n := by
    rw [World.hooked_own there]
    split
    · rfl
    · exact stacked.own n
  hooks {n a below} suffix := by
    have kept (suffix : a :: below <:+ s n) : ∃ i, (w.hooked base k
        ⟨base, name, matcher, commitment, registry, false, w.own base name⟩).heap[a]? = some (.interceptor i) ∧
        i.owner = base ∧ i.name = n ∧ i.committed = false ∧ i.previous = standing u base n below := by
      obtain ⟨i, found, rest⟩ := stacked.hooks suffix
      have bound := (Array.getElem?_eq_some_iff.mp found).1
      refine ⟨i, ?_, rest⟩
      rw [World.hooked_other _ (Nat.ne_of_lt bound), found]
      rintro rfl
      rw [there] at found
      cases found
    split at suffix
    · next same =>
        subst same
        rcases List.suffix_cons_iff.mp suffix with whole | suffix
        · obtain ⟨rfl, rfl⟩ := List.cons.inj whole
          exact ⟨_, World.hooked_hook there, rfl, rfl, rfl, stacked.own n⟩
        · exact kept suffix
    · exact kept suffix
  sorted n := by
    split
    · refine List.pairwise_cons.mpr ⟨fun b mem => ?_, stacked.sorted n⟩
      exact stacked.bound mem
    · exact stacked.sorted n
  fresh {n b} mem := by
    split at mem
    · rcases List.mem_cons.mp mem with rfl | mem
      · exact stacked.room
      · exact stacked.fresh mem
    · exact stacked.fresh mem
  room := by
    rw [World.hooked_size]
    exact Nat.le_succ_of_le stacked.room
  old a bound has := by
    obtain ⟨i, found, owner⟩ := has
    refine stacked.old a bound ⟨i, ?_, owner⟩
    rw [← found, World.hooked_other _ (Nat.ne_of_lt (Nat.lt_of_lt_of_le bound stacked.room))]
    rintro rfl
    rw [World.hooked_class there] at found
    cases found

section

variable {R : World κ → World κ → Prop} [Moves R]

/-- The topmost hook of a stack goes off the class, whether or not it has been told to commit. -/
theorem takenOff (stacked : Stacked base u s w) (top : s i.name = a :: rest) (there : w.heap[a]? = some (.interceptor i))
    {c : Bool} (hook : v.heap[a]? = some (.interceptor { i with committed := c }))
    (others : ∀ b, b ≠ a → v.heap[b]? = w.heap[b]?) (size : v.heap.size = w.heap.size) :
    ∃ w', (removeHook a : Within R Unit).run v = .ok () w' ∧
      Stacked base u (fun n => if n = i.name then rest else s n) w' ∧ w'.heap.size = w.heap.size ∧
      ∀ b, b ≠ base → w'.heap[b]? = v.heap[b]? := by
  obtain ⟨j, found, rfl, -, -, covers⟩ := stacked.hooks (show a :: rest <:+ s i.name from ⟨[], top.symm⟩)
  cases there.symm.trans found
  obtain ⟨k, here, has⟩ := World.class_of_own (stacked.own_top top)
  have other : i.owner ≠ a := fun same => by
    rw [same, there] at here
    cases here
  have here' : v.heap[i.owner]? = some (.class k) := (others _ other).trans here
  have placed := World.replaced_at (o := .class { k with attrs := i.restored k.attrs }) here'
  have beside (b : Nat) (apart : b ≠ i.owner) := World.replaced_other (w := v)
    (o := .class { k with attrs := i.restored k.attrs }) (Ne.symm apart)
  have sized : (v.replaced i.owner (.class { k with attrs := i.restored k.attrs })).heap.size = w.heap.size :=
    Array.size_setIfInBounds.trans size
  refine ⟨_, removeHook_on hook here' has, ?_, sized, beside⟩
  refine stacked.popped top (Nat.le_of_eq sized.symm) ⟨_, placed⟩ (fun n => ?_) fun b apart j => ?_
  · refine (World.own_class placed n).trans ?_
    split
    · next same => rw [same, i.restored_here, covers]
    · next different => rw [i.restored_other _ different, World.own_class here]
  · by_cases same : b = i.owner
    · subst same
      exact ⟨fun found => (nomatch placed.symm.trans found), fun found => (nomatch here.symm.trans found)⟩
    · rw [← others b apart]
      exact iff_of_eq (congrArg (· = _) (beside b same))

/-- Taking a hook off takes it from the stack of its attribute if it is the topmost one there, and else changes nothing. -/
theorem removed (stacked : Stacked base u s w) (present : ∀ name b, u.own base name = some (.ref b) → b < u.heap.size)
    (hook : w.HasHook base a) (later : u.heap.size ≤ a) : ∃ w', (removeHook a : Within R Unit).run w = .ok () w' ∧
      Stacked base u (fun n => untopped [a] (s n)) w' ∧ w'.heap.size = w.heap.size ∧
      ∀ b, b ≠ base → w'.heap[b]? = w.heap[b]? := by
  obtain ⟨i, there, rfl⟩ := hook
  have elsewhere {n rest} (has : s n = a :: rest) : i.name = n :=
    stacked.name_eq (has ▸ List.mem_cons_self) there
  by_cases top : ∃ rest, s i.name = a :: rest
  · obtain ⟨rest, top⟩ := top
    have same : (fun n => untopped [a] (s n)) = fun n => if n = i.name then rest else s n := by
      funext n
      split
      · next same => rw [same, top, untopped, if_pos (List.mem_singleton_self a)]
      · next other =>
          refine untopped_same fun b rest has mem => other ?_
          cases List.mem_singleton.mp mem
          exact (elsewhere has).symm
    rw [same]
    exact stacked.takenOff top there there (fun _ _ => rfl) rfl
  · have same : (fun n => untopped [a] (s n)) = s := by
      refine funext fun n => untopped_same fun b rest has mem => top ⟨rest, ?_⟩
      cases List.mem_singleton.mp mem
      rwa [elsewhere has]
    refine ⟨w, removeHook_off there ?_, by rwa [same], rfl, fun _ _ => rfl⟩
    exact stacked.own_ne present later fun rest has => top ⟨rest, has⟩

/-- Taking some hooks off in the order in which they came takes the topmost hook of each stack, if it is one of them. -/
theorem uninstalled (present : ∀ name b, u.own base name = some (.ref b) → b < u.heap.size) {hooks : List Address}
    (stacked : Stacked base u s w) (sorted : hooks.Pairwise (· < ·))
    (mine : ∀ a ∈ hooks, w.HasHook base a ∧ u.heap.size ≤ a) : ∃ w',
      (hooks.forM removeHook : Within R Unit).run w = .ok () w' ∧
      Stacked base u (fun n => untopped hooks (s n)) w' ∧ w'.heap.size = w.heap.size ∧
      ∀ b, b ≠ base → w'.heap[b]? = w.heap[b]? := by
  induction hooks generalizing w s with
  | nil =>
      refine ⟨w, rfl, ?_, rfl, fun _ _ => rfl⟩
      simpa only [untopped_same fun _ _ _ => List.not_mem_nil] using stacked
  | cons a hooks ih =>
      obtain ⟨has, later⟩ := mine a List.mem_cons_self
      obtain ⟨v, ran, stacked', size, same⟩ := stacked.removed (R := R) present has later
      obtain ⟨first, rest⟩ := List.pairwise_cons.mp sorted
      obtain ⟨w', ran', stacked'', size', same'⟩ := ih stacked' rest fun b mem =>
        (mine b (List.mem_cons_of_mem a mem)).imp_left fun has => has.beside stacked.here (same b)
      refine ⟨w', ?_, ?_, size'.trans size, fun b other => (same' b other).trans (same b other)⟩
      · change (removeHook a >>= fun _ => hooks.forM removeHook : Within R Unit).run w = _
        rw [Within.run_bind, bind_of_ok ran]
        exact ran'
      · simpa only [untopped_cons (stacked.sorted _) first] using stacked''

end

/-- A hook that commits goes off its stack. -/
theorem committed (call : Caller κ) (stacked : Stacked base u s w) (top : s i.name = a :: rest)
    (there : w.heap[a]? = some (.interceptor i)) :
    Stacked base u (fun n => if n = i.name then rest else s n) (w.released call a i) ∧
      (w.released call a i).heap.size = w.heap.size ∧
      (w.released call a i).heap[a]? = some (.interceptor { i with committed := true }) ∧
      ∀ b, b ≠ base → b ≠ a → (w.released call a i).heap[b]? = w.heap[b]? := by
  have marked : (w.marked a i).heap[a]? = some (.interceptor { i with committed := true }) := World.replaced_at there
  have others (b : Nat) (other : b ≠ a) : (w.marked a i).heap[b]? = w.heap[b]? := World.replaced_other (Ne.symm other)
  obtain ⟨k, here⟩ := stacked.here
  have other : a ≠ base := by
    rintro rfl
    cases there.symm.trans here
  obtain ⟨w', ran, after, size, beside⟩ :=
    stacked.takenOff (R := Acts call) top there marked others Array.size_setIfInBounds
  rw [World.released, after_ok ran]
  exact ⟨after, size, (beside a other).trans marked, fun b apart old => (beside b apart).trans (others b old)⟩

end Stacked

/-! ## Courses of events -/

/-- Whatever leaves the hooks on a class alone. -/
structure HooksAside (base : Address) (w w' : World κ) : Prop where
  room : w.heap.size ≤ w'.heap.size
  here : (∃ k, w.heap[base]? = some (.class k)) → ∃ k, w'.heap[base]? = some (.class k)
  own : ∀ name, w'.own base name = w.own base name
  hooks : ∀ a < w.heap.size, ∀ i, i.owner = base →
    (w'.heap[a]? = some (.interceptor i) ↔ w.heap[a]? = some (.interceptor i))

/-- A world with the sets of hooks that there are for a class. -/
structure HookState (κ : Type) where
  world : World κ
  sets : List HookSet

/-- A set has a hook that it will take off. -/
def HookState.Owns (t : HookState κ) (j : Nat) (a : Address) : Prop :=
  ∃ set, t.sets[j]? = some set ∧ a ∈ set.hooks

/-- What can happen to the hooks on a class, one event after the other. A hook commits while it waits on the class, at an
assignment that passes its checks (`HookCourse.assign`). -/
inductive HookCourse (base : Address) (s : HookState κ) : List HookEvent → HookState κ → Prop where
  | start : HookCourse base s [] s
  | aside {es : List HookEvent} {t : HookState κ} {w : World κ} : HookCourse base s es t → HooksAside base t.world w →
      HookCourse base s es ⟨w, t.sets⟩
  | register {es : List HookEvent} {t : HookState κ} {j : Nat} {set set' : HookSet} {name : String} {commitment : Commitment}
      {a : Address} {w : World κ} : HookCourse base s es t → t.sets[j]? = some set →
      (set.register name commitment : Within Beside HookSet).run t.world = .ok set' w → set'.hooks = set.hooks ++ [a] →
      HookCourse base s (es ++ [.registered j name a]) ⟨w, t.sets.set j set'⟩
  | commit {es : List HookEvent} {t : HookState κ} {a : Address} {i : Interceptor} (call : Caller κ) :
      HookCourse base s es t → t.world.heap[a]? = some (.interceptor i) → i.owner = base → i.committed = false →
      t.world.own base i.name = some (.ref a) →
      HookCourse base s (es ++ [.committed i.name a]) ⟨t.world.released call a i, t.sets⟩
  | uninstall {es : List HookEvent} {t : HookState κ} {j : Nat} {set set' : HookSet} {w : World κ} :
      HookCourse base s es t → t.sets[j]? = some set → (set.uninstall : Within Beside HookSet).run t.world = .ok set' w →
      HookCourse base s (es ++ [.uninstalled j set.hooks]) ⟨w, t.sets.set j set'⟩

/-- A hook belongs to a set that has been taken off. -/
def Uninstalled (es : List HookEvent) (a : Address) : Prop :=
  ∃ j hooks, .uninstalled j hooks ∈ es ∧ a ∈ hooks

/-- A hook waited below a later one when its set was taken off. -/
def LeftBehind (es : List HookEvent) (a : Address) : Prop :=
  ∃ before j hooks after, es = before ++ .uninstalled j hooks :: after ∧ a ∈ hooks ∧
    ∃ name, a ∈ (stacksAfter before name).tail

/-- A hook has committed. -/
def HasCommitted (es : List HookEvent) (a : Address) : Prop :=
  ∃ name, .committed name a ∈ es

/-- A hook has committed after its set was taken off. -/
def CommittedLate (es : List HookEvent) (a : Address) : Prop :=
  ∃ before j hooks after, es = before ++ .uninstalled j hooks :: after ∧ a ∈ hooks ∧ HasCommitted after a

/-! What one more event adds to what has happened. -/

section

variable {es : List HookEvent} {e : HookEvent}

theorem append_singleton_split {α : Type} {xs before after : List α} {x y : α} :
    xs ++ [x] = before ++ y :: after ↔
      xs = before ∧ x = y ∧ after = [] ∨ ∃ rest, after = rest ++ [x] ∧ xs = before ++ y :: rest := by
  constructor
  · intro same
    rcases after.eq_nil_or_concat with rfl | ⟨rest, z, rfl⟩
    · obtain ⟨front, last⟩ := List.append_inj' same rfl
      exact .inl ⟨front, List.singleton_inj.mp last, rfl⟩
    · rw [List.concat_eq_append, ← List.cons_append, ← List.append_assoc] at same
      obtain ⟨front, last⟩ := List.append_inj' same rfl
      exact .inr ⟨rest, by rw [List.concat_eq_append, List.singleton_inj.mp last], front⟩
  · rintro (⟨rfl, rfl, rfl⟩ | ⟨rest, rfl, rfl⟩)
    · rfl
    · rw [List.append_assoc, List.cons_append]

theorem leftBehind_snoc : LeftBehind (es ++ [e]) a ↔ LeftBehind es a ∨
    ∃ j hooks, e = .uninstalled j hooks ∧ a ∈ hooks ∧ ∃ name, a ∈ (stacksAfter es name).tail := by
  constructor
  · rintro ⟨before, j, hooks, after, split, rest⟩
    rcases append_singleton_split.mp split with ⟨rfl, rfl, -⟩ | ⟨after', -, rfl⟩
    · exact .inr ⟨j, hooks, rfl, rest⟩
    · exact .inl ⟨before, j, hooks, after', rfl, rest⟩
  · rintro (⟨before, j, hooks, after, rfl, rest⟩ | ⟨j, hooks, rfl, rest⟩)
    · exact ⟨before, j, hooks, after ++ [e], by rw [List.append_assoc, List.cons_append], rest⟩
    · exact ⟨es, j, hooks, [], rfl, rest⟩

theorem hasCommitted_snoc : HasCommitted (es ++ [e]) a ↔ HasCommitted es a ∨ ∃ name, e = .committed name a := by
  simp only [HasCommitted, List.mem_append, List.mem_singleton, exists_or, eq_comm]

theorem uninstalled_snoc : Uninstalled (es ++ [e]) a ↔
    Uninstalled es a ∨ ∃ j hooks, e = .uninstalled j hooks ∧ a ∈ hooks := by
  simp only [Uninstalled, List.mem_append, List.mem_singleton, or_and_right, exists_or, eq_comm]

theorem committedLate_snoc : CommittedLate (es ++ [e]) a ↔ CommittedLate es a ∨
    Uninstalled es a ∧ ∃ name, e = .committed name a := by
  constructor
  · rintro ⟨before, j, hooks, after, split, mem, committed⟩
    rcases append_singleton_split.mp split with ⟨-, -, rfl⟩ | ⟨after', rfl, rfl⟩
    · obtain ⟨name, mem'⟩ := committed
      cases mem'
    · refine (hasCommitted_snoc.mp committed).imp ?_ fun now => ?_
      · exact fun earlier => ⟨before, j, hooks, after', rfl, mem, earlier⟩
      · exact ⟨⟨j, hooks, List.mem_append_right _ List.mem_cons_self, mem⟩, now⟩
  · rintro (⟨before, j, hooks, after, rfl, mem, committed⟩ | ⟨⟨j, hooks, event, mem⟩, now⟩)
    · exact ⟨before, j, hooks, after ++ [e], by rw [List.append_assoc, List.cons_append], mem,
        hasCommitted_snoc.mpr (.inl committed)⟩
    · obtain ⟨before, after, rfl⟩ := List.append_of_mem event
      exact ⟨before, j, hooks, after ++ [e], by rw [List.append_assoc, List.cons_append], mem,
        hasCommitted_snoc.mpr (.inr now)⟩

theorem LeftBehind.uninstalled (left : LeftBehind es a) : Uninstalled es a := by
  obtain ⟨before, j, hooks, after, rfl, mem, -⟩ := left
  exact ⟨j, hooks, List.mem_append_right _ List.mem_cons_self, mem⟩

end

/-! ## What becomes of hooks

`owns` tells which set has which hook to take off, and `size` bounds the places of all hooks so far. -/

/-- A hook that is on a stack belongs to a set that will take it off, or was left behind; and one that was left behind stays on its
stack until it commits. -/
structure Ledger (es : List HookEvent) (owns : Nat → Address → Prop) (size : Nat) : Prop where
  bound : ∀ {j a}, owns j a → a < size
  apart : ∀ {j j' a}, owns j a → owns j' a → j = j'
  kept : ∀ {name a}, a ∈ stacksAfter es name → (∃ j, owns j a) ∨ LeftBehind es a
  off : ∀ {a}, Uninstalled es a → a < size ∧ ∀ j, ¬ owns j a
  left : ∀ {a}, LeftBehind es a → (∃ name, a ∈ stacksAfter es name) ∨ HasCommitted es a
  done : ∀ {a}, HasCommitted es a → a < size ∧ ∀ name, a ∉ stacksAfter es name
  late : ∀ a, CommittedLate es a ↔ LeftBehind es a ∧ HasCommitted es a

namespace Ledger

variable {es : List HookEvent} {owns owns' : Nat → Address → Prop} {size size' : Nat} {j : Nat} {hooks rest : List Address}

theorem grown (ledger : Ledger es owns size) (room : size ≤ size') : Ledger es owns size' where
  bound has := Nat.lt_of_lt_of_le (ledger.bound has) room
  apart := ledger.apart
  kept := ledger.kept
  off ended := (ledger.off ended).imp_left fun less => Nat.lt_of_lt_of_le less room
  left := ledger.left
  done ended := (ledger.done ended).imp_left fun less => Nat.lt_of_lt_of_le less room
  late := ledger.late

/-- A set gets a new hook. -/
theorem registered (ledger : Ledger es owns size) (adds : ∀ j' b, owns' j' b ↔ owns j' b ∨ j' = j ∧ b = size) :
    Ledger (es ++ [.registered j name size]) owns' (size + 1) := by
  have stack {n b} : b ∈ stacksAfter (es ++ [.registered j name size]) n ↔
      b ∈ stacksAfter es n ∨ n = name ∧ b = size := by
    rw [stacksAfter_snoc]
    simp only [HookEvent.on]
    split
    · next same => simp only [List.mem_cons, same, true_and, or_comm]
    · next other => simp only [other, false_and, or_false]
  have left {b} : LeftBehind (es ++ [.registered j name size]) b ↔ LeftBehind es b := by simp [leftBehind_snoc]
  have committed {b} : HasCommitted (es ++ [.registered j name size]) b ↔ HasCommitted es b := by simp [hasCommitted_snoc]
  have ended {b} : Uninstalled (es ++ [.registered j name size]) b ↔ Uninstalled es b := by simp [uninstalled_snoc]
  have late {b} : CommittedLate (es ++ [.registered j name size]) b ↔ CommittedLate es b := by simp [committedLate_snoc]
  constructor <;> simp only [adds, stack, left, committed, ended, late]
  · rintro j' b (old | ⟨-, rfl⟩)
    · exact Nat.lt_succ_of_lt (ledger.bound old)
    · exact Nat.lt_succ_self _
  · rintro j' j'' b (old | ⟨rfl, rfl⟩) (old' | ⟨rfl, same⟩)
    · exact ledger.apart old old'
    · exact absurd same (Nat.ne_of_lt (ledger.bound old))
    · exact absurd rfl (Nat.ne_of_lt (ledger.bound old'))
    · rfl
  · rintro n b (old | ⟨-, rfl⟩)
    · exact (ledger.kept old).imp_left fun ⟨j', has⟩ => ⟨j', .inl has⟩
    · exact .inl ⟨j, .inr ⟨rfl, rfl⟩⟩
  · intro b ended
    obtain ⟨less, none⟩ := ledger.off ended
    refine ⟨Nat.lt_succ_of_lt less, fun j' => ?_⟩
    rintro (old | ⟨-, rfl⟩)
    · exact none j' old
    · exact Nat.lt_irrefl _ less
  · exact fun behind => (ledger.left behind).imp_left fun ⟨n, mem⟩ => ⟨n, .inl mem⟩
  · intro b committed
    obtain ⟨less, none⟩ := ledger.done committed
    refine ⟨Nat.lt_succ_of_lt less, fun n => ?_⟩
    rintro (old | ⟨-, rfl⟩)
    · exact none n old
    · exact Nat.lt_irrefl _ less
  · exact ledger.late

/-- The topmost hook of a stack commits. -/
theorem committed (ledger : Ledger es owns size) (top : stacksAfter es name = a :: rest) (less : a < size) (once : a ∉ rest)
    (only : ∀ n, a ∈ stacksAfter es n → n = name) : Ledger (es ++ [.committed name a]) owns size := by
  have stack {n b} : b ∈ stacksAfter (es ++ [.committed name a]) n ↔ b ∈ stacksAfter es n ∧ b ≠ a := by
    rw [stacksAfter_snoc]
    simp only [HookEvent.on]
    split
    · next same =>
        rw [same, top, List.tail_cons, List.mem_cons]
        constructor
        · intro mem
          refine ⟨.inr mem, ?_⟩
          rintro rfl
          exact once mem
        · exact fun ⟨mem, other⟩ => mem.resolve_left other
    · next other =>
        refine ⟨fun mem => ⟨mem, ?_⟩, And.left⟩
        rintro rfl
        exact other (only n mem)
  have left {b} : LeftBehind (es ++ [.committed name a]) b ↔ LeftBehind es b := by simp [leftBehind_snoc]
  have committed {b} : HasCommitted (es ++ [.committed name a]) b ↔ HasCommitted es b ∨ b = a := by
    simp [hasCommitted_snoc, eq_comm]
  have ended {b} : Uninstalled (es ++ [.committed name a]) b ↔ Uninstalled es b := by simp [uninstalled_snoc]
  have late {b} : CommittedLate (es ++ [.committed name a]) b ↔ CommittedLate es b ∨ Uninstalled es b ∧ b = a := by
    simp [committedLate_snoc, eq_comm]
  have mine : a ∈ stacksAfter es name := top ▸ List.mem_cons_self
  refine ⟨ledger.bound, ledger.apart, ?_, ?_, ?_, ?_, ?_⟩ <;> simp only [stack, left, committed, ended, late]
  · exact fun mem => ledger.kept mem.1
  · exact ledger.off
  · intro b behind
    by_cases same : b = a
    · exact .inr (.inr same)
    · exact (ledger.left behind).imp (fun ⟨n, mem⟩ => ⟨n, mem, same⟩) .inl
  · rintro b (before | rfl)
    · exact (ledger.done before).imp_right fun none n mem => none n mem.1
    · exact ⟨less, fun n mem => mem.2 rfl⟩
  · intro b
    rw [ledger.late, and_or_left]
    refine or_congr_right (and_congr_left ?_)
    rintro rfl
    refine ⟨fun ended => (ledger.kept mine).resolve_left ?_, LeftBehind.uninstalled⟩
    exact fun ⟨j, has⟩ => (ledger.off ended).2 j has

/-- A set is taken off. -/
theorem uninstalled (ledger : Ledger es owns size) (mine : ∀ b, b ∈ hooks ↔ owns j b)
    (clears : ∀ j' b, owns' j' b ↔ owns j' b ∧ j' ≠ j) : Ledger (es ++ [.uninstalled j hooks]) owns' size := by
  have stack {n b} : b ∈ stacksAfter (es ++ [.uninstalled j hooks]) n ↔
      b ∈ stacksAfter es n ∧ (b ∈ hooks → b ∈ (stacksAfter es n).tail) := by
    rw [stacksAfter_snoc]
    exact mem_untopped
  have left {b} : LeftBehind (es ++ [.uninstalled j hooks]) b ↔
      LeftBehind es b ∨ b ∈ hooks ∧ ∃ n, b ∈ (stacksAfter es n).tail := by
    rw [leftBehind_snoc]
    refine or_congr_right ⟨?_, fun now => ⟨j, hooks, rfl, now⟩⟩
    rintro ⟨_, _, ⟨⟩, now⟩
    exact now
  have committed {b} : HasCommitted (es ++ [.uninstalled j hooks]) b ↔ HasCommitted es b := by simp [hasCommitted_snoc]
  have ended {b} : Uninstalled (es ++ [.uninstalled j hooks]) b ↔ Uninstalled es b ∨ b ∈ hooks := by
    rw [uninstalled_snoc]
    refine or_congr_right ⟨?_, fun now => ⟨j, hooks, rfl, now⟩⟩
    rintro ⟨_, _, ⟨⟩, now⟩
    exact now
  have late {b} : CommittedLate (es ++ [.uninstalled j hooks]) b ↔ CommittedLate es b := by simp [committedLate_snoc]
  constructor <;> simp only [clears, stack, left, committed, ended, late]
  · exact fun has => ledger.bound has.1
  · exact fun has has' => ledger.apart has.1 has'.1
  · intro n b ⟨mem, below⟩
    by_cases own : b ∈ hooks
    · exact .inr (.inr ⟨own, n, below own⟩)
    · refine (ledger.kept mem).imp (fun ⟨j', has⟩ => ⟨j', has, ?_⟩) .inl
      rintro rfl
      exact own ((mine b).mpr has)
  · rintro b (before | own)
    · exact (ledger.off before).imp_right fun none j' has => none j' has.1
    · have has := (mine b).mp own
      exact ⟨ledger.bound has, fun j' has' => has'.2 (ledger.apart has'.1 has)⟩
  · rintro b (before | ⟨own, n, below⟩)
    · refine (ledger.left before).imp_left fun ⟨n, mem⟩ => ⟨n, mem, fun own => ?_⟩
      exact absurd ((mine b).mp own) ((ledger.off before.uninstalled).2 j)
    · exact .inl ⟨n, List.mem_of_mem_tail below, fun _ => below⟩
  · exact fun before => (ledger.done before).imp_right fun none n mem => none n mem.1
  · intro b
    rw [ledger.late, or_and_right, or_iff_left_iff_imp.mpr]
    rintro ⟨⟨-, n, below⟩, before⟩
    exact absurd (List.mem_of_mem_tail below) ((ledger.done before).2 n)

end Ledger

/-! ## What is true after every event -/

/-- What is true of the hooks on a class after some events. -/
structure HooksTracked (base : Address) (u : World κ) (es : List HookEvent) (t : HookState κ) : Prop where
  stacked : Stacked base u (stacksAfter es) t.world
  sets : ∀ {j : Nat} {set : HookSet}, t.sets[j]? = some set → set.base = base ∧ set.hooks.Pairwise (· < ·)
  mine : ∀ {j a}, t.Owns j a → t.world.HasHook base a ∧ u.heap.size ≤ a
  ledger : Ledger es t.Owns t.world.heap.size

theorem HookState.owns_set {t : HookState κ} {j j' : Nat} (there : t.sets[j]? = some set) :
    (⟨w, t.sets.set j set'⟩ : HookState κ).Owns j' a ↔ if j' = j then a ∈ set'.hooks else t.Owns j' a := by
  by_cases same : j' = j
  · subst same
    rw [if_pos rfl, Owns, List.getElem?_set_self (List.getElem?_eq_some_iff.mp there).1]
    simp
  · rw [if_neg same, Owns, List.getElem?_set_ne (Ne.symm same), Owns]

theorem HookState.owns_iff {t : HookState κ} {j : Nat} (there : t.sets[j]? = some set) : t.Owns j a ↔ a ∈ set.hooks := by
  rw [Owns, there]
  simp

theorem HookState.sets_set {sets : List HookSet} {j j' : Nat} {set'' : HookSet} (there : (sets.set j set')[j']? = some set'') :
    j' = j ∧ set'' = set' ∨ sets[j']? = some set'' := by
  by_cases same : j = j'
  · subst same
    obtain ⟨bound, found⟩ := List.getElem?_eq_some_iff.mp there
    rw [List.getElem_set_self] at found
    exact .inl ⟨rfl, found.symm⟩
  · rw [List.getElem?_set_ne same] at there
    exact .inr there

theorem HooksAside.hasHook (aside : HooksAside base w w') (has : w.HasHook base a) : w'.HasHook base a := by
  obtain ⟨i, there, owner⟩ := has
  exact ⟨i, (aside.hooks a (Array.getElem?_eq_some_iff.mp there).1 i owner).mpr there, owner⟩

theorem Stacked.aside {s : Stacks} (stacked : Stacked base u s w) (aside : HooksAside base w w') : Stacked base u s w' where
  here := aside.here stacked.here
  own n := (aside.own n).trans (stacked.own n)
  hooks suffix := by
    obtain ⟨i, there, owner, rest⟩ := stacked.hooks suffix
    exact ⟨i, (aside.hooks _ (Array.getElem?_eq_some_iff.mp there).1 i owner).mpr there, owner, rest⟩
  sorted := stacked.sorted
  fresh := stacked.fresh
  room := Nat.le_trans stacked.room aside.room
  old a bound has := by
    obtain ⟨i, there, owner⟩ := has
    exact stacked.old a bound ⟨i, (aside.hooks a (Nat.lt_of_lt_of_le bound stacked.room) i owner).mp there, owner⟩

namespace HooksTracked

variable {es : List HookEvent} {t : HookState κ} {j : Nat}

theorem aside (tracked : HooksTracked base u es t) (aside : HooksAside base t.world w) :
    HooksTracked base u es ⟨w, t.sets⟩ where
  stacked := tracked.stacked.aside aside
  sets := tracked.sets
  mine owns := (tracked.mine owns).imp_left aside.hasHook
  ledger := tracked.ledger.grown aside.room

theorem register (tracked : HooksTracked base u es t) (there : t.sets[j]? = some set) {commitment : Commitment}
    (ran : (set.register name commitment : Within Beside HookSet).run t.world = .ok set' w)
    (adds : set'.hooks = set.hooks ++ [a]) :
    HooksTracked base u (es ++ [.registered j name a]) ⟨w, t.sets.set j set'⟩ := by
  obtain ⟨rfl, sorted⟩ := tracked.sets there
  obtain ⟨k, here⟩ := tracked.stacked.here
  rw [HookSet.register_run here] at ran
  cases ran
  cases List.append_cancel_left adds
  have owns (j' : Nat) (b : Address) : (⟨t.world.hooked set.base k ⟨set.base, name, set.matcher, commitment, set.registry,
      false, t.world.own set.base name⟩, t.sets.set j { set with hooks := set.hooks ++ [t.world.heap.size] }⟩ :
        HookState κ).Owns j' b ↔ t.Owns j' b ∨ j' = j ∧ b = t.world.heap.size := by
    rw [HookState.owns_set there]
    split
    · next same =>
        subst same
        rw [HookState.owns_iff there, List.mem_append, List.mem_singleton]
        simp only [true_and]
    · next other => simp only [other, false_and, or_false]
  refine ⟨?_, fun found => ?_, fun has => ?_, ?_⟩
  · rw [stacksAfter_snoc]
    exact tracked.stacked.registered here _ _ _
  · rcases HookState.sets_set found with ⟨-, rfl⟩ | old
    · refine ⟨rfl, List.pairwise_append.mpr ⟨sorted, List.pairwise_singleton _ _, fun b mem c last => ?_⟩⟩
      rw [List.mem_singleton.mp last]
      exact tracked.ledger.bound ((HookState.owns_iff there).mpr mem)
    · exact tracked.sets old
  · rcases (owns _ _).mp has with old | ⟨-, rfl⟩
    · refine (tracked.mine old).imp_left fun has => has.beside ⟨k, here⟩ fun other => ?_
      exact World.hooked_other other (Nat.ne_of_lt has.bound)
    · exact ⟨⟨_, World.hooked_hook here, rfl⟩, tracked.stacked.room⟩
  · rw [World.hooked_size]
    exact tracked.ledger.registered owns

theorem commit {call : Caller κ} (tracked : HooksTracked base u es t)
    (free : ∀ name b, u.own base name = some (.ref b) → b < u.heap.size ∧ ¬ u.HasHook base b)
    (there : t.world.heap[a]? = some (.interceptor i)) (owner : i.owner = base)
    (own : t.world.own base i.name = some (.ref a)) :
    HooksTracked base u (es ++ [.committed i.name a]) ⟨t.world.released call a i, t.sets⟩ := by
  obtain ⟨rest, top⟩ := tracked.stacked.top_of_own free ⟨i, there, owner⟩ own
  obtain ⟨stacked, size, marked, others⟩ := tracked.stacked.committed call top there
  refine ⟨?_, tracked.sets, fun {j b} has => ?_, ?_⟩
  · have same : stacksAfter (es ++ [.committed i.name a]) = fun n => if n = i.name then rest else stacksAfter es n := by
      rw [stacksAfter_snoc]
      funext n
      simp only [HookEvent.on]
      split
      · next same => rw [same, top, List.tail_cons]
      · rfl
    rw [same]
    exact stacked
  · obtain ⟨⟨j, found, owned⟩, fresh⟩ := tracked.mine has
    refine ⟨?_, fresh⟩
    by_cases same : b = a
    · subst same
      exact ⟨{ i with committed := true }, marked, owner⟩
    · refine World.HasHook.beside ⟨j, found, owned⟩ tracked.stacked.here fun other => others b other same
  · have sorted := tracked.stacked.sorted i.name
    rw [top] at sorted
    rw [size]
    refine tracked.ledger.committed top (Array.getElem?_eq_some_iff.mp there).1 (fun mem => ?_) fun n mem => ?_
    · exact Nat.lt_irrefl a (List.rel_of_pairwise_cons sorted mem)
    · exact (tracked.stacked.name_eq mem there).symm

theorem uninstall (tracked : HooksTracked base u es t)
    (present : ∀ name b, u.own base name = some (.ref b) → b < u.heap.size) (there : t.sets[j]? = some set)
    (ran : (set.uninstall : Within Beside HookSet).run t.world = .ok set' w) :
    HooksTracked base u (es ++ [.uninstalled j set.hooks]) ⟨w, t.sets.set j set'⟩ := by
  obtain ⟨owner, sorted⟩ := tracked.sets there
  obtain ⟨w', off, stacked, size, same⟩ := tracked.stacked.uninstalled (R := Beside) present sorted fun a mem =>
    tracked.mine ((HookState.owns_iff there).mpr mem)
  rw [HookSet.uninstall, Within.run_bind, bind_of_ok off] at ran
  cases ran
  have owns (j' : Nat) (b : Address) : (⟨w, t.sets.set j { set with hooks := [] }⟩ : HookState κ).Owns j' b ↔
      t.Owns j' b ∧ j' ≠ j := by
    rw [HookState.owns_set there]
    split
    · next same => simp [same]
    · next other => simp [other]
  refine ⟨?_, fun found => ?_, fun has => ?_, ?_⟩
  · rw [stacksAfter_snoc]
    exact stacked
  · rcases HookState.sets_set found with ⟨-, rfl⟩ | old
    · exact ⟨owner, .nil⟩
    · exact tracked.sets old
  · exact (tracked.mine ((owns _ _).mp has).1).imp_left fun has => has.beside tracked.stacked.here (same _)
  · rw [size]
    exact tracked.ledger.uninstalled (fun b => (HookState.owns_iff there).symm) owns

end HooksTracked

/-- A class on which no hook is. -/
structure Unhooked (base : Address) (w : World κ) : Prop where
  here : ∃ k, w.heap[base]? = some (.class k)
  free : ∀ name b, w.own base name = some (.ref b) → b < w.heap.size ∧ ¬ w.HasHook base b

theorem HookCourse.tracked {s t : HookState κ} {es : List HookEvent} (course : HookCourse base s es t)
    (unhooked : Unhooked base s.world) (empty : ∀ set ∈ s.sets, set.base = base ∧ set.hooks = []) :
    HooksTracked base s.world es t := by
  induction course with
  | start =>
      have none (j : Nat) (a : Address) : ¬ s.Owns j a := by
        rintro ⟨set, there, mem⟩
        rw [(empty set (List.mem_of_getElem? there)).2] at mem
        cases mem
      refine ⟨⟨unhooked.here, fun _ => rfl, fun suffix => ?_, fun _ => .nil, nofun, Nat.le_refl _, fun _ _ has => has⟩,
        fun there => ?_, fun has => absurd has (none _ _), ?_⟩
      · cases List.suffix_nil.mp suffix
      · obtain ⟨owner, hooks⟩ := empty _ (List.mem_of_getElem? there)
        exact ⟨owner, hooks ▸ .nil⟩
      · refine ⟨fun has => absurd has (none _ _), fun has => absurd has (none _ _), nofun, ?_, ?_, ?_, fun a => ?_⟩
        · rintro a ⟨_, _, ⟨⟩, -⟩
        · rintro a ⟨before, _, _, _, split, -⟩
          simp at split
        · rintro a ⟨_, ⟨⟩⟩
        · exact ⟨fun ⟨before, _, _, _, split, _⟩ => by simp at split, fun ⟨_, _, none⟩ => nomatch none⟩
  | aside _ aside ih => exact ih.aside aside
  | register _ there ran adds ih => exact ih.register there ran adds
  | commit _ _ there owner _ own ih => exact ih.commit unhooked.free there owner own
  | uninstall _ there ran ih => exact ih.uninstall (fun name b has => (unhooked.free name b has).1) there ran

/-- Whatever has happened, a set can be taken off. -/
theorem HookCourse.uninstalls {s t : HookState κ} {es : List HookEvent} {j : Nat} (course : HookCourse base s es t)
    (unhooked : Unhooked base s.world) (empty : ∀ set ∈ s.sets, set.base = base ∧ set.hooks = [])
    (there : t.sets[j]? = some set) :
    ∃ w, (set.uninstall : Within Beside HookSet).run t.world = .ok { set with hooks := [] } w := by
  have tracked := course.tracked unhooked empty
  obtain ⟨w, off, -⟩ := tracked.stacked.uninstalled (R := Beside) (fun name b has => (unhooked.free name b has).1)
    (tracked.sets there).2 fun a mem => tracked.mine ((HookState.owns_iff there).mpr mem)
  rw [HookSet.uninstall, Within.run_bind, bind_of_ok off]
  exact ⟨w, rfl⟩

theorem HooksAside.of_sameClasses (same : w.heap.SameClasses w'.heap) : HooksAside base w w' where
  room := by
    have sizes := congrArg Array.size same.essence
    simp only [Heap.essence, Array.size_map] at sizes
    exact Nat.le_of_eq sizes.symm
  here := fun ⟨k, there⟩ => ⟨k, (same.classes base k).mpr there⟩
  own := same.own base
  hooks a _ i _ := Heap.interceptor_alike same.essence a i

/-- An assignment that commits a hook is such an event, with what leaves the hooks alone before and after. -/
theorem HookCourse.assign {x : Assignment κ} {s : HookState κ} {es : List HookEvent} {sets : List HookSet} {made : Value}
    {cls : Address} {attrs : Attributes} {core : Option Value} (course : HookCourse base s es ⟨x.world, sets⟩)
    (reached : x.hook? = some (a, i)) (waits : i.committed = false) (owner : i.owner = base)
    (own : x.world.own base i.name = some (.ref a)) (checks : x.check outside x.world = .ok true v)
    (checked : HooksAside base x.world v)
    (makes : (onCommit (x.caller outside) i (.ref x.runtime) x.value).run (v.released (x.caller outside) a i) = .ok made w)
    (making : HooksAside base (v.released (x.caller outside) a i) w)
    (object : w.heap[x.runtime]? = some (.instance cls attrs core)) :
    ∃ z, x.run outside x.world = .ok () z ∧ HookCourse base s (es ++ [.committed i.name a]) ⟨z, sets⟩ := by
  have found := (Assignment.hook?_eq_some reached).1
  have found' := (checked.hooks a (Array.getElem?_eq_some_iff.mp found).1 i owner).mpr found
  have taken := (course.aside checked).commit (x.caller outside) found' owner waits ((checked.own _).trans own)
  refine ⟨_, ?_, (taken.aside making).aside (.of_sameClasses (.replaced object (attrs.set i.name made)))⟩
  rw [Assignment.run_waiting reached waits, bind_of_ok checks, if_pos rfl, takeOver_run, bind_of_ok makes]
  exact storeOn_instance object _ _

/-- Taking sets of hooks off a class, with any events before and after. The class has the topmost waiting hook of each attribute,
and what it had to begin with where none waits. A hook commits after its set has been taken off exactly if it waited below a later
one then, and has committed at all. And when all sets have been taken off, the class is as it was before the first hook if and
only if every hook that was left behind in this way has committed. -/
theorem uninstalled_restores_iff {s t : HookState κ} {es : List HookEvent} (course : HookCourse base s es t)
    (unhooked : Unhooked base s.world) (empty : ∀ set ∈ s.sets, set.base = base ∧ set.hooks = []) :
    (∀ name, t.world.own base name = standing s.world base name (stacksAfter es name)) ∧
      (∀ a, CommittedLate es a ↔ LeftBehind es a ∧ HasCommitted es a) ∧
      ((∀ set ∈ t.sets, set.hooks = []) →
        ((∀ name, t.world.own base name = s.world.own base name) ↔ ∀ a, LeftBehind es a → HasCommitted es a)) := by
  have tracked := course.tracked unhooked empty
  refine ⟨tracked.stacked.own, tracked.ledger.late, fun off => ⟨fun same a left => ?_, fun committed name => ?_⟩⟩
  · -- A hook that is still on a stack would stand on the class, or the one above it would.
    refine (tracked.ledger.left left).resolve_left fun ⟨name, mem⟩ => ?_
    have own := (tracked.stacked.own name).symm.trans (same name)
    cases on : stacksAfter es name with
    | nil =>
        rw [on] at mem
        cases mem
    | cons b rest =>
        rw [on] at own
        obtain ⟨before, -⟩ := unhooked.free name b own.symm
        have mine : b ∈ stacksAfter es name := on ▸ List.mem_cons_self
        exact absurd before (Nat.not_lt.mpr (tracked.stacked.fresh mine))
  · rw [tracked.stacked.own]
    cases on : stacksAfter es name with
    | nil => rfl
    | cons b rest =>
        have mem : b ∈ stacksAfter es name := on ▸ List.mem_cons_self
        rcases tracked.ledger.kept mem with ⟨j, set, there, owned⟩ | left
        · rw [off set (List.mem_of_getElem? there)] at owned
          cases owned
        · exact absurd mem ((tracked.ledger.done (committed b left)).2 name)

/-! ## Two hooks of one set on one attribute -/

/-- After both hooks of a set on one attribute are taken off, the first one stands on the class, which had nothing there. -/
theorem uninstall_leaves_hook : twoRuntimes.own (loadedPlace 1) standardTableAttr = none ∧
    ((do
      let _ ← installHooks (loadedPlace 1) { markers := [""] } 1 standardTableAttr standardTableAttr
      uninstallHooks : Within Beside Unit).run.after twoRuntimes).own (loadedPlace 1) standardTableAttr =
        some (.ref (loadedPlace 6)) :=
  ⟨rfl, rfl⟩

/-- A set with some hooks on the class. -/
def setOf (hooks : List Address) : HookSet :=
  ⟨loadedPlace 1, { markers := [""] }, 1, hooks⟩

/-- The class, and a set that has no hooks yet. -/
def unregistered : HookState Unit :=
  ⟨twoRuntimes, [setOf []]⟩

def onceRegistered : HookState Unit :=
  ⟨((setOf []).registerTable standardTableAttr : Within Beside HookSet).run.after twoRuntimes, [setOf [loadedPlace 6]]⟩

def twiceRegistered : HookState Unit :=
  ⟨((setOf [loadedPlace 6]).registerChunks standardTableAttr : Within Beside HookSet).run.after onceRegistered.world,
    [setOf [loadedPlace 6, loadedPlace 7]]⟩

/-- The set has been taken off. -/
def unregisteredAgain : HookState Unit :=
  ⟨((setOf [loadedPlace 6, loadedPlace 7]).uninstall : Within Beside HookSet).run.after twiceRegistered.world, [setOf []]⟩

/-- Both hooks go on one attribute, the set is taken off, and then the first hook commits. -/
def oneAttribute : List HookEvent :=
  [.registered 0 standardTableAttr (loadedPlace 6), .registered 0 standardTableAttr (loadedPlace 7),
    .uninstalled 0 [loadedPlace 6, loadedPlace 7], .committed standardTableAttr (loadedPlace 6)]

theorem twoRuntimes_unhooked : Unhooked (loadedPlace 1) twoRuntimes := by
  refine ⟨⟨_, rfl⟩, fun name b has => ?_⟩
  have first : twoRuntimes.own (loadedPlace 1) name = if "load_chunk" = name then some (.ref (loadedPlace 0)) else none :=
    (World.own_class rfl name).trans (Attributes.get?_cons _ _ _)
  rw [first] at has
  split at has
  · cases has
    exact ⟨by decide +kernel, fun ⟨i, there, _⟩ => nomatch there⟩
  · cases has

theorem oneAttribute_course : ∃ t, HookCourse (loadedPlace 1) unregistered oneAttribute t := by
  have first : HookCourse (loadedPlace 1) unregistered [.registered 0 standardTableAttr (loadedPlace 6)] onceRegistered :=
    HookCourse.start.register (show unregistered.sets[0]? = some (setOf []) from rfl)
      (show ((setOf []).register standardTableAttr .table : Within Beside HookSet).run unregistered.world =
        .ok (setOf [loadedPlace 6]) onceRegistered.world from rfl) rfl
  have second : HookCourse (loadedPlace 1) unregistered
      ([.registered 0 standardTableAttr (loadedPlace 6)] ++ [.registered 0 standardTableAttr (loadedPlace 7)])
      twiceRegistered :=
    first.register (show onceRegistered.sets[0]? = some (setOf [loadedPlace 6]) from rfl)
      (show ((setOf [loadedPlace 6]).register standardTableAttr (.chunks standardTableAttr) : Within Beside HookSet).run
        onceRegistered.world = .ok (setOf [loadedPlace 6, loadedPlace 7]) twiceRegistered.world from rfl) rfl
  have third : HookCourse (loadedPlace 1) unregistered
      ([.registered 0 standardTableAttr (loadedPlace 6)] ++ [.registered 0 standardTableAttr (loadedPlace 7)] ++
        [.uninstalled 0 [loadedPlace 6, loadedPlace 7]]) unregisteredAgain :=
    second.uninstall (show twiceRegistered.sets[0]? = some (setOf [loadedPlace 6, loadedPlace 7]) from rfl)
      (show ((setOf [loadedPlace 6, loadedPlace 7]).uninstall : Within Beside HookSet).run twiceRegistered.world =
        .ok (setOf []) unregisteredAgain.world from rfl)
  have hook : unregisteredAgain.world.heap[loadedPlace 6]? = some (.interceptor
      ⟨loadedPlace 1, standardTableAttr, { markers := [""] }, .table, 1, false, none⟩) := rfl
  exact ⟨_, third.commit (callValue inert) hook rfl rfl rfl⟩

/-- The first hook commits although its set has been taken off, and only with that the class is as before. -/
theorem uninstalled_restores_iff_oneAttribute : ∃ t, HookCourse (loadedPlace 1) unregistered oneAttribute t ∧
    CommittedLate oneAttribute (loadedPlace 6) ∧
    ∀ name, t.world.own (loadedPlace 1) name = twoRuntimes.own (loadedPlace 1) name := by
  obtain ⟨t, course⟩ := oneAttribute_course
  obtain ⟨own, late, -⟩ := uninstalled_restores_iff course twoRuntimes_unhooked fun set mem => by
    rw [List.mem_singleton.mp mem]
    exact ⟨rfl, rfl⟩
  have left : LeftBehind oneAttribute (loadedPlace 6) :=
    ⟨[.registered 0 standardTableAttr (loadedPlace 6), .registered 0 standardTableAttr (loadedPlace 7)], _, _, _, rfl,
      List.mem_cons_self, standardTableAttr, by decide +kernel⟩
  refine ⟨t, course, (late _).mpr ⟨left, standardTableAttr, ?_⟩, fun name => (own name).trans ?_⟩
  · simp [oneAttribute]
  · have none : stacksAfter oneAttribute name = [] := by
      simp only [stacksAfter, oneAttribute, List.foldl, HookEvent.on]
      split <;> rfl
    rw [none]
    rfl

end Patchwork
