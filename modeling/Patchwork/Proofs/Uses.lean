import Patchwork.Proofs.Handover
import Patchwork.Proofs.Lookups

/-!
One hook and all uses of its attribute. Until an assignment passes the checks, the hook stands on its class; from then on the
class has what it had before. What instances have of their own changes with their own assignments and deletions only.
-/

namespace Patchwork

open Run

variable {κ : Type} {outside : Surroundings κ} {u v w z : World κ} {a b r cls : Address} {i : Interceptor}
  {attrs attrs' : Attributes} {core : Option Value} {c : Bool} {x : Assignment κ} {value : Value}

/-! ## A hook and its place -/

/-- A hook stands on its class as long as it waits; when it has committed, the class has what it had before. -/
structure World.HoldsHook (w : World κ) (a : Address) (i : Interceptor) (c : Bool) : Prop where
  hook : w.heap[a]? = some (.interceptor { i with committed := c })
  own : w.own i.owner i.name = if c then i.previous else some (.ref a)

/-- A hook, its place and what instances have under its name are left alone. -/
structure Spares (a : Address) (i : Interceptor) (w w' : World κ) : Prop where
  hook : ∀ j, w.heap[a]? = some (.interceptor j) → w'.heap[a]? = some (.interceptor j)
  own : w'.own i.owner i.name = w.own i.owner i.name
  stored : ∀ r, w'.stored r i.name = w.stored r i.name
  instances : ∀ (r : Address) cls attrs core, w.heap[r]? = some (.instance cls attrs core) →
    ∃ attrs', w'.heap[r]? = some (.instance cls attrs' core)

instance : Lasting (Spares (κ := κ) a i) where
  refl _ := ⟨fun _ h => h, rfl, fun _ => rfl, fun _ _ attrs _ h => ⟨attrs, h⟩⟩
  trans first second :=
    ⟨fun j h => second.hook j (first.hook j h), second.own.trans first.own,
      fun r => (second.stored r).trans (first.stored r), fun r cls attrs core h => by
        obtain ⟨attrs', h'⟩ := first.instances r cls attrs core h
        exact second.instances r cls attrs' core h'⟩

theorem World.HoldsHook.spared (holds : v.HoldsHook a i c) (spares : Spares a i v w) : w.HoldsHook a i c :=
  ⟨spares.hook _ holds.hook, spares.own.trans holds.own⟩

/-- One instance has something else, or nothing, under a name afterwards; all others have what they had. -/
structure Stores (name : String) (r : Address) (held : Option Value) (w w' : World κ) : Prop where
  here : w'.stored r name = held
  others : ∀ r', r' ≠ r → w'.stored r' name = w.stored r' name

theorem Stores.spared {held : Option Value} (spares : Spares a i u v) (stores : Stores i.name r held v w) :
    Stores i.name r held u w :=
  ⟨stores.here, fun r' other => (stores.others r' other).trans (spares.stored r')⟩

/-! ## Single changes -/

theorem World.stored_instance (object : w.heap[r]? = some (.instance cls attrs core)) (name : String) :
    w.stored r name = attrs.get? name := by
  rw [stored, object]

/-- Instances may get other attributes of their own, which leaves hooks and classes alone. -/
theorem World.replaced_instance (object : w.heap[r]? = some (.instance cls attrs core)) (attrs' : Attributes) :
    Stores i.name r (attrs'.get? i.name) w (w.replaced r (.instance cls attrs' core)) ∧
      ∀ c, w.HoldsHook a i c → (w.replaced r (.instance cls attrs' core)).HoldsHook a i c := by
  have placed := World.replaced_at (o := .instance cls attrs' core) object
  refine ⟨⟨World.stored_instance placed _, fun r' other => ?_⟩, fun c holds => ⟨?_, ?_⟩⟩
  · rw [World.stored, World.stored, World.replaced_other (Ne.symm other)]
  · have other : r ≠ a := by
      rintro rfl
      rw [holds.hook] at object
      cases object
    rw [World.replaced_other other, holds.hook]
  · rw [← holds.own, World.own, World.own]
    by_cases same : r = i.owner
    · rw [← same, placed, object]
    · rw [World.replaced_other same]

section

variable {R : World κ → World κ → Prop} [Moves R]

/-- What storing a value on an instance does. -/
theorem storeOn_ends (object : w.heap[r]? = some (.instance cls attrs core)) (value : Value) :
    ∃ z, (storeOn (.ref r) i.name value : Within R Unit).run w = .ok () z ∧ Stores i.name r (some value) w z ∧
      ∀ c, w.HoldsHook a i c → z.HoldsHook a i c := by
  obtain ⟨stores, kept⟩ := World.replaced_instance (i := i) (a := a) object (attrs.set i.name value)
  rw [Attributes.get?_set] at stores
  exact ⟨_, storeOn_instance object _ _, stores, kept⟩

/-- A hook that is on its class goes off it, and the class gets back what it had before. -/
theorem removeHook_ends (hook : w.heap[a]? = some (.interceptor i)) (own : w.own i.owner i.name = some (.ref a)) :
    ∃ z, (removeHook a : Within R Unit).run w = .ok () z ∧ z.own i.owner i.name = i.previous ∧
      ∀ o, (∀ k, o ≠ .class k) → ∀ r : Address, w.heap[r]? = some o ↔ z.heap[r]? = some o := by
  obtain ⟨k, there, has⟩ := World.class_of_own own
  have placed := World.replaced_at (o := .class { k with attrs := i.restored k.attrs }) there
  refine ⟨_, removeHook_on hook there has, (World.own_class placed _).trans (i.restored_here _), fun o other r => ?_⟩
  by_cases same : i.owner = r
  · rw [← same, placed, there]
    exact ⟨fun h => absurd (Option.some.inj h).symm (other _), fun h => absurd (Option.some.inj h).symm (other _)⟩
  · rw [World.replaced_other same]

/-- What an instance has is the same if it is the same instance. -/
theorem World.stored_same (same : ∀ cls attrs core, w.heap[r]? = some (.instance cls attrs core) ↔
    z.heap[r]? = some (.instance cls attrs core)) (name : String) : z.stored r name = w.stored r name := by
  rw [World.stored, World.stored]
  split
  · next cls attrs core object => rw [(same cls attrs core).mpr object]
  · next none =>
      split
      · next cls attrs core object => exact absurd ((same cls attrs core).mp object) (none cls attrs core)
      · rfl

end

/-! ## Assignments to the attribute -/

/-- Stores a value on an instance; hooks on the way are asked with `call`. -/
def storing (call : Caller κ) (name : String) (r : Address) (value : Value) : Run κ Unit :=
  (storeOn (.ref r) name value : Working call Unit).run

/-- Reads an attribute of an instance; what computes it is called with `call`. -/
def reading (call : Caller κ) (name : String) (r : Address) : Run κ Value :=
  (readAttr call (.ref r) name : Working call Value).run

/-- Checks whether a hook takes a runtime; what its host defines is called with `call`. -/
def checking (call : Caller κ) (m : RuntimeMatcher) (r : Address) : Run κ Bool :=
  (m.accepts call (.ref r) : Working call Bool).run

/-- What a hook makes of the value once it has committed. -/
def onCommit (call : Caller κ) (i : Interceptor) (runtime value : Value) : Working call Value :=
  match i.commitment with
  | .table => takeTable call runtime value i.registry
  | .chunks attr => takeChunks attr runtime value i.registry

/-- Taking over is to go off the class, and to store what is made of the value. -/
theorem takeOver_run (call : Caller κ) (a : Address) (i : Interceptor) (r : Address) (value : Value) (w : World κ) :
    (takeOver call a i (.ref r) value).run w = ((onCommit call i (.ref r) value).run >>= fun made =>
      (storeOn (.ref r) i.name made : Working call Unit).run) (w.released call a i) := by
  obtain ⟨z, ran, -⟩ := removeHook_quiet (R := Acts call) a (w.marked a i)
  have marked : (replace a (.interceptor { i with committed := true }) : Working call Unit).run w =
      .ok () (w.marked a i) := rfl
  rw [takeOver, Within.run_bind, bind_of_ok marked, Within.run_bind, bind_of_ok ran, World.released, after_ok ran, onCommit]
  cases i.commitment <;> rfl

theorem World.marked_rest (hook : w.heap[a]? = some (.interceptor i)) {o : Object} (other : ∀ j, o ≠ .interceptor j)
    (r : Address) : w.heap[r]? = some o ↔ (w.marked a i).heap[r]? = some o := by
  by_cases same : a = r
  · subst same
    have placed : (w.marked a i).heap[a]? = some (.interceptor { i with committed := true }) := World.replaced_at hook
    rw [placed, hook]
    exact ⟨fun h => absurd (Option.some.inj h).symm (other _), fun h => absurd (Option.some.inj h).symm (other _)⟩
  · have same' : (w.marked a i).heap[r]? = w.heap[r]? := World.replaced_other same
    rw [same']

/-- A hook that commits is off its class, and no instance has changed. -/
theorem World.released_holds (call : Caller κ) (holds : w.HoldsHook a i false) :
    (w.released call a { i with committed := false }).HoldsHook a i true ∧
      (∀ r name, (w.released call a { i with committed := false }).stored r name = w.stored r name) ∧
      ∀ (r : Address) cls attrs core, w.heap[r]? = some (.instance cls attrs core) →
        (w.released call a { i with committed := false }).heap[r]? = some (.instance cls attrs core) := by
  have hook : w.heap[a]? = some (.interceptor { i with committed := false }) := holds.hook
  have marked : (w.marked a { i with committed := false }).heap[a]? = some (.interceptor { i with committed := true }) :=
    World.replaced_at hook
  have own : (w.marked a { i with committed := false }).own i.owner i.name = some (.ref a) := by
    obtain ⟨k, there, has⟩ := World.class_of_own holds.own
    exact (World.own_class ((World.marked_rest hook (fun _ => Object.noConfusion) _).mp there) _).trans has
  obtain ⟨z, ran, owns, rest⟩ := removeHook_ends (R := Acts call) marked own
  have instances (cls : Address) (attrs : Attributes) (core : Option Value) (r : Address) :
      w.heap[r]? = some (.instance cls attrs core) ↔ z.heap[r]? = some (.instance cls attrs core) :=
    (World.marked_rest hook (fun _ => Object.noConfusion) r).trans (rest _ (fun _ => Object.noConfusion) r)
  rw [World.released, after_ok ran]
  refine ⟨⟨(rest _ (fun _ => Object.noConfusion) a).mp marked, owns⟩, fun r name => ?_, fun r cls attrs core object => ?_⟩
  · exact World.stored_same (fun cls attrs core => instances cls attrs core r) name
  · exact (instances cls attrs core r).mp object

/-- What stands before the attributes of instances: another hook, or what computes an attribute. -/
def Heap.IsDataDescriptor (h : Heap) (v : Value) : Prop :=
  (∃ b j, v = .ref b ∧ h[b]? = some (.interceptor j)) ∨ ∃ f, h.at? v = some (.reached .computed f)

/-- The instances of a class have their attribute from the owner of the hook, if it has one, and it is the hook or nothing
that stands before their own. -/
structure World.Finds (w : World κ) (cls a : Address) (i : Interceptor) : Prop where
  owned : ∀ v, w.own i.owner i.name = some v → w.heap.classAttr? cls i.name = some v
  plain : ∀ v, w.heap.classAttr? cls i.name = some v → v = .ref a ∨ ¬ w.heap.IsDataDescriptor v

theorem World.Finds.not_computed (finds : w.Finds cls a i) (holds : w.HoldsHook a i c) (f : Value) :
    (w.heap.classAttr? cls i.name).bind w.heap.at? ≠ some (.reached .computed f) := by
  intro computed
  obtain ⟨v, found, at_⟩ := Option.bind_eq_some_iff.mp computed
  rcases finds.plain v found with rfl | other
  · rw [Heap.at?, show w.heap.core (.ref a) = .ref a by simp only [Heap.core, holds.hook]] at at_
    cases holds.hook.symm.trans at_
  · exact other (.inr ⟨f, at_⟩)

namespace Assignment

/-- An assignment to the attribute on an instance. The checks answer, what the hook makes of the value is there if they
pass, and neither assigns or removes the attribute. -/
structure OnHook (outside : Surroundings κ) (x : Assignment κ) (a : Address) (i : Interceptor) : Prop where
  name : x.name = i.name
  object : ∃ cls attrs core, x.world.heap[x.runtime]? = some (.instance cls attrs core) ∧ x.world.Finds cls a i
  checks : ∃ genuine v, x.check outside x.world = .ok genuine v ∧ Spares a i x.world v
  makes : ∀ j v, x.hook? = some (a, j) → x.check outside x.world = .ok true v → ∃ made u,
    (onCommit (x.caller outside) j (.ref x.runtime) x.value).run (v.released (x.caller outside) a j) = .ok made u ∧
      Spares a i (v.released (x.caller outside) a j) u

/-- The assignment just stores its value, after the checks if there are any. -/
def Passes (outside : Surroundings κ) (x : Assignment κ) (i : Interceptor) : Prop :=
  ∃ v, (v = x.world ∨ x.check outside x.world = .ok false v) ∧
    x.run outside x.world = storing (x.caller outside) i.name x.runtime x.value v

/-- The assignment passes the checks, the hook goes off its class and makes something of the value, and that is stored. -/
def Commits (outside : Surroundings κ) (x : Assignment κ) (a : Address) (i : Interceptor) (made : Value) : Prop :=
  ∃ v u, x.check outside x.world = .ok true v ∧
    (onCommit (x.caller outside) i (.ref x.runtime) x.value).run (v.released (x.caller outside) a i) = .ok made u ∧
    x.run outside x.world = storing (x.caller outside) i.name x.runtime made u

namespace OnHook

variable (on : x.OnHook outside a i)
include on

theorem hook?_waiting (holds : x.world.HoldsHook a i false) : x.hook? = some (a, { i with committed := false }) := by
  obtain ⟨cls, attrs, core, object, finds⟩ := on.object
  rw [hook?, object]
  simp only [on.name]
  rw [Heap.hook?, finds.owned _ holds.own]
  simp only [holds.hook]

/-- The hook that an assignment reaches is the given one, if any. -/
theorem hook?_here {b : Address} {j : Interceptor} (h : x.hook? = some (b, j)) : b = a := by
  obtain ⟨cls, attrs, core, object, finds⟩ := on.object
  obtain ⟨there, -⟩ := hook?_eq_some h
  have found : x.world.heap.classAttr? cls i.name = some (.ref b) := by
    rw [hook?, object] at h
    simp only [on.name, Heap.hook?] at h
    split at h
    · next c same =>
        split at h
        · cases h
          exact same
        · cases h
    · cases h
  rcases finds.plain _ found with same | other
  · cases same
    rfl
  · exact absurd (.inl ⟨b, j, rfl, there⟩) other

/-- Once the hook has committed, an assignment just stores its value. -/
theorem passes_committed (holds : x.world.HoldsHook a i true) : x.Passes outside i := by
  obtain ⟨cls, attrs, core, object, finds⟩ := on.object
  refine ⟨x.world, .inl rfl, ?_⟩
  cases h : x.hook? with
  | some hook =>
      obtain ⟨b, j⟩ := hook
      obtain rfl := on.hook?_here h
      have found := (hook?_eq_some h).1
      obtain rfl : { i with committed := true } = j := Object.interceptor.inj (Option.some.inj (holds.hook.symm.trans found))
      rw [run_hooked h, intercept_committed found rfl]
      rfl
  | none =>
      have free : x.world.heap.hook? cls x.name = none := by rwa [hook?, object] at h
      have plain : ∀ f, (x.world.heap.classAttr? cls x.name).bind x.world.heap.at? ≠ some (.reached .computed f) := by
        rw [on.name]
        exact finds.not_computed holds
      have stored : storing (x.caller outside) i.name x.runtime x.value x.world =
          .ok () (x.world.replaced x.runtime (.instance cls (attrs.set i.name x.value) core)) :=
        storeOn_instance object _ _
      rw [stored, run, setAttr_unhooked object free plain, on.name]

/-- As long as the hook waits, an assignment commits it if it is accepted, and else just stores its value. -/
theorem passes_or_commits (holds : x.world.HoldsHook a i false) :
    ¬ x.Accepted outside a ∧ x.Passes outside i ∨
      x.Accepted outside a ∧ ∃ made, x.Commits outside a { i with committed := false } made := by
  have h := on.hook?_waiting holds
  have whole : x.run outside x.world = _ := run_waiting h rfl
  obtain ⟨genuine, v, ran, -⟩ := on.checks
  rw [bind_of_ok ran] at whole
  cases genuine with
  | false =>
      refine .inl ⟨?_, v, .inr ran, whole⟩
      rintro ⟨-, v', ran'⟩
      rw [ran] at ran'
      cases ran'
  | true =>
      obtain ⟨made, u, makes, -⟩ := on.makes _ v h ran
      refine .inr ⟨⟨⟨_, h⟩, v, ran⟩, made, v, u, ran, makes, ?_⟩
      rw [if_pos rfl, takeOver_run, bind_of_ok makes] at whole
      exact whole

/-- An assignment that just stores its value returns, and leaves the hook as it is. -/
theorem passes_ends (holds : x.world.HoldsHook a i c) (passes : x.Passes outside i) :
    ∃ z, x.run outside x.world = .ok () z ∧ Stores i.name x.runtime (some x.value) x.world z ∧ z.HoldsHook a i c := by
  obtain ⟨cls, attrs, core, object, -⟩ := on.object
  obtain ⟨v, before, whole⟩ := passes
  have spares : Spares a i x.world v := by
    rcases before with rfl | ran
    · exact Lasting.refl _
    · obtain ⟨genuine, v', ran', spares⟩ := on.checks
      rw [ran] at ran'
      cases ran'
      exact spares
  obtain ⟨attrs', object'⟩ := spares.instances _ _ _ _ object
  obtain ⟨z, ended, stores, kept⟩ := storeOn_ends (R := Acts (x.caller outside)) (i := i) (a := a) object' x.value
  exact ⟨z, whole.trans ended, stores.spared spares, kept c (holds.spared spares)⟩

/-- An assignment that commits the hook returns, and the hook is off its class. -/
theorem commits_ends {made : Value} (holds : x.world.HoldsHook a i false)
    (commits : x.Commits outside a { i with committed := false } made) :
    ∃ z, x.run outside x.world = .ok () z ∧ Stores i.name x.runtime (some made) x.world z ∧ z.HoldsHook a i true := by
  obtain ⟨cls, attrs, core, object, -⟩ := on.object
  obtain ⟨v, u, ran, makes, whole⟩ := commits
  obtain ⟨genuine, v', ran', checked⟩ := on.checks
  rw [ran] at ran'
  cases ran'
  obtain ⟨made', u', makes', making⟩ := on.makes _ v (on.hook?_waiting holds) ran
  rw [makes] at makes'
  cases makes'
  obtain ⟨off, same, instances⟩ := World.released_holds (x.caller outside) (holds.spared checked)
  obtain ⟨attrs', object'⟩ := checked.instances _ _ _ _ object
  obtain ⟨attrs'', object''⟩ := making.instances _ _ _ _ (instances _ _ _ _ object')
  obtain ⟨z, ended, stores, kept⟩ := storeOn_ends (R := Acts (x.caller outside)) (i := i) (a := a) object'' made
  refine ⟨z, whole.trans ended, ⟨stores.here, fun r other => ?_⟩, kept true (off.spared making)⟩
  rw [stores.others r other, making.stored, same, checked.stored]

end OnHook

end Assignment

/-! ## All uses of the attribute -/

/-- What is done with the attribute of an instance; calls may nest in reads as deeply as their number says. -/
inductive Use (κ : Type) where
  | assign (x : Assignment κ)
  | read (world : World κ) (depth : Nat) (runtime : Address)
  | delete (world : World κ) (runtime : Address)

namespace Use

/-- The world in which the attribute is used. -/
def world : Use κ → World κ
  | assign x => x.world
  | read w _ _ => w
  | delete w _ => w

def after (outside : Surroundings κ) (i : Interceptor) : Use κ → World κ
  | assign x => x.after outside
  | read w depth r => (reading (callWithin outside depth) i.name r).after w
  | delete w r => (deleteAttr (.ref r) i.name : Quietly κ Unit).run.after w

/-- An assignment that reaches the hook and passes the checks. -/
def Accepted (outside : Surroundings κ) (a : Address) : Use κ → Prop
  | assign x => x.Accepted outside a
  | _ => False

/-- The attribute is used on an instance; what is called for a missing one leaves it alone. -/
def Proper (outside : Surroundings κ) (a : Address) (i : Interceptor) : Use κ → Prop
  | assign x => x.OnHook outside a i
  | read w depth r => (∃ cls attrs core, w.heap[r]? = some (.instance cls attrs core) ∧ w.Finds cls a i) ∧
      Spares a i w ((read w depth r).after outside i)
  | delete w r => ∃ cls attrs core, w.heap[r]? = some (.instance cls attrs core)

end Use

section

variable {R : World κ → World κ → Prop} [Still R] {call : Caller κ} [Calls call R]

/-- An instance that has the attribute gives it, and nothing is called for it. -/
theorem readAttr_ends (object : w.heap[r]? = some (.instance cls attrs core)) (finds : w.Finds cls a i)
    (holds : w.HoldsHook a i c) (has : w.stored r i.name = some value) :
    (readAttr call (.ref r) i.name : Within R Value).run w = .ok value w := by
  rw [World.stored_instance object] at has
  have plain : (computedAttr? call (.ref r) i.name : Within R _).run w = .ok none w := by
    rw [computedAttr?, Within.run_bind, bind_of_ok (heap_run _)]
    simp only [classOf?, object, Option.bind_some]
    have none := finds.not_computed holds
    split
    · next f computed => exact absurd computed (none f)
    · rfl
  have got : (getAttr (.ref r) i.name : Within R Value).run w = .ok value w := by
    simp only [getAttr]
    rw [Within.run_bind, bind_of_ok (heap_run _)]
    simp only [object, has]
    cases w.heap.hook? cls i.name <;> rfl
  have own : (ownMethod? (.ref r) "__getattr__" : Within R _).run w =
      .ok ((w.heap.classAttr? cls "__getattr__").map (w.heap.onInstance (.ref r))) w := by
    rw [ownMethod?, Within.run_bind, bind_of_ok (heap_run _)]
    simp only [object]
    rfl
  rw [readAttr, Within.run_bind, bind_of_ok own]
  cases (w.heap.classAttr? cls "__getattr__").map (w.heap.onInstance (.ref r)) with
  | none =>
      dsimp only
      rw [Within.run_bind, bind_of_ok plain]
      exact got
  | some m =>
      dsimp only
      rw [run_handle]
      refine handle_of_ok _ ?_
      rw [Within.run_bind, bind_of_ok plain]
      exact got

/-- Deleting the attribute takes what the instance has, or fails. -/
theorem deleteAttr_ends (object : w.heap[r]? = some (.instance cls attrs core)) :
    ((w.stored r i.name).isSome = true → ∃ z, (deleteAttr (.ref r) i.name : Within R Unit).run w = .ok () z ∧
      Stores i.name r none w z ∧ ∀ c, w.HoldsHook a i c → z.HoldsHook a i c) ∧
    (w.stored r i.name = none → (deleteAttr (.ref r) i.name : Within R Unit).run w =
      .error (.failed (.noStoredAttribute i.name)) w) := by
  obtain ⟨stores, kept⟩ := World.replaced_instance (i := i) (a := a) object (attrs.erase i.name)
  rw [Attributes.get?_erase] at stores
  rw [deleteAttr_instance object, World.stored_instance object]
  refine ⟨fun has => ⟨_, if_pos has, stores, kept⟩, fun none => if_neg ?_⟩
  rw [none]
  exact nofun

end

/-- Uses of the attribute one after the other, and between them whatever leaves it alone. -/
inductive Uses (outside : Surroundings κ) (a : Address) (i : Interceptor) :
    World κ → List (Use κ) → World κ → Prop where
  | done {u v : World κ} : Spares a i u v → Uses outside a i u [] v
  | next {u w : World κ} {e : Use κ} {es : List (Use κ)} : Spares a i u e.world → e.Proper outside a i →
      Uses outside a i (e.after outside i) es w → Uses outside a i u (e :: es) w

/-- A use commits the hook exactly if it is an assignment that is accepted while the hook waits. -/
theorem Use.step {e : Use κ} (proper : e.Proper outside a i) (holds : e.world.HoldsHook a i c) :
    ∃ c', (e.after outside i).HoldsHook a i c' ∧ (c' = true ↔ c = true ∨ e.Accepted outside a) := by
  cases e with
  | assign x =>
      have on : x.OnHook outside a i := proper
      have still (passes : x.Passes outside i) (known : c = true ∨ ¬ x.Accepted outside a) :
          ∃ c', (x.after outside).HoldsHook a i c' ∧ (c' = true ↔ c = true ∨ x.Accepted outside a) := by
        obtain ⟨z, ran, -, kept⟩ := on.passes_ends holds passes
        refine ⟨c, by rwa [Assignment.after, after_ok ran], .inl, fun taken => ?_⟩
        exact known.elim id fun refused => taken.resolve_right refused
      cases c with
      | true => exact still (on.passes_committed holds) (.inl rfl)
      | false =>
          rcases on.passes_or_commits holds with ⟨refused, passes⟩ | ⟨accepted, made, commits⟩
          · exact still passes (.inr refused)
          · obtain ⟨z, ran, -, off⟩ := on.commits_ends holds commits
            exact ⟨true, by rwa [Use.after, Assignment.after, after_ok ran], fun _ => .inr accepted, fun _ => rfl⟩
  | read w depth r => exact ⟨c, holds.spared proper.2, .inl, fun taken => taken.resolve_right id⟩
  | delete w r =>
      obtain ⟨cls, attrs, core, object⟩ := proper
      obtain ⟨takes, fails⟩ := deleteAttr_ends (R := Quiet) (i := i) (a := a) object
      refine ⟨c, ?_, .inl, fun taken => taken.resolve_right id⟩
      cases has : w.stored r i.name with
      | none => rwa [Use.after, after_error (fails has)]
      | some v =>
          obtain ⟨z, ran, -, kept⟩ := takes (by rw [has]; rfl)
          rw [Use.after, after_ok ran]
          exact kept c holds

namespace Uses

variable {e : Use κ} {es rest : List (Use κ)}

/-- A hook has committed exactly if an assignment that reached it has passed the checks. -/
theorem holds (uses : Uses outside a i u es w) (before : u.HoldsHook a i c) :
    ∃ c', w.HoldsHook a i c' ∧ (c' = true ↔ c = true ∨ ∃ e ∈ es, e.Accepted outside a) := by
  induction uses generalizing c with
  | done spares =>
      refine ⟨c, before.spared spares, .inl, fun taken => taken.elim id ?_⟩
      rintro ⟨e, mem, -⟩
      cases mem
  | next spares proper _ ih =>
      obtain ⟨c', between, taken⟩ := Use.step proper (before.spared spares)
      obtain ⟨c'', after, more⟩ := ih between
      refine ⟨c'', after, ?_⟩
      simp only [more, taken, List.mem_cons, exists_eq_or_imp, or_assoc]

theorem split : {before : List (Use κ)} → {u : World κ} → Uses outside a i u (before ++ e :: rest) w →
    Uses outside a i u before e.world ∧ e.Proper outside a i
  | [], _, uses => by
      cases uses with
      | next spares proper _ => exact ⟨.done spares, proper⟩
  | f :: fs, _, uses => by
      cases uses with
      | next spares proper uses =>
          obtain ⟨first, proper'⟩ := uses.split
          exact ⟨.next spares proper first, proper'⟩

/-- Whether the hook waits when the attribute is used. -/
theorem waits_iff {before : List (Use κ)} (uses : Uses outside a i u (before ++ e :: rest) w)
    (waits : u.HoldsHook a i false) : ∃ c, e.world.HoldsHook a i c ∧
      (c = false ↔ ∀ f ∈ before, ¬ f.Accepted outside a) := by
  obtain ⟨c, now, taken⟩ := uses.split.1.holds waits
  refine ⟨c, now, ?_⟩
  rw [← Bool.not_eq_true, taken]
  simp

end Uses

/-- What a use of the attribute does. An assignment that is accepted while no other one was commits the hook, and what the hook
has made of the value is stored on the instance; any other one just stores its value. A read gives what the instance has, and
a deletion takes it. -/
def Use.Does (outside : Surroundings κ) (a : Address) (i : Interceptor) (early : Prop) : Use κ → Prop
  | assign x => ∃ z, x.run outside x.world = .ok () z ∧
      (x.Accepted outside a ∧ early →
        ∃ made, x.Commits outside a i made ∧ Stores i.name x.runtime (some made) x.world z) ∧
      (¬ (x.Accepted outside a ∧ early) → x.Passes outside i ∧ Stores i.name x.runtime (some x.value) x.world z)
  | read w depth r => ∀ v, w.stored r i.name = some v → reading (callWithin outside depth) i.name r w = .ok v w
  | delete w r =>
      ((w.stored r i.name).isSome = true →
        ∃ z, (deleteAttr (.ref r) i.name : Quietly κ Unit).run w = .ok () z ∧ Stores i.name r none w z) ∧
      (w.stored r i.name = none →
        (deleteAttr (.ref r) i.name : Quietly κ Unit).run w = .error (.failed (.noStoredAttribute i.name)) w)

theorem Use.does {e : Use κ} {early : Prop} (proper : e.Proper outside a i) (waits : i.committed = false)
    (holds : e.world.HoldsHook a i c) (known : c = false ↔ early) : e.Does outside a i early := by
  have same : { i with committed := false } = i := by rw [← waits]
  cases e with
  | assign x =>
      have on : x.OnHook outside a i := proper
      cases c with
      | true =>
          have late : ¬ early := fun h => Bool.false_ne_true (known.mpr h).symm
          have passes := on.passes_committed holds
          obtain ⟨z, ran, stores, -⟩ := on.passes_ends holds passes
          exact ⟨z, ran, fun first => absurd first.2 late, fun _ => ⟨passes, stores⟩⟩
      | false =>
          rcases on.passes_or_commits holds with ⟨refused, passes⟩ | ⟨accepted, made, commits⟩
          · obtain ⟨z, ran, stores, -⟩ := on.passes_ends holds passes
            exact ⟨z, ran, fun first => absurd first.1 refused, fun _ => ⟨passes, stores⟩⟩
          · obtain ⟨z, ran, stores, -⟩ := on.commits_ends holds commits
            exact ⟨z, ran, fun _ => ⟨made, same ▸ commits, stores⟩, fun no => absurd ⟨accepted, known.mp rfl⟩ no⟩
  | read w depth r =>
      obtain ⟨⟨cls, attrs, core, object, finds⟩, -⟩ := proper
      exact fun v has => readAttr_ends object finds holds has
  | delete w r =>
      obtain ⟨cls, attrs, core, object⟩ := proper
      obtain ⟨takes, fails⟩ := deleteAttr_ends (R := Quiet) (i := i) (a := a) object
      refine ⟨fun has => ?_, fails⟩
      obtain ⟨z, ran, stores, -⟩ := takes has
      exact ⟨z, ran, stores⟩

/-- A hook that has been installed stands on its class, and remembers what was there. -/
theorem installHook_holds {R : World κ → World κ → Prop} [Moves R] {name : String} {matcher : RuntimeMatcher}
    {commitment : Commitment} {n : Nat} {k : ClassObject} (there : u.heap[cls]? = some (.class k))
    (installed : (installHook cls name matcher commitment n : Within R _).run u = .ok a v) :
    v.HoldsHook a ⟨cls, name, matcher, commitment, n, false, u.own cls name⟩ false := by
  rw [installHook_run there] at installed
  cases installed
  exact ⟨World.hooked_hook there, (World.hooked_own there _).trans (if_pos rfl)⟩

/-- A hook commits once at most. Whatever is done with its attribute on any instances, and whatever the checks answer: the first
assignment that passes them commits the hook, and what the hook makes of the value is stored on that instance. Every other
assignment just stores its value on its own. As long as none has passed, the class has the hook; from then on it has what it
had before the hook was installed. -/
theorem commits_once {R : World κ → World κ → Prop} [Moves R] {name : String} {matcher : RuntimeMatcher}
    {commitment : Commitment} {n : Nat} {k : ClassObject} (there : u.heap[cls]? = some (.class k))
    (installed : (installHook cls name matcher commitment n : Within R _).run u = .ok a v) :
    ∃ i, v.heap[a]? = some (.interceptor i) ∧ i.owner = cls ∧ i.name = name ∧ ∀ es w, Uses outside a i v es w →
      (∀ before e rest, es = before ++ e :: rest → e.Does outside a i (∀ f ∈ before, ¬ f.Accepted outside a)) ∧
      ((∃ e ∈ es, e.Accepted outside a) → w.own cls name = u.own cls name) ∧
      ((∀ e ∈ es, ¬ e.Accepted outside a) → w.own cls name = some (.ref a)) := by
  have waits := installHook_holds there installed
  refine ⟨_, waits.hook, rfl, rfl, fun es w uses => ⟨?_, ?_, ?_⟩⟩
  · rintro before e rest rfl
    obtain ⟨c, now, known⟩ := uses.waits_iff waits
    exact Use.does uses.split.2 rfl now known
  · intro accepted
    obtain ⟨c, now, taken⟩ := uses.holds waits
    cases taken.mpr (.inr accepted)
    exact now.own
  · intro none
    obtain ⟨c, now, taken⟩ := uses.holds waits
    have early : c = false := Bool.eq_false_iff.mpr fun committed =>
      (taken.mp committed).elim Bool.false_ne_true fun ⟨e, mem, accepted⟩ => none e mem accepted
    cases early
    exact now.own

/-! ## Two runtimes, one hook -/

/-- What is done to dictionaries and tables leaves hooks, classes and instances alone. -/
theorem Spares.of_same (same : ∀ o : Object, (∀ es, o ≠ .dict es) → (∀ t, o ≠ .table t) →
    ∀ r : Address, v.heap[r]? = some o ↔ w.heap[r]? = some o) : Spares a i v w where
  hook j := (same _ (fun _ => Object.noConfusion) (fun _ => Object.noConfusion) a).mp
  own := by
    rw [World.own, World.own]
    split
    · next k there => rw [(same _ (fun _ => Object.noConfusion) (fun _ => Object.noConfusion) i.owner).mpr there]
    · next none =>
        split
        · next k there =>
            exact absurd ((same _ (fun _ => Object.noConfusion) (fun _ => Object.noConfusion) i.owner).mp there) (none k)
        · rfl
  stored r := World.stored_same (fun cls attrs core =>
    same (.instance cls attrs core) (fun _ => Object.noConfusion) (fun _ => Object.noConfusion) r) i.name
  instances r cls attrs core object :=
    ⟨attrs, (same _ (fun _ => Object.noConfusion) (fun _ => Object.noConfusion) r).mp object⟩

/-- Taking a dictionary over does so. -/
theorem Spares.of_dict {es : List (Value × Value)} {runtime : Value} {n : Nat} (there : w.heap[b]? = some (.dict es)) :
    Spares a i w (((w.noticed runtime).replaced b (.dict [])).tabled n es) := by
  refine Spares.of_same fun o dict table r => ?_
  have emptied : w.heap[r]? = some o ↔ (w.heap.setIfInBounds b (.dict []))[r]? = some o := by
    by_cases same : b = r
    · subst same
      have placed : (w.heap.setIfInBounds b (.dict []))[b]? = some (.dict []) := World.replaced_at there
      rw [placed, there]
      exact ⟨fun h => absurd (Option.some.inj h).symm (dict _), fun h => absurd (Option.some.inj h).symm (dict _)⟩
    · rw [Array.getElem?_setIfInBounds_ne same]
  refine emptied.trans ?_
  have pushed : (((w.noticed runtime).replaced b (.dict [])).tabled n es).heap =
      (w.heap.setIfInBounds b (.dict [])).push (.table (Table.of es (.native (.patching n)))) := rfl
  rw [pushed, Array.getElem?_push]
  split
  · next last =>
      rw [Array.getElem?_eq_none (Nat.le_of_eq last.symm)]
      exact ⟨fun h => (nomatch h), fun h => absurd (Option.some.inj h).symm (table _)⟩
  · rfl

/-- The world with one hook, on the module table. -/
def oneHooked : World Unit :=
  (installHook (loadedPlace 1) standardTableAttr { markers := ["host.py"] } .table 1 : Within Beside _).run.after twoRuntimes

/-- One runtime gets its module table. -/
def firstTable : Assignment Unit where
  world := oneHooked
  depth := 9
  runtime := loadedPlace 2
  name := standardTableAttr
  value := .ref (loadedPlace 4)
  present := by
    rintro b h
    cases h
    decide +kernel

/-- Then the other one gets one. -/
def laterTable : Assignment Unit where
  world := (Use.delete (firstTable.after inert) (loadedPlace 2)).after inert
    ⟨loadedPlace 1, standardTableAttr, { markers := ["host.py"] }, .table, 1, false, none⟩
  depth := 9
  runtime := loadedPlace 3
  name := standardTableAttr
  value := .str "modules"
  present := by
    rintro b ⟨⟩

/-- The one gets its table, which is deleted from it, and then the other one gets one. -/
def twoTablesUsed : List (Use Unit) :=
  [.assign firstTable, .delete (firstTable.after inert) (loadedPlace 2), .assign laterTable]

theorem firstTable_hook : firstTable.hook? = some (loadedPlace 6,
    ⟨loadedPlace 1, standardTableAttr, { markers := ["host.py"] }, .table, 1, false, none⟩) :=
  rfl

theorem firstTable_check : firstTable.check inert oneHooked = .ok true oneHooked :=
  rfl

theorem twoTablesUsed_uses : Uses inert (loadedPlace 6)
    ⟨loadedPlace 1, standardTableAttr, { markers := ["host.py"] }, .table, 1, false, none⟩ oneHooked twoTablesUsed
    (laterTable.after inert) := by
  refine .next (Lasting.refl _) ⟨rfl, ?_, ?_, ?_⟩ (.next (Lasting.refl _) ⟨_, _, _, rfl⟩
    (.next (Lasting.refl _) ⟨rfl, ?_, ?_, ?_⟩ (.done (Lasting.refl _))))
  · exact ⟨_, _, _, rfl, fun _ h => h, fun v h => .inl (Option.some.inj h).symm⟩
  · exact ⟨true, oneHooked, firstTable_check, Lasting.refl _⟩
  · intro j v h ran
    cases firstTable_hook.symm.trans h
    cases firstTable_check.symm.trans ran
    exact ⟨_, _, takeTable_dict (R := Acts (callWithin inert (8 + 1))) inert 8 .itself rfl .nil, Spares.of_dict rfl⟩
  · exact ⟨_, _, _, rfl, fun _ h => (nomatch h), fun v h => (nomatch h)⟩
  · exact ⟨false, laterTable.world, rfl, Lasting.refl _⟩
  · intro j v h
    cases (show laterTable.hook? = none from rfl).symm.trans h

/-- The hook commits with the first table, the class has nothing under its name from then on, and the other runtime has what it
was given. -/
theorem commits_once_twoTables :
    (∃ e ∈ twoTablesUsed, e.Accepted inert (loadedPlace 6)) ∧
      (laterTable.after inert).own (loadedPlace 1) standardTableAttr = none ∧
      ∃ z, laterTable.run inert laterTable.world = .ok () z ∧
        z.stored (loadedPlace 3) standardTableAttr = some (.str "modules") := by
  have installed : (installHook (loadedPlace 1) standardTableAttr { markers := ["host.py"] } .table 1 :
      Within Beside _).run twoRuntimes = .ok (loadedPlace 6) oneHooked := rfl
  obtain ⟨i, found, -, -, all⟩ := commits_once rfl installed
  cases (show oneHooked.heap[loadedPlace 6]? = _ from rfl).symm.trans found
  obtain ⟨does, off, -⟩ := all _ _ twoTablesUsed_uses
  have accepted : ∃ e ∈ twoTablesUsed, e.Accepted inert (loadedPlace 6) :=
    ⟨.assign firstTable, List.mem_cons_self, ⟨_, firstTable_hook⟩, _, firstTable_check⟩
  obtain ⟨z, ran, -, passes⟩ := does [.assign firstTable, .delete (firstTable.after inert) (loadedPlace 2)] _ [] rfl
  refine ⟨accepted, off accepted, z, ran, (passes fun first => ?_).2.here⟩
  exact first.2 (.assign firstTable) List.mem_cons_self ⟨⟨_, firstTable_hook⟩, _, firstTable_check⟩

end Patchwork
