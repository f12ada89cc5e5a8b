import Patchwork.Proofs.Uses

/-!
A hook that waits, and the runtimes that it stands before. What they have themselves, they have as if there were no hook; what
they would inherit is hidden from them.
-/

namespace Patchwork

open Run

variable {κ : Type} {outside : Surroundings κ} {u v w w' : World κ} {a r cls : Address} {name : String} {i : Interceptor}
  {attrs : Attributes} {core : Option Value} {depth : Nat}

/-! ## Uses of an attribute -/

/-- What is seen of how something ends: the value that it gives, or the kind of its error if it has one. -/
abbrev Answer :=
  Except (Option ErrorKind) Value

def answerOf : EStateM.Result Fault (World κ) Value → Answer
  | .ok v _ => .ok v
  | .error (.failed c) _ => .error (some c.kind)
  | .error .exhausted _ => .error none

/-- What is done with an attribute of a runtime. The names of the functions that run tell where an assignment comes from. -/
inductive Touch where
  | assign (frames : List String) (runtime : Address) (value : Value)
  | read (runtime : Address)
  | delete (runtime : Address)

namespace Touch

def runtime : Touch → Address
  | assign _ r _ | read r | delete r => r

/-- What a touch does; calls inside it may nest as deeply as `depth` says. -/
def run (outside : Surroundings κ) (depth : Nat) (name : String) : Touch → Run κ Value
  | assign frames r value => do
      modify fun w => { w with frames }
      (setAttr (callWithin outside (depth + 1)) (.ref r) name value : Calling (callWithin outside (depth + 1)) Unit).run
      pure .none
  | read r => reading (callWithin outside depth) name r
  | delete r => do
      (deleteAttr (.ref r) name : Quietly κ Unit).run
      pure .none

/-- What a touch shows where runtimes have what `held` says, and what `missing` says if that is nothing. -/
def shows (missing held : Address → Option Value) : Touch → Answer
  | assign _ _ _ => .ok .none
  | read r => (((held r).or (missing r)).map .ok).getD (.error (some .attributes))
  | delete r => if (held r).isSome then .ok .none else .error (some .attributes)

/-- What runtimes have after a touch. -/
def leaves (held : Address → Option Value) : Touch → Address → Option Value
  | assign _ r value => fun s => if s = r then some value else held s
  | read _ => held
  | delete r => fun s => if s = r then none else held s

/-- No hook takes what is assigned: the one that it reaches, if any, finds that it is none of its own. -/
def Refused (outside : Surroundings κ) (depth : Nat) (name : String) (w : World κ) : Touch → Prop
  | assign frames r _ => ∀ cls attrs core a i, w.heap[r]? = some (.instance cls attrs core) →
      w.heap.hook? cls name = some (a, i) → i.committed = false → ∃ v,
        checking (callWithin outside depth) i.matcher r { w with frames } = .ok false v ∧ v.heap = w.heap
  | _ => True

end Touch

/-- What is seen of some touches, one after the other. -/
def Touch.seen (outside : Surroundings κ) (depth : Nat) (name : String) : List Touch → World κ → List Answer
  | [], _ => []
  | t :: ts, w => answerOf (t.run outside depth name w) :: Touch.seen outside depth name ts ((t.run outside depth name).after w)

/-- No hook takes anything that is assigned. -/
def AllRefused (outside : Surroundings κ) (depth : Nat) (name : String) : List Touch → World κ → Prop
  | [], _ => True
  | t :: ts, w => t.Refused outside depth name w ∧ AllRefused outside depth name ts ((t.run outside depth name).after w)

/-- What some touches show, one after the other. -/
def Touch.expected (missing : Address → Option Value) : List Touch → (Address → Option Value) → List Answer
  | [], _ => []
  | t :: ts, held => t.shows missing held :: Touch.expected missing ts (t.leaves held)

section

variable {missing missing' held : Address → Option Value}

theorem Touch.shows_congr {t : Touch} (same : missing t.runtime = missing' t.runtime) :
    t.shows missing held = t.shows missing' held := by
  cases t with
  | read r =>
      have same : missing r = missing' r := same
      simp only [shows, same]
  | _ => rfl

theorem Touch.expected_congr {ts : List Touch} (same : ∀ t ∈ ts, missing t.runtime = missing' t.runtime) :
    Touch.expected missing ts held = Touch.expected missing' ts held := by
  induction ts generalizing held with
  | nil => rfl
  | cons t ts ih =>
      rw [Touch.expected, Touch.expected, Touch.shows_congr (same t List.mem_cons_self),
        ih fun t mem => same t (List.mem_cons_of_mem _ mem)]

/-- Reading what has been deleted tells what a runtime gets that has nothing itself. -/
theorem Touch.expected_delete_read (r : Address) :
    Touch.expected missing [.delete r, .read r] held = Touch.expected missing' [.delete r, .read r] held ↔
      missing r = missing' r := by
  simp only [Touch.expected, Touch.shows, Touch.leaves, if_true, Option.none_or, List.cons.injEq, true_and, and_true]
  cases missing r <;> cases missing' r <;> simp

end

/-! ## Runtimes in a world -/

/-- A runtime of a class that neither computes the attribute nor says what stands for missing ones; a hook that stands for the
attribute is one of that name. -/
structure World.Hosts (w : World κ) (r cls : Address) (name : String) : Prop where
  object : ∃ attrs core, w.heap[r]? = some (.instance cls attrs core)
  named : ∀ a i, w.heap.hook? cls name = some (a, i) → i.name = name
  silent : w.heap.classAttr? cls "__getattr__" = none
  plain : ∀ f, (w.heap.classAttr? cls name).bind w.heap.at? ≠ some (.reached .computed f)

/-- No hook stands for the attribute. -/
structure World.HostsFree (w : World κ) (r cls : Address) (name : String) : Prop extends w.Hosts r cls name where
  free : w.heap.hook? cls name = none

/-- What a runtime that has nothing itself gets under a name: what the hook that stands for it has put aside, or what it
inherits. -/
def World.missing? (w : World κ) (name : String) (r : Address) : Option Value :=
  match w.heap[r]? with
  | some (.instance cls _ _) =>
    match w.heap.hook? cls name with
    | some (_, i) => i.previous
    | none => w.heap.inherited? cls r name
  | _ => none

theorem World.missing?_hosted (object : w.heap[r]? = some (.instance cls attrs core)) (name : String) :
    w.missing? name r = match w.heap.hook? cls name with
      | some (_, i) => i.previous
      | none => w.heap.inherited? cls r name := by
  rw [World.missing?, object]

/-- A world whose objects are those of another one, but for what instances have. -/
abbrev World.SameClasses (w w' : World κ) : Prop :=
  w.heap.SameClasses w'.heap

namespace World.SameClasses

theorem missing? (same : w.SameClasses w') (hosts : w.Hosts r cls name) : w'.missing? name r = w.missing? name r := by
  obtain ⟨attrs, core, there⟩ := hosts.object
  obtain ⟨attrs', there'⟩ := Heap.SameClasses.object same there
  rw [World.missing?_hosted there, World.missing?_hosted there', Heap.SameClasses.hook? same,
    Heap.SameClasses.inherited? same]

theorem hosts (same : w.SameClasses w') (hosts : w.Hosts r cls name) : w'.Hosts r cls name where
  object := by
    obtain ⟨attrs, core, there⟩ := hosts.object
    obtain ⟨attrs', there'⟩ := Heap.SameClasses.object same there
    exact ⟨attrs', core, there'⟩
  named := by
    rw [Heap.SameClasses.hook? same]
    exact hosts.named
  silent := (Heap.SameClasses.classAttr? same cls _).trans hosts.silent
  plain f := by
    rw [Heap.SameClasses.classAttr? same, Ne, Option.bind_eq_some_iff]
    simp only [Heap.reached_alike same.essence, ← Option.bind_eq_some_iff]
    exact hosts.plain f

end World.SameClasses

/-! ## One touch -/

namespace Touch

/-- An assignment that no hook takes gives the runtime its value. -/
theorem assign_run {frames : List String} {value : Value} (hosts : w.Hosts r cls name)
    (object : w.heap[r]? = some (.instance cls attrs core))
    (refused : (assign frames r value).Refused outside depth name w) : ∃ v : World κ, v.heap = w.heap ∧
      (assign frames r value).run outside depth name w =
        .ok .none (v.replaced r (.instance cls (attrs.set name value) core)) := by
  have placed : (modify fun w => { w with frames } : Run κ PUnit) w = .ok ⟨⟩ { w with frames } := rfl
  have object' : ({ w with frames } : World κ).heap[r]? = some (.instance cls attrs core) := object
  rw [run, bind_of_ok placed]
  suffices stored : ∃ v : World κ, v.heap = w.heap ∧ (setAttr (callWithin outside (depth + 1)) (.ref r) name value :
      Calling (callWithin outside (depth + 1)) Unit).run { w with frames } =
        .ok () (v.replaced r (.instance cls (attrs.set name value) core)) by
    obtain ⟨v, same, ran⟩ := stored
    exact ⟨v, same, bind_of_ok ran⟩
  cases reached : w.heap.hook? cls name with
  | none => exact ⟨{ w with frames }, rfl, setAttr_unhooked object' reached hosts.plain⟩
  | some hook =>
      obtain ⟨a, i⟩ := hook
      have found : ({ w with frames } : World κ).heap[a]? = some (.interceptor i) := Heap.hook?_found reached
      rw [setAttr_hooked object' reached]
      cases waits : i.committed with
      | true =>
          rw [intercept_committed found waits, hosts.named a i reached]
          exact ⟨{ w with frames }, rfl, storeOn_instance object' _ _⟩
      | false =>
          obtain ⟨v, checked, same⟩ := refused cls attrs core a i object reached waits
          rw [checking] at checked
          rw [intercept_checks found waits, bind_of_ok checked, hosts.named a i reached]
          exact ⟨v, same, storeOn_instance (by rw [same]; exact object) _ _⟩

/-- A read gives what the runtime has, or else what it gets. -/
theorem read_run (outside : Surroundings κ) (depth : Nat) (hosts : w.Hosts r cls name)
    (object : w.heap[r]? = some (.instance cls attrs core)) :
    ∃ c, c.kind = .attributes ∧ (read r).run outside depth name w = match (attrs.get? name).or (w.missing? name r) with
      | some x => .ok x w
      | none => .error (.failed c) w := by
  have got : (read r).run outside depth name w = (getAttr (.ref r) name : Working (callWithin outside depth) Value).run w :=
    readAttr_silent object hosts.silent hosts.plain
  rw [got, World.missing?_hosted object]
  cases reached : w.heap.hook? cls name with
  | none => exact ⟨_, rfl, getAttr_unhooked object reached⟩
  | some hook => exact ⟨_, rfl, getAttr_hooked object reached⟩

theorem delete_run (outside : Surroundings κ) (depth : Nat) (name : String)
    (object : w.heap[r]? = some (.instance cls attrs core)) :
    (delete r).run outside depth name w =
      if (attrs.get? name).isSome then .ok .none (w.replaced r (.instance cls (attrs.erase name) core))
      else .error (.failed (.noStoredAttribute name)) w := by
  have ran : (deleteAttr (.ref r) name : Quietly κ Unit).run w = _ := deleteAttr_instance object
  split at ran
  · next has => rw [if_pos has, run, bind_of_ok ran]; rfl
  · next none => rw [if_neg none, run, bind_of_error ran]

/-- An instance that is given other attributes is the only one that has something else then. -/
theorem given (name : String) (object : w.heap[r]? = some (.instance cls attrs core)) (same : v.heap = w.heap)
    (attrs' : Attributes) :
    w.SameClasses (v.replaced r (.instance cls attrs' core)) ∧
      ∀ s, (v.replaced r (.instance cls attrs' core)).stored s name =
        if s = r then attrs'.get? name else w.stored s name := by
  have object' : v.heap[r]? = some (.instance cls attrs core) := by rw [same]; exact object
  refine ⟨?_, fun s => ?_⟩
  · rw [World.SameClasses, ← same]
    exact Heap.SameClasses.replaced object' attrs'
  · split
    · next here => rw [here, World.stored_instance (World.replaced_at object')]
    · next other => rw [World.stored, World.stored, World.replaced_other (Ne.symm other), same]

/-- What a touch shows and what it leaves depends on what the runtimes have, and on what the one that is touched gets without
that. -/
theorem step {t : Touch} (hosts : w.Hosts t.runtime cls name) (refused : t.Refused outside depth name w) :
    answerOf (t.run outside depth name w) = t.shows (w.missing? name) (w.stored · name) ∧
      w.SameClasses ((t.run outside depth name).after w) ∧
      ∀ r, ((t.run outside depth name).after w).stored r name = t.leaves (w.stored · name) r := by
  cases t with
  | assign frames r value =>
      have hosts : w.Hosts r cls name := hosts
      obtain ⟨attrs, core, object⟩ := hosts.object
      obtain ⟨v, same, ran⟩ := assign_run hosts object refused
      obtain ⟨classes, stored⟩ := given name object same (attrs.set name value)
      rw [ran, after_ok ran]
      refine ⟨rfl, classes, fun s => ?_⟩
      rw [stored, Attributes.get?_set]
      rfl
  | read r =>
      have hosts : w.Hosts r cls name := hosts
      obtain ⟨attrs, core, object⟩ := hosts.object
      obtain ⟨c, kind, ran⟩ := read_run outside depth hosts object
      have held : w.stored r name = attrs.get? name := World.stored_instance object name
      simp only [shows, held]
      cases gives : (attrs.get? name).or (w.missing? name r) with
      | some x =>
          rw [gives] at ran
          rw [ran, after_ok ran]
          exact ⟨rfl, .refl _, fun _ => rfl⟩
      | none =>
          rw [gives] at ran
          rw [ran, after_error ran]
          exact ⟨by rw [answerOf, kind]; rfl, .refl _, fun _ => rfl⟩
  | delete r =>
      have hosts : w.Hosts r cls name := hosts
      obtain ⟨attrs, core, object⟩ := hosts.object
      have ran := delete_run outside depth name object
      have held : w.stored r name = attrs.get? name := World.stored_instance object name
      simp only [shows, held]
      by_cases has : (attrs.get? name).isSome
      · rw [if_pos has] at ran
        obtain ⟨classes, stored⟩ := given name object rfl (attrs.erase name)
        rw [ran, after_ok ran, if_pos has]
        refine ⟨rfl, classes, fun s => ?_⟩
        rw [stored, Attributes.get?_erase]
        rfl
      · rw [if_neg has] at ran
        rw [ran, after_error ran, if_neg has]
        refine ⟨rfl, .refl _, fun s => ?_⟩
        change w.stored s name = if s = r then none else w.stored s name
        split
        · next here => rw [here, held, Option.not_isSome_iff_eq_none.mp has]
        · rfl

end Touch

/-! ## All touches -/

/-- What is seen of touches that no hook takes depends on what the runtimes have at first, and on what they get without that. -/
theorem Touch.seen_expected {ts : List Touch} (same : u.SameClasses w)
    (hosts : ∀ t ∈ ts, ∃ cls, u.Hosts t.runtime cls name) (refused : AllRefused outside depth name ts w) :
    Touch.seen outside depth name ts w = Touch.expected (u.missing? name) ts (w.stored · name) := by
  induction ts generalizing w with
  | nil => rfl
  | cons t ts ih =>
      obtain ⟨cls, here⟩ := hosts t List.mem_cons_self
      obtain ⟨answer, classes, leaves⟩ := Touch.step (same.hosts here) refused.1
      have rest := ih (same.trans classes) (fun t mem => hosts t (List.mem_cons_of_mem _ mem)) refused.2
      rw [Touch.seen, Touch.expected, answer, rest, funext leaves, Touch.shows_congr (same.missing? here)]

/-- Where no hook stands for an attribute, none takes what is assigned to it. -/
theorem AllRefused.of_free {ts : List Touch} (same : u.SameClasses w)
    (hosts : ∀ t ∈ ts, ∃ cls, u.HostsFree t.runtime cls name) : AllRefused outside depth name ts w := by
  induction ts generalizing w with
  | nil => trivial
  | cons t ts ih =>
      obtain ⟨cls, here⟩ := hosts t List.mem_cons_self
      have refused : t.Refused outside depth name w := by
        cases t with
        | assign frames r value =>
            obtain ⟨attrs, core, object⟩ := here.object
            obtain ⟨attrs', object'⟩ := Heap.SameClasses.object same object
            intro cls' attrs'' core' a i object'' reached
            cases object'.symm.trans object''
            rw [Heap.SameClasses.hook? same, here.free] at reached
            cases reached
        | _ => trivial
      obtain ⟨-, classes, -⟩ := Touch.step (same.hosts here.toHosts) refused
      exact ⟨refused, ih (same.trans classes) fun t mem => hosts t (List.mem_cons_of_mem _ mem)⟩

/-! ## The same world without the hook -/

/-- The world in which a hook has been taken off its class. -/
def World.without (w : World κ) (a : Address) : World κ :=
  (removeHook a : Within Beside Unit).run.after w

/-- A hook is on its class in one world and off it in the other one, and this is all that tells them apart. -/
structure Uncovers (i : Interceptor) (w w' : World κ) : Prop where
  essence : w'.heap.essence = w.heap.essence
  here : w'.own i.owner i.name = i.previous
  elsewhere : ∀ cls name, name ≠ i.name ∨ cls ≠ i.owner → w'.own cls name = w.own cls name
  others : ∀ b, b ≠ i.owner → w'.heap[b]? = w.heap[b]?
  owner : (∃ k, w.heap[i.owner]? = some (.class k)) ∧ ∃ k, w'.heap[i.owner]? = some (.class k)

theorem World.HoldsHook.uncovers (waits : w.HoldsHook a i false) : Uncovers i w (w.without a) := by
  obtain ⟨k, there, has⟩ := World.class_of_own waits.own
  have ran := removeHook_on (R := Beside) waits.hook there has
  have placed := World.replaced_at (o := .class { k with attrs := i.restored k.attrs }) there
  have off : w.without a = w.replaced i.owner (.class { k with attrs := i.restored k.attrs }) := by
    rw [World.without, after_ok ran]
    rfl
  rw [off]
  refine ⟨?_, ?_, fun cls name other => ?_, fun b other => World.replaced_other (Ne.symm other), ⟨k, there⟩, _, placed⟩
  · refine Array.ext_getElem? fun b => ?_
    rw [Heap.getElem?_essence, Heap.getElem?_essence]
    by_cases same : i.owner = b
    · rw [← same, placed, there]
      rfl
    · rw [World.replaced_other same]
  · rw [World.own_class placed, i.restored_here]
  · by_cases same : cls = i.owner
    · subst same
      rw [World.own_class placed, World.own_class there, i.restored_other _ (other.resolve_right (· rfl))]
    · rw [World.own, World.own, World.replaced_other (Ne.symm same)]

/-- Two functions differ in one place only, where one of them has a value. The first value in a list is that one, or else
the same for both. -/
theorem findSome?_covered {f g : Address → Option Value} {o : Address} {x : Value} (here : f o = some x)
    (elsewhere : ∀ b, b ≠ o → g b = f b) (l : List Address) :
    l.findSome? f = some x ∧ (∀ q, g o = some q → l.findSome? g = some q) ∨ l.findSome? g = l.findSome? f := by
  induction l with
  | nil => exact .inr rfl
  | cons b l ih =>
      rw [List.findSome?_cons, List.findSome?_cons]
      by_cases same : b = o
      · subst same
        rw [here]
        exact .inl ⟨rfl, fun q has => by rw [has]⟩
      · rw [elsewhere b same]
        cases f b with
        | none => exact ih
        | some y => exact .inr rfl

namespace Uncovers

variable (uncovers : Uncovers i w w')
include uncovers

theorem classAttr?_other (cls : Address) (other : name ≠ i.name) :
    w'.heap.classAttr? cls name = w.heap.classAttr? cls name := by
  rw [World.classAttr?_eq, World.classAttr?_eq, Heap.places_alike uncovers.essence]
  exact congrArg (List.findSome? · _) (funext fun b => uncovers.elsewhere b name (.inl other))

/-- A class finds the hook, and without it what the owner of the hook had before, if it had anything. Or it finds the same in
both worlds. -/
theorem classAttr?_here (waits : w.HoldsHook a i false) (cls : Address) :
    w.heap.classAttr? cls i.name = some (.ref a) ∧
        (∀ q, i.previous = some q → w'.heap.classAttr? cls i.name = some q) ∨
      w'.heap.classAttr? cls i.name = w.heap.classAttr? cls i.name := by
  rw [World.classAttr?_eq, World.classAttr?_eq, Heap.places_alike uncovers.essence]
  refine (findSome?_covered waits.own (fun b other => uncovers.elsewhere b _ (.inr other)) _).imp_left ?_
  exact And.imp_right fun finds q had => finds q (uncovers.here.trans had)

theorem object : w'.heap[r]? = some (.instance cls attrs core) ↔ w.heap[r]? = some (.instance cls attrs core) := by
  obtain ⟨⟨k, there⟩, k', there'⟩ := uncovers.owner
  by_cases same : r = i.owner
  · rw [same, there, there']
    exact ⟨nofun, nofun⟩
  · rw [uncovers.others r same]

theorem stored (r : Address) (name : String) : w'.stored r name = w.stored r name :=
  World.stored_same (fun _ _ _ => uncovers.object.symm) name

/-- What a class does not have, its instances have from elsewhere, hook or not. -/
theorem inherited? (waits : w.HoldsHook a i false)
    (same : w'.heap.classAttr? cls i.name = w.heap.classAttr? cls i.name) (r : Address) :
    w'.heap.inherited? cls r i.name = w.heap.inherited? cls r i.name := by
  rw [Heap.inherited?, Heap.inherited?, same, Heap.onInstance_alike uncovers.essence,
    Heap.builtIn?_alike uncovers.essence]
  cases found : w.heap.classAttr? cls i.name with
  | some v => rfl
  | none =>
      have other : cls ≠ i.owner := by
        rintro rfl
        obtain ⟨k, there, -⟩ := World.class_of_own waits.own
        rw [World.classAttr?_eq, List.findSome?_eq_none_iff] at found
        have := found i.owner (Heap.mem_places there)
        rw [waits.own] at this
        cases this
      rw [Heap.told?, Heap.told?, Heap.classAt?, Heap.classAt?, uncovers.others cls other]

/-- The hook is the only one that stands for the attribute of a runtime, if any does. -/
theorem hook?_here (waits : w.HoldsHook a i false) (free : w'.heap.hook? cls i.name = none) {b : Address} {j : Interceptor}
    (reached : w.heap.hook? cls i.name = some (b, j)) : b = a ∧ j = { i with committed := false } ∧
      ∀ q, i.previous = some q → w'.heap.classAttr? cls i.name = some q := by
  obtain ⟨found, there⟩ := Heap.hook?_eq_some.mp reached
  rcases uncovers.classAttr?_here waits cls with ⟨hooked, behind⟩ | same
  · rw [found] at hooked
    cases hooked
    rw [waits.hook] at there
    cases there
    exact ⟨rfl, rfl, behind⟩
  · have reached' := Heap.hook?_eq_some.mpr ⟨same.trans found, (Heap.interceptor_alike uncovers.essence b j).mpr there⟩
    rw [free] at reached'
    cases reached'

theorem classAttr?_free (waits : w.HoldsHook a i false) (free : w.heap.hook? cls i.name = none) :
    w'.heap.classAttr? cls i.name = w.heap.classAttr? cls i.name := by
  rcases uncovers.classAttr?_here waits cls with ⟨hooked, -⟩ | same
  · rw [Heap.hook?_eq_some.mpr ⟨hooked, waits.hook⟩] at free
    cases free
  · exact same

theorem hosts (waits : w.HoldsHook a i false) (named : i.name ≠ "__getattr__") (hosts : w'.HostsFree r cls i.name) :
    w.Hosts r cls i.name where
  object := by
    obtain ⟨attrs, core, object⟩ := hosts.object
    exact ⟨attrs, core, uncovers.object.mp object⟩
  named b j reached := by
    obtain ⟨-, rfl, -⟩ := uncovers.hook?_here waits hosts.free reached
    rfl
  silent := (uncovers.classAttr?_other cls (Ne.symm named)).symm.trans hosts.silent
  plain f computed := by
    rcases uncovers.classAttr?_here waits cls with ⟨hooked, -⟩ | same
    · rw [hooked, Option.bind_some, Heap.at?, show w.heap.core (.ref a) = .ref a by simp only [Heap.core, waits.hook]]
        at computed
      cases waits.hook.symm.trans computed
    · obtain ⟨v, found, there⟩ := Option.bind_eq_some_iff.mp computed
      refine hosts.plain f (Option.bind_eq_some_iff.mpr ⟨v, same.trans found, ?_⟩)
      exact (Heap.reached_alike uncovers.essence v .computed f).mpr there

/-- What a runtime gets that has nothing itself, with the hook and without it. -/
theorem missing? (waits : w.HoldsHook a i false) (hosts : w'.HostsFree r cls i.name) :
    w.heap.hook? cls i.name = none ∧ w.missing? i.name r = w'.missing? i.name r ∨
      w.heap.hook? cls i.name = some (a, { i with committed := false }) ∧ w.missing? i.name r = i.previous ∧
        w'.missing? i.name r = match i.previous with
          | some q => some (w'.heap.onInstance (.ref r) q)
          | none => w'.heap.inherited? cls r i.name := by
  obtain ⟨attrs, core, object⟩ := hosts.object
  rw [World.missing?_hosted (uncovers.object.mp object), World.missing?_hosted object, hosts.free]
  cases reached : w.heap.hook? cls i.name with
  | none => exact .inl ⟨rfl, (uncovers.inherited? waits (uncovers.classAttr?_free waits reached) r).symm⟩
  | some hook =>
      obtain ⟨b, j⟩ := hook
      obtain ⟨rfl, rfl, behind⟩ := uncovers.hook?_here waits hosts.free reached
      refine .inr ⟨rfl, rfl, ?_⟩
      cases had : i.previous with
      | none => rfl
      | some q =>
          dsimp only
          rw [Heap.inherited?, behind q had]
          rfl

/-- For a runtime that the hook stands for, this makes no difference exactly if what the hook has put aside is seen as it is, and
nothing is inherited where it has put nothing aside. -/
theorem missing?_iff (waits : w.HoldsHook a i false) (hosts : w'.HostsFree r cls i.name)
    (reached : w.heap.hook? cls i.name = some (a, { i with committed := false })) :
    w.missing? i.name r = w'.missing? i.name r ↔
      (∀ q, i.previous = some q → w'.heap.onInstance (.ref r) q = q) ∧
      (i.previous = none → w'.heap.inherited? cls r i.name = none) := by
  rcases uncovers.missing? waits hosts with ⟨none, -⟩ | ⟨-, behind, bare⟩
  · rw [none] at reached
    cases reached
  · rw [behind, bare]
    cases i.previous with
    | some q => simp [eq_comm]
    | none => simp [eq_comm]

/-- What is seen of touches that the hook does not take, with the hook and without it. -/
theorem seen {ts : List Touch} (waits : w.HoldsHook a i false) (named : i.name ≠ "__getattr__")
    (hosts : ∀ t ∈ ts, ∃ cls, w'.HostsFree t.runtime cls i.name) (refused : AllRefused outside depth i.name ts w) :
    Touch.seen outside depth i.name ts w = Touch.expected (w.missing? i.name) ts (w.stored · i.name) ∧
      Touch.seen outside depth i.name ts w' = Touch.expected (w'.missing? i.name) ts (w.stored · i.name) := by
  constructor
  · exact Touch.seen_expected (.refl _) (fun t mem => (hosts t mem).imp fun _ => uncovers.hosts waits named) refused
  · have bare : Touch.seen outside depth i.name ts w' = _ := Touch.seen_expected (.refl _)
      (fun t mem => (hosts t mem).imp fun _ free => free.toHosts) (.of_free (.refl _) hosts)
    rw [bare]
    exact congrArg _ (funext fun r => uncovers.stored r i.name)

end Uncovers

/-! ## What the hook hides -/

/-- A hook that waits keeps from the runtimes what they would inherit. Assignments that it does not take, deletions, and reads
of what a runtime has itself are as without it. A runtime that has nothing itself gets what the class of the hook had, as it
was put there, or an error if that had nothing, while without the hook functions are bound and what is inherited from
farther up is found. So the hook is not seen, whatever is done, if and only if that makes no difference for any runtime. -/
theorem waiting_hook_unseen_iff (waits : w.HoldsHook a i false) (named : i.name ≠ "__getattr__") :
    (∀ ts, (∀ t ∈ ts, ∃ cls, (w.without a).HostsFree t.runtime cls i.name) → AllRefused outside depth i.name ts w →
      Touch.seen outside depth i.name ts w = Touch.expected (w.missing? i.name) ts (w.stored · i.name) ∧
      Touch.seen outside depth i.name ts (w.without a) = Touch.expected ((w.without a).missing? i.name) ts (w.stored · i.name)) ∧
    ((∀ ts, (∀ t ∈ ts, ∃ cls, (w.without a).HostsFree t.runtime cls i.name) → AllRefused outside depth i.name ts w →
      Touch.seen outside depth i.name ts w = Touch.seen outside depth i.name ts (w.without a)) ↔
    ∀ r cls, (w.without a).HostsFree r cls i.name → w.heap.hook? cls i.name = some (a, { i with committed := false }) →
      (∀ q, i.previous = some q → (w.without a).heap.onInstance (.ref r) q = q) ∧
      (i.previous = none → (w.without a).heap.inherited? cls r i.name = none)) := by
  have uncovers := waits.uncovers
  refine ⟨fun ts => uncovers.seen waits named, fun unseen r cls free reached => ?_, fun same ts hosts refused => ?_⟩
  · -- A deletion and a read tell what a runtime gets that has nothing itself.
    have hosts : ∀ t ∈ [Touch.delete r, .read r], ∃ cls, (w.without a).HostsFree t.runtime cls i.name := by
      intro t mem
      have : t.runtime = r := by
        rcases List.mem_pair.mp mem with rfl | rfl <;> rfl
      exact ⟨cls, this ▸ free⟩
    have refused : AllRefused outside depth i.name [.delete r, .read r] w := ⟨trivial, trivial, trivial⟩
    obtain ⟨hooked, bare⟩ := uncovers.seen waits named hosts refused
    have alike := unseen _ hosts refused
    rw [hooked, bare, Touch.expected_delete_read] at alike
    exact (uncovers.missing?_iff waits free reached).mp alike
  · obtain ⟨hooked, bare⟩ := uncovers.seen waits named hosts refused
    rw [hooked, bare]
    refine Touch.expected_congr fun t mem => ?_
    obtain ⟨cls, free⟩ := hosts t mem
    rcases uncovers.missing? waits free with ⟨-, equal⟩ | ⟨reached, -⟩
    · exact equal
    · exact (uncovers.missing?_iff waits free reached).mpr (same _ cls free reached)

/-! ## An attribute that is inherited -/

/-- A class that inherits a module table, and a runtime of it. -/
def heirs : World Unit :=
  World.furnished [] () [.class ⟨"Root", "Root", "host", [], [("modules", .int 5)]⟩,
    .class ⟨"Base", "Base", "host", [.ref (loadedPlace 0)], []⟩, .instance (loadedPlace 1) [] none]

/-- The hook on the heir. -/
def heirsHook : Interceptor :=
  ⟨loadedPlace 1, standardTableAttr, { markers := ["host.py"] }, .table, 1, false, none⟩

/-- The same world with the hook. -/
def heirsHooked : World Unit :=
  (installHook (loadedPlace 1) standardTableAttr { markers := ["host.py"] } .table 1 : Within Beside _).run.after heirs

/-- The runtime inherits the table, but with the hook it has none. -/
theorem hook_hides_inherited : Touch.seen inert 9 standardTableAttr [.read (loadedPlace 2)] heirs = [.ok (.int 5)] ∧
    Touch.seen inert 9 standardTableAttr [.read (loadedPlace 2)] heirsHooked = [.error (some .attributes)] :=
  ⟨rfl, rfl⟩

/-- What is done with the attribute of the runtime, from nowhere in the host. -/
def heirsTouches : List Touch :=
  [.assign ["elsewhere"] (loadedPlace 2) (.int 7), .read (loadedPlace 2), .delete (loadedPlace 2), .read (loadedPlace 2)]

theorem heirsHooked_holds : heirsHooked.HoldsHook (loadedPlace 3) heirsHook false :=
  installHook_holds (u := heirs) (R := Beside) rfl rfl

theorem heirs_free : (heirsHooked.without (loadedPlace 3)).HostsFree (loadedPlace 2) (loadedPlace 1) standardTableAttr where
  object := ⟨_, _, rfl⟩
  named := nofun
  silent := rfl
  plain := nofun
  free := rfl

theorem heirsTouches_refused : AllRefused inert 9 standardTableAttr heirsTouches heirsHooked := by
  refine ⟨fun cls attrs core a i object reached _ => ?_, trivial, trivial, trivial, trivial⟩
  cases (show heirsHooked.heap[loadedPlace 2]? = some (.instance (loadedPlace 1) [] none) from rfl).symm.trans object
  cases (show heirsHooked.heap.hook? (loadedPlace 1) standardTableAttr = some (loadedPlace 3, heirsHook) from rfl).symm.trans
    reached
  exact ⟨_, rfl, rfl⟩

/-- What the runtime is given it has with the hook as without it; what it inherits is gone. -/
theorem waiting_hook_unseen_iff_heirs : AllRefused inert 9 standardTableAttr heirsTouches heirsHooked ∧
    Touch.seen inert 9 standardTableAttr heirsTouches heirsHooked =
      [.ok .none, .ok (.int 7), .ok .none, .error (some .attributes)] ∧
    Touch.seen inert 9 standardTableAttr heirsTouches (heirsHooked.without (loadedPlace 3)) =
      [.ok .none, .ok (.int 7), .ok .none, .ok (.int 5)] := by
  have hosts : ∀ t ∈ heirsTouches, ∃ cls, (heirsHooked.without (loadedPlace 3)).HostsFree t.runtime cls heirsHook.name := by
    intro t mem
    have : t.runtime = loadedPlace 2 := by
      rcases mem with _ | ⟨_, _ | ⟨_, _ | ⟨_, _ | ⟨_, ⟨⟩⟩⟩⟩⟩ <;> rfl
    exact ⟨loadedPlace 1, this ▸ heirs_free⟩
  obtain ⟨hooked, without⟩ := (waiting_hook_unseen_iff heirsHooked_holds (by decide)).1 heirsTouches hosts
    heirsTouches_refused
  exact ⟨heirsTouches_refused, hooked.trans rfl, without.trans rfl⟩

end Patchwork
