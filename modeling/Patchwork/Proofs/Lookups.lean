import Patchwork.Proofs.Placement

/-!
What an instance has under a name: something of its own, what a hook gives, or what it inherits. What it inherits depends
on what its classes have, and otherwise on nothing that can be filled anew.
-/

namespace Patchwork

open Run

variable {κ : Type} {R : World κ → World κ → Prop} [Still R] {u w : World κ} {h h' : Heap} {a cls r : Address}
  {name : String} {attrs : Attributes} {core : Option Value} {i : Interceptor} {value : Value}

/-! ## Objects without their content -/

/-- All objects without the content that can be replaced. -/
def Heap.essence (h : Heap) : Heap :=
  h.map Object.essence

namespace Heap

theorem getElem?_essence (h : Heap) (a : Nat) : h.essence[a]? = h[a]?.map Object.essence :=
  Array.getElem?_map

theorem core_essence (h : Heap) (v : Value) : h.essence.core v = h.core v := by
  cases v with
  | ref a =>
      simp only [Heap.core, getElem?_essence]
      cases h[a]? with
      | none => rfl
      | some o =>
          cases o with
          | «instance» cls attrs core => cases core <;> rfl
          | _ => rfl
  | _ => rfl

theorem at?_essence (h : Heap) (v : Value) : h.essence.at? v = (h.at? v).map Object.essence := by
  rw [Heap.at?, Heap.at?, core_essence]
  split
  · exact getElem?_essence _ _
  · rfl

theorem typeName_essence (h : Heap) (long : Bool) (v : Value) : h.essence.typeName long v = h.typeName long v := by
  cases v with
  | ref a =>
      simp only [Heap.typeName, getElem?_essence]
      cases h[a]? with
      | none => rfl
      | some o =>
          cases o with
          | «instance» cls attrs core =>
              simp only [Option.map_some, Object.essence]
              cases h[cls]? with
              | none => rfl
              | some o => cases o <;> rfl
          | _ => rfl
  | bound v name =>
      have same := at?_essence h v
      cases found : h.at? v with
      | none =>
          rw [found] at same
          cases v with
          | native n => cases n <;> simp only [Heap.typeName, same, found, Option.map_none]
          | _ => simp only [Heap.typeName, same, found, Option.map_none]
      | some o =>
          rw [found, Option.map_some] at same
          cases v with
          | native n => cases n <;> simp only [Heap.typeName, same, found] <;> cases o <;> rfl
          | _ =>
              simp only [Heap.typeName, same, found]
              cases o <;> rfl
  | native n =>
      cases n with
      | function name =>
          unfold Heap.typeName
          split <;> first | rfl | contradiction
      | _ => rfl
  | _ => rfl

theorem typeOf_essence (h : Heap) (v : Value) : typeOf h.essence v = typeOf h v := by
  cases v with
  | ref a =>
      simp only [typeOf, getElem?_essence, typeName_essence]
      cases h[a]? with
      | none => rfl
      | some o =>
          cases o with
          | «instance» cls attrs core =>
              simp only [Option.map_some, Object.essence]
              cases h[cls]? with
              | none => rfl
              | some o => cases o <;> rfl
          | _ => rfl
  | native n => cases n <;> simp only [typeOf, typeName_essence]
  | _ => simp only [typeOf, typeName_essence]

theorem onInstance_essence (h : Heap) (self v : Value) : h.essence.onInstance self v = h.onInstance self v := by
  cases v with
  | ref a =>
      simp only [Heap.onInstance, getElem?_essence, typeOf_essence]
      cases h[a]? with
      | none => rfl
      | some o =>
          cases o with
          | reached access f => cases access <;> rfl
          | _ => rfl
  | native n => cases n <;> rfl
  | _ => rfl

theorem ancestry_essence (h : Heap) : (fuel : Nat) → (cls : Address) → h.essence.ancestry fuel cls = h.ancestry fuel cls
  | 0, _ => rfl
  | fuel + 1, cls => by
      simp only [Heap.ancestry, getElem?_essence]
      cases h[cls]? with
      | none => rfl
      | some o =>
          cases o with
          | «class» c =>
              simp only [Option.map_some, Object.essence, List.cons.injEq, true_and]
              congr 1
              funext b
              cases b with
              | ref b => exact ancestry_essence h fuel b
              | _ => rfl
          | _ => rfl

theorem interceptor_essence (h : Heap) (b : Nat) (j : Interceptor) :
    h.essence[b]? = some (.interceptor j) ↔ h[b]? = some (.interceptor j) := by
  rw [getElem?_essence]
  cases h[b]? with
  | none => exact Iff.rfl
  | some o => cases o <;> simp [Object.essence]

theorem reached_essence (h : Heap) (v : Value) (access : Access) (f : Value) :
    h.essence.at? v = some (.reached access f) ↔ h.at? v = some (.reached access f) := by
  rw [at?_essence]
  cases h.at? v with
  | none => exact Iff.rfl
  | some o => cases o <;> simp [Object.essence]

/-! ## Attributes of classes -/

/-- Where a class and those that it inherits from stand, in the order in which attributes are looked up. -/
def places (h : Heap) (cls : Address) : List Address :=
  (h.ancestry lineageLimit cls).reverse.eraseDups.reverse

theorem places_essence (h : Heap) (cls : Address) : h.essence.places cls = h.places cls := by
  rw [places, places, ancestry_essence]

/-- Two heaps have the same objects but for what can be filled anew, and the same classes. -/
structure SameClasses (h h' : Heap) : Prop where
  essence : h'.essence = h.essence
  classes : ∀ (a : Nat) k, h'[a]? = some (.class k) ↔ h[a]? = some (.class k)

end Heap

theorem World.own_eq_some : w.own cls name = some value ↔
    ∃ k, w.heap[cls]? = some (.class k) ∧ k.attrs.get? name = some value :=
  ⟨World.class_of_own, fun ⟨_, there, has⟩ => (World.own_class there _).trans has⟩

theorem World.classAttr?_eq (w : World κ) (cls : Address) (name : String) :
    w.heap.classAttr? cls name = (w.heap.places cls).findSome? (w.own · name) := by
  rw [Heap.classAttr?, Heap.lineage, Heap.places, ← List.head?_filterMap, List.filterMap_filterMap, List.head?_filterMap]
  congr 1
  funext b
  rw [World.own, Heap.classAt?]
  cases w.heap[b]? with
  | none => rfl
  | some o => cases o <;> rfl

theorem Heap.hook?_eq_some : h.hook? cls name = some (a, i) ↔
    h.classAttr? cls name = some (.ref a) ∧ h[a]? = some (.interceptor i) := by
  refine ⟨fun found => ⟨?_, Heap.hook?_found found⟩, fun ⟨found, there⟩ => by simp only [Heap.hook?, found, there]⟩
  rw [Heap.hook?] at found
  split at found
  · next b here =>
      split at found
      · cases found
        exact here
      · cases found
  · cases found

theorem Heap.classAt?_eq_some {k : ClassObject} : h.classAt? cls = some k ↔ h[cls]? = some (.class k) := by
  rw [Heap.classAt?]
  split
  · next k' there => rw [there, Option.some_inj, Option.some_inj, Object.class.injEq]
  · next none => exact ⟨nofun, fun there => absurd there (none k)⟩

/-- A class itself is among the places where its attributes are looked up. -/
theorem Heap.mem_places {k : ClassObject} (there : h[cls]? = some (.class k)) : cls ∈ h.places cls := by
  rw [Heap.places, List.mem_reverse, List.mem_eraseDups, List.mem_reverse, show Heap.lineageLimit = 49 + 1 from rfl,
    Heap.ancestry, there]
  exact List.mem_cons_self

/-! ## What instances inherit -/

/-- What is built in under a name. -/
def Heap.builtIn? (h : Heap) (v : Value) (name : String) : Option Value :=
  if name = "__class__" then some (typeOf h v)
  else
    match h.core v with
    | .failure _ args => if name = "args" then some (.tuple args) else none
    | core => (core.numberPart? name).or
        (if (methodsOf (h.typeName false core)).contains name then some (.bound v name) else none)

/-- What a class tells its instances of itself. -/
def Heap.told? (h : Heap) (cls : Address) (name : String) : Option Value :=
  if name = "__module__" || name = "__doc__" then (h.classAt? cls).bind (classFact? · name) else none

/-- What an instance of a class has under a name if it has nothing itself: what its class has, with functions bound, or else
what is built in. -/
def Heap.inherited? (h : Heap) (cls r : Address) (name : String) : Option Value :=
  ((h.classAttr? cls name).map (h.onInstance (.ref r))).or ((h.told? cls name).or (h.builtIn? (.ref r) name))

/-- What is built in depends on nothing that can be filled anew. -/
theorem Heap.builtIn?_essence (h : Heap) (v : Value) (name : String) : h.essence.builtIn? v name = h.builtIn? v name := by
  simp only [Heap.builtIn?, typeOf_essence, core_essence, typeName_essence]

/-! Two heaps that are the same without their content give the same answers. -/

namespace Heap

variable (alike : h'.essence = h.essence)
include alike

theorem interceptor_alike (a : Nat) (i : Interceptor) :
    h'[a]? = some (.interceptor i) ↔ h[a]? = some (.interceptor i) := by
  rw [← interceptor_essence, alike, interceptor_essence]

theorem reached_alike (v : Value) (access : Access) (f : Value) :
    h'.at? v = some (.reached access f) ↔ h.at? v = some (.reached access f) := by
  rw [← reached_essence, alike, reached_essence]

theorem onInstance_alike (self : Value) : h'.onInstance self = h.onInstance self := by
  ext1 v
  rw [← onInstance_essence, alike, onInstance_essence]

theorem places_alike (cls : Address) : h'.places cls = h.places cls := by
  rw [← places_essence, alike, places_essence]

theorem builtIn?_alike (v : Value) (name : String) : h'.builtIn? v name = h.builtIn? v name := by
  rw [← builtIn?_essence, alike, builtIn?_essence]

end Heap

namespace Heap.SameClasses

variable {w' : World κ}

theorem refl (h : Heap) : h.SameClasses h :=
  ⟨rfl, fun _ _ => Iff.rfl⟩

theorem trans {h'' : Heap} (first : h.SameClasses h') (second : h'.SameClasses h'') : h.SameClasses h'' :=
  ⟨second.essence.trans first.essence, fun a k => (second.classes a k).trans (first.classes a k)⟩

theorem object (same : h.SameClasses h') (there : h[r]? = some (.instance cls attrs core)) :
    ∃ attrs', h'[r]? = some (.instance cls attrs' core) := by
  have found := getElem?_essence h' r
  rw [same.essence, getElem?_essence, there] at found
  cases there' : h'[r]? with
  | none =>
      rw [there'] at found
      cases found
  | some o =>
      rw [there'] at found
      cases o with
      | «instance» cls' attrs' core' =>
          obtain ⟨rfl, -, rfl⟩ := Object.instance.inj (Option.some.inj found)
          exact ⟨attrs', rfl⟩
      | _ => cases found

theorem own (same : w.heap.SameClasses w'.heap) (cls : Address) (name : String) : w'.own cls name = w.own cls name := by
  ext value
  simp only [World.own_eq_some, same.classes]

theorem classAttr? (same : w.heap.SameClasses w'.heap) (cls : Address) (name : String) :
    w'.heap.classAttr? cls name = w.heap.classAttr? cls name := by
  rw [World.classAttr?_eq, World.classAttr?_eq, places_alike same.essence]
  exact congrArg (List.findSome? · _) (funext fun b => same.own b name)

theorem hook? (same : w.heap.SameClasses w'.heap) (cls : Address) (name : String) :
    w'.heap.hook? cls name = w.heap.hook? cls name := by
  ext ⟨a, i⟩
  simp only [Heap.hook?_eq_some, same.classAttr?, interceptor_alike same.essence]

theorem classAt? (same : h.SameClasses h') (cls : Address) : h'.classAt? cls = h.classAt? cls := by
  ext k
  simp only [Heap.classAt?_eq_some, same.classes]

theorem inherited? (same : w.heap.SameClasses w'.heap) (cls r : Address) (name : String) :
    w'.heap.inherited? cls r name = w.heap.inherited? cls r name := by
  rw [Heap.inherited?, Heap.inherited?, same.classAttr?, onInstance_alike same.essence, builtIn?_alike same.essence,
    Heap.told?, Heap.told?, same.classAt?]

/-- Instances may have other attributes. -/
theorem replaced (there : w.heap[r]? = some (.instance cls attrs core)) (attrs' : Attributes) :
    w.heap.SameClasses (w.replaced r (.instance cls attrs' core)).heap where
  essence := Array.ext_getElem? fun b => by
    rw [getElem?_essence, getElem?_essence]
    by_cases same : r = b
    · rw [← same, World.replaced_at there, there]
      rfl
    · rw [World.replaced_other same]
  classes b k := by
    by_cases same : r = b
    · rw [← same, World.replaced_at there, there]
      exact ⟨nofun, nofun⟩
    · rw [World.replaced_other same]

end Heap.SameClasses

theorem builtinMethod_eq (v : Value) (name : String) : (builtinMethod v name : Within R Value) =
    (do
      match (← heap).builtIn? v name with
      | some x => pure x
      | none => noAttribute v name) := by
  refine bind_congr fun h => ?_
  unfold Heap.builtIn?
  split
  · rfl
  · generalize h.core v = core
    cases core with
    | failure k args =>
        dsimp only
        split <;> rfl
    | _ =>
        dsimp only
        split
        · next x part => rw [part]; rfl
        · next none =>
            rw [none, Option.none_or]
            split <;> rfl

theorem builtinMethod_run (v : Value) (name : String) (w : World κ) :
    (builtinMethod v name : Within R Value).run w = match w.heap.builtIn? v name with
      | some x => .ok x w
      | none => .error (.failed (.noAttribute (w.heap.kindOf v) name)) w := by
  rw [builtinMethod_eq, Within.run_bind, bind_of_ok (heap_run w)]
  cases w.heap.builtIn? v name <;> rfl

theorem orMissing_run (v : Value) (name : String) (found : Option Value) (w : World κ) :
    (orMissing v name found : Within R Value).run w = match found.or (w.heap.builtIn? v name) with
      | some x => .ok x w
      | none => .error (.failed (.noAttribute (w.heap.kindOf v) name)) w := by
  cases found with
  | some x => rfl
  | none => exact builtinMethod_run v name w

/-- Reading an attribute that no hook stands for gives what the instance has itself, or what it inherits. -/
theorem getAttr_unhooked (object : w.heap[r]? = some (.instance cls attrs core)) (free : w.heap.hook? cls name = none) :
    (getAttr (.ref r) name : Within R Value).run w = match (attrs.get? name).or (w.heap.inherited? cls r name) with
      | some x => .ok x w
      | none => .error (.failed (.noAttribute (w.heap.kindOf (.ref r)) name)) w := by
  simp only [getAttr]
  rw [Within.run_bind, bind_of_ok (heap_run w)]
  simp only [object, free]
  cases attrs.get? name with
  | some x => rfl
  | none =>
      rw [Option.none_or, Heap.inherited?, Heap.told?, Heap.classAt?]
      have builtin := builtinMethod_run (R := R) (.ref r) name w
      cases w.heap.classAttr? cls name with
      | some q => rfl
      | none =>
          cases w.heap[cls]? with
          | none => simpa using builtin
          | some o =>
              cases o with
              | «class» k =>
                  simp only [Option.map_none, Option.none_or, Option.bind_some]
                  split
                  · exact orMissing_run _ _ _ _
                  · exact builtin
              | _ => simpa using builtin

/-- Reading an attribute that a hook stands for gives what the instance has itself, or what stood in the place of the
hook. -/
theorem getAttr_hooked (object : w.heap[r]? = some (.instance cls attrs core))
    (reached : w.heap.hook? cls name = some (a, i)) :
    (getAttr (.ref r) name : Within R Value).run w = match (attrs.get? name).or i.previous with
      | some x => .ok x w
      | none => .error (.failed (.noStoredAttribute name)) w := by
  simp only [getAttr]
  rw [Within.run_bind, bind_of_ok (heap_run w)]
  simp only [object, reached]
  cases attrs.get? name with
  | some x => rfl
  | none => cases i.previous <;> rfl

/-- What reading an attribute gives where nothing is computed and nothing stands for missing attributes. -/
theorem readAttr_silent {call : Caller κ} [Calls call R] (object : w.heap[r]? = some (.instance cls attrs core))
    (silent : w.heap.classAttr? cls "__getattr__" = none)
    (plain : ∀ f, (w.heap.classAttr? cls name).bind w.heap.at? ≠ some (.reached .computed f)) :
    (readAttr call (.ref r) name : Within R Value).run w = (getAttr (.ref r) name : Within R Value).run w := by
  have own : (ownMethod? (.ref r) "__getattr__" : Within R _).run w = .ok none w := by
    rw [ownMethod?, Within.run_bind, bind_of_ok (heap_run _)]
    simp only [object, silent]
    rfl
  have nothing : (computedAttr? call (.ref r) name : Within R _).run w = .ok none w := by
    rw [computedAttr?, Within.run_bind, bind_of_ok (heap_run _)]
    simp only [classOf?, object, Option.bind_some]
    rfl
  rw [readAttr, Within.run_bind, bind_of_ok own]
  dsimp only
  rw [Within.run_bind, bind_of_ok nothing]

/-! ## What instances are given -/

/-- Storing an attribute that no hook stands for. -/
theorem setAttr_unhooked {call : Caller κ} [Calls call R] (object : w.heap[r]? = some (.instance cls attrs core))
    (free : w.heap.hook? cls name = none)
    (plain : ∀ f, (w.heap.classAttr? cls name).bind w.heap.at? ≠ some (.reached .computed f)) :
    (setAttr call (.ref r) name value : Within R Unit).run w =
      .ok () (w.replaced r (.instance cls (attrs.set name value) core)) := by
  rw [setAttr, Within.run_bind, bind_of_ok (heap_run w)]
  simp only [object, free]
  exact write_run object _

theorem deleteAttr_instance (object : w.heap[r]? = some (.instance cls attrs core)) :
    (deleteAttr (.ref r) name : Within R Unit).run w =
      if (attrs.get? name).isSome then .ok () (w.replaced r (.instance cls (attrs.erase name) core))
      else .error (.failed (.noStoredAttribute name)) w := by
  rw [deleteAttr, Within.run_bind, bind_of_ok (heap_run w)]
  simp only [object]
  split
  · exact write_run object _
  · rfl

end Patchwork
