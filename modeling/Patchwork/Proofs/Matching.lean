import Patchwork.Proofs.Growth
import Patchwork.Proofs.HostErrors
import Patchwork.Proofs.Pending

/-!
Early and late requests. A request that is made before some modules run is answered in a pass over the subscriptions,
one that is made after them by a search through the cache. Both find the same export, since both come down to the
first candidate of a module that the filter accepts before it fails on one.
-/

namespace Patchwork

open Run

variable {κ : Type}

/-! ## What there is to find -/

/-- Whether a filter accepts a value; nothing if it fails on it. -/
abbrev Verdict := Value → Option Bool

/-- The first candidate that is accepted, unless the filter fails on one before. -/
def Verdict.accepted (verdict : Verdict) : List Value → Option Value
  | [] => none
  | x :: rest =>
    match verdict x with
    | some true => some x
    | some false => accepted verdict rest
    | none => none

/-- A module that ran: what it exports, and the normal form of that. -/
structure Loaded where
  id : Value
  module : Value
  exports : Value
  normal : Exports
  exported : exports ≠ .none
  shown : normal.kind ≠ .global

/-- The id and the accepted candidate of the first module that has one. -/
def Verdict.chosen (verdict : Verdict) (ms : List Loaded) : Option (Value × Value) :=
  ms.findSome? fun m => (verdict.accepted m.normal.candidates).map fun x => (m.id, x)

/-- A filter is asked about a value. -/
def judge (call : Caller κ) (filter x : Value) : Calling call Bool := do
  truth call (← ask call filter (.of [x]))

/-- A filter gives its verdict on a value, and changes nothing but that it may make objects and log. -/
def Gives (call : Caller κ) (filter x : Value) (w : World κ) : Option Bool → Prop
  | some b => ∃ v, Grows w v ∧ (judge call filter x).run w = .ok b v
  | none => ∃ c v, c.kind.isFatal = false ∧ Grows w v ∧ (judge call filter x).run w = .error (.failed c) v

/-- Worlds in which the exports of a module are what they were when it ran. There the module is not hidden, and a filter
judges the same candidates in the same way; keys that are equal to the filter are the same filter. -/
structure Settled (call : Caller κ) (n : Nat) (filter : Value) (verdict : Verdict) (m : Loaded)
    (S : World κ → Prop) : Prop where
  grown : ∀ {w v}, S w → Grows w v → S v
  noted : ∀ {w} d, S w → S (w.noted d)
  visible : ∀ {w}, S w → (isHiddenIn (w.registry n).modules m.id : Calling call Bool).run w = .ok false w
  held : ∀ {w}, S w → ∃ v, Grows w v ∧
    (readAttr? call m.module "exports" : Calling call _).run w = .ok (some m.exports) v
  normal : ∀ {w}, S w → ∃ v, Grows w v ∧ (exportsOf call m.exports : Calling call _).run w = .ok m.normal v
  judged : ∀ {w}, S w → ∀ x ∈ m.normal.candidates, ∀ f, Value.sameKey f filter = true → Gives call f x w (verdict x)

/-- The cache of modules has exactly these, in this order. -/
def Lists (call : Caller κ) (n : Nat) (ms : List Loaded) (w : World κ) : Prop :=
  ∃ v, Grows w v ∧ (cachedModules call (w.registry n).require : Calling call _).run w =
    .ok (ms.map fun m => (m.id, m.module)) v

/-! ## One module -/

theorem Grows.registry {w v : World κ} (h : Grows w v) (n : Nat) : v.registry n = w.registry n := by
  rw [World.registry, World.registry, h.registries]

/-- How the test of some candidates ends. -/
inductive Tested (call : Caller κ) (filter : Value) (candidates : List Value) (w v : World κ) : Option Value → Prop where
  | accepts {x} : Accepts call filter candidates w x v → Tested call filter candidates w v (some x)
  | rejects : (firstAccepted call filter candidates : Calling call _).run w = .ok none v →
      Tested call filter candidates w v none
  | fails {c} : c.kind.isFatal = false →
      (firstAccepted call filter candidates : Calling call _).run w = .error (.failed c) v →
      Tested call filter candidates w v none

section

variable {call : Caller κ} {filter : Value} {verdict : Verdict} {S : World κ → Prop}

theorem judge_ok {x : Value} {b : Bool} {w v : World κ} (h : (judge call filter x).run w = .ok b v) :
    ∃ answer u, call filter (.of [x]) w = .ok answer u ∧ (truth call answer : Calling call Bool).run u = .ok b v :=
  bind_ok.mp h

theorem firstAccepted_cons (x : Value) (rest : List Value) :
    (firstAccepted call filter (x :: rest) : Calling call _).run =
      (judge call filter x).run >>= fun b =>
        if b then pure (some x) else (firstAccepted call filter rest : Calling call _).run := by
  rw [firstAccepted, judge, Within.run_bind, Within.run_bind, bind_assoc]
  congr 1
  funext answer
  rw [Within.run_bind]
  congr 1
  funext b
  cases b <;> rfl

/-- Candidates are tested in worlds that tests lead on to such worlds. -/
theorem tested (grown : ∀ {w v}, S w → Grows w v → S v) :
    {candidates : List Value} → {w : World κ} → S w →
      (∀ {w}, S w → ∀ x ∈ candidates, Gives call filter x w (verdict x)) →
      ∃ v, Grows w v ∧ Tested call filter candidates w v (verdict.accepted candidates)
  | [], w, _, _ => ⟨w, Lasting.refl w, .rejects rfl⟩
  | x :: rest, w, hw, judged => by
      have first := judged hw x List.mem_cons_self
      rw [Verdict.accepted]
      cases given : verdict x with
      | none =>
          rw [given] at first
          obtain ⟨c, v, ordinary, grows, failed⟩ := first
          refine ⟨v, grows, .fails ordinary ?_⟩
          rw [firstAccepted_cons]
          exact bind_of_error failed
      | some b =>
          rw [given] at first
          obtain ⟨v, grows, done⟩ := first
          obtain ⟨answer, u, called, told⟩ := judge_ok done
          cases b with
          | true => exact ⟨v, grows, .accepts (.here called told)⟩
          | false =>
              obtain ⟨z, later, rest⟩ := tested grown (grown hw grows) fun h x hx => judged h x (List.mem_cons_of_mem _ hx)
              refine ⟨z, Lasting.trans grows later, ?_⟩
              generalize verdict.accepted _ = found at rest
              cases rest with
              | accepts accepted => exact .accepts (.later called told accepted)
              | rejects none =>
                  refine .rejects ?_
                  rw [firstAccepted_cons]
                  exact (bind_of_ok done).trans none
              | fails ordinary failed =>
                  refine .fails ordinary ?_
                  rw [firstAccepted_cons]
                  exact (bind_of_ok done).trans failed

end

/-! ## Looking through the cache -/

section

variable {call : Caller κ} {n : Nat} {filter : Value} {verdict : Verdict} {S : Loaded → World κ → Prop}
  {ms : List Loaded} {w : World κ}

/-- The candidate of a module that ran which the filter accepts; a failure is reported. -/
def searchModule (call : Caller κ) (filter id exports : Value) : Calling call (Option Value) :=
  handle (do firstAccepted call filter (← exportsOf call exports).candidates) fun c => do
    logFailure s!"Error while testing module {← str id} against export filter {← repr filter}" c
    pure none

theorem searchIn_cons {modules id module exports : Value} {rest : List (Value × Value)} {u : World κ}
    (visible : (isHiddenIn modules id : Calling call Bool).run w = .ok false w)
    (read : (readAttr? call module "exports" : Calling call _).run w = .ok (some exports) u)
    (given : exports ≠ .none) :
    (searchIn call filter modules ((id, module) :: rest) : Calling call _).run w =
      ((searchModule call filter id exports).run >>= fun found =>
        match found with
        | some x => pure (some (id, x))
        | none => (searchIn call filter modules rest : Calling call _).run) u := by
  rw [searchIn, Within.run_bind, bind_of_ok visible, if_neg Bool.false_ne_true, Within.run_bind, bind_of_ok read,
    Option.getD_some]
  split
  · exact absurd rfl given
  · rw [Within.run_bind]
    refine congrFun (bind_congr fun found => ?_) u
    cases found <;> rfl

/-- A filter that fails on a module is taken to accept nothing of it. -/
theorem Tested.searchModule {exports : Value} {normal : Exports} {u v : World κ} {found : Option Value}
    (h : Tested call filter normal.candidates u v found) (id : Value)
    (normalized : (exportsOf call exports : Calling call _).run w = .ok normal u) :
    ∃ z, Grows v z ∧ (searchModule call filter id exports).run w = .ok found z := by
  have begins : (do firstAccepted call filter (← exportsOf call exports).candidates : Calling call _).run w =
      (firstAccepted call filter normal.candidates : Calling call _).run u := bind_of_ok normalized
  rw [Patchwork.searchModule, run_handle]
  cases h with
  | accepts accepted => exact ⟨v, Lasting.refl v, handle_of_ok _ (begins.trans accepted.firstAccepted)⟩
  | rejects none => exact ⟨v, Lasting.refl v, handle_of_ok _ (begins.trans none)⟩
  | fails ordinary failed =>
      rw [handle_of_failed (begins.trans failed) ordinary]
      exact ⟨_, logFailure_grows (R := Reaches call) _ _ v, rfl⟩

theorem searchIn_chosen (settled : ∀ m ∈ ms, Settled call n filter verdict m (S m)) (hw : ∀ m ∈ ms, S m w) :
    ∃ v, Grows w v ∧
      (searchIn call filter (w.registry n).modules (ms.map fun m => (m.id, m.module)) : Calling call _).run w =
        .ok (verdict.chosen ms) v := by
  induction ms generalizing w with
  | nil => exact ⟨w, Lasting.refl w, rfl⟩
  | cons m ms ih =>
      have here := settled m List.mem_cons_self
      have hm := hw m List.mem_cons_self
      obtain ⟨u, readGrows, read⟩ := here.held hm
      obtain ⟨v, normalGrows, normal⟩ := here.normal (here.grown hm readGrows)
      obtain ⟨z, testGrows, test⟩ := tested here.grown (here.grown hm (Lasting.trans readGrows normalGrows))
        fun h x hx => here.judged h x hx filter (Value.sameKey_refl filter)
      obtain ⟨z', reportGrows, found⟩ := test.searchModule m.id normal
      have since : Grows w z' :=
        Lasting.trans readGrows (Lasting.trans normalGrows (Lasting.trans testGrows reportGrows))
      rw [List.map_cons, searchIn_cons (here.visible hm) read m.exported, bind_of_ok found, Verdict.chosen,
        List.findSome?_cons]
      cases verdict.accepted m.normal.candidates with
      | some x => exact ⟨z', since, rfl⟩
      | none =>
          obtain ⟨v', rest, found⟩ := ih (fun m hm => settled m (List.mem_cons_of_mem _ hm)) fun m hm =>
            (settled m (List.mem_cons_of_mem _ hm)).grown (hw m (List.mem_cons_of_mem _ hm)) since
          rw [since.registry] at found
          exact ⟨v', Lasting.trans since rest, found⟩

theorem searchExports_chosen (settled : ∀ m ∈ ms, Settled call n filter verdict m (S m)) (hw : ∀ m ∈ ms, S m w)
    (listed : Lists call n ms w) :
    ∃ v, Grows w v ∧ (searchExports call n filter : Calling call _).run w = .ok (verdict.chosen ms) v := by
  obtain ⟨u, listGrows, cached⟩ := listed
  obtain ⟨v, grows, found⟩ := searchIn_chosen settled fun m hm => (settled m hm).grown (hw m hm) listGrows
  have known : (Run.registry n : Calling call _).run w = .ok (w.registry n) w := rfl
  have known' : (Run.registry n : Calling call _).run u = .ok (u.registry n) u := rfl
  refine ⟨v, Lasting.trans listGrows grows, ?_⟩
  rw [searchExports, Within.run_bind, bind_of_ok known, Within.run_bind, bind_of_ok cached, Within.run_bind,
    bind_of_ok known']
  exact found

/-- What a search gives for a filter: the export that is there to find, or nothing. -/
theorem findExport_chosen (settled : ∀ m ∈ ms, Settled call n filter verdict m (S m)) (hw : ∀ m ∈ ms, S m w)
    (listed : Lists call n ms w) :
    ∃ v, Grows w v ∧ (findExport call n filter : Calling call _).run w =
      .ok (((verdict.chosen ms).map (·.2)).getD .none) v := by
  obtain ⟨v, grows, found⟩ := searchExports_chosen settled hw listed
  exact ⟨v, grows, bind_of_ok found⟩

end

/-! ## A request that is made at the end -/

/-- What comes of a request in the world in which it is made: the callback is called at once with what there is, or it
waits. -/
def AtOnce (call : Caller κ) (n : Nat) (filter callback : Value) (w : World κ) : Option (Value × Value) → Prop
  | some (id, x) => ∃ v, Grows (w.noted (.asked n filter callback)) v ∧
      waitFor call n filter callback w =
        callBack call (filter, ⟨callback, w.history.length⟩) x id (v.noted (.answered n w.history.length none))
  | none => ∃ v, waitFor call n filter callback w = .ok () v ∧ v.Waits n w.history.length filter callback

section

variable {call : Caller κ} {n : Nat} {filter callback : Value} {verdict : Verdict} {S : Loaded → World κ → Prop}
  {ms : List Loaded} {w : World κ}

theorem subscribe_waits (here : n < w.registries.size) (request : Nat) :
    ((subscribe n filter ⟨callback, request⟩ : Run κ Unit).after w).Waits n request filter callback := by
  have found : Value.lookup? (Value.insert (w.registry n).subscriptions filter ⟨callback, request⟩) filter =
      some (⟨callback, request⟩ : Subscription) := Value.lookup?_insert_self
  obtain ⟨key, there, same⟩ := Value.lookup?_entry found
  refine ⟨(key, _), ?_, same, rfl⟩
  rw [subscribe_subscriptions here]
  exact there

theorem atOnce_chosen (settled : ∀ m ∈ ms, Settled call n filter verdict m (S m)) (hw : ∀ m ∈ ms, S m w)
    (here : n < w.registries.size) (hashable : ∀ v, Grows (w.noted (.asked n filter callback)) v →
      v.heap.unhashable? filter = none)
    (listed : Lists call n ms (w.noted (.asked n filter callback))) :
    AtOnce call n filter callback w (verdict.chosen ms) := by
  obtain ⟨v, grows, found⟩ := searchExports_chosen settled (fun m hm => (settled m hm).noted _ (hw m hm)) listed
  have begins : waitFor call n filter callback w =
      serve call n filter callback w.history.length (w.noted (.asked n filter callback)) := rfl
  cases chosen : verdict.chosen ms with
  | some result =>
      rw [chosen] at found
      exact ⟨v, grows, begins.trans (bind_of_ok found)⟩
  | none =>
      rw [chosen] at found
      refine ⟨_, begins.trans ((bind_of_ok found).trans (bind_of_ok (checkKey_ok (hashable v grows)))), ?_⟩
      refine subscribe_waits ?_ _
      rw [grows.registries]
      exact here

end

/-! ## A request that waits -/

theorem bind_eq_of_run {α β : Type} {m m' : Run κ α} (f : α → Run κ β) {w w' : World κ} (h : m w = m' w') :
    (m >>= f) w = (m' >>= f) w' := by
  simp only [bind, EStateM.bind, h]

/-- A module runs through its wrapper, reports its exports, and the pass over the subscriptions comes to `e`. -/
structure Episode (call : Caller κ) (n : Nat) (e : Value × Subscription) where
  loaded : Loaded
  wrapper : Wrapper
  original : Value
  current : Value
  table : Address
  exports : Value
  require : Value
  wrapping : wrapper.wrapping = .factory loaded.id original current n table
  /-- The world in which the wrapper is called. -/
  start : World κ
  sound : Accounted n start
  initialized : isUninitialized n start = false
  /-- The world in which the module listeners have been told. -/
  told : World κ
  reports : ∃ x u v found z, call current (.of [loaded.module, exports, require]) start = .ok x u ∧
    (readAttr? call loaded.module "exports" : Working call _).run u = .ok (some loaded.exports) v ∧
    (exportsOf call loaded.exports : Working call _).run v = .ok found z ∧ found.kind ≠ .global ∧
    (notifyModule call n loaded.exports loaded.id : Working call _).run z = .ok () told
  /-- The world in which it is the turn of `e`. -/
  turn : World κ
  rest : List (Value × Subscription)
  comes : ∃ v before, (exportsOf call loaded.exports : Calling call _).run told = .ok loaded.normal v ∧
    (v.registry n).subscriptions = before ++ e :: rest ∧
    before.forM (fireEntry call n loaded.normal.candidates loaded.id) v = .ok () turn
  waits : e ∈ (turn.registry n).subscriptions

namespace Episode

variable {call : Caller κ} {n : Nat} {e : Value × Subscription} (ep : Episode call n e)

/-- The turn of `e`. -/
def ownTurn : Run κ Unit :=
  fireEntry call n ep.loaded.normal.candidates ep.loaded.id e

/-- What the wrapper does after the turn of `e`. -/
def onward : Run κ Value := do
  ep.rest.forM (fireEntry call n ep.loaded.normal.candidates ep.loaded.id)
  pure .none

def run : EStateM.Result Fault (World κ) Value :=
  (runWrapper call ep.wrapper (.of [ep.loaded.module, ep.exports, ep.require]) : Working call _).run ep.start

theorem run_eq : ep.run = (ep.ownTurn >>= fun _ => ep.onward) ep.turn := by
  obtain ⟨x, u, v, found, z, ran, read, normal, shown, told⟩ := ep.reports
  obtain ⟨seen, before, normal', listed, came⟩ := ep.comes
  have wrapped : ep.run = (runModule call ep.loaded.id ep.original ep.current n ep.table ep.loaded.module ep.exports
      ep.require : Working call _).run ep.start := by
    rw [run, runWrapper, ep.wrapping]
    exact bind_of_ok (boundParameters_positional _ _)
  have pass : fireSubscriptions call n ep.loaded.exports ep.loaded.id ep.told =
      (ep.ownTurn >>= fun _ => ep.rest.forM (fireEntry call n ep.loaded.normal.candidates ep.loaded.id)) ep.turn := by
    have present : (get : Run κ (World κ)) seen = .ok seen seen := rfl
    refine (bind_of_ok normal').trans ?_
    rw [firePass, bind_of_ok present, listed]
    exact forM_split came
  have reported : (reportModule call ep.loaded.id n ep.table ep.loaded.module : Working call _).run u =
      (ep.ownTurn >>= fun _ => ep.rest.forM (fireEntry call n ep.loaded.normal.candidates ep.loaded.id)) ep.turn := by
    rw [reportModule_exports ep.loaded.exported read, reportExports_tells shown normal]
    exact (bind_of_ok told).trans pass
  rw [wrapped, runModule_done ep.initialized ran, Within.run_bind, bind_eq_of_run (fun _ => _) reported, bind_assoc]
  rfl

/-- All calls and operations keep the requests accounted for, and so does all that leads up to the turn. -/
theorem accounts (hc : call.Keeps (Accounts n)) {x : Value} {u : World κ}
    (accepted : Accepts call e.1 ep.loaded.normal.candidates ep.turn x u) : Accounted n u := by
  obtain ⟨y, v₁, v₂, found, v₃, ran, read, normal, -, told⟩ := ep.reports
  obtain ⟨v, before, normal', listed, came⟩ := ep.comes
  have first : Accounts n ep.start v₁ := after_ok ran ▸ hc _ _ _
  have second : Accounts n v₁ v₂ := after_ok read ▸ Acts.keeps accounts_nests hc (Within.within _ _)
  have third : Accounts n v₂ v₃ := after_ok normal ▸ Acts.keeps accounts_nests hc (Within.within _ _)
  have fourth : Accounts n v₃ ep.told := after_ok told ▸ Acts.keeps accounts_nests hc (Within.within _ _)
  have last : Accounts n ep.told u := Turn.accounts hc (.comes normal' rfl listed came ep.waits accepted)
  have whole := Lasting.trans first (Lasting.trans second (Lasting.trans third (Lasting.trans fourth last)))
  exact (whole.2 ep.sound).1

/-- The turn goes by: the request waits on, and the rest follows. -/
def Passes : Prop :=
  ∃ v, Grows ep.turn v ∧ ep.ownTurn ep.turn = .ok () v ∧ ep.run = ep.onward v

/-- The request stops waiting, its callback is called with a candidate, and the rest follows. -/
def Calls (x : Value) : Prop :=
  ∃ v, Grows ep.turn v ∧ ep.run = (callBack call e x ep.loaded.id >>= fun _ => ep.onward)
    ((v.unsubscribed n e.1).noted (.answered n e.2.request (some e.2.request)))

/-- What happens at the turn of a request. -/
def Ends : Option Value → Prop
  | some x => ep.Calls x
  | none => ep.Passes

theorem passes {v : World κ} (grows : Grows ep.turn v) (passed : ep.ownTurn ep.turn = .ok () v) : ep.Passes :=
  ⟨v, grows, passed, ep.run_eq.trans (bind_of_ok passed)⟩

theorem ends (hc : call.Keeps (Accounts n)) {v : World κ} (grows : Grows ep.turn v) {found : Option Value}
    (test : Tested call e.1 ep.loaded.normal.candidates ep.turn v found) : ep.Ends found := by
  have present : (get : Run κ (World κ)) ep.turn = .ok ep.turn ep.turn := rfl
  have listed : Value.hasKey (ep.turn.registry n).subscriptions e.1 = true :=
    List.any_eq_true.mpr ⟨e, ep.waits, Value.sameKey_refl e.1⟩
  have begins : ep.ownTurn ep.turn =
      handle (fireOne call n ep.loaded.normal.candidates ep.loaded.id e.1 e.2)
        (fun c => (reportSubscription e.1 c : Quietly κ Unit)) ep.turn := by
    rw [ownTurn, fireEntry, bind_of_ok present, if_pos listed]
  cases test with
  | accepts accepted =>
      have waits : e ∈ (v.registry n).subscriptions := grows.registry n ▸ ep.waits
      have turn : fireEntry call n _ ep.loaded.id e ep.turn = _ :=
        fireEntry_answers ep.waits accepted waits (ep.accounts hc accepted).apart
      exact ⟨v, grows, ep.run_eq.trans (bind_eq_of_run _ turn)⟩
  | rejects none =>
      refine ep.passes grows (begins.trans (handle_of_ok _ ?_))
      exact bind_of_ok none
  | @fails c ordinary failed =>
      refine ep.passes (Lasting.trans grows (logFailure_grows (R := Quiet) _ c v))
        (begins.trans ((handle_of_failed (bind_of_error failed) ordinary).trans rfl))

end Episode

/-- Modules run one after the other while a request waits, whatever else happens in between and after it has been
answered. The exports of each are what they were when it comes to the turn of the request. -/
inductive Course (call : Caller κ) (n : Nat) (e : Value × Subscription) (S : Loaded → World κ → Prop) :
    World κ → List Loaded → List (Episode call n e) → World κ → Prop where
  | done {w w'} : (e ∈ (w.registry n).subscriptions → e ∈ (w'.registry n).subscriptions) → Course call n e S w [] [] w'
  | gone {w ms w'} : e ∉ (w.registry n).subscriptions → Course call n e S w ms [] w'
  | next {w ms eps w'} (ep : Episode call n e) : S ep.loaded ep.turn →
      Course call n e S (ep.ownTurn.after ep.turn) ms eps w' → Course call n e S w (ep.loaded :: ms) (ep :: eps) w'

/-- What comes of a request that waits: the callback is called at the turn in some module, or the request is passed over
in each one and still waits. -/
def InTurn (call : Caller κ) (n : Nat) (e : Value × Subscription) (ms : List Loaded) (eps : List (Episode call n e))
    (w : World κ) : Option (Value × Value) → Prop
  | some (id, x) => ∃ passed ep later, eps = passed ++ ep :: later ∧ (∀ p ∈ passed, p.Passes) ∧
      ep.loaded.id = id ∧ ep.Calls x
  | none => eps.map (·.loaded) = ms ∧ (∀ p ∈ eps, p.Passes) ∧ e ∈ (w.registry n).subscriptions

section

variable {call : Caller κ} {n : Nat} {e : Value × Subscription} {filter callback : Value} {verdict : Verdict}
  {S : Loaded → World κ → Prop} {ms : List Loaded} {eps : List (Episode call n e)} {w w' : World κ}

theorem InTurn.cons {ep : Episode call n e} (passes : ep.Passes) {found : Option (Value × Value)}
    (h : InTurn call n e ms eps w found) : InTurn call n e (ep.loaded :: ms) (ep :: eps) w found := by
  cases found with
  | some result =>
      obtain ⟨passed, ep', later, rfl, before, id, calls⟩ := h
      exact ⟨ep :: passed, ep', later, rfl, List.forall_mem_cons.mpr ⟨passes, before⟩, id, calls⟩
  | none =>
      obtain ⟨loaded, before, waits⟩ := h
      exact ⟨congrArg (ep.loaded :: ·) loaded, List.forall_mem_cons.mpr ⟨passes, before⟩, waits⟩

theorem Course.inTurn (hc : call.Keeps (Accounts n)) (course : Course call n e S w ms eps w')
    (settled : ∀ m ∈ ms, Settled call n filter verdict m (S m)) (waits : e ∈ (w.registry n).subscriptions)
    (key : Value.sameKey e.1 filter = true) : InTurn call n e ms eps w' (verdict.chosen ms) := by
  induction course with
  | done leaves => exact ⟨rfl, fun _ h => absurd h List.not_mem_nil, leaves waits⟩
  | gone left => exact absurd waits left
  | @next w ms eps w' ep steady course ih =>
      have here := settled ep.loaded List.mem_cons_self
      obtain ⟨v, grows, test⟩ := tested here.grown steady fun h x hx => here.judged h x hx e.1 key
      have ends := ep.ends hc grows test
      rw [Verdict.chosen, List.findSome?_cons]
      cases found : verdict.accepted ep.loaded.normal.candidates with
      | some x =>
          rw [found] at ends
          exact ⟨[], ep, eps, rfl, fun _ h => absurd h List.not_mem_nil, rfl, ends⟩
      | none =>
          rw [found] at ends
          have passes : ep.Passes := ends
          have ⟨z, grows, passed, _⟩ := passes
          refine .cons passes (ih (fun m hm => settled m (List.mem_cons_of_mem _ hm)) ?_)
          rw [after_ok passed, grows.registry]
          exact ep.waits

/-- A request that found nothing waits under its number. -/
theorem waitFor_waits (sound : Accounted n w) (empty : Lists call n [] (w.noted (.asked n filter callback)))
    (early : waitFor call n filter callback w = .ok () w') : w'.Waits n w.history.length filter callback := by
  have none : ∀ m ∈ ([] : List Loaded), Settled call n filter (fun _ => none) m fun _ => False :=
    fun _ h => absurd h List.not_mem_nil
  obtain ⟨v, grows, found⟩ := searchExports_chosen none (fun _ h => absurd h List.not_mem_nil) empty
  have begins : waitFor call n filter callback w =
      serve call n filter callback w.history.length (w.noted (.asked n filter callback)) := rfl
  rw [begins] at early
  obtain ⟨_, u, checked, done⟩ := bind_ok.mp ((bind_of_ok found).symm.trans early)
  have grows' : Grows v u := after_ok checked ▸ checkKey_grows (R := Quiet) filter v
  rw [← after_ok done]
  refine subscribe_waits ?_ _
  rw [grows'.registries, grows.registries]
  exact sound.here

end

/-- A request that is made before some modules run, and one that is made after them for the same filter, call back with
the same export of the same module, or both wait; a search gives that export. It is the first candidate that the filter
accepts in the first module on which the filter accepts one before it fails. -/
theorem early_late_agree {outside : Surroundings κ} {fuel n : Nat} {filter callback : Value} {verdict : Verdict}
    {S : Loaded → World κ → Prop} {ms : List Loaded} {w₀ w₁ w₂ : World κ}
    (settled : ∀ m ∈ ms, Settled (callWithin outside fuel) n filter verdict m (S m))
    (sound : Accounted n w₀) (empty : Lists (callWithin outside fuel) n [] (w₀.noted (.asked n filter callback)))
    (early : waitFor (callWithin outside fuel) n filter callback w₀ = .ok () w₁)
    (unchanged : ∀ m ∈ ms, S m w₂) (here : n < w₂.registries.size)
    (listed : ∀ history, Lists (callWithin outside fuel) n ms { w₂ with history })
    (hashable : ∀ v, Grows (w₂.noted (.asked n filter callback)) v → v.heap.unhashable? filter = none) :
    (∃ e ∈ (w₁.registry n).subscriptions, e.2 = ⟨callback, w₀.history.length⟩ ∧
      ∀ eps, Course (callWithin outside fuel) n e S w₁ ms eps w₂ →
        InTurn (callWithin outside fuel) n e ms eps w₂ (verdict.chosen ms)) ∧
    AtOnce (callWithin outside fuel) n filter callback w₂ (verdict.chosen ms) ∧
    ∃ v, Grows w₂ v ∧ (findExport (callWithin outside fuel) n filter : Calling (callWithin outside fuel) _).run w₂ =
      .ok (((verdict.chosen ms).map (·.2)).getD .none) v := by
  obtain ⟨e, waits, key, own⟩ := waitFor_waits sound empty early
  have hc : (callWithin outside fuel).Keeps (Accounts n) := callWithin_keeps accounts_nests fuel
  refine ⟨⟨e, waits, own, fun eps course => course.inTurn hc settled waits key⟩, ?_, ?_⟩
  · exact atOnce_chosen settled unchanged here hashable (listed _)
  · exact findExport_chosen settled unchanged (listed _)

/-! ## A filter that fails on the first of two modules -/

/-- A filter that fails on 1 and accepts 2, a callback, and two factories that enter their modules in the cache. -/
def entering : Surroundings Unit := fun _ k args =>
  match k, args.positional with
  | 0, [.int 1] => fail (.raised .value [])
  | 0, [.int 2] => pure (.bool true)
  | 2, _ => do
    write (firstPlace + 4) (.entries [(.str "a", .ref (firstPlace + 6))])
    pure .none
  | 3, _ => do
    write (firstPlace + 4) (.entries [(.str "a", .ref (firstPlace + 6)), (.str "b", .ref (firstPlace + 7))])
    pure .none
  | _, _ => pure .none

/-- The functions, an empty cache, the runtime that has it, and two modules. -/
def shelf : World Unit :=
  World.furnished [] () [.external 0 "filter", .external 1 "callback", .external 2 "a", .external 3 "b", .dict [],
    .plain [("cache", .ref (firstPlace + 4))], .plain [("exports", .int 1)], .plain [("exports", .int 2)]]

/-- The world in which the runtime is the live one. -/
def unloaded : World Unit :=
  { shelf with registries := #[.empty, { Registry.empty with require := .ref (firstPlace + 5) }, .empty] }

/-- The first or the second of the modules. -/
def numbered (second : Bool) : Loaded where
  id := .str (if second then "b" else "a")
  module := .ref (firstPlace + if second then 7 else 6)
  exports := .int (if second then 2 else 1)
  normal := ⟨.named, .int (if second then 2 else 1), .none⟩
  exported := nofun
  shown := nofun

def secondOnly : Verdict
  | .int 1 => none
  | .int 2 => some true
  | _ => some false

/-- The worlds in which a module and the filter are there. -/
def Present (m : Loaded) (w : World Unit) : Prop :=
  (∃ a, m.module = .ref a ∧ w.heap[a]? = some (.plain [("exports", m.exports)])) ∧
    w.heap[firstPlace]? = some (.external 0 "filter") ∧ (w.registry 1).modules = .none

theorem readAttr?_plain {call : Caller κ} {w : World κ} {a : Address} {attrs : Attributes} {name : String} {v : Value}
    (there : w.heap[a]? = some (.plain attrs)) (found : attrs.get? name = some v) :
    (readAttr? call (.ref a) name : Calling call _).run w = .ok (some v) w := by
  have seen : (heap : Calling call _).run w = .ok w.heap w := rfl
  have own : (ownMethod? (.ref a) "__getattr__" : Calling call _).run w = .ok none w := by
    rw [ownMethod?, Within.run_bind, bind_of_ok seen]
    simp only [there]
    rfl
  have classless : classOf? w.heap (.ref a) = none := by
    simp only [classOf?, there]
  have computed : (computedAttr? call (.ref a) name : Calling call _).run w = .ok none w := by
    rw [computedAttr?, Within.run_bind, bind_of_ok seen, classless]
    rfl
  have got : (getAttr (.ref a) name : Calling call _).run w = .ok v w := by
    rw [getAttr, Within.run_bind, bind_of_ok seen]
    simp only [there, found]
    rfl
  have read : (readAttr call (.ref a) name : Calling call _).run w = .ok v w := by
    rw [readAttr, Within.run_bind, bind_of_ok own]
    exact (bind_of_ok computed).trans got
  rw [readAttr?, run_handle]
  exact handle_of_ok _ (bind_of_ok read)

theorem callWithin_external {outside : Surroundings κ} {fuel n : Nat} {w : World κ} {a : Address} {label : String}
    (there : w.heap[a]? = some (.external n label)) (args : Arguments) :
    callWithin outside (fuel + 1) (.ref a) args w = (outside (callWithin outside fuel) n args).run w := by
  have seen : (heap : Working (callWithin outside fuel) _).run w = .ok w.heap w := rfl
  rw [callWithin, callOnce, Within.run_bind, bind_of_ok seen]
  simp only [there]

theorem eq_of_sameKey_ref {f : Value} {a : Address} (same : Value.sameKey f (.ref a) = true) : f = .ref a := by
  cases f <;> simp_all [Value.sameKey]

theorem numbered_settled (second : Bool) : Settled (callWithin entering 900) 1 (.ref firstPlace) secondOnly
    (numbered second) (Present (numbered second)) where
  grown h grows := by
    obtain ⟨⟨a, place, there⟩, filter, modules⟩ := h
    refine ⟨⟨a, place, grows.heap a _ there⟩, grows.heap _ _ filter, ?_⟩
    rw [grows.registry]
    exact modules
  noted _ h := h
  visible h := by
    rw [h.2.2]
    rfl
  held {w} h := by
    obtain ⟨⟨a, place, there⟩, -⟩ := h
    rw [place]
    exact ⟨w, Lasting.refl w, readAttr?_plain there rfl⟩
  normal {w} h := by
    refine ⟨w, Lasting.refl w, ?_⟩
    cases second <;> rfl
  judged {w} h x hx f same := by
    obtain rfl := eq_of_sameKey_ref same
    obtain rfl := List.mem_singleton.mp hx
    have called : callWithin entering (899 + 1) (.ref firstPlace) (.of [(numbered second).normal.value]) w = _ :=
      callWithin_external h.2.1 _
    cases second with
    | false => exact ⟨.raised .value [], w, rfl, Lasting.refl w, bind_of_error called⟩
    | true => exact ⟨w, Lasting.refl w, bind_of_ok called⟩

/-- The world in which the callback was subscribed. -/
def waited : World Unit :=
  unloaded.doing entering (.waitFor 1 (.ref firstPlace) (.ref (firstPlace + 1)))

def numberedArgs (second : Bool) : Arguments :=
  .of [(numbered second).module, .none, .none]

/-- A wrapper around a factory that has not been patched. -/
def numberedWrapper (second : Bool) : Wrapper where
  wrapping := .factory (numbered second).id (.ref (firstPlace + if second then 3 else 2))
    (.ref (firstPlace + if second then 3 else 2)) 1 0
  wrapped := .ref (firstPlace + if second then 3 else 2)
  name := "factory"
  qualifiedName := "factory"
  attrs := []

/-- The world in which a module has run. -/
def World.loading (w : World Unit) (second : Bool) : World Unit :=
  (runWrapper (callValue entering) (numberedWrapper second) (numberedArgs second) :
    Working (callValue entering) _).run.after w

/-- The world in which a module is to run. -/
def unloadedBefore : Bool → World Unit
  | false => waited
  | true => waited.loading false

theorem shelf_beside : Beside shelf unloaded where
  patches
    | 0 | 1 | 2 => rfl
    | _ + 3 => rfl
  subscriptions
    | 0 | 1 | 2 => rfl
    | _ + 3 => rfl
  history := rfl
  size := rfl

theorem unloaded_reached : unloaded.Reached entering :=
  (World.Reached.furnished _ _ _).acts (.beside shelf_beside)

theorem waited_reached : waited.Reached entering :=
  unloaded_reached.doing _

theorem unloadedBefore_reached : (second : Bool) → (unloadedBefore second).Reached entering
  | false => waited_reached
  | true => waited_reached.acts <|
      (runWrapper (callValue entering) (numberedWrapper false) (numberedArgs false) :
        Working (callValue entering) _).within waited

/-- The subscription of the callback. -/
def early : Value × Subscription :=
  (.ref firstPlace, ⟨.ref (firstPlace + 1), 0⟩)

/-- The run of a module. -/
def numberedEpisode (second : Bool) : Episode (callWithin entering 900) 1 early where
  loaded := numbered second
  wrapper := numberedWrapper second
  original := _
  current := _
  table := 0
  exports := .none
  require := .none
  wrapping := rfl
  start := unloadedBefore second
  sound := (unloadedBefore_reached second).accounted (by cases second <;> decide +kernel)
  initialized := by cases second <;> rfl
  told := (callWithin entering 900 (.ref (firstPlace + if second then 3 else 2)) (numberedArgs second)).after
    (unloadedBefore second)
  reports := by cases second <;> exact ⟨_, _, _, _, _, rfl, rfl, rfl, nofun, rfl⟩
  turn := (callWithin entering 900 (.ref (firstPlace + if second then 3 else 2)) (numberedArgs second)).after
    (unloadedBefore second)
  rest := []
  comes := by cases second <;> exact ⟨_, [], rfl, rfl, rfl⟩
  waits := by cases second <;> exact List.mem_singleton.mpr rfl

/-- The world in which both modules have run. -/
def shelved : World Unit :=
  (unloadedBefore true).loading true

theorem shelved_lists (history : List Deed) :
    Lists (callWithin entering 900) 1 [numbered false, numbered true] { shelved with history } :=
  ⟨_, .push _ _, rfl⟩

theorem numbered_present (second : Bool) :
    Present (numbered second) (numberedEpisode second).turn ∧ Present (numbered second) shelved := by
  cases second <;> exact ⟨⟨⟨_, rfl, rfl⟩, rfl, rfl⟩, ⟨_, rfl, rfl⟩, rfl, rfl⟩

theorem early_course : Course (callWithin entering 900) 1 early Present waited [numbered false, numbered true]
    [numberedEpisode false, numberedEpisode true] shelved := by
  refine .next (numberedEpisode false) (numbered_present false).1
    (.next (numberedEpisode true) (numbered_present true).1 (.gone ?_))
  exact List.not_mem_nil

theorem early_late_agree_shelved :
    InTurn (callWithin entering 900) 1 early [numbered false, numbered true]
        [numberedEpisode false, numberedEpisode true] shelved (some (.str "b", .int 2)) ∧
      AtOnce (callWithin entering 900) 1 (.ref firstPlace) (.ref (firstPlace + 1)) shelved (some (.str "b", .int 2)) ∧
      ∃ v, (findExport (callWithin entering 900) 1 (.ref firstPlace) : Calling (callWithin entering 900) _).run shelved =
        .ok (.int 2) v := by
  have settled : ∀ m ∈ [numbered false, numbered true],
      Settled (callWithin entering 900) 1 (.ref firstPlace) secondOnly m (Present m) :=
    List.forall_mem_cons.mpr ⟨numbered_settled false, List.forall_mem_singleton.mpr (numbered_settled true)⟩
  have unchanged : ∀ m ∈ [numbered false, numbered true], Present m shelved :=
    List.forall_mem_cons.mpr ⟨(numbered_present false).2, List.forall_mem_singleton.mpr (numbered_present true).2⟩
  have sound : Accounted 1 unloaded := unloaded_reached.accounted (by decide +kernel)
  have hashable : ∀ v, Grows (shelved.noted (.asked 1 (.ref firstPlace) (.ref (firstPlace + 1)))) v →
      v.heap.unhashable? (.ref firstPlace) = none := by
    intro v grows
    have there : v.heap[firstPlace]? = some (.external 0 "filter") := grows.heap _ _ rfl
    simp only [Heap.unhashable?, there]
  have subscribed : waitFor (callWithin entering 900) 1 (.ref firstPlace) (.ref (firstPlace + 1)) unloaded =
      .ok () waited := rfl
  obtain ⟨⟨e, waits, own, called⟩, atOnce, v, -, found⟩ := early_late_agree settled sound
    ⟨_, Lasting.refl _, rfl⟩ subscribed unchanged (by decide +kernel) shelved_lists hashable
  obtain rfl : e = early := List.mem_singleton.mp waits
  exact ⟨called _ early_course, atOnce, v, found⟩

end Patchwork
