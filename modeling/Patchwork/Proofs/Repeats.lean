import Patchwork.Machine
import Patchwork.Proofs.KeyForms
import Patchwork.Proofs.PureRules

/-!
Messages that are logged only once. A level remembers the latest of them, so a message that comes again is dropped exactly
if fewer others than the level remembers came in between.
-/

namespace Patchwork

open Run

/-! ## Kinds of messages -/

namespace OnceKey

/-- What equal messages share. -/
def form (k : OnceKey) : String × Value × List Value :=
  (k.logger, k.message.keyForm, Value.keyForms k.args)

theorem same_iff {a b : OnceKey} : OnceKey.same a b = true ↔ a.form = b.form := by
  simp [OnceKey.same, form, Value.sameKey_iff, Value.sameKeys_iff, and_assoc]

theorem same_false_iff {a b : OnceKey} : OnceKey.same a b = false ↔ a.form ≠ b.form := by
  rw [← Bool.not_eq_true, same_iff]

/-- The messages of a list without those that are equal to an earlier one. -/
def kinds : List OnceKey → List OnceKey
  | [] => []
  | k :: rest => k :: (kinds rest).filter fun j => !OnceKey.same k j

variable {k j : OnceKey} {past between earlier : List OnceKey} {n : Nat}

theorem mem_of_mem_kinds (h : j ∈ kinds past) : j ∈ past := by
  induction past with
  | nil => exact h
  | cons k rest ih =>
      rcases List.mem_cons.mp h with rfl | later
      · exact List.mem_cons_self
      · exact List.mem_cons_of_mem _ (ih (List.mem_of_mem_filter later))

theorem length_kinds_le (past : List OnceKey) : (kinds past).length ≤ past.length := by
  induction past with
  | nil => exact Nat.le_refl 0
  | cons k rest ih => exact Nat.succ_le_succ (Nat.le_trans (List.length_filter_le _ _) ih)

theorem kinds_apart (past : List OnceKey) : (kinds past).Pairwise fun a b => a.form ≠ b.form := by
  induction past with
  | nil => exact .nil
  | cons k rest ih =>
      refine .cons (fun j later => ?_) (ih.filter _)
      have other := (List.mem_filter.mp later).2
      rwa [Bool.not_eq_true', same_false_iff] at other

theorem kinds_of_apart (apart : past.Pairwise fun a b => a.form ≠ b.form) : kinds past = past := by
  induction apart with
  | nil => rfl
  | cons other _ ih =>
      rw [kinds, ih, List.filter_eq_self.mpr]
      intro j later
      rw [Bool.not_eq_true', same_false_iff]
      exact other j later

/-- Behind messages that differ from it, a message comes right after their kinds. -/
theorem kinds_append (earlier : List OnceKey) (differ : ∀ j ∈ between, j.form ≠ k.form) :
    ∃ more, kinds (between ++ k :: earlier) = kinds between ++ k :: more := by
  induction between with
  | nil => exact ⟨_, rfl⟩
  | cons b between ih =>
      obtain ⟨more, eq⟩ := ih fun j later => differ j (List.mem_cons_of_mem b later)
      have other : OnceKey.same b k = false := same_false_iff.mpr (differ b List.mem_cons_self)
      exact ⟨more.filter fun j => !OnceKey.same b j, by simp [kinds, eq, other]⟩

/-! ## What is remembered -/

theorem filter_take (apart : past.Pairwise fun a b => a.form ≠ b.form) (known : (past.take (n + 1)).any (OnceKey.same k)) :
    (past.take (n + 1)).filter (fun j => !OnceKey.same k j) = (past.filter fun j => !OnceKey.same k j).take n := by
  induction past generalizing n with
  | nil => simp at known
  | cons j rest ih =>
      cases same : OnceKey.same k j with
      | true =>
          have others : ∀ l ∈ rest, (!OnceKey.same k l) = true := by
            intro l later
            rw [Bool.not_eq_true', same_false_iff, same_iff.mp same]
            exact List.rel_of_pairwise_cons apart later
          simp [same, List.filter_eq_self.mpr others, List.filter_eq_self.mpr fun l h => others l (List.mem_of_mem_take h)]
      | false =>
          cases n with
          | zero => simp [same] at known
          | succ n =>
              have tail : (rest.take (n + 1)).any (OnceKey.same k) := by simpa [same] using known
              simp [same, ih apart.of_cons tail]

theorem take_filter (fresh : ∀ j ∈ past.take n, OnceKey.same k j = false) :
    (past.filter fun j => !OnceKey.same k j).take n = past.take n := by
  induction past generalizing n with
  | nil => rfl
  | cons j rest ih =>
      cases n with
      | zero => rfl
      | succ n =>
          have other : OnceKey.same k j = false := fresh j List.mem_cons_self
          simp [other, ih fun l early => fresh l (List.mem_cons_of_mem j early)]

/-- What a level remembers are the latest kinds of messages, and another message keeps it so. -/
theorem remember_kinds (k : OnceKey) (past : List OnceKey) :
    remember ((kinds past).take onceLimit) k =
      (((kinds past).take onceLimit).any (OnceKey.same k), (kinds (k :: past)).take onceLimit) := by
  have limit : onceLimit = 127 + 1 := rfl
  rw [remember, kinds, limit, List.take_succ_cons, List.take_succ_cons]
  split
  · next known => rw [filter_take (kinds_apart past) known, known]
  · next fresh =>
      have none : ∀ j ∈ (kinds past).take (127 + 1), OnceKey.same k j = false := by
        simpa only [List.any_eq_true, not_exists, not_and, Bool.not_eq_true] using fresh
      rw [take_filter fun j early => none j (List.take_subset_take_left _ (Nat.le_succ _) early), List.take_take]
      simpa using none

theorem any_kinds_fresh (fresh : ∀ j ∈ past, j.form ≠ k.form) : ((kinds past).take n).any (OnceKey.same k) = false := by
  rw [List.any_eq_false]
  intro j early
  rw [same_iff]
  exact (fresh j (mem_of_mem_kinds (List.mem_of_mem_take early))).symm

/-- A message that came before is remembered exactly if few enough kinds came since. -/
theorem any_kinds_again (same : j.form = k.form) (differ : ∀ l ∈ between, l.form ≠ j.form) :
    ((kinds (between ++ j :: earlier)).take n).any (OnceKey.same k) = true ↔ (kinds between).length < n := by
  obtain ⟨more, eq⟩ := kinds_append earlier differ
  have none : ∀ l ∈ kinds between, ¬ OnceKey.same k l = true := by
    intro l mem
    rw [same_iff, ← same]
    exact (differ l (mem_of_mem_kinds mem)).symm
  rw [eq, List.any_eq_true]
  constructor
  · rintro ⟨l, early, found⟩
    by_contra many
    rw [List.take_append_of_le_length (Nat.le_of_not_lt many)] at early
    exact none l (List.mem_of_mem_take early) found
  · intro few
    refine ⟨j, ?_, same_iff.mpr same.symm⟩
    rw [List.take_append, List.mem_append]
    obtain ⟨m, room⟩ : ∃ m, n - (kinds between).length = m + 1 := ⟨_, (Nat.succ_pred_eq_of_pos (Nat.sub_pos_of_lt few)).symm⟩
    exact .inr (by simp [room])

end OnceKey

/-! ## Calls -/

namespace OnceMemory

def of (m : OnceMemory) : OnceLevel → List OnceKey
  | .info => m.info
  | .warning => m.warning

/-- The memory in which a level remembers something else. -/
def put (m : OnceMemory) (level : OnceLevel) (known : List OnceKey) : OnceMemory :=
  match level with
  | .info => { m with info := known }
  | .warning => { m with warning := known }

theorem of_put (m : OnceMemory) (level l : OnceLevel) (known : List OnceKey) :
    (m.put level known).of l = if l = level then known else m.of l := by
  cases level <;> cases l <;> rfl

end OnceMemory

variable {κ : Type} {u v w : World κ} {level : OnceLevel} {key : OnceKey}

/-- Logs a message unless its level remembers it. -/
def tell (level : OnceLevel) (key : OnceKey) : Quietly κ Unit :=
  logOnce level key.logger key.message key.args

theorem tell_eq (level : OnceLevel) (key : OnceKey) : (tell level key : Quietly κ Unit) =
    (do
      checkKey key.message
      key.args.forM checkKey
      let now := remember ((← world).once.of level) key
      if !now.1 then log level.level (← messageText key.message key.args)
      setOnce ((← world).once.put level now.2)) := by
  cases level <;> rfl

theorem messageText_run (message : Value) (args : List Value) (w : World κ) :
    (∃ text, (messageText message args : Quietly κ _).run w = .ok text w) ∨
      ∃ e, (messageText message args : Quietly κ _).run w = .error e w := by
  rw [messageText, Within.run_bind, bind_of_ok (heap_run w)]
  cases args with
  | nil => exact .inl ⟨_, rfl⟩
  | cons v args =>
      dsimp only
      split
      · exact .inl ⟨_, rfl⟩
      · exact .inr ⟨_, rfl⟩

/-- What a call leaves behind: its level remembers the message, and one that it did not remember is logged. -/
structure Heard (level : OnceLevel) (key : OnceKey) (w v : World κ) : Prop where
  once : v.once = w.once.put level (remember (w.once.of level) key).2
  known : (remember (w.once.of level) key).1 = true → v.trace = w.trace
  fresh : (remember (w.once.of level) key).1 = false → ∃ text, v.trace = .log level.level text none :: w.trace

/-- Why a call cannot be carried out: a part of it cannot be a key, or the message cannot be written. -/
def Untold (key : OnceKey) (w : World κ) : Prop :=
  (∃ v ∈ key.message :: key.args, w.heap.unhashable? v ≠ none) ∨
    ∃ e, (messageText key.message key.args : Quietly κ _).run w = .error e w

/-- A call that fails leaves everything as it is. -/
theorem tell_run (level : OnceLevel) (key : OnceKey) (w : World κ) :
    (∃ e, (tell level key).run w = .error e w ∧ Untold key w) ∨
      ∃ v, (tell level key).run w = .ok () v ∧ Heard level key w v := by
  rw [tell_eq, Within.run_bind]
  rcases Realm.checkKeys_run (R := Quiet) w (key.message :: key.args) with ⟨-, passed⟩ | ⟨bad, c, failed, -⟩
  · obtain ⟨_, z, first, others⟩ := bind_ok.mp passed
    have seen : (world : Quietly κ _).run w = .ok w w := rfl
    rw [bind_of_ok first, Within.run_bind, bind_of_ok others, Within.run_bind, bind_of_ok seen]
    cases now : remember (w.once.of level) key with
    | mk hit known =>
        cases hit with
        | true => exact .inr ⟨_, rfl, by rw [now], fun _ => rfl, by simp [now]⟩
        | false =>
            dsimp only
            rw [if_pos (show (!false) = true from rfl), Within.run_bind]
            rcases messageText_run key.message key.args w with ⟨text, written⟩ | ⟨e, broken⟩
            · refine .inr ⟨_, bind_of_ok written, by rw [now], by simp [now], fun _ => ⟨text, rfl⟩⟩
            · exact .inl ⟨e, bind_of_error broken, .inr ⟨e, broken⟩⟩
  · rcases bind_error.mp failed with first | ⟨_, z, first, others⟩
    · exact .inl ⟨_, bind_of_error first, .inl bad⟩
    · exact .inl ⟨_, (bind_of_ok first).trans (bind_of_error others), .inl bad⟩

theorem Heard.of_ok (ran : (tell level key).run w = .ok () v) : Heard level key w v := by
  rcases tell_run level key w with ⟨e, failed, -⟩ | ⟨v', ran', told⟩
  · simp [failed] at ran
  · cases ran'.symm.trans ran
    exact told

theorem eq_of_tell_error {e : Fault} (failed : (tell level key).run w = .error e v) : v = w := by
  rcases tell_run level key w with ⟨e', failed', -⟩ | ⟨v', ran, -⟩
  · cases failed'.symm.trans failed
    rfl
  · simp [ran] at failed

/-! ## Courses of calls -/

/-- A call that returned, with the records that came of it. -/
structure Telling where
  level : OnceLevel
  key : OnceKey
  records : List Event

namespace Telling

/-- Two calls are for equal messages at one level. -/
def Same (s t : Telling) : Prop :=
  s.level = t.level ∧ s.key.form = t.key.form

instance (s t : Telling) : Decidable (s.Same t) :=
  decidable_of_iff (s.level = t.level ∧ OnceKey.same s.key t.key = true) (and_congr_right fun _ => OnceKey.same_iff)

/-- What a level was told, the latest first. -/
def heard (level : OnceLevel) (told : List Telling) : List OnceKey :=
  (told.filter fun t => t.level = level).map Telling.key

/-- The call made one record, of its message. -/
def IsLogged (t : Telling) : Prop :=
  ∃ text, t.records = [.log t.level.level text none]

/-- Of equal messages exactly the first one is logged. -/
def OnlyFirst (told : List Telling) : Prop :=
  ∀ later t earlier, told = later ++ t :: earlier →
    ((∃ e ∈ earlier, e.Same t) → t.records = []) ∧ ((∀ e ∈ earlier, ¬ e.Same t) → t.IsLogged)

/-- Whenever a message comes again, its level was told fewer others in between than it remembers. -/
def AgainSoon (told : List Telling) : Prop :=
  ∀ later t between e earlier, told = later ++ t :: (between ++ e :: earlier) → e.Same t → (∀ b ∈ between, ¬ b.Same t) →
    (OnceKey.kinds (heard t.level between)).length < onceLimit

/-- What came of a call behind earlier ones: it is logged unless the level remembers its message. -/
def Follows (earlier : List Telling) (t : Telling) : Prop :=
  if ((OnceKey.kinds (heard t.level earlier)).take onceLimit).any (OnceKey.same t.key) then t.records = [] else t.IsLogged

variable {t e : Telling} {between earlier : List Telling}

theorem heard_differ (other : ∀ b ∈ between, ¬ b.Same t) : ∀ k ∈ heard t.level between, k.form ≠ t.key.form := by
  intro k mem same
  obtain ⟨b, here, rfl⟩ := List.mem_map.mp mem
  obtain ⟨there, level⟩ := List.mem_filter.mp here
  exact other b there ⟨of_decide_eq_true level, same⟩

theorem Follows.of_new (h : Follows earlier t) (new : ∀ e ∈ earlier, ¬ e.Same t) : t.IsLogged := by
  rwa [Follows, OnceKey.any_kinds_fresh (heard_differ new), if_neg Bool.false_ne_true] at h

theorem Follows.of_again (h : Follows (between ++ e :: earlier) t) (same : e.Same t) (other : ∀ b ∈ between, ¬ b.Same t) :
    if (OnceKey.kinds (heard t.level between)).length < onceLimit then t.records = [] else t.IsLogged := by
  have told : heard t.level (between ++ e :: earlier) = heard t.level between ++ e.key :: heard t.level earlier := by
    simp [heard, same.1]
  have differ : ∀ k ∈ heard t.level between, k.form ≠ e.key.form := by
    rw [same.2]
    exact heard_differ other
  simpa only [Follows, told, OnceKey.any_kinds_again same.2 differ] using h

/-- Exactly the first of equal messages is logged as long as all of them come again soon. -/
theorem onlyFirst_iff {told : List Telling} (all : ∀ later t earlier, told = later ++ t :: earlier → Follows earlier t) :
    OnlyFirst told ↔ AgainSoon told := by
  constructor
  · intro first later t between e earlier eq same other
    have came := (all later t _ eq).of_again same other
    by_contra many
    rw [if_neg many] at came
    obtain ⟨text, logged⟩ := came
    have dropped := (first later t _ eq).1 ⟨e, by simp, same⟩
    simp [logged] at dropped
  · intro soon later t earlier eq
    have came := all later t earlier eq
    refine ⟨fun ⟨e, mem, same⟩ => ?_, came.of_new⟩
    -- The latest of the equal calls decides, since only calls for other messages are between.
    cases found : earlier.find? (fun e => e.Same t) with
    | none => exact absurd (decide_eq_true same) (List.find?_eq_none.mp found e mem)
    | some e' =>
        obtain ⟨same', between, rest, rfl, other⟩ := List.find?_eq_some_iff_append.mp found
        have same' := of_decide_eq_true same'
        have other : ∀ b ∈ between, ¬ b.Same t := fun b mem => by simpa using other b mem
        have came := came.of_again same' other
        rwa [if_pos (soon later t between e' rest eq same' other)] at came

end Telling

open Telling

/-- Calls on the way from one world to another one, the latest first. In between calls may fail, and anything may happen that
leaves alone what is remembered. -/
inductive OnceCourse (u : World κ) : List Telling → World κ → Prop
  | start : OnceCourse u [] u
  | aside {told : List Telling} {v w : World κ} : OnceCourse u told v → w.once = v.once → OnceCourse u told w
  | told {told : List Telling} {v w : World κ} {level : OnceLevel} {key : OnceKey} {records : List Event} :
      OnceCourse u told v → (tell level key).run v = .ok () w → w.trace = records ++ v.trace →
      OnceCourse u (⟨level, key, records⟩ :: told) w
  | failed {told : List Telling} {v w : World κ} {level : OnceLevel} {key : OnceKey} {e : Fault} :
      OnceCourse u told v → (tell level key).run v = .error e w → OnceCourse u told w

/-- Along a course each level remembers its latest kinds of messages, and what is logged goes by that. -/
theorem OnceCourse.remembers {told : List Telling} (course : OnceCourse u told w) (fresh : u.once = ⟨[], []⟩) :
    (∀ l, w.once.of l = (OnceKey.kinds (heard l told)).take onceLimit) ∧
      ∀ later t earlier, told = later ++ t :: earlier → Telling.Follows earlier t := by
  -- By the way the course came about; only a call that returned changes what is remembered.
  induction course with
  | start => exact ⟨fun l => by rw [fresh]; cases l <;> rfl, fun later t earlier eq => by simp at eq⟩
  | aside _ same ih => rwa [same]
  | failed _ failed ih => rwa [eq_of_tell_error failed]
  | @told told v w level key records _ ran added ih =>
      obtain ⟨memory, all⟩ := ih
      have came := Heard.of_ok ran
      have now := memory level
      refine ⟨fun l => ?_, fun later t earlier eq => ?_⟩
      · rw [came.once, OnceMemory.of_put, memory, OnceKey.remember_kinds]
        by_cases here : l = level
        · simp [here, heard]
        · rw [if_neg here, memory]
          simp [heard, Ne.symm here]
      · cases later with
        | cons s later =>
            obtain ⟨rfl, rest⟩ := List.cons_eq_cons.mp eq
            exact all later t earlier rest
        | nil =>
            obtain ⟨rfl, rfl⟩ := List.cons_eq_cons.mp eq
            have known := came.known
            have logged := came.fresh
            rw [now, OnceKey.remember_kinds] at known logged
            rw [Telling.Follows]
            split
            · next hit => exact List.self_eq_append_left.mp ((known hit).symm.trans added)
            · next miss =>
                obtain ⟨text, trace⟩ := logged (Bool.eq_false_iff.mpr miss)
                exact ⟨text, List.append_cancel_right (added.symm.trans trace)⟩

/-! ## What is logged -/

def policyLogger : String := "hostpatch.patch.normalize"

def noVersionText : String := "Invalid host version %r, using default normalization policy"

theorem noVersion_written (text : String) (w : World κ) :
    ∃ shown, (messageText (.str noVersionText) [.str text] : Quietly κ _).run w = .ok shown w := by
  obtain ⟨shown, eq⟩ : ∃ shown, Percent.written w.heap noVersionText.toList [.str text] = .ok shown := ⟨_, rfl⟩
  have bare : w.heap.at? (.str text) = none := rfl
  have same : w.heap.str (.str noVersionText) = noVersionText := rfl
  refine ⟨String.ofList shown, ?_⟩
  rw [messageText, Within.run_bind, bind_of_ok (heap_run w)]
  dsimp only
  rw [bare, same]
  dsimp only
  rw [eq]
  rfl

/-- What is no version gets the default policy and is told to the warnings. -/
theorem choosePolicy_noVersion (t : PolicyTable) {text : String} (some : text ≠ "") (bad : Version.parse text = .none)
    (w : World κ) :
    ∃ v, (tell .warning ⟨policyLogger, .str noVersionText, [.str text]⟩).run w = .ok () v ∧
      (choosePolicy t (.str text) : Quietly κ _).run w = .ok t.default v := by
  rcases tell_run .warning ⟨policyLogger, .str noVersionText, [.str text]⟩ w with ⟨e, -, untold⟩ | ⟨v, ran, -⟩
  · rcases untold with ⟨v, part, bad⟩ | ⟨e, broken⟩
    · simp only [List.mem_cons, List.not_mem_nil, or_false] at part
      rcases part with rfl | rfl <;> exact absurd rfl bad
    · obtain ⟨shown, written⟩ := noVersion_written text w
      cases broken.symm.trans written
  · refine ⟨v, ran, ?_⟩
    have true : w.heap.truth (.str text) = true := by simp [Heap.truth, Heap.core, some]
    rw [choosePolicy, Within.run_bind, bind_of_ok (heap_run w), true]
    dsimp only
    rw [bad]
    exact bind_of_ok ran

/-- Along every course of calls that begins with nothing remembered, of the calls for equal messages exactly the first one is
logged if and only if, whenever a message comes again, its level was told fewer others in between than it remembers. The choice of
a policy is one such call for each text that is no version. -/
theorem logged_once_iff {told : List Telling} (course : OnceCourse u told w) (fresh : u.once = ⟨[], []⟩) :
    (OnlyFirst told ↔ AgainSoon told) ∧
      ∀ (t : PolicyTable) (text : String) (v : World κ), text ≠ "" → Version.parse text = .none →
        ∃ v', (tell .warning ⟨policyLogger, .str noVersionText, [.str text]⟩).run v = .ok () v' ∧
          (choosePolicy t (.str text) : Quietly κ _).run v = .ok t.default v' :=
  ⟨onlyFirst_iff (course.remembers fresh).2, fun t _ v some bad => choosePolicy_noVersion t some bad v⟩

/-! ## As many others as are remembered -/

theorem Telling.againSoon_of_few {told : List Telling} (few : told.length < onceLimit + 2) : AgainSoon told := by
  intro later t between e earlier eq same other
  have shorter : (OnceKey.kinds (heard t.level between)).length ≤ between.length := by
    refine Nat.le_trans (OnceKey.length_kinds_le _) ?_
    rw [heard, List.length_map]
    exact List.length_filter_le _ _
  rw [eq] at few
  simp only [List.length_append, List.length_cons] at few
  omega

/-- Messages without arguments, each of another length. -/
def plainMessage (n : Nat) : OnceKey :=
  ⟨"hostpatch.host", .str (String.ofList (List.replicate (n + 1) 'm')), []⟩

theorem plainMessage_form {m n : Nat} : (plainMessage m).form = (plainMessage n).form ↔ m = n := by
  refine ⟨fun same => ?_, fun same => by rw [same]⟩
  have text := Value.str.inj (Prod.mk.inj (Prod.mk.inj same).2).1
  simpa using congrArg List.length (String.ofList_injective text)

theorem Telling.heard_of_keys {told : List Telling} {ns : List Nat}
    (keys : told.map (fun t => (t.level, t.key)) = ns.map fun n => (level, plainMessage n)) :
    heard level told = ns.map plainMessage := by
  have pairs : heard level told = ((told.map fun t => (t.level, t.key)).filter fun p => p.1 = level).map Prod.snd := by
    simp [heard, List.filter_map, Function.comp_def]
  rw [pairs, keys]
  simp [List.filter_map, Function.comp_def]

theorem OnceCourse.exists_plain (u : World κ) (ns : List Nat) :
    ∃ told w, OnceCourse u told w ∧ told.map (fun t => (t.level, t.key)) = ns.map fun n => (.info, plainMessage n) := by
  induction ns with
  | nil => exact ⟨[], u, .start, rfl⟩
  | cons n ns ih =>
      obtain ⟨told, w, course, keys⟩ := ih
      rcases tell_run .info (plainMessage n) w with ⟨e, -, untold⟩ | ⟨v, ran, came⟩
      · rcases untold with ⟨v, part, bad⟩ | ⟨e, broken⟩
        · rw [List.mem_singleton.mp part] at bad
          exact absurd rfl bad
        · cases broken
      · obtain ⟨records, added⟩ : ∃ records, v.trace = records ++ w.trace := by
          cases hit : (remember (w.once.of .info) (plainMessage n)).1 with
          | true => exact ⟨[], came.known hit⟩
          | false =>
              obtain ⟨text, logged⟩ := came.fresh hit
              exact ⟨[_], logged⟩
        exact ⟨_, v, course.told ran added, congrArg ((OnceLevel.info, plainMessage n) :: ·) keys⟩

/-- A message, some others, and the message again, the latest first. -/
def thereAndBack (n : Nat) : List Nat :=
  0 :: (List.range' 1 n ++ [0])

/-- As many others as are remembered, but one, and the message is not logged again. -/
theorem logged_once_iff_soon :
    ∃ told, ∃ w : World Unit, OnceCourse (World.start [] ()) told w ∧
      told.map (fun t => (t.level, t.key)) = (thereAndBack 127).map (fun n => (.info, plainMessage n)) ∧ OnlyFirst told := by
  obtain ⟨told, w, course, keys⟩ := OnceCourse.exists_plain (World.start [] ()) (thereAndBack 127)
  have few : told.length = 129 := by simpa [thereAndBack] using congrArg List.length keys
  exact ⟨told, w, course, keys, (logged_once_iff course rfl).1.mpr (againSoon_of_few (by rw [few]; decide))⟩

/-- As many others as are remembered, and the message is logged again. -/
theorem forgotten_logged_again :
    ∃ told, ∃ w : World Unit, OnceCourse (World.start [] ()) told w ∧
      told.map (fun t => (t.level, t.key)) = (thereAndBack 128).map (fun n => (.info, plainMessage n)) ∧ ¬ OnlyFirst told := by
  obtain ⟨told, w, course, keys⟩ := OnceCourse.exists_plain (World.start [] ()) (thereAndBack 128)
  refine ⟨told, w, course, keys, fun first => ?_⟩
  have soon := (onlyFirst_iff (course.remembers rfl).2).mp first
  obtain ⟨t, rest, rfl, latest, behind⟩ := List.map_eq_cons_iff.mp keys
  rw [List.map_append] at behind
  obtain ⟨between, back, rfl, others, earliest⟩ := List.map_eq_append_iff.mp behind
  obtain ⟨e, nothing, rfl, oldest, empty⟩ := List.map_eq_cons_iff.mp earliest
  obtain rfl := List.map_eq_nil_iff.mp empty
  obtain ⟨level, key⟩ := Prod.mk.inj latest
  obtain ⟨level', key'⟩ := Prod.mk.inj oldest
  have same : e.Same t := ⟨level'.trans level.symm, by rw [key', key]⟩
  have other : ∀ b ∈ between, ¬ b.Same t := by
    rintro b mem ⟨-, equal⟩
    have listed : (b.level, b.key) ∈ (List.range' 1 128).map fun n => (OnceLevel.info, plainMessage n) :=
      others ▸ List.mem_map_of_mem mem
    obtain ⟨n, range, eq⟩ := List.mem_map.mp listed
    rw [← (Prod.mk.inj eq).2, key, plainMessage_form] at equal
    have := (List.mem_range'_1.mp range).1
    omega
  have few := soon [] t between e [] rfl same other
  rw [level, heard_of_keys others, OnceKey.kinds_of_apart, List.length_map, List.length_range'] at few
  · exact absurd few (Nat.lt_irrefl 128)
  · rw [List.pairwise_map]
    exact (List.pairwise_lt_range' 1).imp fun less same => Nat.ne_of_lt less (plainMessage_form.mp same)

end Patchwork
