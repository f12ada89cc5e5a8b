import Patchwork.Proofs.Likeness
import Patchwork.Script.Exec

/-!
Scripts in worlds that are alike. They see nothing but objects, so the same text does the same in each, if what it calls
does. The lemmas follow the functions that scripts are run by, one for each.
-/

namespace Patchwork

open Run Script

variable {κ : Type} {α β : Type}

namespace Blind

/-! ## Computations that others give -/

section

variable {R : World κ → World κ → Prop} {E : World κ → World κ → Prop}

theorem getD {o : Option (Within R α)} {other : Within R α} (found : ∀ m, o = some m → Blind E m)
    (absent : Blind E other) : Blind E (o.getD other) := by
  cases o with
  | none => exact absent
  | some m => exact found m rfl

variable [Still R]

instance (x y : Number.Binary64) : Blind E (powerOf x y : Within R _) := by
  unfold powerOf
  repeat' first | split | infer_instance

theorem doubleOp {op : BinaryOp} {x y : Number.Binary64} {m : Within R Value} (h : Script.doubleOp op x y = some m) :
    Blind E m := by
  cases op <;> cases h <;> infer_instance

theorem complexOp {op : BinaryOp} {z w : Number.Complex} {m : Within R Value} (h : Script.complexOp op z w = some m) :
    Blind E m := by
  cases op <;> cases h <;> repeat' first | split | infer_instance

theorem rounds {test : Within R Bool} {body otherwise : Within R Flow} (tested : Blind E test) (ran : Blind E body)
    (ended : Blind E otherwise) (fuel : Nat) : Blind E (Script.rounds test body otherwise fuel) := by
  induction fuel with
  | zero => exact inferInstanceAs (Blind E (throw _ : Within R _))
  | succ fuel rest =>
      unfold Script.rounds
      repeat' first | with_reducible refine bind ?_ fun _ => ?_ | split | infer_instance

theorem overItems {assign : Value → Within R Unit} {body otherwise : Within R Flow} (stored : ∀ v, Blind E (assign v))
    (ran : Blind E body) (ended : Blind E otherwise) (vs : List Value) :
    Blind E (Script.overItems assign body otherwise vs) := by
  induction vs with
  | nil => exact ended
  | cons v r rest =>
      unfold Script.overItems
      repeat' first | with_reducible refine bind ?_ fun _ => ?_ | split | infer_instance

end

variable {R : World κ → World κ → Prop} [Still R] {E : World κ → World κ → Prop} [Likeness E]
variable {call : Caller κ} [Calls call R] [calls : call.Blind E]

/-! ## What classes say about values -/

instance (v w : Value) (name reflected : String) : Blind E (askBoth call v w name reflected : Within R _) := by
  unfold askBoth
  refine bind inferInstance fun h => foldlM fun found o => ?_
  repeat' first | with_reducible refine bind ?_ fun _ => ?_ | split | infer_instance

instance (v w : Value) : Blind E (askEquality call v w : Within R _) := by
  unfold askEquality
  infer_instance

instance (test : Value → Value → Within R Bool) [each : ∀ v w, Blind E (test v w)] (pairs : List (Value × Value)) :
    Blind E (allPairs test pairs) := by
  induction pairs with
  | nil => exact inferInstanceAs (Blind E (pure true : Within R _))
  | cons p r ih =>
      unfold allPairs
      infer_instance

instance equalWithin (fuel : Nat) (v w : Value) : Blind E (Run.equalWithin call fuel v w : Within R _) := by
  induction fuel generalizing v w with
  | zero => exact inferInstanceAs (Blind E (fail _ : Within R _))
  | succ fuel ih =>
      unfold Run.equalWithin
      repeat' first | with_reducible refine bind ?_ fun _ => ?_ | split | infer_instance | dsimp only

instance (v w : Value) : Blind E (equal call v w : Within R _) := by
  unfold equal
  infer_instance

instance (v w : Value) : Blind E (equalItem call v w : Within R _) := by
  unfold equalItem
  infer_instance

instance (v : Value) (name : String) : Blind E (askText call v name : Within R _) := by
  unfold askText
  repeat' first | with_reducible refine bind ?_ fun _ => ?_ | split | infer_instance

instance (v : Value) : Blind E (checkDigits v : Within R _) := by
  unfold checkDigits
  repeat' first | split | infer_instance

instance (v : Value) : Blind E (shown call v : Within R _) := by
  unfold shown
  repeat' first | with_reducible refine bind ?_ fun _ => ?_ | split | infer_instance

instance (v : Value) : Blind E (textOf call v : Within R _) := by
  unfold textOf
  repeat' first | with_reducible refine bind ?_ fun _ => ?_ | split | infer_instance

/-! ## Operators -/

instance (n : Int) : Blind E (nearDouble n : Within R _) := by
  unfold nearDouble
  infer_instance

instance (a : Int) (b : Nat) : Blind E (wholePower a b : Within R _) := by
  unfold wholePower
  infer_instance

instance (a : Int) (b : Nat) : Blind E (shiftedLeft a b : Within R _) := by
  unfold shiftedLeft
  infer_instance

instance (op : BinaryOp) (a b : Int) : Blind E (wholeOp op a b : Within R _) := by
  cases op <;> (unfold wholeOp wholeOp.negativeShift; infer_instance)

instance (length : Nat) (n : Int) (fault : Cause) : Blind E (checkSize length n fault : Within R _) := by
  unfold checkSize
  infer_instance

instance (h : Heap) (v : Value) (n : Int) : Blind E (repeatedValue h v n : Within R _) := by
  unfold repeatedValue
  repeat' first | with_reducible refine bind ?_ fun _ => ?_ | split | infer_instance

instance (h : Heap) (sign : String) (a b : Value) : Blind E (product h sign a b : Within R _) := by
  unfold product
  repeat' first | with_reducible refine bind ?_ fun _ => ?_ | split | infer_instance | dsimp only

instance (h : Heap) (sign : String) (a b : Value) : Blind E (Script.sum h sign a b : Within R _) := by
  unfold Script.sum
  repeat' first | split | infer_instance

instance (op : BinaryOp) (sign : String) (a b : Value) : Blind E (operate op sign a b : Within R _) := by
  unfold operate
  repeat' first
    | with_reducible refine bind ?_ fun _ => ?_
    | with_reducible refine getD (fun _ => ?_) ?_
    | exact doubleOp
    | exact complexOp
    | split
    | infer_instance
    | dsimp only

instance (op : UnaryOp) (v : Value) : Blind E (unary call op v : Within R _) := by
  unfold unary
  repeat' first | with_reducible refine bind ?_ fun _ => ?_ | split | infer_instance | dsimp only

/-! ## Items -/

instance askedItems (asked : Nat → Within R Value) [each : ∀ n, Blind E (asked n)] (last : ErrorKind) (fuel n : Nat) :
    Blind E (Script.askedItems asked last fuel n) := by
  induction fuel generalizing n with
  | zero => exact inferInstanceAs (Blind E (throw _ : Within R _))
  | succ fuel ih =>
      unfold Script.askedItems
      repeat' first
        | with_reducible refine bind ?_ fun _ => ?_
        | with_reducible refine handle ?_ fun _ => ?_
        | split
        | infer_instance

instance (v : Value) : Blind E (builtinItems v : Within R _) := by
  unfold builtinItems
  repeat' first | with_reducible refine bind ?_ fun _ => ?_ | split | infer_instance

instance (v : Value) : Blind E (items call v : Within R _) := by
  unfold items
  repeat' first | with_reducible refine bind ?_ fun _ => ?_ | split | infer_instance

instance (v : Value) : Blind E (operandItems call v : Within R _) := by
  unfold operandItems
  infer_instance

instance (op : BinaryOp) (a b : Value) : Blind E (combinedSets? call op a b : Within R _) := by
  unfold combinedSets?
  repeat' first | with_reducible refine bind ?_ fun _ => ?_ | split | infer_instance | dsimp only

instance (op : BinaryOp) (sign : String) (a b : Value) : Blind E (operateWith call op sign a b : Within R _) := by
  unfold operateWith
  repeat' first | with_reducible refine bind ?_ fun _ => ?_ | split | infer_instance

instance (op : BinaryOp) (a b : Value) : Blind E (binary call op a b : Within R _) := by
  unfold binary
  infer_instance

instance (v : Value) : Blind E (mappingEntries? call v : Within R _) := by
  unfold mappingEntries?
  repeat' first | with_reducible refine bind ?_ fun _ => ?_ | split | infer_instance

/-- What reads the values of a mapping sees nothing else, either. -/
theorem mappingEntries? {v : Value} (w : World κ) (found : Option (List (Value × Within R Value))) (u : World κ)
    (ran : (Script.mappingEntries? call v : Within R _).run w = .ok found u) :
    ∀ es, found = some es → ∀ e ∈ es, Blind E e.2 := by
  intro es is e he
  obtain ⟨own, x, -, ran⟩ := bind_ok.mp ran
  obtain ⟨o, y, -, ran⟩ := bind_ok.mp ran
  dsimp only at ran
  split at ran
  · cases ran
    cases is
    obtain ⟨entry, -, rfl⟩ := List.mem_map.mp he
    infer_instance
  · cases ran
    cases is
    obtain ⟨entry, -, rfl⟩ := List.mem_map.mp he
    infer_instance
  · cases ran
    cases is
    obtain ⟨key, -, rfl⟩ := List.mem_map.mp he
    infer_instance
  · obtain ⟨keys?, z, -, ran⟩ := bind_ok.mp ran
    dsimp only at ran
    split at ran
    · cases ran
      cases is
    · obtain ⟨read, z₁, -, ran⟩ := bind_ok.mp ran
      obtain ⟨asked, z₂, -, ran⟩ := bind_ok.mp ran
      obtain ⟨keys, z₃, -, ran⟩ := bind_ok.mp ran
      cases ran
      cases is
      obtain ⟨key, -, rfl⟩ := List.mem_map.mp he
      dsimp only
      split <;> infer_instance

instance (op : BinaryOp) (a b : Value) : Blind E (augmented call op a b : Within R _) := by
  unfold augmented
  repeat' first | with_reducible refine bind ?_ fun _ => ?_ | split | infer_instance

instance anyEqual (v : Value) (vs : List Value) : Blind E (Script.anyEqual call v vs : Within R _) := by
  induction vs with
  | nil => exact inferInstanceAs (Blind E (pure false : Within R _))
  | cons w r ih =>
      unfold Script.anyEqual
      infer_instance

instance (container v : Value) : Blind E (holds call container v : Within R _) := by
  unfold holds
  repeat' first
    | with_reducible refine bind ?_ fun _ => ?_
    | with_reducible refine handle ?_ fun _ => ?_
    | split
    | infer_instance

instance (op : Comparison) (a b : Value) : Blind E (compareValues call op a b : Within R _) := by
  unfold compareValues
  repeat' first | with_reducible refine bind ?_ fun _ => ?_ | split | infer_instance

instance (key : Value) : Blind E (sliceOf? call key : Within R _) := by
  unfold sliceOf?
  repeat' first | with_reducible refine bind ?_ fun _ => ?_ | split | infer_instance | dsimp only

instance (i : Int) (type : String) : Blind E (checkIndex i type : Within R _) := by
  unfold checkIndex
  infer_instance

instance (kind type : String) (items : List Value) (key : Value) (rebuild : List Value → Within R Value)
    [each : ∀ vs, Blind E (rebuild vs)] : Blind E (sequenceItem call kind type items key rebuild) := by
  unfold sequenceItem
  repeat' first | with_reducible refine bind ?_ fun _ => ?_ | split | infer_instance | dsimp only

instance (key : Value) : Blind E (checkEntryKey key : Within R _) := by
  unfold checkEntryKey
  repeat' first | with_reducible refine bind ?_ fun _ => ?_ | split | infer_instance

instance (v key : Value) : Blind E (placeKey call v key : Within R _) := by
  unfold placeKey
  repeat' first | with_reducible refine bind ?_ fun _ => ?_ | split | infer_instance

instance (v key : Value) : Blind E (builtinItem call v key : Within R _) := by
  unfold builtinItem
  repeat' first
    | with_reducible refine bind ?_ fun _ => ?_
    | with_reducible refine mapM fun _ _ => ?_
    | split
    | infer_instance
    | dsimp only

instance (v key : Value) : Blind E (getItem call v key : Within R _) := by
  unfold getItem
  repeat' first | with_reducible refine bind ?_ fun _ => ?_ | split | infer_instance

instance (a : Address) (old : List Value) (s : Text.Slice) (value : Value) :
    Blind E (setSlice call a old s value : Within R _) := by
  unfold setSlice
  repeat' first
    | with_reducible refine bind ?_ fun _ => ?_
    | with_reducible refine handle ?_ fun _ => ?_
    | split
    | infer_instance

instance (v key value : Value) : Blind E (setBuiltinItem call v key value : Within R _) := by
  unfold setBuiltinItem
  repeat' first | with_reducible refine bind ?_ fun _ => ?_ | split | infer_instance

instance (v key value : Value) : Blind E (setItem call v key value : Within R _) := by
  unfold setItem
  repeat' first | with_reducible refine bind ?_ fun _ => ?_ | split | infer_instance

instance (v key : Value) : Blind E (deleteBuiltinItem call v key : Within R _) := by
  unfold deleteBuiltinItem
  repeat' first | with_reducible refine bind ?_ fun _ => ?_ | split | infer_instance

instance (v key : Value) : Blind E (deleteItem call v key : Within R _) := by
  unfold deleteItem
  repeat' first | with_reducible refine bind ?_ fun _ => ?_ | split | infer_instance

/-! ## Names -/

instance (a : Address) : Blind E (entries a : Within R _) := by
  unfold entries
  repeat' first | with_reducible refine bind ?_ fun _ => ?_ | split | infer_instance

instance (globals : Address) (name : String) : Blind E (loadGlobal globals name : Within R _) := by
  unfold loadGlobal
  repeat' first | with_reducible refine bind ?_ fun _ => ?_ | split | infer_instance

instance (f : Frame) (name : String) : Blind E (loadCell f name : Within R _) := by
  unfold loadCell
  repeat' first | with_reducible refine bind ?_ fun _ => ?_ | split | infer_instance

instance (f : Frame) (name : String) : Blind E (load f name : Within R _) := by
  unfold load
  repeat' first | with_reducible refine bind ?_ fun _ => ?_ | split | infer_instance | dsimp only

instance (a : Address) (name : String) (v : Value) : Blind E (storeIn a name v : Within R _) := by
  unfold storeIn
  infer_instance

instance (f : Frame) (name : String) (v : Value) : Blind E (store f name v : Within R _) := by
  unfold store
  repeat' first | with_reducible refine bind ?_ fun _ => ?_ | split | infer_instance

instance (a : Address) (name : String) : Blind E (removeFrom a name : Within R _) := by
  unfold removeFrom
  repeat' first | with_reducible refine bind ?_ fun _ => ?_ | split | infer_instance

instance (f : Frame) (name : String) : Blind E (remove f name : Within R _) := by
  unfold remove
  repeat' first | with_reducible refine bind ?_ fun _ => ?_ | split | infer_instance

instance (f : Frame) : Blind E (ownNames f : Within R _) := by
  unfold ownNames
  repeat' first | with_reducible refine bind ?_ fun _ => ?_ | split | infer_instance

instance (f : Frame) (name : String) (code : Code) (defaults : List (String × Value)) :
    Blind E (makeFunction f name code defaults : Within R _) := by
  unfold makeFunction
  infer_instance

/-! ## Arguments -/

instance (g : Value) : Blind E (calledText call g : Within R _) := by
  unfold calledText
  repeat' first | with_reducible refine bind ?_ fun _ => ?_ | split | infer_instance

instance (g v : Value) : Blind E (namedFrom call g v : Within R _) := by
  unfold namedFrom
  refine bind_of (P := fun found => ∀ es, found = some es → ∀ e ∈ es, Blind E e.2) inferInstance mappingEntries? ?_
  intro found reads
  split
  · next es =>
    refine mapM fun e he => ?_
    have read := reads es rfl e he
    repeat' first | with_reducible refine bind ?_ fun _ => ?_ | split | infer_instance
  · infer_instance

instance (g v : Value) : Blind E (positionalFrom call g v : Within R _) := by
  unfold positionalFrom
  repeat' first
    | with_reducible refine bind ?_ fun _ => ?_
    | with_reducible refine handle ?_ fun _ => ?_
    | split
    | infer_instance

instance (values : List Value) (targets : List Expr) : Blind E (spreadOver values targets : Within R _) := by
  unfold spreadOver
  repeat' first | with_reducible refine bind ?_ fun _ => ?_ | split | infer_instance

instance (v : Value) : Blind E (unpacked call v : Within R _) := by
  unfold unpacked
  repeat' first
    | with_reducible refine bind ?_ fun _ => ?_
    | with_reducible refine handle ?_ fun _ => ?_
    | split
    | infer_instance

/-! ## Expressions -/

set_option linter.unusedSectionVars false in
mutual

theorem eval (f : Frame) : (e : Expr) → Blind E (Script.eval call f e : Within R _)
  | .none | .ellipsis | .bool _ | .int _ | .float _ | .imaginary _ | .str _ | .bytes _ | .name _ => by
      rw [Script.eval]
      infer_instance
  | .list es | .tuple es => by
      have items := evalItems f es
      rw [Script.eval]
      infer_instance
  | .set es => by
      have items := evalItems f es
      rw [Script.eval]
      infer_instance
  | .dict es => by
      have entries := evalEntries f [] es
      rw [Script.eval]
      infer_instance
  | .starred e => by
      have inside := eval f e
      rw [Script.eval]
      exact inside
  | .call g args => by
      have callee := eval f g
      have arguments := fun g => evalArgs f g ⟨[], []⟩ args
      rw [Script.eval]
      refine bind callee fun g => bind (arguments g) fun args => ?_
      split <;> infer_instance
  | .attr e name => by
      have inside := eval f e
      rw [Script.eval]
      infer_instance
  | .index e key => by
      have inside := eval f e
      have at_ := eval f key
      rw [Script.eval]
      infer_instance
  | .slice a b c => by
      have first := evalOpt f a
      have second := evalOpt f b
      have third := evalOpt f c
      rw [Script.eval]
      infer_instance
  | .unary op e => by
      have inside := eval f e
      rw [Script.eval]
      infer_instance
  | .binary op a b | .both a b | .either a b => by
      have left := eval f a
      have right := eval f b
      rw [Script.eval]
      infer_instance
  | .compare e rest => by
      have first := eval f e
      have others := fun v => evalCompared f v rest
      rw [Script.eval]
      infer_instance
  | .choose test yes no => by
      have condition := eval f test
      have one := eval f yes
      have other := eval f no
      rw [Script.eval]
      infer_instance
  | .lambda ps defaults body row => by
      have given := evalDefaults f defaults
      rw [Script.eval]
      infer_instance
  | .bind name e => by
      have inside := eval f e
      rw [Script.eval]
      infer_instance
  | .build kind item value clauses => by
      have first := evalFirst f clauses
      have made := fun f => eval f item
      have paired := fun f => evalOpt f value
      rw [Script.eval]
      refine bind first fun found => bind inferInstance fun cells => bind ?_ fun found => ?_
      · exact evalClauses _ _ inferInstance _ _ clauses
      · split <;> infer_instance

theorem evalOpt (f : Frame) : (e : Option Expr) → Blind E (Script.evalOpt call f e : Within R _)
  | none => by
      rw [Script.evalOpt]
      infer_instance
  | some e => by
      have inside := eval f e
      rw [Script.evalOpt]
      infer_instance

theorem evalItems (f : Frame) : (es : List Expr) → Blind E (Script.evalItems call f es : Within R _)
  | [] => by
      rw [Script.evalItems]
      infer_instance
  | e :: r => by
      have first := eval f e
      have rest := evalItems f r
      cases e with
      | starred e =>
          rw [Script.eval] at first
          rw [Script.evalItems]
          refine bind first fun v => bind (handle inferInstance fun c => ?_) inferInstance
          split <;> infer_instance
      | _ =>
          rw [Script.evalItems]
          · infer_instance
          · simp

theorem evalArgs (f : Frame) (g : Value) (done : Arguments) :
    (args : List (ArgKind × Expr)) → Blind E (Script.evalArgs call f g done args : Within R _)
  | [] => by
      rw [Script.evalArgs]
      infer_instance
  | (kind, e) :: r => by
      have first := eval f e
      have rest := fun done => evalArgs f g done r
      cases kind with
      | namedSpread =>
          rw [Script.evalArgs]
          repeat' first | with_reducible refine bind ?_ fun _ => ?_ | split | infer_instance
      | _ =>
          rw [Script.evalArgs]
          infer_instance

theorem evalCompared (f : Frame) (v : Value) :
    (rest : List (Comparison × Expr)) → Blind E (Script.evalCompared call f v rest : Within R _)
  | [] => by
      rw [Script.evalCompared]
      infer_instance
  | (op, e) :: r => by
      have first := eval f e
      have rest := fun v => evalCompared f v r
      rw [Script.evalCompared]
      infer_instance

theorem evalDefaults (f : Frame) :
    (ds : List (String × Expr)) → Blind E (Script.evalDefaults call f ds : Within R _)
  | [] => by
      rw [Script.evalDefaults]
      infer_instance
  | (n, e) :: r => by
      have first := eval f e
      have rest := evalDefaults f r
      rw [Script.evalDefaults]
      infer_instance

theorem evalEntries (f : Frame) (done : List (Value × Value)) :
    (es : List (Option Expr × Expr)) → Blind E (Script.evalEntries call f done es : Within R _)
  | [] => by
      rw [Script.evalEntries]
      infer_instance
  | (some k, e) :: r => by
      have key := eval f k
      have value := eval f e
      have rest := fun done => evalEntries f done r
      rw [Script.evalEntries]
      infer_instance
  | (none, e) :: r => by
      have spread := eval f e
      have rest := fun done => evalEntries f done r
      rw [Script.evalEntries]
      refine bind spread fun v => ?_
      refine bind_of (P := fun found => ∀ es, found = some es → ∀ e ∈ es, Blind E e.2) inferInstance mappingEntries? ?_
      intro found reads
      split
      · next es =>
        refine bind (mapM fun e he => ?_) fun es => rest _
        have read := reads es rfl e he
        infer_instance
      · infer_instance

theorem evalFirst (f : Frame) :
    (clauses : List (Expr × Expr × List Expr)) → Blind E (Script.evalFirst call f clauses : Within R _)
  | [] => by
      rw [Script.evalFirst]
      infer_instance
  | (_, e, _) :: _ => by
      have first := eval f e
      rw [Script.evalFirst]
      infer_instance

theorem evalClauses (f : Frame) (finish : Within R (Value × Value)) (ends : Blind E finish)
    (first : Option (List Value)) (done : List (Value × Value)) :
    (clauses : List (Expr × Expr × List Expr)) → Blind E (Script.evalClauses call f finish first done clauses)
  | [] => by
      rw [Script.evalClauses]
      infer_instance
  | (target, e, tests) :: r => by
      have given := eval f e
      have stored := fun v => assign f target v
      have tested := evalTests f tests
      have rest := fun done => evalClauses f finish ends none done r
      cases first <;> (rw [Script.evalClauses]; infer_instance)

theorem evalTests (f : Frame) : (tests : List Expr) → Blind E (Script.evalTests call f tests : Within R _)
  | [] => by
      rw [Script.evalTests]
      infer_instance
  | e :: r => by
      have first := eval f e
      have rest := evalTests f r
      rw [Script.evalTests]
      infer_instance

theorem assign (f : Frame) : (target : Expr) → (v : Value) → Blind E (Script.assign call f target v : Within R _)
  | .name id, v => by
      rw [Script.assign]
      infer_instance
  | .attr e name, v => by
      have inside := eval f e
      rw [Script.assign]
      infer_instance
  | .index e key, v => by
      have inside := eval f e
      have place := eval f key
      rw [Script.assign]
      infer_instance
  | .starred e, v => by
      have inside := assign f e v
      rw [Script.assign]
      exact inside
  | .tuple targets, v | .list targets, v => by
      have all := fun vs => assignAll f targets vs
      rw [Script.assign]
      infer_instance
  | .none, _ | .ellipsis, _ | .bool _, _ | .int _, _ | .float _, _ | .imaginary _, _ | .str _, _ | .bytes _, _
  | .set _, _ | .dict _, _ | .call _ _, _ | .slice _ _ _, _ | .unary _ _, _ | .binary _ _ _, _ | .both _ _, _
  | .either _ _, _ | .compare _ _, _ | .choose _ _ _, _ | .lambda _ _ _ _, _ | .bind _ _, _ | .build _ _ _ _, _ => by
      unfold Script.assign
      infer_instance

theorem assignAll (f : Frame) :
    (targets : List Expr) → (vs : List Value) → Blind E (Script.assignAll call f targets vs : Within R _)
  | [], _ => by
      rw [Script.assignAll]
      · infer_instance
      · simp
  | _ :: _, [] => by
      rw [Script.assignAll]
      · infer_instance
      · simp
  | t :: ts, v :: vs => by
      have first := assign f t v
      have rest := assignAll f ts vs
      rw [Script.assignAll]
      infer_instance

end

/-! ## Classes -/

instance (h : Heap) (bases : List Value) : Blind E (joinedLayout h bases : Within R _) := by
  unfold joinedLayout
  refine foldlM fun best b => ?_
  dsimp only
  infer_instance

instance (h : Heap) (bases : List Value) : Blind E (checkBaseOrder h bases : Within R _) :=
  check bases
where
  check : (rest : List Value) → Blind E (checkBaseOrder.check h bases rest : Within R Unit)
    | [] => by
        unfold checkBaseOrder.check
        infer_instance
    | b :: rest => by
        have others := check rest
        unfold checkBaseOrder.check
        infer_instance

instance (bases : List Value) : Blind E (checkBases bases : Within R _) := by
  unfold checkBases
  repeat' first | with_reducible refine bind ?_ fun _ => ?_ | split | infer_instance

instance (name : String) (bases : List Value) (named : List (String × Value)) (body : Address) :
    Blind E (makeClass call name bases named body : Within R _) := by
  unfold makeClass
  repeat' first | with_reducible refine bind ?_ fun _ => ?_ | split | infer_instance

/-! ## Statements -/

instance (f : Frame) (e : Expr) : Blind E (Script.eval call f e : Within R _) :=
  eval f e

instance (f : Frame) (es : List Expr) : Blind E (Script.evalItems call f es : Within R _) :=
  evalItems f es

instance (f : Frame) (g : Value) (done : Arguments) (args : List (ArgKind × Expr)) :
    Blind E (Script.evalArgs call f g done args : Within R _) :=
  evalArgs f g done args

instance (f : Frame) (ds : List (String × Expr)) : Blind E (Script.evalDefaults call f ds : Within R _) :=
  evalDefaults f ds

instance (f : Frame) (target : Expr) (v : Value) : Blind E (Script.assign call f target v : Within R _) :=
  assign f target v

instance (v : Value) (decorators : List Value) : Blind E (decorate call v decorators : Within R _) := by
  unfold decorate
  infer_instance

instance (name : String) : Blind E (importModule name : Within R _) := by
  unfold importModule
  infer_instance

theorem deleteTargets (f : Frame) : (targets : List Expr) →
    Blind E (deleteTarget.deleteTargets call f targets : Within R Unit)
  | [] => by
      unfold deleteTarget.deleteTargets
      infer_instance
  | e :: r => by
      have rest := deleteTargets f r
      cases e <;> (unfold deleteTarget.deleteTargets; infer_instance)

instance (f : Frame) (target : Expr) : Blind E (deleteTarget call f target : Within R Unit) := by
  have all (es : List Expr) : Blind E (deleteTarget.deleteTargets call f es : Within R Unit) :=
    deleteTargets f es
  cases target <;> (unfold deleteTarget; infer_instance)

instance (v : Value) : Blind E (raiseFailure call v : Within R _) := by
  unfold raiseFailure
  repeat' first | with_reducible refine bind ?_ fun _ => ?_ | split | infer_instance

instance (v : Value) : Blind E (raiseValue call v : Within R _) := by
  unfold raiseValue
  repeat' first | with_reducible refine bind ?_ fun _ => ?_ | split | infer_instance

set_option linter.unusedSectionVars false in
mutual

theorem exec (f : Frame) : (s : Stmt) → Blind E (Script.exec call f s : Within R _)
  | .choose test yes no => by
      have one := execAll f yes
      have other := execAll f no
      unfold Script.exec
      infer_instance
  | .loop test body otherwise => by
      have ran := execAll f body
      have ended := execAll f otherwise
      unfold Script.exec
      exact rounds inferInstance ran ended _
  | .each target e body otherwise => by
      have ran := execAll f body
      have ended := execAll f otherwise
      unfold Script.exec
      exact bind inferInstance fun v => bind inferInstance fun vs => overItems inferInstance ran ended vs
  | .describe name shown args decorators body row => by
      have ran := fun f => execAll f body
      unfold Script.exec
      repeat' first | with_reducible refine bind ?_ fun _ => ?_ | split | infer_instance
  | .importFrom module names => by
      unfold Script.exec
      refine bind inferInstance fun v => bind (forM fun n => bind inferInstance fun w => ?_) inferInstance
      split <;> infer_instance
  | .augment target op value => by
      unfold Script.exec
      repeat' first | with_reducible refine bind ?_ fun _ => ?_ | split | infer_instance
  | .annotate target value => by
      unfold Script.exec
      repeat' first | with_reducible refine bind ?_ fun _ => ?_ | split | infer_instance
  | .assert test message => by
      unfold Script.exec
      repeat' first | with_reducible refine bind ?_ fun _ => ?_ | split | infer_instance
  | .give e | .raise e => by
      cases e <;> (unfold Script.exec; infer_instance)
  | .expr _ | .assign _ _ | .delete _ | .global _ | .nonlocal _ | .imports _ | .pass | .stop | .skip
  | .define _ _ _ _ _ _ _ => by
      unfold Script.exec
      infer_instance

theorem execAll (f : Frame) : (body : List Stmt) → Blind E (Script.execAll call f body : Within R _)
  | [] => by
      unfold Script.execAll
      infer_instance
  | s :: r => by
      have first := exec f s
      have rest := execAll f r
      unfold Script.execAll
      refine bind first fun flow => ?_
      split <;> infer_instance

end

/-! ## Texts -/

instance (globals : Address) : Blind E (addBuiltins globals : Within R _) := by
  unfold addBuiltins
  infer_instance

instance (body : List Stmt) (file : String) (globals locals : Address) :
    Blind E (runText call body file globals locals : Within R _) := by
  unfold runText
  exact bind inferInstance fun _ => bind (execAll _ body) inferInstance

end Blind

end Patchwork
