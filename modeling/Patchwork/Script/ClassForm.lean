import Patchwork.Script.Container

/-!
Classes from their definitions: what they may inherit from, and what they keep of the names in their body.
-/

namespace Patchwork.Script

open Run Heap

variable {κ : Type} {R : World κ → World κ → Prop} [Still R]

/-- Kinds of errors whose objects hold more than their arguments. -/
def extendedErrors : List ErrorKind :=
  [.attributes, .importing, .names, .os, .stopIteration, .syntaxFault, .exit]

/-- The built-in type that lays out the objects of a class; none for plain objects. -/
def layoutOf (h : Heap) (base : Value) : Option Native :=
  let native := match base with
    | .native n => some n
    | .ref a => h.nativeBase? a
    | _ => none
  match native with
  | some (.type .object) | none => none
  | some (.error k) => some (.error ((k.lineage.find? extendedErrors.contains).getD .exception))
  | some n => some n

/-- Whether objects of the first layout are also of the second one. -/
def extendsLayout (a b : Option Native) : Bool :=
  match a, b with
  | _, none => true
  | some (.error k), some (.error l) => k == l || l == .exception
  | some m, some n => m == n
  | none, some _ => false

/-- The layout of a class with some bases: the most special one, of which the others must be a part. -/
def joinedLayout (h : Heap) (bases : List Value) : Within R (Option Native) :=
  bases.foldlM (fun (best : Option Native) b =>
    let own := layoutOf h b
    if extendsLayout best own then pure best
    else if extendsLayout own best then pure own
    else mistyped "multiple bases have instance lay-out conflict") none

/-- Types that nothing may inherit from. -/
def isClosedType : Value → Bool
  | .native (.type .bool) | .native (.type (.other _)) => true
  | _ => false

/-- Whether a type is a base of another one. -/
def isBaseOf (h : Heap) (b v : Value) : Bool :=
  match b, v with
  | .native (.type .object), .native (.type .object) => false
  | .native (.type .object), _ => true
  | .ref c, .ref a => inheritsFrom h c a
  | .native (.error k), .native (.error l) => k != l && l.isA k
  | .native (.error k), .ref a => (h.errorKind? a).any (·.isA k)
  | .native n, .ref a => h.nativeBase? a == some n
  | _, _ => false

/-- The name of a type. -/
def baseName (h : Heap) (v : Value) : String :=
  match v with
  | .ref a => ((classAt? h a).map ClassObject.name).getD (h.str v)
  | .native n => n.name
  | v => h.str v

/-- Fails if a base stands twice, or before one that inherits from it. -/
def checkBaseOrder (h : Heap) (bases : List Value) : Within R Unit :=
  let rec check : List Value → Within R Unit
    | [] => pure ()
    | b :: rest => do
      if rest.any (Value.sameKey b) then mistyped s!"duplicate base class {baseName h b}"
      if rest.any (isBaseOf h b) then
        mistyped ("Cannot create a consistent method resolution
order (MRO) for bases " ++
          ", ".intercalate (bases.map (baseName h)))
      check rest
  check bases

/-- Fails on bases that a class cannot have together. -/
def checkBases (bases : List Value) : Within R Unit := do
  let h ← heap
  match bases.find? isClosedType with
  | some (.native n) => fail (.badBase n.name)
  | _ =>
    let _ ← joinedLayout h bases
    checkBaseOrder h bases

/-- A class from the names of its body. What its first base is an object of makes it; that is usually the type of
types. -/
def makeClass (call : Caller κ) [Calls call R] (name : String) (bases : List Value) (named : List (String × Value))
    (body : Address) : Within R Value := do
  let h ← heap
  let maker := (Attributes.get? named "metaclass").getD ((bases.head?.map (typeOf h)).getD (.native (.type .type)))
  if bases.any fun b => !Value.sameKey (typeOf h b) ((bases.head?.map (typeOf h)).getD .none) then
    mistyped ("metaclass conflict: the metaclass of a derived class must be a (non-strict) subclass of the " ++
      "metaclasses of all its bases")
  if Value.sameKey maker (.native (.type .type)) then
    checkBases bases
    let attrs := (← entries body).filterMap fun e =>
      match e.1 with
      | .str s => some (s, e.2)
      | _ => none
    let text (key default : String) : String := match Attributes.get? attrs key with
      | some (.str s) => s
      | _ => default
    let kept := attrs.filter fun a => !(["__module__", "__qualname__"].contains a.1)
    let own : Attributes :=
      if (Attributes.get? kept "__eq__").isSome && (Attributes.get? kept "__hash__").isNone then kept ++ [("__hash__", .none)]
      else kept
    let full := text "__qualname__" name
    let made ← new (.class ⟨name, full, text "__module__" "builtins", bases, own⟩)
    if named.any (·.1 != "metaclass") then
      mistyped s!"{full}.__init_subclass__() takes no keyword arguments"
    pure made
  else ask call maker ⟨[.str name, .tuple bases, .ref body], []⟩

end Patchwork.Script
