import Patchwork.Value.Basic
import Patchwork.Number.FloatText

/-!
Tables of module factories. An entry may be processed (read once, so that its factory has been patched),
hidden (kept but not listed) or pinned (described, so that it may not go away).
-/

namespace Patchwork

/-- A table with what patches a factory at its first read. -/
structure Table where
  factories : List (Value × Value)
  patcher : Value
  processed : List Value
  pinned : List Value
  hidden : List Value
  deriving Inhabited

/-- What a description of an entry says. -/
structure EntryDescriptor where
  key : Value
  value : Value
  enumerable : Bool
  writable : Bool
  configurable : Bool

/-- Module ids are whole numbers and text that reads as a number. -/
def isModuleId : Value → Bool
  | .int _ => true
  | .str s => (Number.floatOf? s).any fun x => !x.isNan
  | _ => false

namespace Table

/-- Names that are always reported, even when they are not stored. -/
def reservedNames : List String :=
  ["__dict__", "__doc__", "__module__"]

def of (factories : List (Value × Value)) (patcher : Value) : Table :=
  ⟨factories, patcher, [], [], []⟩

def holds (values : List Value) (key : Value) : Bool :=
  values.any fun v => Value.sameKey v key

def addKey (values : List Value) (key : Value) : List Value :=
  if holds values key then values else values ++ [key]

def get? (t : Table) (key : Value) : Option Value :=
  Value.lookup? t.factories key

def contains (t : Table) (key : Value) : Bool :=
  Value.hasKey t.factories key

/-- Whether a read of a stored factory patches it first. -/
def isFresh (t : Table) (key factory : Value) : Bool :=
  (match factory with
    | .none => false
    | _ => true) && isModuleId key && !holds t.processed key

def process (t : Table) (key : Value) : Table :=
  { t with processed := addKey t.processed key }

def set (t : Table) (key value : Value) : Table :=
  { t with factories := Value.insert t.factories key value }

def isPinned (t : Table) (key : Value) : Bool :=
  holds t.pinned key

/-- Without an entry, which is no longer hidden either. -/
def erase (t : Table) (key : Value) : Table :=
  { t with
    factories := Value.erase t.factories key
    hidden := t.hidden.filter fun v => !Value.sameKey v key }

def hide (t : Table) (key : Value) : Table :=
  { t with hidden := addKey t.hidden key }

def isHidden (t : Table) (key : Value) : Bool :=
  holds t.hidden key

def isProcessed (t : Table) (key : Value) : Bool :=
  holds t.processed key

/-- The listed keys in order. -/
def keys (t : Table) : List Value :=
  (t.factories.map (·.1)).filter fun k => !t.isHidden k

def size (t : Table) : Nat :=
  t.keys.length

/-- All stored keys, then the reserved names that are not stored. -/
def ownKeys (t : Table) : List Value :=
  t.factories.map (·.1) ++ (reservedNames.map Value.str).filter fun k => !t.contains k

def isReserved (key : Value) : Bool :=
  (reservedNames.map Value.str).any fun k => Value.sameKey k key

/-- Describes an entry and pins it; a reserved name that is not stored has a fixed description. -/
def describe (t : Table) (key : Value) : Option EntryDescriptor × Table :=
  match t.get? key with
  | some value =>
    (some ⟨key, value, !t.isHidden key, true, true⟩, { t with pinned := addKey t.pinned key })
  | none => if isReserved key then (some ⟨key, .none, false, false, false⟩, t) else (none, t)

def text (t : Table) : String :=
  s!"<LazyModuleTable {t.factories.length} factories, {t.processed.length} processed>"

end Table

end Patchwork
