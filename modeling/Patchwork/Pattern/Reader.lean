import Patchwork.Pattern.Flags
import Patchwork.Pattern.Syntax
import Patchwork.Pattern.Fault
import Patchwork.Number.Integer

/-!
Reading the text of a pattern, with the flags in force and the groups seen so far. In verbose text blanks and
comments are passed over.
-/

namespace Patchwork.Pattern

open Patchwork.Text Patchwork.Number

/-- Why reading stops before the end. -/
inductive Stop where
  | fault (f : Fault)
  | restart (flags : Flags)

/-- What a reference to a group has to satisfy. -/
inductive Reference where
  | same
  | test
  | call
  deriving DecidableEq

/-- What has been read so far. -/
structure Reading where
  rest : List Char
  length : Nat
  global : Flags
  flags : Flags
  verbose : Bool
  count : Nat := 0
  names : List (String × Nat) := []
  opened : List Nat := []
  openings : List Nat := []
  references : List (Reference × String × Nat) := []
  known : List (String × Nat) := []

abbrev Reader := StateT Reading (Except Stop)

namespace Reader

def place : Reader Nat := do
  let s ← get
  pure (s.length - s.rest.length)

def failAt {α : Type} (cause : Cause) (place : Nat) : Reader α :=
  throw (.fault ⟨cause, some place⟩)

def fail {α : Type} (cause : Cause) : Reader α := do
  failAt cause (← place)

def rest : Reader (List Char) := do
  pure (← get).rest

def setRest (rest : List Char) : Reader Unit :=
  modify fun s => { s with rest }

def has (f : Flag) : Reader Bool := do
  pure ((← get).flags.contains f)

end Reader

/-- Without leading white space and comments; a comment reaches to the end of its line. -/
def skipIgnored : List Char → List Char
  | [] => []
  | c :: r =>
    if isBlank c then skipIgnored r
    else if c == '#' then skipComment r
    else c :: r
where
  skipComment : List Char → List Char
    | [] => []
    | '\n' :: r => skipIgnored r
    | _ :: r => skipComment r

/-- The rest behind some characters, with ignored text between them skipped. -/
def behind? (verbose : Bool) : List Char → List Char → Option (List Char)
  | [], s => some s
  | c :: w, s =>
    match if verbose then skipIgnored s else s with
    | d :: r => if c = d then behind? verbose w r else none
    | [] => none

/-- The longest run of a class, with ignored text between its characters skipped; the fuel bounds it. -/
def runOf (verbose : Bool) (p : Char → Bool) : Nat → List Char → List Char × List Char
  | 0, s => ([], s)
  | fuel + 1, s =>
    match if verbose then skipIgnored s else s with
    | c :: r =>
      if p c then
        let (w, r) := runOf verbose p fuel r
        (c :: w, r)
      else ([], c :: r)
    | [] => ([], [])

namespace Reader

/-- The next character, ignored text skipped unless `raw` is set. -/
def next (raw : Bool) : Reader (Option Char) := do
  let s ← get
  match if s.verbose && !raw then skipIgnored s.rest else s.rest with
  | [] => setRest []; pure none
  | c :: r => setRest r; pure (some c)

def accept (w : String) : Reader Bool := do
  let s ← get
  match behind? s.verbose w.toList s.rest with
  | some r => setRest r; pure true
  | none => pure false

def expect (w : String) : Reader Unit := do
  if !(← accept w) then fail (.missing w)

def takeRun (p : Char → Bool) : Reader (List Char) := do
  let s ← get
  let (w, r) := runOf s.verbose p s.rest.length s.rest
  setRest r
  pure w

/-- Runs a reader and takes nothing if it fails. -/
def attempt {α : Type} (m : Reader α) : Reader (Option α) := fun s =>
  match m s with
  | .ok (a, t) => .ok (some a, t)
  | .error (.fault _) => .ok (none, s)
  | .error stop => .error stop

/-- Whether the newer version of the rules is in force. -/
def isNewer : Reader Bool :=
  has .versionOne

/-- How letters compare under the flags in force. -/
def casing : Reader Casing := do
  if !(← has .ignoreCase) then pure .exact
  else if ← has .ascii then pure .asciiFolded
  else if ← has .fullCase then pure .full
  else pure .folded

def alphabet : Reader Alphabet := do
  pure (if ← has .ascii then .ascii else .newest)

def lineRule : Reader LineRule := do
  pure (if ← has .word then .separator else .feed)

/-- Runs a reader with the flags and the treatment of white space put back behind it. -/
def keepingFlags {α : Type} (m : Reader α) : Reader α := do
  let s ← get
  let a ← m
  modify fun t => { t with flags := s.flags, verbose := s.flags.contains .verbose }
  pure a

/-- The next number for a group that no named group has. -/
def freeNumber (names : List (String × Nat)) (isNamed : Bool) : Nat → Nat → Nat
  | 0, n => n
  | fuel + 1, n =>
    if isNamed && names.any (·.2 == n) then freeNumber names isNamed fuel (n + 1) else n

/-- Opens a group; a name in use keeps its number. -/
def openGroup (name : Option String) : Reader Nat := do
  let s ← get
  match name.bind fun n => s.names.find? (·.1 == n) with
  | some (_, n) => set { s with opened := n :: s.opened, openings := n :: s.openings }; pure n
  | none =>
    let n := freeNumber s.names name.isSome (s.names.length + 1) (s.count + 1)
    let names := match name with
      | some w => s.names ++ [(w, n)]
      | none => s.names
    set { s with count := n, names, opened := n :: s.opened, openings := n :: s.openings }
    pure n

def closeGroup : Reader Unit :=
  modify fun s => { s with opened := s.opened.drop 1 }

/-- The number that a reference names, if it is known. -/
def numberOf? (name : String) : Reader (Option Nat) := do
  match natOf? name.toList with
  | some n => pure (some n)
  | none =>
    let s ← get
    pure (((s.names ++ s.known).find? (·.1 == name)).map (·.2))

/-- Whether a reference names a group that is still open; by the newer rules that does not matter. -/
def isOpen (name : String) : Reader Bool := do
  if ← isNewer then pure false
  else
    match ← numberOf? name with
    | some n => pure ((← get).opened.contains n)
    | none => pure false

/-- Remembers a reference to be checked once all groups are known. -/
def refer (kind : Reference) (name : String) (place : Nat) : Reader Unit :=
  modify fun s => { s with references := s.references ++ [(kind, name, place)] }

end Reader

def isIdentifier (s : List Char) : Bool :=
  match s with
  | c :: r => isIdentStart c && r.all isIdentPart
  | [] => false

def isNumeral (s : List Char) : Bool :=
  !s.isEmpty && s.all isDecimal

open Reader in
/-- A group name up to a closing mark; `lowest` is the least number that may stand for a group. -/
def groupName (lowest : Option Nat) : Reader String := do
  let name ← takeRun fun c => c != ')' && c != '>'
  if name.isEmpty then fail .missingName
  if isNumeral name then
    match lowest with
    | some low => if (natOf? name).getD 0 < low then fail .badName
    | none => fail .badName
  else if !isIdentifier name then fail .badName
  pure (String.ofList name)

end Patchwork.Pattern
