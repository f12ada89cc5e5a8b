import Patchwork.Pattern.Escape

/-!
Reading the text of a plain pattern: its tokens, its escapes, the groups seen so far and how wide they are.
-/

namespace Patchwork.Pattern.Plain

open Patchwork.Text Patchwork.Number

/-- The fewest and the most characters that a part takes. -/
structure Width where
  low : Nat
  high : Option Nat
  deriving DecidableEq

namespace Width

def add (a b : Width) : Width :=
  ⟨a.low + b.low, a.high.bind fun m => b.high.map (m + ·)⟩

def join (a b : Width) : Width :=
  ⟨min a.low b.low, a.high.bind fun m => b.high.map (max m)⟩

def times (w : Width) (low : Nat) (high : Option Nat) : Width :=
  ⟨w.low * low, if w.high = some 0 ∨ high = some 0 then some 0 else w.high.bind fun m => high.map (m * ·)⟩

def isFixed (w : Width) : Bool :=
  w.high == some w.low

end Width

/-- What has been read so far. A group has a width once it is closed; a part that looks behind may not refer
to groups from its own first number on. Some faults count only once all has been read; they are kept with the
places that they belong to. -/
structure Reading where
  rest : List Char
  length : Nat
  flags : Flags
  widths : List (Option Width) := []
  names : List (String × Nat) := []
  lookBehind : Option Nat := none
  tests : List (Nat × Nat) := []
  late : List (Nat × Cause) := []

abbrev Reader := StateT Reading (Except Fault)

def place : Reader Nat := do
  let s ← get
  pure (s.length - s.rest.length)

def failAt {α : Type} (cause : Cause) (place : Nat) : Reader α :=
  throw ⟨cause, some place⟩

/-- Fails at a place that lies `back` characters before the next token. -/
def failBack {α : Type} (cause : Cause) (back : Nat) : Reader α := do
  failAt cause ((← place) - back)

def fail {α : Type} (cause : Cause) : Reader α :=
  failBack cause 0

/-- A character, or a backslash with the character behind it. -/
def tokenOf : List Char → List Char
  | [] => []
  | '\\' :: c :: _ => ['\\', c]
  | c :: _ => [c]

/-- The next token; nothing at the end. -/
def peek : Reader (List Char) := do
  pure (tokenOf (← get).rest)

/-- Goes on behind a place. A backslash that ends the text is a fault as soon as it comes next. -/
def moveTo (rest : List Char) : Reader Unit := do
  if rest = ['\\'] then failAt .openEscape ((← get).length - 1)
  modify fun s => { s with rest }

def take : Reader (List Char) := do
  let token ← peek
  moveTo ((← get).rest.drop token.length)
  pure token

def accept (c : Char) : Reader Bool := do
  if (← peek) = [c] then
    let _ ← take
    pure true
  else pure false

/-- Up to `n` characters of a class. -/
def takeUpTo (p : Char → Bool) : Nat → Reader (List Char)
  | 0 => pure []
  | n + 1 => do
    match ← peek with
    | [c] =>
      if p c then
        let _ ← take
        pure (c :: (← takeUpTo p n))
      else pure []
    | _ => pure []

/-- The tokens up to a closing mark; the fuel bounds their number. -/
def takeUntil (stop : Char) (what : String) : Nat → List Char → Reader (List Char)
  | 0, _ => fail (.missing what)
  | fuel + 1, found => do
    match ← take with
    | [] =>
      if found.isEmpty then fail (.missing what)
      else failBack (.openGroupName stop.toString) found.length
    | token =>
      if token = [stop] then
        if found.isEmpty then failBack (.missing what) 1
        pure found
      else takeUntil stop what fuel (found ++ token)

def takeName (stop : Char) (what : String) : Reader (List Char) := do
  takeUntil stop what ((← get).rest.length + 1) []

/-- A group name that has been read up to its closing mark. -/
def checkName (name : List Char) : Reader Unit := do
  if !isIdentifier name then failBack (.nameText (String.ofList name)) (name.length + 1)

def groups : Reader Nat := do
  pure ((← get).widths.length + 1)

/-- The width of a group, if it is closed. -/
def groupWidth? (n : Nat) : Reader (Option Width) := do
  pure ((← get).widths[n - 1]?.join)

def openGroup (name : Option (List Char)) : Reader Nat := do
  let s ← get
  let n := s.widths.length + 1
  match name with
  | none => set { s with widths := s.widths ++ [none] }; pure n
  | some w =>
    let text := String.ofList w
    match s.names.find? (·.1 == text) with
    | some (_, old) => failBack (.groupAgain text n old) (w.length + 1)
    | none => set { s with widths := s.widths ++ [none], names := s.names ++ [(text, n)] }; pure n

def closeGroup (n : Nat) (w : Width) : Reader Unit :=
  modify fun s => { s with widths := s.widths.set (n - 1) (some w) }

/-- Checks a reference to a group from within a part that looks behind. -/
def checkBehind (n : Nat) : Reader Unit := do
  match (← get).lookBehind with
  | none => pure ()
  | some first =>
    if (← groupWidth? n).isNone then fail .openGroup
    if first ≤ n then fail .groupInLookBehind

def casing (flags : Flags) : Casing :=
  if !flags.contains .ignoreCase then .exact
  else if flags.contains .ascii then .asciiFolded
  else .earlier

def alphabet (flags : Flags) : Alphabet :=
  if flags.contains .ascii then .ascii else .earlier

/-- The digits of a hexadecimal escape; `letter` says how many there are. -/
def hexEscape (letter : Char) (count : Nat) : Reader Char := do
  let digits ← takeUpTo (fun c => (Name.hexValue? c).isSome) count
  if digits.length < count then
    failBack (.shortEscape (String.ofList (letter :: digits))) (digits.length + 2)
  let value := (Name.hexOnto 0 digits).getD 0
  if 0x110000 ≤ value then
    failBack (.escapeText (String.ofList ('\\' :: letter :: digits))) (digits.length + 2)
  pure (Char.ofNat value)

def namedEscape : Reader Char := do
  if !(← accept '\x7b') then fail (.missing "\x7b")
  let name ← takeName '\x7d' "character name"
  match Name.lookup? (String.ofList name) with
  | some c => pure c
  | none => failBack (.characterNamed (String.ofList name)) (name.length + 4)

/-- An octal number that an escape gives. -/
def octalChar (digits : List Char) : Reader Char := do
  let value := digits.foldl (fun n c => n * 8 + octalValue c) 0
  if 0o377 < value then
    failBack (.octalTooLarge (String.ofList ('\\' :: digits))) (digits.length + 1)
  pure (Char.ofNat value)

/-- A class that an escape stands for. -/
def classEscape? (flags : Flags) (c : Char) : Option CharSet :=
  if c == 'h' then none else Pattern.classEscape? (alphabet flags) c

/-- An escape inside a set. -/
def setEscape (flags : Flags) (c : Char) : Reader CharSet := do
  if let some d := controlEscape? c then pure (.single d)
  else if let some s := classEscape? flags c then pure s
  else if let some n := hexLength? c then pure (.single (← hexEscape c n))
  else if c == 'N' then pure (.single (← namedEscape))
  else if isOctal c then
    let more ← takeUpTo isOctal 2
    pure (.single (← octalChar (c :: more)))
  else if c.isDigit || c.isAlpha then failBack (.escapeText (String.ofList ['\\', c])) 2
  else pure (.single c)

/-- A place that an escape stands for. -/
def placeEscape? (flags : Flags) (c : Char) : Option Node :=
  let letters := alphabet flags
  match c with
  | 'A' => some (.place .textStart)
  | 'b' => some (.place (.boundary letters))
  | 'B' => some (.seq (.place .someText) (.place (.inner letters)))
  | 'Z' => some (.place .textEnd)
  | _ => none

/-- A group by its number, or a character by three octal digits. -/
def numericEscape (flags : Flags) (c : Char) : Reader (Node × Width) := do
  let second ← takeUpTo Char.isDigit 1
  let third ← if second.any isOctal && isOctal c then takeUpTo isOctal 1 else pure []
  let digits := c :: second ++ third
  if !third.isEmpty then pure (.char (← octalChar digits) (casing flags), ⟨1, some 1⟩)
  else
    let n := (natOf? digits).getD 0
    if n < (← groups) then
      match ← groupWidth? n with
      | none => failBack .openGroup (digits.length + 1)
      | some w =>
        checkBehind n
        pure (.same n (casing flags), w)
    else failBack (.groupNumbered n) digits.length

/-- An escape outside a set that is no place. -/
def escape (flags : Flags) (c : Char) : Reader (Node × Width) := do
  let letter (d : Char) : Node × Width := (.char d (casing flags), ⟨1, some 1⟩)
  if let some s := classEscape? flags c then pure (.set s .exact, ⟨1, some 1⟩)
  else if let some d := controlEscape? c then pure (letter d)
  else if let some n := hexLength? c then pure (letter (← hexEscape c n))
  else if c == 'N' then pure (letter (← namedEscape))
  else if c == '0' then
    let more ← takeUpTo isOctal 2
    pure (letter (← octalChar (c :: more)))
  else if c.isDigit then numericEscape flags c
  else if c.isAlpha then failBack (.escapeText (String.ofList ['\\', c])) 2
  else pure (letter c)

/-- One end of a range: a token with the set it stands for. -/
def setItem (flags : Flags) (token : List Char) : Reader CharSet :=
  match token with
  | '\\' :: c :: _ => setEscape flags c
  | c :: _ => pure (.single c)
  | [] => pure (.tables [])

/-- The members of a set up to its closing bracket, which is taken; `start` is the place of the opening one and
the fuel bounds the number of members. -/
def setMembers (flags : Flags) (start : Nat) : Nat → Option CharSet → Reader CharSet
  | 0, _ => failAt .openSet start
  | fuel + 1, found => do
    let joined (s : CharSet) : CharSet :=
      match found with
      | some t => .union t s
      | none => s
    let token ← take
    match token, found with
    | [], _ => failAt .openSet start
    | [']'], some s => pure s
    | _, _ =>
      let low ← setItem flags token
      if ← accept '-' then
        let other ← take
        if other.isEmpty then failAt .openSet start
        else if other = [']'] then pure (.union (joined low) (.single '-'))
        else
          let high ← setItem flags other
          let bad : Reader CharSet :=
            failBack (.rangeOrder (String.ofList token) (String.ofList other)) (token.length + 1 + other.length)
          match low, high with
          | .single a, .single b =>
            if b < a then bad else setMembers flags start fuel (some (joined (.range a b)))
          | _, _ => bad
      else setMembers flags start fuel (some (joined low))

/-- A set behind its opening bracket. -/
def characterSet (flags : Flags) : Reader Node := do
  let start := (← place) - 1
  let negated ← accept '^'
  let s ← setMembers flags start ((← get).rest.length + 1) none
  pure (.set (if negated then .complement s else s) (casing flags))

end Patchwork.Pattern.Plain
