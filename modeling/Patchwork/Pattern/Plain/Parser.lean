import Patchwork.Pattern.Plain.Reader

/-!
Reading patterns of the plain dialect. Flags for the whole pattern may stand at its start only, so that the
flags in force at a part are known when it is read.
-/

namespace Patchwork.Pattern.Plain

open Patchwork.Text Patchwork.Number

/-- What a quantifier may find before it. -/
inductive Role where
  | place
  | repetition
  | part
  deriving DecidableEq

/-- A part of a sequence and where it begins. -/
structure Part where
  start : Nat
  node : Node
  width : Width
  role : Role := .part

/-- The largest count of a repetition, plus one. -/
def countLimit : Nat := Nat.pow 2 32 - 1

/-- The largest number of a group. -/
def groupLimit : Nat := Nat.pow 2 31 - 1

/-- The number that some digits give; nothing if there are none. -/
def countOf (digits : List Char) : Reader (Option Nat) := do
  match excessDigits? 10 digits with
  | some n => throw ⟨.numberTooLong n, none⟩
  | none =>
    match natOf? digits with
    | some n =>
      if countLimit ≤ n then throw ⟨.repeatTooLarge, none⟩
      pure (some n)
    | none => pure none

/-- Counts between braces, behind the opening one at the place `start`; nothing is taken if they are none. -/
def braceCounts (start : Nat) : Reader (Option (Nat × Option Nat)) := do
  let saved := (← get).rest
  if (← peek) = ['\x7d'] then pure none
  else
    let low ← takeUpTo Char.isDigit saved.length
    let high ← if ← accept ',' then takeUpTo Char.isDigit saved.length else pure low
    if ← accept '\x7d' then
      let least := (← countOf low).getD 0
      let most ← countOf high
      if most.any (· < least) then failAt .repeatOrder (start + 1)
      pure (some (least, most))
    else
      modify fun s => { s with rest := saved }
      pure none

def quantifier (start : Nat) (c : Char) : Reader (Option (Nat × Option Nat)) :=
  match c with
  | '?' => pure (some (0, some 1))
  | '*' => pure (some (0, none))
  | '+' => pure (some (1, none))
  | '\x7b' => braceCounts start
  | _ => pure none

def Greed.operator : Greed → String
  | .greedy => "MAX_REPEAT"
  | .lazy => "MIN_REPEAT"
  | .possessive => "POSSESSIVE_REPEAT"

/-- Keeps a fault that counts once all has been read. -/
def fault (start : Nat) (cause : Cause) : Reader Unit :=
  modify fun s => { s with late := s.late ++ [(start, cause)] }

/-- The last part, repeated; `start` is where the quantifier stands. -/
def repeated (flags : Flags) (start : Nat) (counts : Nat × Option Nat) (last : Option Part) : Reader Part := do
  match last with
  | none => failAt .nothingToRepeat start
  | some p =>
    if p.role = .place then failAt .nothingToRepeat start
    if p.role = .repetition then failAt .multipleRepeat start
    let greed : Greed ← do
      if ← accept '?' then pure .lazy
      else if ← accept '+' then pure .possessive
      else pure .greedy
    if flags.contains .template then
      modify fun s => { s with late := (p.start, .templateRepeat (Greed.operator greed)) :: s.late }
    pure {
      start := p.start
      node := .times counts.1 counts.2 greed p.node
      width := p.width.times counts.1 counts.2
      role := .repetition }

/-- Passes over a comment in verbose text, up to the end of its line. -/
def skipLine : Nat → Reader Unit
  | 0 => pure ()
  | fuel + 1 => do
    match ← take with
    | [] => pure ()
    | ['\n'] => pure ()
    | _ => skipLine fuel

/-- Passes over a comment in brackets that begins at `start`. -/
def skipRemark (start : Nat) : Nat → Reader Unit
  | 0 => failAt (.missing "), unterminated comment") start
  | fuel + 1 => do
    match ← take with
    | [] => failAt (.missing "), unterminated comment") start
    | [')'] => pure ()
    | _ => skipRemark start fuel

def isPassedOver (c : Char) : Bool :=
  " \t\n\r\x0b\x0c".toList.contains c

/-- The letter of a token, if it is one of the flags. -/
def flagOf? (token : List Char) : Option (Char × Flag) :=
  match token with
  | [c] => (Flag.ofPlainLetter? c).map fun f => (c, f)
  | _ => none

/-- Fails at a token that is no flag. -/
def failFlag {α : Type} (what : String) (token : List Char) : Reader α := do
  match token with
  | [] => fail (.missing what)
  | _ => failBack (if token.all isLetter then .unknownFlag else .missing what) token.length

/-- Flags that are turned on, behind the first of them, and the mark that ends them. -/
def flagsOn : Nat → Flags → Char × Flag → Reader (Flags × Char)
  | 0, _, _ => fail (.missing "-, : or )")
  | fuel + 1, flags, (c, f) => do
    if c == 'L' then fail .localeFlag
    let flags := flags.add f
    if f.choosesAlphabet && flags.any (fun g => g.choosesAlphabet && g != f) then fail .alphabetFlags
    let token ← take
    match token, flagOf? token with
    | [')'], _ => pure (flags, ')')
    | ['-'], _ => pure (flags, '-')
    | [':'], _ => pure (flags, ':')
    | _, some more => flagsOn fuel flags more
    | _, none => failFlag "-, : or )" token

/-- Flags that are turned off, behind the first of them, up to their colon. -/
def flagsOff : Nat → Flags → Char × Flag → Reader Flags
  | 0, _, _ => fail (.missing ":")
  | fuel + 1, flags, (c, f) => do
    if f.choosesAlphabet || c == 'L' then fail .alphabetFlagOff
    let flags := flags.add f
    let token ← take
    match token, flagOf? token with
    | [':'], _ => pure flags
    | _, some more => flagsOff fuel flags more
    | _, none => failFlag ":" token

/-- Inline flags behind their first token: those turned on and those turned off, or none if they hold for the
whole pattern. -/
def inlineFlags (token : List Char) : Reader (Option (Flags × Flags)) := do
  let fuel := (← get).rest.length + 1
  let (on, mark) ← match flagOf? token with
    | some first => flagsOn fuel [] first
    | none => pure ([], '-')
  if mark == ')' then
    modify fun s => { s with flags := s.flags.union on }
    pure none
  else
    if on.contains .template then failBack .globalFlagOn 1
    let off ←
      if mark == '-' then do
        let token ← take
        match flagOf? token with
        | some first => flagsOff fuel [] first
        | none => failFlag "flag" token
      else pure []
    if off.contains .template then failBack .globalFlagOff 1
    if on.any off.contains then failBack .flagOnAndOff 1
    pure (some (on, off))

/-- The flags in force within a part that turns some on and off. -/
def combined (flags on off : Flags) : Flags :=
  let flags := if on.any Flag.choosesAlphabet then flags.filter fun f => !f.choosesAlphabet else flags
  Flags.without (Flags.union flags on) off

/-- A reference to a group by its name, up to the closing bracket. -/
def namedReference (flags : Flags) : Reader (Node × Width) := do
  let name ← takeName ')' "group name"
  checkName name
  match (← get).names.find? (·.1 == String.ofList name) with
  | none => failBack (.groupNamed (String.ofList name)) (name.length + 1)
  | some (_, n) =>
    match ← groupWidth? n with
    | none => failBack .openGroup (name.length + 1)
    | some w =>
      checkBehind n
      pure (.same n (casing flags), w)

/-- The group that a choice asks for, by name or number. A number may be that of a later group. -/
def testedGroup : Reader Nat := do
  let name ← takeName ')' "group name"
  let text := String.ofList name
  let back := name.length + 1
  if isIdentifier name then
    match (← get).names.find? (·.1 == text) with
    | some (_, n) => pure n
    | none => failBack (.groupNamed text) back
  else
    match if (excessDigits? 10 name).isSome then none else intOf? text with
    | some (.ofNat 0) => failBack .zeroGroup back
    | some (.ofNat n) =>
      if groupLimit ≤ n then failBack (.groupNumbered n) back
      let start := (← place) - back
      modify fun s => if s.tests.any (·.1 == n) then s else { s with tests := s.tests ++ [(n, start)] }
      pure n
    | _ => failBack (.nameText text) back

def expectClose (start : Nat) : Reader Unit := do
  if !(← accept ')') then failAt (.missing "), unterminated subpattern") start

/-- The parts of a sequence joined. -/
def joined (parts : List Part) : Node × Width :=
  (Node.ofList (parts.map (·.node)), parts.foldl (fun w p => w.add p.width) ⟨0, some 0⟩)

/-- A place behind its mark. -/
def edge (flags : Flags) (c : Char) : Node :=
  let isLine := flags.contains .multiline
  if c == '^' then .place (if isLine then .lineStart .feed else .textStart)
  else .place (if isLine then .lineEnd .feed else .finalEnd .feed)

mutual

/-- Alternatives; the fuel bounds the nesting and the number of parts. `isTop` says that they are those of the
whole pattern. -/
def alternatives : Nat → Flags → Bool → Bool → Reader (Node × Width)
  | 0, _, _, _ => fail .patternEnd
  | fuel + 1, flags, isTop, isFirst => do
    let (node, width) := joined (← sequence fuel flags (isTop && isFirst) [])
    if ← accept '|' then
      let s ← get
      let flags := if isTop then s.flags else flags
      let (other, w) ← alternatives fuel flags isTop false
      pure (.alt node other, width.join w)
    else pure (node, width)

/-- A sequence up to a bar, a closing bracket or the end; `parts` is what stands before, reversed. -/
def sequence : Nat → Flags → Bool → List Part → Reader (List Part)
  | 0, _, _, _ => fail .patternEnd
  | fuel + 1, flags, isFirst, parts => do
    let start ← place
    let token ← peek
    let one : Width := ⟨1, some 1⟩
    match token with
    | [] => pure parts.reverse
    | '\\' :: c :: _ =>
      let _ ← take
      let part : Part ← match placeEscape? flags c with
        | some n => pure ⟨start, n, ⟨0, some 0⟩, .place⟩
        | none => do
          let (n, w) ← escape flags c
          pure ⟨start, n, w, .part⟩
      sequence fuel flags isFirst (part :: parts)
    | c :: _ =>
      if c == '|' || c == ')' then pure parts.reverse
      else
        let _ ← take
        if flags.contains .verbose && isPassedOver c then sequence fuel flags isFirst parts
        else if flags.contains .verbose && c == '#' then
          skipLine ((← get).rest.length + 1)
          sequence fuel flags isFirst parts
        else if c == '[' then
          sequence fuel flags isFirst (⟨start, ← characterSet flags, one, .part⟩ :: parts)
        else if c == '.' then
          let n : Node := if flags.contains .dotAll then .any else .notBreak .feed
          sequence fuel flags isFirst (⟨start, n, one, .part⟩ :: parts)
        else if c == '^' || c == '$' then
          sequence fuel flags isFirst (⟨start, edge flags c, ⟨0, some 0⟩, .place⟩ :: parts)
        else if c == '(' then
          match ← parenthesis fuel flags start (isFirst && parts.isEmpty) with
          | some p => sequence fuel flags isFirst (p :: parts)
          | none =>
            let s ← get
            sequence fuel (if isFirst then s.flags else flags) isFirst parts
        else
          match ← quantifier start c with
          | some counts =>
            let p ← repeated flags start counts parts.head?
            sequence fuel flags isFirst (p :: parts.drop 1)
          | none => sequence fuel flags isFirst (⟨start, .char c (casing flags), one, .part⟩ :: parts)

/-- What stands behind the opening bracket at `start`; nothing for comments and for flags of the whole pattern,
which are right only if `mayFlag` is set. -/
def parenthesis : Nat → Flags → Nat → Bool → Reader (Option Part)
  | 0, _, _, _ => fail .patternEnd
  | fuel + 1, flags, start, mayFlag => do
    if !(← accept '?') then some <$> capture fuel flags start none
    else
      let token ← take
      match token with
      | [] => fail .patternEnd
      | ['P'] =>
        if ← accept '<' then
          let name ← takeName '>' "group name"
          checkName name
          some <$> capture fuel flags start (some name)
        else if ← accept '=' then
          let (node, width) ← namedReference flags
          pure (some ⟨start, node, width, .part⟩)
        else
          match ← take with
          | [] => fail .patternEnd
          | other => failBack (.extensionText (String.ofList ('P' :: other))) (other.length + 2)
      | [':'] =>
        let (node, width) ← enclosed fuel flags start
        pure (some ⟨start, node, width, .part⟩)
      | ['>'] =>
        let (node, width) ← enclosed fuel flags start
        pure (some ⟨start, .atomic node, width, .part⟩)
      | ['#'] =>
        let s ← get
        skipRemark start (s.rest.length + 1)
        pure none
      | ['='] => some <$> lookAhead fuel flags start false
      | ['!'] => some <$> lookAhead fuel flags start true
      | ['<'] =>
        match ← take with
        | [] => fail .patternEnd
        | ['='] => some <$> lookBehind fuel flags start false
        | ['!'] => some <$> lookBehind fuel flags start true
        | other => failBack (.extensionText (String.ofList ('<' :: other))) (other.length + 2)
      | ['('] => some <$> choice fuel flags start
      | _ =>
        if (flagOf? token).isSome || token = ['-'] then
          match ← inlineFlags token with
          | none =>
            if !mayFlag then failAt .lateFlags start
            pure none
          | some (on, off) =>
            let (node, width) ← enclosed fuel (combined flags on off) start
            pure (some ⟨start, node, width, .part⟩)
        else failBack (.extensionText (String.ofList token)) (token.length + 1)

/-- Alternatives and their closing bracket. -/
def enclosed : Nat → Flags → Nat → Reader (Node × Width)
  | 0, _, _ => fail .patternEnd
  | fuel + 1, flags, start => do
    let body ← alternatives fuel flags false false
    expectClose start
    pure body

def capture : Nat → Flags → Nat → Option (List Char) → Reader Part
  | 0, _, _, _ => fail .patternEnd
  | fuel + 1, flags, start, name => do
    let index ← openGroup name
    let (node, width) ← enclosed fuel flags start
    closeGroup index width
    pure ⟨start, .group index node, width, .part⟩

def lookAhead : Nat → Flags → Nat → Bool → Reader Part
  | 0, _, _, _ => fail .patternEnd
  | fuel + 1, flags, start, negated => do
    let (node, _) ← enclosed fuel flags start
    pure ⟨start, .look false negated node, ⟨0, some 0⟩, .part⟩

/-- A part that looks behind. How far it looks has to be known. -/
def lookBehind : Nat → Flags → Nat → Bool → Reader Part
  | 0, _, _, _ => fail .patternEnd
  | fuel + 1, flags, start, negated => do
    let saved := (← get).lookBehind
    let first := saved.getD (← groups)
    modify fun s => { s with lookBehind := some first }
    let (node, width) ← alternatives fuel flags false false
    modify fun s => { s with lookBehind := saved }
    expectClose start
    if !width.isFixed then fault start .unevenLookBehind
    pure ⟨start, .look true negated node, ⟨0, some 0⟩, .part⟩

/-- A choice by whether a group has matched, behind its second bracket. -/
def choice : Nat → Flags → Nat → Reader Part
  | 0, _, _ => fail .patternEnd
  | fuel + 1, flags, start => do
    let group ← testedGroup
    checkBehind group
    let (yes, width) := joined (← sequence fuel flags false [])
    let (no, other) ←
      if ← accept '|' then
        let no := joined (← sequence fuel flags false [])
        if (← peek) = ['|'] then fail .tooManyBranches
        pure no
      else pure (.empty, ⟨0, some 0⟩)
    expectClose start
    pure ⟨start, .choose group yes no, width.join other, .part⟩

end

/-- The faults that count once all has been read: flags that do not go together, a bracket too many, a choice
by a group that there is not, and last the parts that match nothing. -/
def Reading.check (s : Reading) : Except Fault Unit := do
  if s.flags.contains .ascii && s.flags.contains .unicode then throw ⟨.alphabetConflict, none⟩
  if !s.rest.isEmpty then throw ⟨.unbalanced, some (s.length - s.rest.length)⟩
  match s.tests.find? fun (n, _) => s.widths.length < n with
  | some (n, place) => throw ⟨.groupNumbered n, some place⟩
  | none => pure ()
  match s.late.mergeSort fun a b => a.1 ≤ b.1 with
  | (_, cause) :: _ => throw ⟨cause, none⟩
  | [] => pure ()

/-- A pattern ready to match, with all flags in force. -/
def read (flags : Flags) (text : List Char) : Except Fault (Program × Flags) := do
  if text = ['\\'] then throw ⟨.openEscape, some 0⟩
  let start : Reading := { rest := text, length := text.length, flags }
  let ((root, _), s) ← (alternatives (8 * text.length + 16) flags true true).run start
  s.check
  pure ({ root, groups := s.widths.length, names := s.names, rule := .onceAtPlace }, s.flags)

end Patchwork.Pattern.Plain
