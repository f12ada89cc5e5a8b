import Patchwork.Pattern.Forgiveness

/-!
Reading patterns of the extended dialect. Some inline flags hold for the whole pattern: one that is not yet in
force stops the reading, which then starts again with it.
-/

namespace Patchwork.Pattern

open Patchwork.Text Patchwork.Number Reader

/-- The largest count of a repetition, plus one. -/
def countLimit : Nat := Nat.pow 2 32 - 1

/-- The number that some digits give; nothing if there are none. -/
def countOf (digits : List Char) : Reader (Option Nat) :=
  match excessDigits? 10 digits with
  | some n => throw (.fault ⟨.numberTooLong n, none⟩)
  | none => pure (natOf? digits)

/-- Counts between braces, behind the opening one. -/
def braceCounts : Reader (Option (Nat × Option Nat)) := do
  let saved ← rest
  let start ← place
  let low ← takeRun Char.isDigit
  let counts ←
    if ← accept "," then
      let high ← takeRun Char.isDigit
      let low := (← countOf low).getD 0
      match ← countOf high with
      | some h =>
        if h < low then failAt .repeatOrder start
        pure (some (low, some h))
      | none => pure (some (low, none))
    else pure ((← countOf low).map fun n => (n, some n))
  match counts with
  | none => setRest saved; pure none
  | some (low, high) =>
    if countLimit ≤ low ∨ high.any (countLimit ≤ ·) then failAt .repeatTooBig start
    if ← accept "\x7d" then pure (some (low, high))
    else setRest saved; pure none

def quantifier (c : Char) : Reader (Option (Nat × Option Nat)) :=
  match c with
  | '?' => pure (some (0, some 1))
  | '*' => pure (some (0, none))
  | '+' => pure (some (1, none))
  | '\x7b' => braceCounts
  | _ => pure none

/-- The mark behind a quantifier that says how it gives back. -/
def greed : Reader Greed := do
  let saved ← rest
  match ← next false with
  | some '?' => pure .lazy
  | some '+' => pure .possessive
  | _ => setRest saved; pure .greedy

/-- A run of flag letters. -/
def flagLetters : Nat → Reader Flags
  | 0 => pure []
  | fuel + 1 => do
    let saved ← rest
    match ← next false with
    | some 'V' =>
      match ← next false with
      | some '0' => pure (Flags.union [.versionZero] (← flagLetters fuel))
      | some '1' => pure (Flags.union [.versionOne] (← flagLetters fuel))
      | _ => setRest saved; pure []
    | some c =>
      match Flag.ofLetter? c with
      | some f => pure (Flags.union [f] (← flagLetters fuel))
      | none => setRest saved; pure []
    | none => setRest saved; pure []

/-- Flags turned on, and those turned off behind a dash. -/
def inlineFlags : Reader (Flags × Flags) := do
  let on ← flagLetters (← rest).length
  if ← accept "-" then
    let off ← flagLetters (← rest).length
    if off.isEmpty then fail .noFlagsOff
    pure (on, off)
  else pure (on, [])

/-- Starts again with more flags unless they are in force for the whole pattern. -/
def require (flags : Flags) : Reader Unit := do
  let s ← get
  if !flags.all s.global.contains then throw (.restart (s.global.union flags))

/-- Turns flags on and off from here on. -/
def setFlags (on off : Flags) : Reader Unit :=
  modify fun s =>
    let flags := (s.flags.union on).without off
    { s with flags, verbose := flags.contains .verbose }

/-- Inline flags that stand alone. By the older rules they hold for the whole pattern and cannot be turned
off. -/
def standingFlags (on off : Flags) : Reader Unit := do
  if ← isNewer then setFlags on off
  else
    if !off.isEmpty then fail .flagsOff
    require on

/-- A comment behind its mark, up to the closing bracket. -/
def skipRemark : Nat → Reader Unit
  | 0 => expect ")"
  | fuel + 1 => do
    let saved ← rest
    match ← next true with
    | none => setRest saved; expect ")"
    | some ')' => setRest saved; expect ")"
    | some '\\' => let _ ← next true; skipRemark fuel
    | some _ => skipRemark fuel

/-- A call of a group by its name or number. -/
def groupCall (name : String) (start : Nat) : Reader Node := do
  expect ")"
  refer .call name start
  pure (.call ((← numberOf? name).getD 0))

/-- A call of a group by its distance from here. -/
def distantCall (ahead : Bool) (start : Nat) : Reader Node := do
  match natOf? (← takeRun Char.isDigit) with
  | none => fail .missingGroupNumber
  | some n =>
    let count := (← get).count
    let group := if ahead then count + n else count + 1 - n
    if group = 0 then fail .badGroupNumber
    groupCall (toString group) start

/-- What a verb in brackets does to the search. -/
def verb? (word : String) : Option Node :=
  match word with
  | "FAIL" | "F" => some .fail
  | "PRUNE" => some .prune
  | "SKIP" => some .skip
  | _ => none

/-- One item of a sequence: a node, or a bar behind which nothing can be repeated. -/
abbrev Item := Option Node

/-- Applies counts to the last item; `start` is where the quantifier stands. -/
def quantified (counts : Nat × Option Nat) (start : Nat) (items : List Item) : Reader (List Item) := do
  match items with
  | some n :: before =>
    let greed ← greed
    let (low, high) := counts
    if n.isEmpty ∨ (low = 1 ∧ high = some 1) then pure (none :: items)
    else pure (none :: some (.times low high greed n) :: before)
  | _ :: _ :: _ => failAt .multipleRepeat start
  | _ => failAt .nothingToRepeat start

/-- Makes the last item fuzzy; of a group, what is in it. -/
def forgiven (limits : Limits) (start : Nat) (items : List Item) : Reader (List Item) := do
  match items with
  | some (.group index body) :: before => pure (none :: some (.group index (.fuzzy limits body)) :: before)
  | some n :: before => pure (none :: some (.fuzzy limits n) :: before)
  | _ => failAt .noFuzzyItem start

mutual

/-- Alternatives; the fuel bounds the nesting and the number of parts. -/
def alternatives : Nat → Reader Node
  | 0 => fail .unbalanced
  | fuel + 1 => do
    let first ← sequence fuel [none]
    if ← accept "|" then pure (.alt first (← alternatives fuel)) else pure first

/-- A sequence up to a bar, a closing bracket or the end; `items` is what stands before, reversed. -/
def sequence : Nat → List Item → Reader Node
  | 0, _ => fail .unbalanced
  | fuel + 1, items => do
    let saved ← rest
    let start ← place
    match ← next false with
    | none => setRest saved; pure (Node.ofList (items.reverse.filterMap id))
    | some ')' => setRest saved; pure (Node.ofList (items.reverse.filterMap id))
    | some '|' => setRest saved; pure (Node.ofList (items.reverse.filterMap id))
    | some '\\' => sequence fuel (some (← escape) :: items)
    | some '(' =>
      match ← parenthesis fuel with
      | some n => sequence fuel (some n :: items)
      | none => sequence fuel items
    | some '.' =>
      let n : Node ← if ← has .dotAll then pure .any else .notBreak <$> lineRule
      sequence fuel (some n :: items)
    | some '[' => sequence fuel (some (← characterSet) :: items)
    | some '^' =>
      let p ← if ← has .multiline then .lineStart <$> lineRule else pure Place.textStart
      sequence fuel (some (.place p) :: items)
    | some '$' =>
      let p ← if ← has .multiline then .lineEnd <$> lineRule else .finalEnd <$> lineRule
      sequence fuel (some (.place p) :: items)
    | some c =>
      match ← quantifier c with
      | some counts => sequence fuel (← quantified counts start items)
      | none =>
        match ← (if c == '\x7b' then constraints else pure none) with
        | some limits => sequence fuel (← forgiven limits start items)
        | none => sequence fuel (some (← literalChar c) :: items)

/-- What stands behind an opening bracket; `none` for flags and comments. -/
def parenthesis : Nat → Reader (Option Node)
  | 0 => fail .unbalanced
  | fuel + 1 => do
    let saved ← rest
    match ← next true with
    | some '?' => extension fuel
    | some '*' =>
      let start ← place
      let word ← takeRun Char.isAlpha
      if word.isEmpty then
        setRest saved
        capture fuel none
      else
        match verb? (String.ofList word) with
        | some n => expect ")"; pure (some n)
        | none => failAt .unknownVerb start
    | _ =>
      setRest saved
      capture fuel none

/-- A capturing group behind its bracket and name. -/
def capture : Nat → Option String → Reader (Option Node)
  | 0, _ => fail .unbalanced
  | fuel + 1, name => do
    let index ← openGroup name
    if name.isSome then expect ">"
    let body ← enclosed fuel
    closeGroup
    pure (some (.group index body))

/-- Alternatives and their closing bracket; flags set inside end with it. -/
def enclosed : Nat → Reader Node
  | 0 => fail .unbalanced
  | fuel + 1 => keepingFlags do
    let body ← alternatives fuel
    expect ")"
    pure body

/-- Alternatives whose groups are numbered alike, behind their mark. -/
def renumbered : Nat → Nat → Nat → Reader Node
  | 0, _, _ => fail .unbalanced
  | fuel + 1, first, most => do
    modify fun s => { s with count := first }
    let body ← sequence fuel [none]
    let most := max most (← get).count
    if ← accept "|" then pure (.alt body (← renumbered fuel first most))
    else
      modify fun s => { s with count := most }
      expect ")"
      pure body

/-- What stands behind a bracket and a question mark. -/
def extension : Nat → Reader (Option Node)
  | 0 => fail .unbalanced
  | fuel + 1 => do
    let saved ← rest
    let start ← place
    match ← next true with
    | some '<' =>
      let inner ← rest
      match ← next false with
      | some '=' => pure (some (.look true false (← enclosed fuel)))
      | some '!' => pure (some (.look true true (← enclosed fuel)))
      | _ => setRest inner; capture fuel (some (← groupName none))
    | some '=' => pure (some (.look false false (← enclosed fuel)))
    | some '!' => pure (some (.look false true (← enclosed fuel)))
    | some '>' => pure (some (.atomic (← enclosed fuel)))
    | some '#' => skipRemark (← rest).length; pure none
    | some '(' => conditional fuel
    | some '|' => let count := (← get).count; some <$> renumbered fuel count count
    | some 'R' => some <$> groupCall "0" start
    | some '&' => let name ← groupName none; some <$> groupCall name start
    | some '+' => some <$> distantCall true start
    | some 'P' =>
      let start ← place
      let inner ← rest
      match ← next false with
      | some '<' => capture fuel (some (← groupName none))
      | some '=' =>
        let name ← groupName (some 1)
        expect ")"
        if ← isOpen name then failAt .openGroup start
        some <$> reference name start
      | some '>' | some '&' => let name ← groupName none; some <$> groupCall name start
      | _ => setRest inner; fail .unknownExtension
    | some c =>
      if c.isDigit then
        let more ← takeRun Char.isDigit
        some <$> groupCall (String.ofList (c :: more)) start
      else if c == '-' && ((← rest).head?.map Char.isDigit).getD false then
        some <$> distantCall false start
      else setRest saved; flagged fuel
    | none => setRest saved; flagged fuel

/-- Inline flags, alone or with a part that they hold for. -/
def flagged : Nat → Reader (Option Node)
  | 0 => fail .unbalanced
  | fuel + 1 => do
    let (on, off) ← inlineFlags
    if off.any Flag.isGlobal then fail .globalFlagOff
    if on.any off.contains then fail .flagOnAndOff
    require (on.filter Flag.isGlobal)
    let on := on.filter fun f => !f.isGlobal
    if ← accept ":" then
      keepingFlags do
        setFlags on off
        let body ← alternatives fuel
        expect ")"
        pure (some body)
    else if ← accept ")" then
      standingFlags on off
      pure none
    else fail .unknownExtension

/-- A choice by whether a group has matched, or by looking around, behind its second bracket. -/
def conditional : Nat → Reader (Option Node)
  | 0 => fail .unbalanced
  | fuel + 1 => do
    let start ← place
    let saved ← rest
    match ← next false with
    | some '?' =>
      let (behind, negated) ← match ← next false with
        | some '=' => pure (false, false)
        | some '!' => pure (false, true)
        | some '<' =>
          match ← next false with
          | some '=' => pure (true, false)
          | some '!' => pure (true, true)
          | _ => failAt .conditionalLook start
        | _ => failAt .conditionalLook start
      let test ← enclosed fuel
      let (yes, no) ← branches fuel
      pure (some (.chooseLook behind negated test yes no))
    | _ =>
      setRest saved
      keepingFlags do
        let name ← groupName (some 1)
        expect ")"
        refer .test name start
        let (yes, no) ← branches fuel
        if yes.isEmpty && no.isEmpty then pure (some .empty)
        else pure (some (.choose ((← numberOf? name).getD 0) yes no))

/-- The two branches of a choice and the closing bracket. -/
def branches : Nat → Reader (Node × Node)
  | 0 => fail .unbalanced
  | fuel + 1 => do
    let yes ← sequence fuel [none]
    let no ← if ← accept "|" then sequence fuel [none] else pure .empty
    expect ")"
    pure (yes, no)

end

/-- What is wrong with a reference, once all groups are known. A test may name a group that is none: the
part is then only there to be called. -/
def Reading.fault? (s : Reading) (kind : Reference) (name : String) : Option Cause :=
  let known (n : Nat) : Option Cause :=
    match kind with
    | .same => if 1 ≤ n ∧ n ≤ s.count then none else some .badGroup
    | .test => if n ≤ s.count then none else some .badGroup
    | .call =>
      if s.count < n then some .unknownGroup
      else if 0 < n ∧ 1 < s.openings.count n then some .ambiguousGroup
      else none
  match natOf? name.toList with
  | some n => known n
  | none =>
    match s.names.find? (·.1 == name) with
    | some (_, n) => known n
    | none =>
      match kind with
      | .same => some .unknownGroup
      | .test => if name = "DEFINE" then none else some .unknownGroup
      | .call => some .badGroup

def Reading.checkReferences (s : Reading) : List (Reference × String × Nat) → Except Stop Unit
  | [] => .ok ()
  | (kind, name, place) :: rest =>
    match s.fault? kind name with
    | none => s.checkReferences rest
    | some cause => .error (.fault ⟨cause, some place⟩)

/-- One reading of a whole text with given flags; `known` are the names of groups from an earlier one. -/
def readOnce (flags : Flags) (known : List (String × Nat)) (text : List Char) : Except Stop (Node × Reading) := do
  let flags := if flags.contains .versionOne then flags.add .fullCase else flags
  let start : Reading :=
    { rest := text, length := text.length, global := flags, flags, verbose := flags.contains .verbose, known }
  let (root, s) ← (alternatives (8 * text.length + 16)).run start
  if !(if s.verbose then skipIgnored s.rest else s.rest).isEmpty then
    throw (.fault ⟨.unbalanced, some (s.length - s.rest.length)⟩)
  if s.flags.contains .versionZero && s.flags.contains .versionOne then
    throw (.fault ⟨.versionConflict, none⟩)
  if ([Flag.ascii, .locale, .unicode].filter s.flags.contains).length > 1 then
    throw (.fault ⟨.flagConflict, none⟩)
  s.checkReferences s.references
  pure (root, s)

/-- Reads until no further flag turns up, and once more if groups are named behind their references; each
restart adds at least one of the few flags. -/
def readAgain : Nat → Flags → List (String × Nat) → List Char → Except Fault (Node × Reading)
  | 0, _, _, _ => .error ⟨.flagConflict, none⟩
  | fuel + 1, flags, known, text =>
    match readOnce flags known text with
    | .ok (root, s) =>
      if s.names = known ∨ s.references.isEmpty then .ok (root, s) else readAgain fuel flags s.names text
    | .error (.fault f) => .error f
    | .error (.restart more) => readAgain fuel more known text

/-- A pattern ready to match, with all flags in force. -/
def readExtended (flags : Flags) (text : List Char) : Except Fault (Program × Flags) := do
  let (root, s) ← readAgain 24 flags [] text
  let has := s.flags.contains
  pure ({
    root := root.fused
    groups := s.count
    names := s.names
    backward := has .reverse
    longest := has .posix
    best := has .bestMatch
    enhanced := has .enhanceMatch }, s.flags)

end Patchwork.Pattern
