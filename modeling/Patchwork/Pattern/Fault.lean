import Patchwork.Text.Quoted
import Patchwork.Number.Integer

/-!
What can be wrong with a pattern or with a replacement template, and where.
-/

namespace Patchwork.Pattern

inductive Cause where
  -- both dialects
  | missing (text : String)
  | unbalanced
  | openSet
  | openEscape
  | badEscape (c : Char)
  | shortEscape (text : String)
  | nothingToRepeat
  | multipleRepeat
  | repeatOrder
  | openGroup
  | missingName
  | globalFlagOff
  | flagOnAndOff
  | flagConflict
  -- the extended dialect
  | badRange
  | badCodePoint (text : String)
  | repeatTooBig
  | badName
  | unknownGroup
  | badGroup
  | ambiguousGroup
  | missingGroupNumber
  | badGroupNumber
  | unknownExtension
  | unknownVerb
  | conditionalLook
  | noFlagsOff
  | flagsOff
  | versionConflict
  | unknownProperty
  | unknownPropertyValue
  | unknownCharacter
  | unknownList
  | noFuzzyItem
  | openConstraint
  | badCost
  | repeatedCost
  | secondCost
  | noStraySet
  | codePointRange
  -- the plain dialect
  | openGroupName (terminator : String)
  | rangeOrder (low high : String)
  | escapeText (text : String)
  | octalTooLarge (text : String)
  | characterNamed (name : String)
  | repeatTooLarge
  | nameText (name : String)
  | groupNamed (name : String)
  | groupNumbered (n : Nat)
  | zeroGroup
  | groupInLookBehind
  | groupAgain (name : String) (new old : Nat)
  | tooManyBranches
  | extensionText (text : String)
  | patternEnd
  | lateFlags
  | unknownFlag
  | localeFlag
  | alphabetFlags
  | alphabetFlagOff
  | globalFlagOn
  | alphabetConflict
  | unevenLookBehind
  | templateRepeat (name : String)
  | numberTooLong (digits : Nat)
  deriving DecidableEq

/-- What sort of fault a cause is: most are faults of the pattern, some are of a value given in it. -/
inductive FaultKind where
  | pattern
  | value
  | overflow
  deriving DecidableEq

namespace Cause

def faultKind : Cause → FaultKind
  | flagConflict | versionConflict | alphabetConflict | numberTooLong _ | codePointRange => .value
  | repeatTooLarge => .overflow
  | _ => .pattern

def message : Cause → String
  | missing text => s!"missing {text}"
  | unbalanced => "unbalanced parenthesis"
  | openSet => "unterminated character set"
  | openEscape => "bad escape (end of pattern)"
  | badEscape c => "bad escape \\" ++ c.toString
  | shortEscape text => "incomplete escape \\" ++ text
  | nothingToRepeat => "nothing to repeat"
  | multipleRepeat => "multiple repeat"
  | repeatOrder => "min repeat greater than max repeat"
  | openGroup => "cannot refer to an open group"
  | missingName => "missing group name"
  | globalFlagOff => "bad inline flags: cannot turn off global flag"
  | flagOnAndOff => "bad inline flags: flag turned on and off"
  | flagConflict => "ASCII, LOCALE and UNICODE flags are mutually incompatible"
  | badRange => "bad character range"
  | badCodePoint text => "bad hex escape \\" ++ text
  | repeatTooBig => "repeat count too big"
  | badName => "bad character in group name"
  | unknownGroup => "unknown group"
  | badGroup => "invalid group reference"
  | ambiguousGroup => "ambiguous group reference"
  | missingGroupNumber => "missing relative group number"
  | badGroupNumber => "invalid relative group number"
  | unknownExtension => "unknown extension"
  | unknownVerb => "unknown verb"
  | conditionalLook => "expected lookaround conditional"
  | noFlagsOff => "bad inline flags: no flags after '-'"
  | flagsOff => "bad inline flags: cannot turn flags off"
  | versionConflict => "VERSION0 and VERSION1 flags are mutually incompatible"
  | unknownProperty => "unknown property"
  | unknownPropertyValue => "unknown property value"
  | unknownCharacter => "undefined character name"
  | unknownList => "undefined named list"
  | noFuzzyItem => "nothing for fuzzy constraint"
  | openConstraint => "expected \x7d"
  | badCost => "bad fuzzy cost limit"
  | repeatedCost => "repeated fuzzy cost"
  | secondCost => "more than one cost equation"
  | noStraySet => "expected character set"
  | codePointRange => "chr() arg not in range(0x110000)"
  | openGroupName terminator => s!"missing {terminator}, unterminated name"
  | rangeOrder low high => s!"bad character range {low}-{high}"
  | escapeText text => s!"bad escape {text}"
  | octalTooLarge text => s!"octal escape value {text} outside of range 0-0o377"
  | characterNamed name => "undefined character name " ++ Text.quoted name
  | repeatTooLarge => "the repetition number is too large"
  | nameText name => "bad character in group name " ++ Text.quoted name
  | groupNamed name => "unknown group name " ++ Text.quoted name
  | groupNumbered n => s!"invalid group reference {n}"
  | zeroGroup => "bad group number"
  | groupInLookBehind => "cannot refer to group defined in the same lookbehind subpattern"
  | groupAgain name new old =>
    "redefinition of group name " ++ Text.quoted name ++ s!" as group {new}; was group {old}"
  | tooManyBranches => "conditional backref with more than two branches"
  | extensionText text => s!"unknown extension ?{text}"
  | patternEnd => "unexpected end of pattern"
  | lateFlags => "global flags not at the start of the expression"
  | unknownFlag => "unknown flag"
  | localeFlag => "bad inline flags: cannot use 'L' flag with a str pattern"
  | alphabetFlags => "bad inline flags: flags 'a', 'u' and 'L' are incompatible"
  | alphabetFlagOff => "bad inline flags: cannot turn off flags 'a', 'u' and 'L'"
  | globalFlagOn => "bad inline flags: cannot turn on global flag"
  | alphabetConflict => "ASCII and UNICODE flags are incompatible"
  | unevenLookBehind => "look-behind requires fixed-width pattern"
  | templateRepeat name => s!"internal: unsupported template operator {name}"
  | numberTooLong digits => Number.digitLimitText digits

end Cause

/-- A cause with its place in the text, if it has one. -/
structure Fault where
  cause : Cause
  place : Option Nat
  deriving DecidableEq

/-- The message, with line and column if the text has several lines. -/
def Fault.message (f : Fault) (text : List Char) : String :=
  match f.place with
  | none => f.cause.message
  | some n =>
    let lead := text.take n
    let line := lead.count '\n' + 1
    let column := (lead.reverse.takeWhile (· != '\n')).length + 1
    let lines := if text.contains '\n' then s!" (line {line}, column {column})" else ""
    s!"{f.cause.message} at position {n}{lines}"

end Patchwork.Pattern
