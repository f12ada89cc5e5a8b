/-!
The switches that change how a pattern is read and matched.
-/

namespace Patchwork.Pattern

inductive Flag where
  | ascii
  | bestMatch
  | dotAll
  | enhanceMatch
  | fullCase
  | ignoreCase
  | locale
  | multiline
  | posix
  | reverse
  | template
  | unicode
  | verbose
  | versionZero
  | versionOne
  | word
  deriving DecidableEq

/-- A set of flags, without repetition. -/
abbrev Flags := List Flag

namespace Flags

def add (flags : Flags) (f : Flag) : Flags :=
  if flags.contains f then flags else flags ++ [f]

def union (flags more : Flags) : Flags :=
  more.foldl add flags

def without (flags less : Flags) : Flags :=
  flags.filter fun f => !less.contains f

def same (a b : Flags) : Bool :=
  a.all b.contains && b.all a.contains

end Flags

/-- The flags that a rule keeps, in the order in which they are reported. -/
def Flag.kept : List (Flag × String) :=
  [(.ignoreCase, "IGNORECASE"), (.multiline, "MULTILINE"), (.dotAll, "DOTALL"), (.verbose, "VERBOSE"),
    (.ascii, "ASCII")]

/-- All flags that can be given by name. -/
def Flag.named : List (Flag × String) :=
  Flag.kept ++ [(.reverse, "REVERSE"), (.fullCase, "FULLCASE"), (.bestMatch, "BESTMATCH"), (.word, "WORD")]

/-- The letters of inline flags. -/
def Flag.ofLetter? (c : Char) : Option Flag :=
  match c with
  | 'a' => some .ascii
  | 'b' => some .bestMatch
  | 'e' => some .enhanceMatch
  | 'f' => some .fullCase
  | 'i' => some .ignoreCase
  | 'L' => some .locale
  | 'm' => some .multiline
  | 'p' => some .posix
  | 'r' => some .reverse
  | 's' => some .dotAll
  | 'u' => some .unicode
  | 'w' => some .word
  | 'x' => some .verbose
  | _ => none

/-- The letters of inline flags in the plain dialect. -/
def Flag.ofPlainLetter? (c : Char) : Option Flag :=
  match c with
  | 'a' => some .ascii
  | 'i' => some .ignoreCase
  | 'L' => some .locale
  | 'm' => some .multiline
  | 's' => some .dotAll
  | 't' => some .template
  | 'u' => some .unicode
  | 'x' => some .verbose
  | _ => none

/-- Flags that choose what the classes speak of. -/
def Flag.choosesAlphabet : Flag → Bool
  | ascii | unicode => true
  | _ => false

/-- Flags that hold for a whole pattern wherever they stand in it. -/
def Flag.isGlobal : Flag → Bool
  | bestMatch | enhanceMatch | posix | reverse | versionZero | versionOne => true
  | _ => false

end Patchwork.Pattern
