import Patchwork.Pattern.Parser
import Patchwork.Pattern.Plain.Parser
import Patchwork.Pattern.Search

/-!
Compiled patterns. There are two dialects; rules are brought into the extended one before they are used.
-/

namespace Patchwork

/-- How a pattern is read. -/
inductive Pattern.Dialect where
  | plain
  | extended
  deriving DecidableEq

/-- A pattern that can be read, with all its flags in force. -/
structure Pattern where
  dialect : Pattern.Dialect
  source : String
  flags : Pattern.Flags
  deriving DecidableEq

namespace Pattern

/-- Reads a pattern: its program and all flags in force. -/
def Dialect.read (dialect : Dialect) (flags : Flags) (text : List Char) : Except Fault (Program × Flags) :=
  match dialect with
  | plain => Plain.read flags text
  | extended => readExtended flags text

def compile (dialect : Dialect) (source : String) (flags : Flags) : Except Fault Pattern := do
  let (_, flags) ← dialect.read flags source.toList
  pure ⟨dialect, source, flags⟩

/-- The program of a pattern; one that cannot be read matches nothing. -/
def program (p : Pattern) : Program :=
  match p.dialect.read p.flags p.source.toList with
  | .ok (program, _) => program
  | .error _ => { root := .fail }

/-- The flags that a rule keeps, in the order in which they are reported. -/
def keptFlags (p : Pattern) : List (Flag × String) :=
  Flag.kept.filter fun (f, _) => p.flags.contains f

/-- The same pattern in the extended dialect, with the kept flags only. -/
def canonical (p : Pattern) : Except Fault Pattern :=
  compile .extended p.source (p.keptFlags.map (·.1))

/-- Equality of compiled patterns. -/
def same (p q : Pattern) : Bool :=
  p.dialect == q.dialect && p.source == q.source && Flags.same p.flags q.flags

/-- What an identifier looks like. -/
def identifier : List Char := "(?:[A-Za-z_][\\w]*)".toList

/-- Replaces each `\i` that no backslash precedes; `last` is the character before. -/
def expandFrom (last : Char) : List Char → List Char
  | [] => []
  | '\\' :: 'i' :: r => if last = '\\' then '\\' :: expandFrom '\\' ('i' :: r) else identifier ++ expandFrom 'i' r
  | c :: r => c :: expandFrom c r
  termination_by s => s.length

/-- Expands the identifier shorthand. -/
def expand (source : String) : String :=
  String.ofList (expandFrom ' ' source.toList)

/-- A pattern in which `\i` stands for any identifier. -/
def compileShorthand (source : String) (flags : Flags) : Except Fault Pattern :=
  compile .extended (expand source) flags

def isSpecial (c : Char) : Bool :=
  "()[]\x7b\x7d?*+|^$\\.-#&~".toList.contains c

/-- Text in which all special characters and blanks are escaped. -/
def escapedText (s : List Char) : List Char :=
  s.flatMap fun c => if isSpecial c || Text.isBlank c then ['\\', c] else [c]

/-- The pattern that matches one text literally. -/
def ofLiteral (text : String) : Pattern :=
  ⟨.extended, String.ofList (escapedText text.toList), []⟩

/-- The program for literal text. -/
def literalProgram (text : String) : Program :=
  { root := Node.literal text.toList }

def plainNames : List (Flag × String) :=
  [(.template, "TEMPLATE"), (.ignoreCase, "IGNORECASE"), (.locale, "LOCALE"), (.multiline, "MULTILINE"), (.dotAll, "DOTALL"),
    (.verbose, "VERBOSE"), (.ascii, "ASCII")]

def extendedNames : List (Flag × String) :=
  [(.ascii, "A"), (.bestMatch, "B"), (.dotAll, "S"), (.fullCase, "F"), (.ignoreCase, "I"),
    (.locale, "L"), (.multiline, "M"), (.posix, "P"), (.reverse, "R"), (.verbose, "X"),
    (.versionZero, "V0"), (.versionOne, "V1"), (.word, "W")]

/-- The printed form: the source in quotes, then the names of the flags. -/
def text (p : Pattern) : String :=
  match p.dialect with
  | .plain =>
    let names := (plainNames.filter fun (f, _) => p.flags.contains f).map (·.2)
    let source := String.ofList ((Text.quoted p.source).toList.take 200)
    let flags := if names.isEmpty then "" else ", " ++ "|".intercalate (names.map ("re." ++ ·))
    "re.compile(" ++ source ++ flags ++ ")"
  | .extended =>
    let flags := if p.flags.contains .versionOne then p.flags else Flags.add p.flags .versionZero
    let names := (extendedNames.filter fun (f, _) => flags.contains f).map (·.2)
    "regex.Regex(" ++ Text.quoted p.source ++ ", flags=" ++
      " | ".intercalate (names.map ("regex." ++ ·)) ++ ")"

/-- The first match in a text. -/
def search? (p : Pattern) (text : List Char) : Option Match :=
  p.program.search? text

end Pattern

end Patchwork
