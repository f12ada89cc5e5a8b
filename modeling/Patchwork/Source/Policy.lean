import Patchwork.Script.Scan
import Patchwork.Text.Lines
import Patchwork.Version.Specifier

/-!
Normalization policies: how the text of a definition is brought into shape before rules are applied, and the choice of
a policy by the version of the host. A backslash at the end of a line joins the next one to it; at the end of a comment it
continues nothing.
-/

/-! ## Continued lines -/

namespace Patchwork.Source

open Patchwork.Script Patchwork.Text

/-- The rows that hold a comment, if the text can be scanned to its end. -/
def commentRows? (s : List Char) : Option (List Nat) :=
  match scan (feedLines s) with
  | (tokens, .complete) => some ((tokens.filter (·.kind = .comment)).map (·.row)).eraseDups
  | _ => none

/-- Lines from number `row` on, the joint dropped from those outside the given rows. -/
def joinRows (comments : List Nat) (row : Nat) : List (List Char) → List Char
  | [] => []
  | line :: rest =>
    (if endsWith ['\\', '\n'] line && !comments.contains row then line.take (line.length - 2) else line) ++
      joinRows comments (row + 1) rest

/-- The text with its continued lines joined; `none` if it cannot be scanned. -/
def joined? (s : List Char) : Option (List Char) :=
  (commentRows? s).map fun comments => joinRows comments 1 (wideLines s)

end Patchwork.Source

namespace Patchwork

/-! ## Policies -/

/-- What a policy changes. Line ends always become line feeds first. -/
structure Policy where
  name : String
  newline : String := "\n"
  join : Bool := true
  dedent : Bool := true
  deriving DecidableEq

namespace Policy

open Patchwork.Text

def standard : Policy := ⟨"default", "\n", true, true⟩

def verbatim : Policy := ⟨"verbatim", "\n", false, true⟩

/-- The normalized text, and whether its continued lines were left alone because it cannot be scanned. -/
def apply (p : Policy) (source : List Char) : List Char × Bool :=
  let s := unixEnds source
  let joined := if p.join then Source.joined? s else some s
  let t := joined.getD s
  let t := if p.dedent then Text.dedent t else t
  let t := if p.newline = "\n" then t else replace ['\n'] p.newline.toList t
  (t, joined.isNone)

end Policy

/-! ## The choice of a policy -/

/-- Policies for ranges of versions, in the order of registration, and one for all others. -/
structure PolicyTable where
  default : Policy
  entries : List (VersionRange × Policy)

namespace PolicyTable

def standard : PolicyTable := ⟨Policy.standard, []⟩

/-- Adds a policy for a range; a condition that cannot be read is returned as a fault. -/
def register (t : PolicyTable) (range : String) (policy : Policy) : Except String PolicyTable := do
  let r ← VersionRange.parse range
  pure { t with entries := t.entries ++ [(r, policy)] }

/-- The policy that was registered last for a range with the version in it, unless a condition cannot be tried
before it is found. -/
def forVersion (t : PolicyTable) (v : Version) : Except Version.BoundFault Policy :=
  among t.entries.reverse
where
  among : List (VersionRange × Policy) → Except Version.BoundFault Policy
    | [] => .ok t.default
    | e :: r => do
      if ← e.1.contains v then .ok e.2 else among r

end PolicyTable

end Patchwork
