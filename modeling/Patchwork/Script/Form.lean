import Patchwork.Script.Argument
import Patchwork.Store.Specification
import Patchwork.Text.Form

/-!
Filling in forms in brace style: fields are found by place or by name, the steps behind them are followed, and
the values are written by their specifications.
-/

namespace Patchwork.Script

open Run Text

variable {κ : Type} {R : World κ → World κ → Prop} [Still R]

/-- How fields without a name and fields with a number are told apart: a form has only fields of one sort. -/
inductive Numbering where
  | open
  /-- Fields are counted, and `next` comes next. -/
  | counted (next : Nat)
  | given

/-- What the first word of a field asks for. -/
inductive FieldRoot where
  | place (n : Nat)
  | name (name : String)

/-- What the first word of a field stands for, and how the fields behind it are numbered. -/
def fieldRoot (numbering : Numbering) (word : List Char) : Except String (FieldRoot × Numbering) :=
  match word, wordPlace? word, numbering with
  | [], _, .open => .ok (.place 0, .counted 1)
  | [], _, .counted n => .ok (.place n, .counted (n + 1))
  | [], _, .given => .error "cannot switch from manual field specification to automatic field numbering"
  | _, some _, .counted _ => .error "cannot switch from automatic field numbering to manual field specification"
  | _, some n, _ => if isFarPlace n then .error farPlaceText else .ok (.place n, .given)
  | _, none, _ => .ok (.name (String.ofList word), numbering)

def illFormed {α : Type} (reason : String) : Within R α :=
  fail (.raised .value [.str reason])

/-- A value by a specification; a class may say how its objects are written. -/
def written (call : Caller κ) [Calls call R] (v : Value) (specification : List Char) :
    Within R (List Char) := do
  match ← askClass call v "__format__" [.str (String.ofList specification)] with
  | some w =>
    match (← heap).core w with
    | .str s => pure s.toList
    | _ => do mistyped s!"__format__ must return a str, not {← kindOf w}"
  | none =>
    let h ← heap
    if specification.isEmpty then pure (← textOf call v).toList
    else
      match Specification.write h v specification with
      | .ok s => pure s
      | .error f => fail (.raised f.kind [.str f.message])

/-- A value as a conversion of its field makes it. -/
def converted (call : Caller κ) [Calls call R] (v : Value) : Option Char → Within R Value
  | none => pure v
  | some 'r' => do pure (.str (← shown call v))
  | some 's' => do pure (.str (← textOf call v))
  | some 'a' => do pure (.str (String.ofList (Percent.asciiForm (← shown call v))))
  | some c =>
    let code := if 32 < c.toNat ∧ c.toNat < 127 then c.toString
      else "\\x" ++ String.ofList (Nat.toDigits 16 c.toNat)
    illFormed ("Unknown conversion specifier " ++ code)

/-- Where the fields of a form find their values. -/
structure FieldSource (R : World κ → World κ → Prop) where
  place : Nat → Within R Value
  name : String → Within R Value

/-- The value behind one step of the name of a field. -/
def followStep (call : Caller κ) [Calls call R] (v : Value) : FieldStep → Within R Value
  | .member name => readAttr call v name
  | .item key => getItem call v (.str key)
  | .place n => getItem call v (.int n)
  | .broken reason => illFormed reason

/-- A form filled in; specifications may hold fields themselves, `depth` levels deep. -/
def filledForm (call : Caller κ) [Calls call R] (source : FieldSource R) :
    Nat → Numbering → List Char → Within R (List Char × Numbering)
  | 0, _, _ => illFormed "Max string recursion exceeded"
  | depth + 1, numbering, form =>
    (braceParts (form.length + 1) form).foldlM (fun (done, numbering) part => do
      match part with
      | .text c => pure (done ++ [c], numbering)
      | .bare => pure (done, numbering)
      | .broken reason => illFormed reason
      | .field name conversion specification => do
        let (word, rest) := firstWord name.toList
        match fieldRoot numbering word with
        | .error reason => illFormed reason
        | .ok (root, numbering) => do
          let start ← match root with
            | .place n => source.place n
            | .name name => source.name name
          let found ← (fieldSteps rest.length rest).foldlM (followStep call) start
          let v ← converted call found conversion
          let (specification, numbering) ←
            if specification.contains '\x7b' then filledForm call source depth numbering specification
            else pure (specification, numbering)
          pure (done ++ (← written call v specification), numbering))
      ([], numbering)

/-- How deep fields in specifications of fields may be. -/
def formDepth : Nat := 2

/-- A form filled in from arguments. -/
def formFromArguments (call : Caller κ) [Calls call R] (form : List Char) (args : Arguments) :
    Within R Value := do
  let place (n : Nat) : Within R Value :=
    match args.positional[n]? with
    | some v => pure v
    | none => fail (.raised .index [.str s!"Replacement index {n} out of range for positional args tuple"])
  let name (name : String) : Within R Value :=
    match Attributes.get? args.named name with
    | some v => pure v
    | none => fail (.noKey (.str name))
  pure (.str (String.ofList (← filledForm call ⟨place, name⟩ formDepth .open form).1))

/-- A form filled in from a mapping. -/
def formFromMapping (call : Caller κ) [Calls call R] (form : List Char) (mapping : Value) : Within R Value := do
  let source : FieldSource R :=
    ⟨fun _ => illFormed "Format string contains positional fields", fun name => getItem call mapping (.str name)⟩
  pure (.str (String.ofList (← filledForm call source formDepth .open form).1))

end Patchwork.Script
