import Patchwork.Store.Attribute

/-!
The source text of a callable: the block of lines that defines it in the text that it comes from.
-/

namespace Patchwork.Run

variable {κ : Type} {R : World κ → World κ → Prop} [Still R]

/-- What a chain of wrappers is around; the fuel bounds its length. -/
def unwrapped : Nat → Value → Within R Value
  | 0, v => pure v
  | fuel + 1, v => do
    match ← getAttr? v "__wrapped__" with
    | some w => unwrapped fuel w
    | none => pure v

/-- The lines of a source text. -/
def sourceLines (file : String) : Within R (List (List Char)) := do
  pure ((((← world).sources.find? (·.1 == file)).map (·.2)).getD [])

/-- The block of a definition that starts on a row of a text. -/
def blockAt (lines : List (List Char)) (row : Nat) : Within R String :=
  if lines.isEmpty then fail .noSource
  else if lines.length < row then fail .lineOutOfRange
  else
    match Script.openingLine? lines (row - 1) with
    | none => fail .lineOutOfRange
    | some first =>
      let block := lines.drop first
      match Script.blockLength block with
      | .ok n => pure (String.ofList (block.take n).flatten)
      | .error o => fail (.brokenBlock o)

/-- The source text of a function, taken out of its wrappers. -/
def sourceText (v : Value) : Within R String := do
  let v ← unwrapped 1000 v
  let h ← heap
  let f := match v with
    | .method _ f => f
    | v => v
  match f with
  | .native (.function _) => fail (.noSourceFor (h.typeName false v))
  | .native (.type _) | .native (.error _) => fail (.builtInClass (h.repr v))
  | .native _ => fail .noSource
  | .ref a =>
    match h[a]? with
    | some (.function f) => do blockAt (← sourceLines f.code.file) f.code.row
    | some (.helper _ _) => fail .noSource
    | some (.class _) => fail (.builtInClass (h.repr v))
    | some .builtins => fail (.builtInModule (h.repr v))
    | _ => fail (.noSourceFor (h.typeName false v))
  | _ => fail (.noSourceFor (h.typeName false v))

/-- Registers the lines of a source text under a file name. -/
def registerSource (file : String) (text : String) : Within R Unit := do
  setSources ((file, Text.wideLines text.toList) :: (← world).sources.filter fun s => s.1 != file)

end Patchwork.Run
