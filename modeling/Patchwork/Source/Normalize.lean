import Patchwork.Log.Once

/-!
Normalizing source text, and choosing the policy for a host version; both report what they cannot read.
-/

namespace Patchwork.Run

variable {κ : Type} {R : World κ → World κ → Prop} [Still R]

def reportUntokenized : Within R Unit :=
  log .debug "Source does not tokenize, leaving continuations alone"

/-- Joins continued lines; text that cannot be scanned stays as it is. -/
def joinContinuations (source : String) : Within R String := do
  match Source.joined? source.toList with
  | some s => pure (String.ofList s)
  | none =>
    reportUntokenized
    pure source

/-- Brings source text into the shape of a policy. -/
def normalize (p : Policy) (source : String) : Within R String := do
  let (s, untokenized) := p.apply source.toList
  if untokenized then reportUntokenized
  pure (String.ofList s)

/-- The policy for a host version; what is no version gets the default one. -/
def choosePolicy (t : PolicyTable) (version : Value) : Within R Policy := do
  if !(← heap).truth version then pure t.default
  else
    let parsed := match version with
      | .str s => Version.parse s
      | _ => .none
    match parsed with
    | .version v =>
      match t.forVersion v with
      | .ok p => pure p
      | .error .foreignLetters => fail (.raised .assertion [])
      | .error (.tooLong digits) => tooLong digits
    | .tooLong digits => tooLong digits
    | .none =>
      logOnce .warning "hostpatch.patch.normalize"
        (.str "Invalid host version %r, using default normalization policy") [version]
      pure t.default
where
  tooLong (digits : Nat) : Within R Policy :=
    fail (.raised .value [.str (Number.digitLimitText digits)])

end Patchwork.Run
