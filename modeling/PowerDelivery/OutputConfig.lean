import PowerDelivery.Note
import PowerDelivery.Value

/-! # Output configuration -/
namespace PowerDelivery

structure OutputConfig where
  verbosity : Nat
  json : Bool
  adjustable : Variant
  deriving DecidableEq, Repr

inductive ConfigError
  | verbosity (verbosity : Int)
  | adjustable (variant : String)
  deriving DecidableEq, Repr

def ConfigError.message : ConfigError → String
  | verbosity n => s!"verbosity must be >= 0, got {n}"
  | adjustable variant => s!"avs_variant must be SPR_AVS or EPR_AVS, got {variant}"

namespace OutputConfig

/-- An adjustable supply is in the one power range or in the other. -/
def make (verbosity : Int) (json : Bool) (adjustable : Choice Variant) :
    Except ConfigError OutputConfig :=
  if verbosity < 0 then .error (.verbosity verbosity)
  else match adjustable with
    | .known .sprAvs => .ok ⟨verbosity.toNat, json, .sprAvs⟩
    | .known .eprAvs => .ok ⟨verbosity.toNat, json, .eprAvs⟩
    | other => .error (.adjustable other.plain)

def level (c : OutputConfig) : Level :=
  match c.verbosity with
  | 0 => .warning
  | 1 => .info
  | _ => .debug

def shows (c : OutputConfig) (n : Note) : Bool := c.level.rank ≤ n.level.rank

end OutputConfig
end PowerDelivery
