import PowerDelivery.Proofs.Attribute
import PowerDelivery.Summary

/-! # What a summary says, and when it fails -/
namespace PowerDelivery

namespace Summary

/-- The fields that a summary reads, in the order in which it reads them. -/
def fields (source : Bool) : Variant → List FieldName
  | .null => []
  | .fixed => [.voltage, current source]
  | .battery => [power source, .minimumVoltage, .maximumVoltage]
  | .variableSupply => [current source, .minimumVoltage, .maximumVoltage]
  | .pps => [.maximumCurrent, .minimumVoltage, .maximumVoltage] ++
      if source then [.ppsPowerLimited] else []
  | .eprAvs => [.pdp, .minimumVoltage, .maximumVoltage, .peakCurrent]
  | .sprAvs => [.maximumCurrent9To15, .maximumCurrent15To20, .peakCurrent]

def range (low high : String) : String := s!"{low} to {high} Volts"

/-- The summary of a variant for given figures of its fields. -/
def template (source : Bool) (figure : FieldName → String) : Variant → String
  | .null => ""
  | .fixed => s!"fixed: {figure .voltage} Volts, {figure (current source)} Amps ({role source})"
  | .battery =>
    let volts := range (figure .minimumVoltage) (figure .maximumVoltage)
    s!"battery: {volts}, {figure (power source)} Watts ({role source})"
  | .variableSupply =>
    let volts := range (figure .minimumVoltage) (figure .maximumVoltage)
    s!"variable: {volts}, {figure (current source)} Amps ({role source})"
  | .pps =>
    let volts := range (figure .minimumVoltage) (figure .maximumVoltage)
    s!"pps: {volts}, {figure .maximumCurrent} Amps (max)"
  | .eprAvs =>
    let volts := range (figure .minimumVoltage) (figure .maximumVoltage)
    s!"avs: {volts}, {figure .pdp} Watts, Peak current setting {figure .peakCurrent}"
  | .sprAvs =>
    s!"spr avs: {figure .maximumCurrent9To15} Amps (9-15V), " ++
      s!"{figure .maximumCurrent15To20} Amps (15-20V), Peak current setting {figure .peakCurrent}"

/-- The figure of a number: whole units with two digits if the field is scaled. -/
def figure (n : FieldName → Nat) (f : FieldName) : String :=
  match f.quantity? with
  | none => toString (n f)
  | some _ => thousandthsText (n f)

/-- Besides its figures a summary says only whether the power of a source is limited. -/
def line (source : Bool) (n : FieldName → Nat) (v : Variant) : String :=
  template source (figure n) v ++
    if v = .pps ∧ source = true ∧ n .ppsPowerLimited ≠ 0 then " [PL]" else ""

theorem line_of_ne_pps {v : Variant} (hv : v ≠ .pps) (source : Bool) (n : FieldName → Nat) :
    line source n v = template source (figure n) v := by
  rw [line, if_neg fun h => hv h.1, String.append_empty]

theorem line_pps (source : Bool) (n : FieldName → Nat) :
    line source n .pps = template source (figure n) .pps ++
      if (if source then n .ppsPowerLimited else 0) = 0 then "" else " [PL]" := by
  rw [line]
  cases source <;> simp

section
variable {attrs : Attributes}

theorem read_outcome (f : FieldName) : (read attrs f).outcome = match attrs.faultAt? f with
    | some e => .error e
    | none => .ok (attrs.number f) := Attribute.read_outcome _ _

/-- Reading one more field first adds what can be wrong with it in front. -/
theorem read_bind_outcome {α : Type} {f : FieldName} {fs : List FieldName}
    {next : Nat → Noted TooLong α} {a : α}
    (h : (next (attrs.number f)).outcome = match fs.findSome? attrs.faultAt? with
      | some e => .error e
      | none => .ok a) :
    (read attrs f >>= next).outcome = match (f :: fs).findSome? attrs.faultAt? with
      | some e => .error e
      | none => .ok a := by
  rw [Traced.outcome_bind, read_outcome, List.findSome?_cons]
  cases attrs.faultAt? f with
  | none => exact h
  | some e => rfl

theorem ofVariant_outcome (source : Bool) (v : Variant) : (ofVariant source attrs v).outcome =
    match (fields source v).findSome? attrs.faultAt? with
      | some e => .error e
      | none => .ok (line source attrs.number v) := by
  by_cases hv : v = .pps
  · subst hv
    rw [line_pps]
    cases source with
    | false => exact read_bind_outcome (read_bind_outcome (read_bind_outcome rfl))
    | true =>
      exact read_bind_outcome (read_bind_outcome (read_bind_outcome (read_bind_outcome rfl)))
  · rw [line_of_ne_pps hv]
    cases v with
    | null => rfl
    | fixed => cases source <;> exact read_bind_outcome (read_bind_outcome rfl)
    | battery =>
      cases source <;> exact read_bind_outcome (read_bind_outcome (read_bind_outcome rfl))
    | variableSupply =>
      cases source <;> exact read_bind_outcome (read_bind_outcome (read_bind_outcome rfl))
    | pps => exact absurd rfl hv
    | eprAvs =>
      exact read_bind_outcome (read_bind_outcome (read_bind_outcome (read_bind_outcome rfl)))
    | sprAvs => exact read_bind_outcome (read_bind_outcome (read_bind_outcome rfl))

end

end Summary

/-- A summary fails on a number that is too long and on nothing else. -/
theorem summarize_outcome (v : Variant) (source : Bool) (attrs : Attributes) :
    (summarize (.known v) source attrs).outcome =
      match (Summary.fields source v).findSome? attrs.faultAt? with
      | some e => .error e
      | none => .ok (if attrs.isEmpty then "" else Summary.line source attrs.number v) := by
  cases attrs with
  | nil =>
    have hf : (Summary.fields source v).findSome? (Attributes.faultAt? []) = none :=
      List.findSome?_eq_none_iff.2 fun _ _ => rfl
    rw [hf]
    rfl
  | cons p attrs => exact Summary.ofVariant_outcome source v

end PowerDelivery
