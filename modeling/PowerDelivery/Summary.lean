import PowerDelivery.Attribute
import PowerDelivery.Value

/-! # One-line summaries of capability attributes -/
namespace PowerDelivery

/-- Thousandths shown in whole units with two digits, rounded down. -/
def thousandthsText (n : Nat) : String :=
  s!"{n / 1000}." ++ String.ofList (Numeral.padded 10 2 (n % 1000 / 10))

namespace Summary

def read (attrs : Attributes) (f : FieldName) : Noted TooLong Nat :=
  Attribute.read (attrs.get? f.text) f.unit?

def role (source : Bool) : String := if source then "max" else "op"

def current (source : Bool) : FieldName := if source then .maximumCurrent else .operationalCurrent

def power (source : Bool) : FieldName :=
  if source then .maximumAllowablePower else .operationalPower

def volts (low high : Nat) : String := s!"{thousandthsText low} to {thousandthsText high} Volts"

def ofVariant (source : Bool) (attrs : Attributes) : Variant → Noted TooLong String
  | .null => pure ""
  | .fixed => do
    let mV ← read attrs .voltage
    let mA ← read attrs (current source)
    return s!"fixed: {thousandthsText mV} Volts, {thousandthsText mA} Amps ({role source})"
  | .battery => do
    let mW ← read attrs (power source)
    let low ← read attrs .minimumVoltage
    let high ← read attrs .maximumVoltage
    return s!"battery: {volts low high}, {thousandthsText mW} Watts ({role source})"
  | .variableSupply => do
    let mA ← read attrs (current source)
    let low ← read attrs .minimumVoltage
    let high ← read attrs .maximumVoltage
    return s!"variable: {volts low high}, {thousandthsText mA} Amps ({role source})"
  | .pps => do
    let mA ← read attrs .maximumCurrent
    let low ← read attrs .minimumVoltage
    let high ← read attrs .maximumVoltage
    let limited ← if source then read attrs .ppsPowerLimited else pure 0
    let mark := if limited = 0 then "" else " [PL]"
    return s!"pps: {volts low high}, {thousandthsText mA} Amps (max){mark}"
  | .eprAvs => do
    let mW ← read attrs .pdp
    let low ← read attrs .minimumVoltage
    let high ← read attrs .maximumVoltage
    let peak ← read attrs .peakCurrent
    return s!"avs: {volts low high}, {thousandthsText mW} Watts, Peak current setting {peak}"
  | .sprAvs => do
    let mA15 ← read attrs .maximumCurrent9To15
    let mA20 ← read attrs .maximumCurrent15To20
    let peak ← read attrs .peakCurrent
    return s!"spr avs: {thousandthsText mA15} Amps (9-15V), " ++
      s!"{thousandthsText mA20} Amps (15-20V), Peak current setting {peak}"

end Summary

/-- Nothing is said of an unknown variant, nor where there are no attributes. -/
def summarize (variant : Choice Variant) (source : Bool) (attrs : Attributes) :
    Noted TooLong String :=
  match variant with
  | .known v => if attrs.isEmpty then pure "" else Summary.ofVariant source attrs v
  | .other .. => pure ""

end PowerDelivery
