import PowerDelivery.Row
import PowerDelivery.Variant

/-! # Blocks of rows, one to a capability variant or a request reference -/
namespace PowerDelivery

inductive BlockKey
  | fixed
  | fixedFirst
  | battery
  | variableSupply
  | pps
  | sprAvs
  | eprAvs
  | rdoFixedOrVariable
  | rdoBattery
  | rdoPps
  | rdoAvs
  deriving DecidableEq, Repr

namespace BlockKey

def members : List BlockKey :=
  [fixed, fixedFirst, battery, variableSupply, pps, sprAvs, eprAvs, rdoFixedOrVariable, rdoBattery,
   rdoPps, rdoAvs]

def text : BlockKey → String
  | fixed => "fixed"
  | fixedFirst => "fixed_first"
  | battery => "battery"
  | variableSupply => "variable"
  | pps => "pps"
  | sprAvs => "spr_avs"
  | eprAvs => "epr_avs"
  | rdoFixedOrVariable => "rdo_fixed_or_variable"
  | rdoBattery => "rdo_battery"
  | rdoPps => "rdo_pps"
  | rdoAvs => "rdo_avs"

instance : Vocabulary BlockKey := ⟨"BlockKey", members, text⟩

def ofVariant? : Variant → Option BlockKey
  | .null => none
  | .fixed => some fixed
  | .battery => some battery
  | .variableSupply => some variableSupply
  | .pps => some pps
  | .sprAvs => some sprAvs
  | .eprAvs => some eprAvs

def ofReference : Reference → BlockKey
  | .fixedOrVariable => rdoFixedOrVariable
  | .battery => rdoBattery
  | .pps => rdoPps
  | .avs => rdoAvs

end BlockKey

structure Block where
  key : BlockKey
  rows : List Row
  deriving DecidableEq, Repr

namespace Block

def mV20 : Scale := .linear 2 (by decide)
def mV50 : Scale := .linear 5 (by decide)
def mV100 : Scale := .linear 10 (by decide)
def mA10 : Scale := .linear 1 (by decide)
def mA50 : Scale := .linear 5 (by decide)
def mW250 : Scale := .linear 25 (by decide)
def watt : Scale := .linear 100 (by decide)

def start : Flags := { groupStart := true }
def always : Flags := {}
def source : Flags := { sourceOnly := true }
def sink : Flags := { sinkOnly := true }

/-- The rows every fixed supply has. The last one carries on into the rows of the first position. -/
def fixedRows : List Row :=
  [Row.placed .peakCurrent 20 2 .unitless { start with sourceOnly := true } (by decide),
   Row.placed .voltage 10 10 mV50 always (by decide),
   Row.placed .maximumCurrent 0 10 mA10 source (by decide),
   Row.placed .operationalCurrent 0 10 mA10 { sink with continueGroup := true } (by decide)]

def fixedFirstRows : List Row :=
  [Row.placed .dualRolePower 29 1 .unitless start (by decide),
   Row.placed .usbSuspendSupported 28 1 .unitless source (by decide),
   Row.placed .higherCapability 28 1 .unitless sink (by decide),
   Row.placed .unconstrainedPower 27 1 .unitless always (by decide),
   Row.placed .usbCommunicationCapable 26 1 .unitless always (by decide),
   Row.placed .dualRoleData 25 1 .unitless always (by decide),
   Row.placed .unchunkedExtendedMessagesSupported 24 1 .unitless source (by decide),
   Row.placed .eprModeCapable 23 1 .unitless source (by decide),
   Row.placed .fastRoleSwapCurrent 23 2 .unitless sink (by decide)]

def batteryRows : List Row :=
  [Row.placed .maximumVoltage 20 10 mV50 start (by decide),
   Row.placed .minimumVoltage 10 10 mV50 always (by decide),
   Row.placed .maximumAllowablePower 0 10 mW250 source (by decide),
   Row.placed .operationalPower 0 10 mW250 sink (by decide)]

def variableRows : List Row :=
  [Row.placed .maximumVoltage 20 10 mV50 start (by decide),
   Row.placed .minimumVoltage 10 10 mV50 always (by decide),
   Row.placed .maximumCurrent 0 10 mA10 source (by decide),
   Row.placed .operationalCurrent 0 10 mA10 sink (by decide)]

def ppsRows : List Row :=
  [Row.placed .ppsPowerLimited 27 1 .unitless { start with sourceOnly := true } (by decide),
   Row.placed .maximumVoltage 17 8 mV100 always (by decide),
   Row.placed .minimumVoltage 8 8 mV100 always (by decide),
   Row.placed .maximumCurrent 0 7 mA50 always (by decide)]

def sprAvsRows : List Row :=
  [Row.placed .peakCurrent 26 2 .unitless { start with sourceOnly := true } (by decide),
   Row.placed .maximumCurrent9To15 10 10 mA10 always (by decide),
   Row.placed .maximumCurrent15To20 0 10 mA10 always (by decide)]

def eprAvsRows : List Row :=
  [Row.placed .peakCurrent 26 2 .unitless { start with sourceOnly := true } (by decide),
   Row.placed .maximumVoltage 17 9 mV100 always (by decide),
   Row.placed .minimumVoltage 8 8 mV100 always (by decide),
   Row.placed .pdp 0 8 watt always (by decide)]

def objectPosition : Row :=
  Row.placed .objectPosition 28 4 .unitless start (by decide)

def giveback : Row :=
  Row.placed .givebackFlag 27 1 .unitless always (by decide)

/-- The flags B26 to B22 that every request has. -/
def requestFlags : List Row :=
  [Row.placed .capabilityMismatch 26 1 .unitless always (by decide),
   Row.placed .usbCommunicationCapable 25 1 .unitless always (by decide),
   Row.placed .noUsbSuspend 24 1 .unitless always (by decide),
   Row.placed .unchunkedExtendedMessagesSupported 23 1 .unitless always (by decide),
   Row.placed .eprModeCapable 22 1 .unitless always (by decide)]

def rdoFixedOrVariableRows : List Row :=
  objectPosition :: giveback :: requestFlags ++
  [Row.placed .operatingCurrent 10 10 mA10 always (by decide),
   Row.placed .minimumOperatingCurrent 0 10 mA10 source (by decide),
   Row.placed .maximumOperatingCurrent 0 10 mA10 sink (by decide)]

def rdoBatteryRows : List Row :=
  objectPosition :: giveback :: requestFlags ++
  [Row.placed .operatingPower 10 10 mW250 always (by decide),
   Row.placed .minimumOperatingPower 0 10 mW250 source (by decide),
   Row.placed .maximumOperatingPower 0 10 mW250 sink (by decide)]

def rdoPpsRows : List Row :=
  objectPosition :: requestFlags ++
  [Row.placed .outputVoltage 9 12 mV20 always (by decide),
   Row.placed .operatingCurrent 0 7 mA50 always (by decide)]

def rdoAvsRows : List Row :=
  objectPosition :: requestFlags ++
  [Row.placed .outputVoltage 9 12 .halvedQuarterVolt always (by decide),
   Row.placed .operatingCurrent 0 7 mA50 always (by decide)]

/-- Bit positions and units of USB Power Delivery r3.2, section 6.4. -/
def standard : List Block :=
  [⟨.fixed, fixedRows⟩, ⟨.fixedFirst, fixedFirstRows⟩, ⟨.battery, batteryRows⟩,
   ⟨.variableSupply, variableRows⟩, ⟨.pps, ppsRows⟩, ⟨.sprAvs, sprAvsRows⟩, ⟨.eprAvs, eprAvsRows⟩,
   ⟨.rdoFixedOrVariable, rdoFixedOrVariableRows⟩, ⟨.rdoBattery, rdoBatteryRows⟩,
   ⟨.rdoPps, rdoPpsRows⟩, ⟨.rdoAvs, rdoAvsRows⟩]

end Block
end PowerDelivery
