import PowerDelivery.Vocabulary

/-! # Names of the fields of capability and request words -/
namespace PowerDelivery

inductive FieldName
  | voltage
  | maximumCurrent
  | operationalCurrent
  | peakCurrent
  | dualRolePower
  | usbSuspendSupported
  | higherCapability
  | unconstrainedPower
  | usbCommunicationCapable
  | dualRoleData
  | unchunkedExtendedMessagesSupported
  | eprModeCapable
  | fastRoleSwapCurrent
  | minimumVoltage
  | maximumVoltage
  | maximumAllowablePower
  | operationalPower
  | ppsPowerLimited
  | pdp
  | maximumCurrent9To15
  | maximumCurrent15To20
  | objectPosition
  | givebackFlag
  | capabilityMismatch
  | noUsbSuspend
  | operatingCurrent
  | maximumOperatingCurrent
  | minimumOperatingCurrent
  | operatingPower
  | maximumOperatingPower
  | minimumOperatingPower
  | outputVoltage
  deriving DecidableEq, Repr

namespace FieldName

def members : List FieldName :=
  [voltage, maximumCurrent, operationalCurrent, peakCurrent, dualRolePower, usbSuspendSupported,
   higherCapability, unconstrainedPower, usbCommunicationCapable, dualRoleData,
   unchunkedExtendedMessagesSupported, eprModeCapable, fastRoleSwapCurrent, minimumVoltage,
   maximumVoltage, maximumAllowablePower, operationalPower, ppsPowerLimited, pdp,
   maximumCurrent9To15, maximumCurrent15To20, objectPosition, givebackFlag, capabilityMismatch,
   noUsbSuspend, operatingCurrent, maximumOperatingCurrent, minimumOperatingCurrent,
   operatingPower, maximumOperatingPower, minimumOperatingPower, outputVoltage]

def text : FieldName → String
  | voltage => "voltage"
  | maximumCurrent => "maximum_current"
  | operationalCurrent => "operational_current"
  | peakCurrent => "peak_current"
  | dualRolePower => "dual_role_power"
  | usbSuspendSupported => "usb_suspend_supported"
  | higherCapability => "higher_capability"
  | unconstrainedPower => "unconstrained_power"
  | usbCommunicationCapable => "usb_communication_capable"
  | dualRoleData => "dual_role_data"
  | unchunkedExtendedMessagesSupported => "unchunked_extended_messages_supported"
  | eprModeCapable => "epr_mode_capable"
  | fastRoleSwapCurrent => "fast_role_swap_current"
  | minimumVoltage => "minimum_voltage"
  | maximumVoltage => "maximum_voltage"
  | maximumAllowablePower => "maximum_allowable_power"
  | operationalPower => "operational_power"
  | ppsPowerLimited => "pps_power_limited"
  | pdp => "pdp"
  | maximumCurrent9To15 => "maximum_current_9V_to_15V"
  | maximumCurrent15To20 => "maximum_current_15V_to_20V"
  | objectPosition => "object_position"
  | givebackFlag => "giveback_flag"
  | capabilityMismatch => "capability_mismatch"
  | noUsbSuspend => "no_usb_suspend"
  | operatingCurrent => "operating_current"
  | maximumOperatingCurrent => "maximum_operating_current"
  | minimumOperatingCurrent => "minimum_operating_current"
  | operatingPower => "operating_power"
  | maximumOperatingPower => "maximum_operating_power"
  | minimumOperatingPower => "minimum_operating_power"
  | outputVoltage => "output_voltage"

instance : Vocabulary FieldName := ⟨"FieldName", members, text⟩

theorem mem_members (f : FieldName) : f ∈ members := by cases f <;> decide

end FieldName

/-- What a scaled field measures, in thousandths of a volt, an ampere or a watt. -/
inductive Quantity | voltage | current | power
  deriving DecidableEq, Repr

def Quantity.unit : Quantity → String
  | voltage => "mV"
  | current => "mA"
  | power => "mW"

namespace FieldName

def quantity? : FieldName → Option Quantity
  | voltage | minimumVoltage | maximumVoltage | outputVoltage => some .voltage
  | maximumCurrent | operationalCurrent | maximumCurrent9To15 | maximumCurrent15To20
  | operatingCurrent | maximumOperatingCurrent | minimumOperatingCurrent => some .current
  | maximumAllowablePower | operationalPower | pdp | operatingPower | maximumOperatingPower
  | minimumOperatingPower => some .power
  | _ => none

/-- The suffix of the field's attribute text, or none for a bare number. -/
def unit? (f : FieldName) : Option String := f.quantity?.map Quantity.unit

end FieldName
end PowerDelivery
