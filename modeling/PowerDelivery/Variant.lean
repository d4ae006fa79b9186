import PowerDelivery.Vocabulary
import PowerDelivery.Word

/-! # Variants of capability words and references of request words -/
namespace PowerDelivery

inductive Variant | null | fixed | battery | variableSupply | pps | sprAvs | eprAvs
  deriving DecidableEq, Repr

namespace Variant

def members : List Variant := [null, fixed, battery, variableSupply, pps, sprAvs, eprAvs]

def text : Variant → String
  | null => "null"
  | fixed => "fixed"
  | battery => "battery"
  | variableSupply => "variable"
  | pps => "pps"
  | sprAvs => "spr_avs"
  | eprAvs => "epr_avs"

instance : Vocabulary Variant := ⟨"PdoVariant", members, text⟩

def description : Variant → String
  | null => ""
  | fixed => "fixed supply"
  | battery => "battery supply"
  | variableSupply => "variable supply"
  | pps => "programmable supply"
  | sprAvs => "spr adjustable supply"
  | eprAvs => "adjustable supply"

def isAugmented : Variant → Bool
  | pps | sprAvs | eprAvs => true
  | _ => false

/-- The bits B31 to B28 that mark a word of the variant. -/
def selector? : Variant → Option Word
  | null => none
  | fixed => some 0x00000000#32
  | battery => some 0x40000000#32
  | variableSupply => some 0x80000000#32
  | pps => some 0xC0000000#32
  | eprAvs => some 0xD0000000#32
  | sprAvs => some 0xE0000000#32

end Variant

/-- The zero word is the filler between capabilities, and two set bits in B31 and B30 lead on to
B29 and B28. -/
def Word.classify (w : Word) : Variant :=
  if w = 0 then .null
  else match w.toNat / 2 ^ 30 with
    | 0 => .fixed
    | 1 => .battery
    | 2 => .variableSupply
    | _ => match w.toNat / 2 ^ 28 % 4 with
      | 0 => .pps
      | 1 => .eprAvs
      | 2 => .sprAvs
      | _ => .null

/-- What kind of capability a request refers to. -/
inductive Reference | fixedOrVariable | battery | pps | avs
  deriving DecidableEq, Repr

namespace Reference

def members : List Reference := [fixedOrVariable, battery, pps, avs]

def text : Reference → String
  | fixedOrVariable => "fixed_or_variable"
  | battery => "battery"
  | pps => "pps"
  | avs => "avs"

instance : Vocabulary Reference := ⟨"RdoReference", members, text⟩

end Reference
end PowerDelivery
