import PowerDelivery.Numeral
import PowerDelivery.Text.DecimalDigit
import PowerDelivery.Variant

/-! # Names of capability leaves: a position, a colon and a kind of supply -/
namespace PowerDelivery.Leaf

def variant? (kind : String) : Option Variant :=
  match kind with
  | "fixed_supply" => some .fixed
  | "battery" => some .battery
  | "variable_supply" => some .variableSupply
  | "programmable_supply" => some .pps
  | "spr_adjustable_supply" => some .sprAvs
  | "epr_adjustable_supply" => some .eprAvs
  | _ => none

/-- A kind on one line, which a line feed may end. -/
def kind? (cs : List Char) : Option (List Char) :=
  match cs.dropWhile (· != '\n') with
  | [] | ['\n'] => some (cs.takeWhile (· != '\n'))
  | _ => none

/-- The digit values of the position and the kind. -/
def split? (name : String) : Option (List Nat × String) :=
  match Text.leadingDigits name.toList, name.toList.dropWhile Text.isDigit with
  | [], _ => none
  | ds, ':' :: rest => (kind? rest).map fun kind => (ds, String.ofList kind)
  | _, _ => none

/-- The position and the variant that a leaf's name gives. The leaf of an adjustable supply does
not say which power range it belongs to, so the caller says what it stands for. -/
def read {α : Type} (name : String) (ofVariant : Variant → α) (adjustable : α) :
    Except TooLong (Option (Nat × α)) :=
  match split? name with
  | none => .ok none
  | some (ds, kind) => (Numeral.ofDecimal ds).map fun n =>
    some (n, if kind = "adjustable_supply" then adjustable
      else ofVariant ((variant? kind).getD .null))

end PowerDelivery.Leaf
