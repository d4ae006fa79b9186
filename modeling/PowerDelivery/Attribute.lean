import PowerDelivery.Keyed
import PowerDelivery.Text.DecimalDigit
import PowerDelivery.Traced

/-! # Attributes: texts with a number and perhaps a unit -/
namespace PowerDelivery

/-- Attribute texts by name. A name may be there without a text. -/
abbrev Attributes := List (String × Option String)

namespace Attributes

def get? (attrs : Attributes) (name : String) : Option String := (attrs.lookup name).join

end Attributes

namespace Attribute

def isLetter (c : Char) : Bool := ('a' ≤ c && c ≤ 'z') || ('A' ≤ c && c ≤ 'Z')

/-- The digit values and the unit of a number, with blanks around either. -/
def split? (text : String) : Option (List Nat × String) :=
  let cs := text.toList.dropWhile Text.isBlank
  let rest := (cs.dropWhile Text.isDigit).dropWhile Text.isBlank
  match Text.leadingDigits cs with
  | [] => none
  | ds =>
    if (rest.dropWhile isLetter).all Text.isBlank then
      some (ds, String.ofList (rest.takeWhile isLetter))
    else none

/-- What is absent, no number, or in another unit counts as zero. A number may go without unit. -/
def read (text unit : Option String) : Noted TooLong Nat :=
  match text with
  | none => pure 0
  | some text =>
    match split? text with
    | none => do
      Traced.tell (.notNumber text)
      return 0
    | some (ds, suffix) =>
      if suffix ≠ "" ∧ some suffix ≠ unit then do
        Traced.tell (.otherUnit text unit)
        return 0
      else Traced.ofExcept (Numeral.ofDecimal ds)

end Attribute
end PowerDelivery
