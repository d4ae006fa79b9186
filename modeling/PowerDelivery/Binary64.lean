import PowerDelivery.Numeral

/-! # Binary64 values as exact dyadic numbers -/
namespace PowerDelivery

/-- The value of a finite one is `significand * 2 ^ exponent`, with its sign kept for zero too. -/
inductive Binary64
  | nan
  | infinite (negative : Bool)
  | finite (negative : Bool) (significand : Nat) (exponent : Int)
  deriving DecidableEq, Repr

namespace Binary64

def ofBits (bits : UInt64) : Binary64 :=
  let n := bits.toNat
  let negative := n / 2 ^ 63 = 1
  let biased : Nat := n / 2 ^ 52 % 2 ^ 11
  let fraction := n % 2 ^ 52
  if biased = 2047 then if fraction = 0 then infinite negative else nan
  else if biased = 0 then finite negative fraction (-1074)
  else finite negative (fraction + 2 ^ 52) ((biased : Int) - 1075)

def ratio (significand : Nat) (exponent : Int) : Nat × Nat :=
  (significand * 2 ^ exponent.toNat, 2 ^ (-exponent).toNat)

def toInt? : Binary64 → Option Int
  | finite negative m q =>
    let (num, den) := ratio m q
    if num % den ≠ 0 then none
    else if negative then some (-(num / den : Nat))
    else some (num / den : Nat)
  | _ => none

def isFinite : Binary64 → Bool
  | finite .. => true
  | _ => false

end Binary64
end PowerDelivery
