import PowerDelivery.Binary64

/-! # The shortest decimal that reads back as a binary64 value -/
namespace PowerDelivery.Binary64

/-- A positive decimal `0.d₁d₂… * 10 ^ point`. -/
structure Decimal where
  digits : List Char
  point : Int
  deriving DecidableEq, Repr

/-- The power of ten just above `num / den`: the number of places before the point. -/
def decimalPoint (num den : Nat) : Int :=
  if den ≤ num then (Nat.toDigits 10 (num / den)).length
  else -(((List.range 400).find? fun j => den ≤ num * 10 ^ (j + 1)).getD 400 : Nat)

/-- The bounds, in quarters of a unit in the last place, of the reals that round to a value. Below
a power of two the spacing halves. -/
def roundingBounds (m : Nat) (q : Int) : Nat × Nat :=
  (if m = 2 ^ 52 ∧ -1074 < q then 4 * m - 1 else 4 * m - 2, 4 * m + 2)

/-- Whether `c * 10 ^ k` rounds to the value. The bounds do if the significand is even. -/
def readsBack (m : Nat) (q : Int) (c : Nat) (k : Int) : Bool :=
  let (lo, hi) := roundingBounds m q
  let (unit, unitDen) := ratio 1 (q - 2)
  let point := c * 10 ^ k.toNat * unitDen
  let scale := unit * 10 ^ (-k).toNat
  if m % 2 = 0 then lo * scale ≤ point && point ≤ hi * scale
  else lo * scale < point && point < hi * scale

/-- The nearer of the two neighbours of the value on the grid of step `10 ^ k` that read back. -/
def onGrid (m : Nat) (q : Int) (k : Int) : Option Nat :=
  let (num, den) := ratio m q
  let n := num * 10 ^ (-k).toNat
  let d := den * 10 ^ k.toNat
  let c := n / d
  let upFirst := d < 2 * (n % d) || (d == 2 * (n % d) && c % 2 == 1)
  (if upFirst then [c + 1, c] else [c, c + 1]).find? fun c => readsBack m q c k

def dropTrailingZeros (cs : List Char) : List Char := (cs.reverse.dropWhile (· == '0')).reverse

/-- Seventeen digits always suffice, so the search of `1, …, 17` digits finds a grid. -/
def shortest (m : Nat) (q : Int) : Decimal :=
  let (num, den) := ratio m q
  let point := decimalPoint num den
  match (List.range 17).findSome? fun (i : Nat) =>
      (onGrid m q (point - (i + 1 : Nat))).map (·, i + 1) with
  | none => ⟨['0'], 1⟩
  | some (c, n) =>
    let ds := Nat.toDigits 10 c
    ⟨dropTrailingZeros ds, point + ((ds.length : Int) - n)⟩

/-- A decimal is written out while its point lies between these two places, the upper one
included, and with an exponent elsewhere. -/
def positionalBounds : Int × Int := (-4, 16)

def Decimal.positional (d : Decimal) : List Char :=
  if d.point ≤ 0 then '0' :: '.' :: List.replicate (-d.point).toNat '0' ++ d.digits
  else
    let whole := d.digits.take d.point.toNat
    let rest := d.digits.drop d.point.toNat
    whole ++ List.replicate (d.point.toNat - whole.length) '0' ++
      '.' :: (if rest.isEmpty then ['0'] else rest)

/-- The exponent has a sign and at least two digits. -/
def Decimal.scientific (d : Decimal) : List Char :=
  let e := d.point - 1
  let fraction := d.digits.drop 1
  let mantissa := d.digits.take 1 ++ (if fraction.isEmpty then [] else '.' :: fraction)
  let ds := Nat.toDigits 10 e.natAbs
  mantissa ++ 'e' :: (if e < 0 then '-' else '+') :: List.replicate (2 - ds.length) '0' ++ ds

def magnitudeText (m : Nat) (q : Int) : List Char :=
  if m = 0 then ['0', '.', '0']
  else
    let d := shortest m q
    if positionalBounds.1 < d.point ∧ d.point ≤ positionalBounds.2 then d.positional
    else d.scientific

def text : Binary64 → String
  | nan => "nan"
  | infinite negative => if negative then "-inf" else "inf"
  | finite negative m q => String.ofList ((if negative then ['-'] else []) ++ magnitudeText m q)

end PowerDelivery.Binary64
