/-! # Numerals: digits, padding, and the size limit on decimal input

A power of natural numbers or of integers is that of the core library, also where others are in
scope. -/

attribute [default_instance (high + 1), instance (high + 1)] instPowNat

namespace PowerDelivery

/-- A decimal numeral with more digits than may be read. -/
structure TooLong where
  digits : Nat
  deriving DecidableEq, Repr

namespace Numeral

/-- The digits of `n` in base `b`, most significant first, at least `width` of them. -/
def padded (b width n : Nat) : List Char :=
  List.replicate (width - (Nat.toDigits b n).length) '0' ++ Nat.toDigits b n

def ofDigits (b : Nat) (ds : List Nat) : Nat := ds.foldl (fun n d => n * b + d) 0

def maxDigits : Nat := 4300

/-- Every digit counts towards the limit, leading zeros too. -/
def ofDecimal (ds : List Nat) : Except TooLong Nat :=
  if ds.length ≤ maxDigits then .ok (ofDigits 10 ds) else .error ⟨ds.length⟩

def decimalValue? (c : Char) : Option Nat :=
  if '0' ≤ c ∧ c ≤ '9' then some (c.toNat - 0x30) else none

def hexValue? (c : Char) : Option Nat :=
  if '0' ≤ c ∧ c ≤ '9' then some (c.toNat - 0x30)
  else if 'a' ≤ c ∧ c ≤ 'f' then some (c.toNat - 0x57)
  else if 'A' ≤ c ∧ c ≤ 'F' then some (c.toNat - 0x37)
  else none

/-- The digit values of `cs`, if `cs` holds digits only and at least one. -/
def allDigits? (value? : Char → Option Nat) (cs : List Char) : Option (List Nat) :=
  if cs.isEmpty then none else cs.mapM value?

theorem ofDigits_append (b : Nat) (ds es : List Nat) :
    ofDigits b (ds ++ es) = es.foldl (fun n d => n * b + d) (ofDigits b ds) := by
  simp [ofDigits]

theorem ofDecimal_eq_ok {ds : List Nat} (h : ds.length ≤ maxDigits) :
    ofDecimal ds = .ok (ofDigits 10 ds) := if_pos h

end Numeral

def TooLong.message (e : TooLong) : String :=
  s!"Exceeds the limit ({Numeral.maxDigits} digits) for integer string conversion: " ++
    s!"value has {e.digits} digits; use sys.set_int_max_str_digits() to increase the limit"

end PowerDelivery
