import PowerDelivery.Proofs.Numeral
import PowerDelivery.Proofs.Text.Runs
import PowerDelivery.Scale

/-! # Displays of raw bits -/
namespace PowerDelivery

theorem toString_natCast (n : Nat) : toString (n : Int) = toString n := rfl

theorem toList_hundredthsText (n : Nat) :
    (hundredthsText n).toList =
      Nat.toDigits 10 (n / 100) ++ '.' :: Numeral.padded 10 2 (n % 100) := by
  have hw : (n : Int) / 100 = (n / 100 : Nat) := by omega
  have hp : ((n : Int) % 100).toNat = n % 100 := by omega
  have hd : (toString ".").toList = ['.'] := rfl
  rw [hundredthsText, hw, hp, toString_natCast]
  simp [hd]

namespace Scale

theorem display_unitless (n : Nat) : unitless.display n = toString n := rfl

theorem display_linear (m : Nat) (hm : 0 < m) (n : Nat) :
    (linear m hm).display n = hundredthsText (n * m : Nat) := by
  rw [display, hundredths, Int.natCast_mul]

theorem display_halvedQuarterVolt (n : Nat) :
    halvedQuarterVolt.display n = hundredthsText (n / 2 * 25 : Nat) := by
  rw [display, hundredths, Int.natCast_mul, Int.natCast_ediv]
  rfl

end Scale

/-- The number that some digits show, other characters left out. -/
def digitsShown (cs : List Char) : Nat := Numeral.ofDigits 10 (cs.filterMap Numeral.decimalValue?)

theorem digitsShown_toString (n : Nat) : digitsShown (toString n).toList = n := by
  rw [Nat.toString_eq_repr, Nat.toList_repr]
  exact Numeral.ofDigits_toDigits Numeral.decimalValue?_of_isDigit n

/-- The thousandths of a display with a whole part, a point and hundredths. -/
def thousandthsShown (display : String) : Nat :=
  10 * (100 * digitsShown (display.toList.takeWhile (· != '.')) +
    digitsShown ((display.toList.dropWhile (· != '.')).drop 1))

theorem thousandthsShown_hundredthsText (n : Nat) :
    thousandthsShown (hundredthsText n) = 10 * n := by
  have hw : ∀ c ∈ Nat.toDigits 10 (n / 100), (c != '.') = true := by
    intro c hc
    have hd := Numeral.isDigit_of_mem_toDigits hc
    rw [bne_iff_ne]
    rintro rfl
    exact absurd hd (by decide)
  have hp : Text.Stops (· != '.') ('.' :: Numeral.padded 10 2 (n % 100)) := by simp
  have hwhole : digitsShown (Nat.toDigits 10 (n / 100)) = n / 100 :=
    Numeral.ofDigits_toDigits Numeral.decimalValue?_of_isDigit _
  have hpart : digitsShown (Numeral.padded 10 2 (n % 100)) = n % 100 :=
    Numeral.ofDigits_padded Numeral.decimalValue?_of_isDigit 2 _
  rw [thousandthsShown, toList_hundredthsText, Text.takeWhile_run hw hp, Text.dropWhile_run hw hp,
    List.drop_one, List.tail_cons, hwhole, hpart]
  omega

theorem hundredthsText_inj {a b : Nat} : hundredthsText a = hundredthsText b ↔ a = b := by
  constructor
  · intro h
    have ht := congrArg thousandthsShown h
    rw [thousandthsShown_hundredthsText, thousandthsShown_hundredthsText] at ht
    omega
  · exact fun h => by rw [h]

theorem isDigit_or_eq_of_mem_hundredthsText {n : Nat} {c : Char}
    (h : c ∈ (hundredthsText n).toList) : c.isDigit = true ∨ c = '.' := by
  rw [toList_hundredthsText, List.mem_append, List.mem_cons] at h
  rcases h with h | h | h
  · exact .inl (Numeral.isDigit_of_mem_toDigits h)
  · exact .inr h
  · exact .inl (Numeral.isDigit_of_mem_padded h)

namespace Scale

theorem isDigit_or_eq_of_mem_display {s : Scale} {n : Nat} {c : Char}
    (h : c ∈ (s.display n).toList) : c.isDigit = true ∨ c = '.' := by
  cases s with
  | unitless =>
    rw [display_unitless, Nat.toString_eq_repr, Nat.toList_repr] at h
    exact .inl (Numeral.isDigit_of_mem_toDigits h)
  | linear m hm =>
    rw [display_linear] at h
    exact isDigit_or_eq_of_mem_hundredthsText h
  | halvedQuarterVolt =>
    rw [display_halvedQuarterVolt] at h
    exact isDigit_or_eq_of_mem_hundredthsText h

/-- The number of low bits that a display leaves out. -/
def dropped : Scale → Nat
  | halvedQuarterVolt => 1
  | _ => 0

/-- Raw bits are displayed alike exactly if they differ in the dropped bits alone. -/
theorem display_eq_iff (s : Scale) (a b : Nat) :
    s.display a = s.display b ↔ a / 2 ^ s.dropped = b / 2 ^ s.dropped := by
  cases s with
  | unitless =>
    have hu : (unitless.dropped : Nat) = 0 := rfl
    rw [display_unitless, display_unitless, hu, Nat.pow_zero, Nat.div_one, Nat.div_one]
    constructor
    · intro h
      rw [← digitsShown_toString a, h, digitsShown_toString]
    · exact fun h => by rw [h]
  | linear m hm =>
    have hl : (linear m hm).dropped = 0 := rfl
    rw [display_linear, display_linear, hundredthsText_inj, hl, Nat.pow_zero, Nat.div_one,
      Nat.div_one]
    exact Nat.mul_left_inj (by omega)
  | halvedQuarterVolt =>
    have hh : halvedQuarterVolt.dropped = 1 := rfl
    rw [display_halvedQuarterVolt, display_halvedQuarterVolt, hundredthsText_inj, hh, Nat.pow_one]
    exact Nat.mul_left_inj (by decide)

end Scale

end PowerDelivery
