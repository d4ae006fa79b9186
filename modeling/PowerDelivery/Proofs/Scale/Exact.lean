import PowerDelivery.Proofs.Numeral.Decimal
import PowerDelivery.Proofs.Scale
import Mathlib.Tactic.NormNum.DivMod
import Mathlib.Tactic.Ring

/-! # What displays write

The display of a scaled number is read as the exact value of the raw bits, so that a linear scale
loses none of them and the halved one only the lowest. -/
namespace PowerDelivery

open Numeral

/-- A whole numeral without superfluous zeros, a point and two digits. -/
def HasTwoPlaces (cs : List Char) : Prop :=
  ∃ (whole places : List Char) (a : Nat), cs = whole ++ '.' :: places ∧ Canonical whole a ∧
    places.length = 2 ∧ ∀ c ∈ places, c.isDigit = true

theorem length_places (n : Nat) : (padded 10 2 (n % 100)).length = 2 :=
  length_padded (by omega) (by omega) (Nat.mod_lt n (by omega))

theorem hasTwoPlaces_hundredthsText (n : Nat) : HasTwoPlaces (hundredthsText n).toList :=
  ⟨_, _, n / 100, toList_hundredthsText n, canonical_iff.2 rfl, length_places n,
    fun _ => isDigit_of_mem_padded⟩

theorem fraction_hundredthsText_iff (n : Nat) (q : ℚ) :
    Fraction (hundredthsText n).toList q ↔ q = n / 100 := by
  have hvalue : ((n / 100 : Nat) : ℚ) + (n % 100 : Nat) / 10 ^ (padded 10 2 (n % 100)).length =
      n / 100 := by
    have hn : (n : ℚ) = 100 * (n / 100 : Nat) + (n % 100 : Nat) := by
      exact_mod_cast (Nat.div_add_mod n 100).symm
    rw [length_places, hn]
    ring
  have hwrites : Fraction (hundredthsText n).toList (n / 100) :=
    ⟨_, _, n / 100, n % 100, toList_hundredthsText n, denotes_toDigits (by omega) _,
      (denotes_toDigits (by omega) _).zeros_append (by omega) _, hvalue.symm⟩
  constructor
  · exact fun h => h.unique hwrites
  · rintro rfl
    exact hwrites

namespace Scale

theorem linear?_of_pos {m : Nat} (hm : 0 < m) : linear? m = .ok (linear m hm) := by
  have h : ¬(m : Int) < 1 := by omega
  rw [linear?, dif_neg h]
  rfl

theorem fraction_display_linear_iff (m : Nat) (hm : 0 < m) (n : Nat) (q : ℚ) :
    Fraction ((linear m hm).display n).toList q ↔ q = n * m / 100 := by
  rw [display_linear, fraction_hundredthsText_iff, Nat.cast_mul]

theorem display_linear_inj (m : Nat) (hm : 0 < m) {a b : Nat} :
    (linear m hm).display a = (linear m hm).display b ↔ a = b := by
  rw [display_eq_iff]
  simp [dropped]

theorem display_halvedQuarterVolt_eq_iff {a b : Nat} :
    halvedQuarterVolt.display a = halvedQuarterVolt.display b ↔ a / 2 = b / 2 :=
  display_eq_iff halvedQuarterVolt a b

theorem fraction_display_halvedQuarterVolt_iff (n : Nat) (q : ℚ) :
    Fraction (halvedQuarterVolt.display n).toList q ↔ q = (n / 2 : Nat) / 4 := by
  have hquarter : ((n / 2 * 25 : Nat) : ℚ) / 100 = (n / 2 : Nat) / 4 := by
    rw [Nat.cast_mul, Nat.cast_ofNat]
    ring
  rw [display_halvedQuarterVolt, fraction_hundredthsText_iff, hquarter]

theorem canonical_iff_display_unitless {cs : List Char} {n : Nat} :
    Canonical cs n ↔ cs = (unitless.display n).toList := by
  rw [canonical_iff, display_unitless, Nat.toString_eq_repr, Nat.toList_repr]

/-- A linear display is a numeral with two places that is read as the raw number times the
hundredths of a step, so that no two raw numbers are displayed alike. In halved quarter volts two
numbers are displayed alike exactly if their halves are the same, and the half is read in quarters.
Without a unit the display is the one canonical numeral of the number. -/
theorem display_exact :
    (∀ m : ℤ, 1 ≤ m → ∃ s, linear? m = .ok s ∧ ∀ raw : ℤ, 0 ≤ raw →
      HasTwoPlaces (s.display raw).toList ∧
      (∀ q : ℚ, Fraction (s.display raw).toList q ↔ q = raw * m / 100) ∧
      ∀ raw' : ℤ, 0 ≤ raw' → s.display raw = s.display raw' → raw = raw') ∧
    (∀ a b : ℤ, 0 ≤ a → 0 ≤ b →
      (halvedQuarterVolt.display a = halvedQuarterVolt.display b ↔ a / 2 = b / 2)) ∧
    (∀ a : ℤ, 0 ≤ a → ∀ q : ℚ,
      Fraction (halvedQuarterVolt.display a).toList q ↔ q = (a / 2 : ℤ) / 4) ∧
    ∀ raw : ℤ, 0 ≤ raw → ∀ cs, Canonical cs raw.toNat ↔ cs = (unitless.display raw).toList := by
  refine ⟨?_, ?_, ?_, ?_⟩
  · intro m hm
    obtain ⟨k, rfl⟩ := Int.eq_ofNat_of_zero_le (by omega : 0 ≤ m)
    have hk : 0 < k := by omega
    refine ⟨linear k hk, linear?_of_pos hk, ?_⟩
    intro raw hraw
    obtain ⟨n, rfl⟩ := Int.eq_ofNat_of_zero_le hraw
    refine ⟨?_, fun q => fraction_display_linear_iff k hk n q, ?_⟩
    · rw [display_linear]
      exact hasTwoPlaces_hundredthsText _
    · intro raw' hraw' h
      obtain ⟨n', rfl⟩ := Int.eq_ofNat_of_zero_le hraw'
      exact congrArg _ ((display_linear_inj k hk).1 h)
  · intro a b ha hb
    obtain ⟨n, rfl⟩ := Int.eq_ofNat_of_zero_le ha
    obtain ⟨n', rfl⟩ := Int.eq_ofNat_of_zero_le hb
    rw [display_halvedQuarterVolt_eq_iff]
    omega
  · intro a ha q
    obtain ⟨n, rfl⟩ := Int.eq_ofNat_of_zero_le ha
    exact fraction_display_halvedQuarterVolt_iff n q
  · intro raw hraw cs
    obtain ⟨n, rfl⟩ := Int.eq_ofNat_of_zero_le hraw
    exact canonical_iff_display_unitless

theorem display_exact_padded :
    (∃ s, linear? 5 = .ok s ∧ HasTwoPlaces (s.display 101).toList ∧
      Fraction (s.display 101).toList (505 / 100)) ∧
    halvedQuarterVolt.display 41 = halvedQuarterVolt.display 40 ∧
    Fraction (halvedQuarterVolt.display 41).toList 5 ∧
    Canonical (unitless.display 0).toList 0 := by
  obtain ⟨hlinear, halike, hhalved, hunitless⟩ := display_exact
  obtain ⟨s, hs, hdisplay⟩ := hlinear 5 (by decide)
  obtain ⟨hplaces, hvalue, -⟩ := hdisplay 101 (by decide)
  exact ⟨⟨s, hs, hplaces, (hvalue _).2 (by norm_num)⟩,
    (halike 41 40 (by decide) (by decide)).2 (by decide),
    (hhalved 41 (by decide) _).2 (by norm_num), (hunitless 0 (by decide) _).2 rfl⟩

end Scale
end PowerDelivery
