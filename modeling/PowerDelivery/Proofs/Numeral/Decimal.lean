import PowerDelivery.Proofs.Numeral
import PowerDelivery.Proofs.Text.Runs
import Mathlib.Algebra.Field.Rat

/-! # Canonical numerals and decimal fractions

A number has one decimal numeral without superfluous zeros, the printed one. Two numerals with a
point between them write one fraction. -/
namespace PowerDelivery.Numeral

theorem IsDigit.eq_digitChar {c : Char} {d : Nat} (h : IsDigit 10 c d) : c = d.digitChar := by
  have hupper : ∀ d < 10, d.digitChar.toUpper = d.digitChar := by decide
  obtain ⟨hd, rfl | rfl⟩ := h
  · rfl
  · exact hupper d hd

theorem Denotes.ne_nil {b n : Nat} {digit : Char → Nat → Prop} {cs : List Char}
    (h : Denotes b digit cs n) : cs ≠ [] := by
  cases h with
  | single last => exact List.cons_ne_nil _ _
  | snoc front last => simp

theorem Denotes.unique {n m : Nat} {cs : List Char} (h : Denotes 10 (IsDigit 10) cs n)
    (h' : Denotes 10 (IsDigit 10) cs m) : n = m := by
  obtain ⟨-, -, rfl⟩ := (denotes_iff decimalValue?_eq_some_iff).1 h
  exact ((denotes_iff decimalValue?_eq_some_iff).1 h').2.2

/-- A decimal numeral that begins with a zero only if it is the zero. -/
def Canonical (cs : List Char) (n : Nat) : Prop :=
  Denotes 10 (IsDigit 10) cs n ∧ (cs.head? = some '0' → cs = ['0'])

theorem eq_zero_of_head?_toDigits {n : Nat} (h : (Nat.toDigits 10 n).head? = some '0') : n = 0 := by
  induction n using Nat.strongRecOn with
  | ind n ih =>
    by_cases hn : n < 10
    · have hzero : ∀ d < 10, d.digitChar = '0' → d = 0 := by decide
      rw [Nat.toDigits_of_lt_base hn, List.head?_cons] at h
      exact hzero n hn (Option.some.inj h)
    · rw [Nat.toDigits_of_base_le (by omega) (Nat.le_of_not_lt hn),
        List.head?_append_of_ne_nil _ Nat.toDigits_ne_nil] at h
      have hq := ih (n / 10) (by omega) h
      omega

theorem Canonical.eq_toDigits {cs : List Char} {n : Nat} (h : Canonical cs n) :
    cs = Nat.toDigits 10 n := by
  obtain ⟨hn, hzero⟩ := h
  induction hn with
  | @single c d last => rw [Nat.toDigits_of_lt_base last.1, last.eq_digitChar]
  | @snoc cs n c d front last ih =>
    have hne := front.ne_nil
    have hhead : cs.head? ≠ some '0' := by
      intro hc
      have hall := hzero (by rw [List.head?_append_of_ne_nil _ hne, hc])
      have hlen := congrArg List.length hall
      rw [List.length_append, List.length_singleton, List.length_singleton] at hlen
      exact hne (List.length_eq_zero_iff.1 (by omega))
    have hcs := ih fun hc => absurd hc hhead
    have hpos : 0 < n := by
      rcases Nat.eq_zero_or_pos n with rfl | hpos
      · exact absurd (by rw [hcs]; rfl) hhead
      · exact hpos
    have hd := last.1
    have hdiv : (n * 10 + d) / 10 = n := by omega
    have hmod : (n * 10 + d) % 10 = d := by omega
    rw [Nat.toDigits_of_base_le (by omega) (by omega : 10 ≤ n * 10 + d), hdiv, hmod, ← hcs,
      last.eq_digitChar]

theorem canonical_iff {cs : List Char} {n : Nat} : Canonical cs n ↔ cs = Nat.toDigits 10 n := by
  refine ⟨Canonical.eq_toDigits, ?_⟩
  rintro rfl
  refine ⟨denotes_toDigits (by omega) n, fun h => ?_⟩
  rw [eq_zero_of_head?_toDigits h]
  rfl

/-- A numeral, a point and a numeral of decimal places, which write the fraction together. -/
def Fraction (cs : List Char) (q : ℚ) : Prop :=
  ∃ (whole places : List Char) (a b : Nat), cs = whole ++ '.' :: places ∧
    Denotes 10 (IsDigit 10) whole a ∧ Denotes 10 (IsDigit 10) places b ∧
    q = a + b / 10 ^ places.length

theorem Denotes.bne_point {n : Nat} {cs : List Char} (h : Denotes 10 (IsDigit 10) cs n) :
    ∀ c ∈ cs, (c != '.') = true := by
  intro c hc
  obtain ⟨d, hd⟩ := h.exists_of_mem hc
  rw [bne_iff_ne]
  rintro rfl
  cases (decimalValue?_eq_some_iff '.' d).2 hd

/-- The point of a fraction has one place, and so the fraction has one value. -/
theorem Fraction.unique {cs : List Char} {p q : ℚ} (h : Fraction cs p) (h' : Fraction cs q) :
    p = q := by
  have hstop (ds : List Char) : Text.Stops (· != '.') ('.' :: ds) := by simp
  obtain ⟨whole, places, a, b, rfl, hw, hp, rfl⟩ := h
  obtain ⟨whole', places', a', b', heq, hw', hp', rfl⟩ := h'
  have hwhole := congrArg (List.takeWhile (· != '.')) heq
  have hplaces := congrArg (List.dropWhile (· != '.')) heq
  rw [Text.takeWhile_run hw.bne_point (hstop _),
    Text.takeWhile_run hw'.bne_point (hstop _)] at hwhole
  rw [Text.dropWhile_run hw.bne_point (hstop _),
    Text.dropWhile_run hw'.bne_point (hstop _)] at hplaces
  subst hwhole
  obtain ⟨-, rfl⟩ := List.cons.inj hplaces
  rw [hw.unique hw', hp.unique hp']

end PowerDelivery.Numeral
