import PowerDelivery.Numeral
import PowerDelivery.Text.DecimalDigit
import Mathlib.Data.List.Basic
import Mathlib.Data.List.Induction

/-! # Numerals and the numbers that they write

A numeral grows by one digit at its end, which multiplies the number by the base and adds the digit.
The values of its digits come to that number when they are read, and those of the digits of a
printed number give the number back. -/
namespace PowerDelivery.Numeral

/-- The characters, at least one, are digits that write the number in base `b`. -/
inductive Denotes (b : Nat) (digit : Char → Nat → Prop) : List Char → Nat → Prop where
  | single {c : Char} {d : Nat} (last : digit c d) : Denotes b digit [c] d
  | snoc {cs : List Char} {n : Nat} {c : Char} {d : Nat} (front : Denotes b digit cs n)
      (last : digit c d) : Denotes b digit (cs ++ [c]) (n * b + d)

theorem Denotes.exists_of_mem {b n : Nat} {digit : Char → Nat → Prop} {cs : List Char}
    (h : Denotes b digit cs n) {c : Char} (hc : c ∈ cs) : ∃ d, digit c d := by
  induction h with
  | single last =>
    rw [List.mem_singleton.1 hc]
    exact ⟨_, last⟩
  | snoc front last ih =>
    rcases List.mem_append.1 hc with hc | hc
    · exact ih hc
    · rw [List.mem_singleton.1 hc]
      exact ⟨_, last⟩

section
variable {value? : Char → Option Nat} {cs : List Char}

theorem ofDigits_filterMap_snoc (b : Nat) (cs : List Char) {c : Char} {d : Nat}
    (h : value? c = some d) :
    ofDigits b ((cs ++ [c]).filterMap value?) = ofDigits b (cs.filterMap value?) * b + d := by
  rw [List.filterMap_append, List.filterMap_cons_some h, List.filterMap_nil, ofDigits_append]
  rfl

/-- Where `value?` gives the values of digits, a numeral is a run of characters that it takes. -/
theorem denotes_iff {digit : Char → Nat → Prop} (hv : ∀ c d, value? c = some d ↔ digit c d)
    {b n : Nat} : Denotes b digit cs n ↔ cs ≠ [] ∧ (∀ c ∈ cs, (value? c).isSome = true) ∧
      ofDigits b (cs.filterMap value?) = n := by
  constructor
  · intro h
    induction h with
    | @single c d last =>
      have hc := (hv c d).2 last
      refine ⟨List.cons_ne_nil c [], by simp [hc], ?_⟩
      simpa [ofDigits] using ofDigits_filterMap_snoc b [] hc
    | @snoc cs n c d front last ih =>
      obtain ⟨-, hd, rfl⟩ := ih
      have hc := (hv c d).2 last
      refine ⟨by simp, ?_, ofDigits_filterMap_snoc b cs hc⟩
      intro x hx
      rcases List.mem_append.1 hx with hx | hx
      · exact hd x hx
      · rw [List.mem_singleton.1 hx, hc]
        rfl
  · rintro ⟨hne, hd, rfl⟩
    induction cs using List.reverseRecOn with
    | nil => exact absurd rfl hne
    | append_singleton cs c ih =>
      obtain ⟨d, hc⟩ := Option.isSome_iff_exists.1 (hd c (by simp))
      rw [ofDigits_filterMap_snoc b cs hc]
      by_cases hcs : cs = []
      · subst hcs
        simpa [ofDigits] using Denotes.single (b := b) ((hv c d).1 hc)
      · exact .snoc (ih hcs fun x hx => hd x (by simp [hx])) ((hv c d).1 hc)

theorem mapM_eq_some_iff {ds : List Nat} : cs.mapM value? = some ds ↔
    (∀ c ∈ cs, (value? c).isSome = true) ∧ cs.filterMap value? = ds := by
  induction cs generalizing ds with
  | nil => simp
  | cons c cs ih =>
    cases hc : value? c with
    | none => simp [hc]
    | some d =>
      have hcons : (c :: cs).mapM value? = (cs.mapM value?).map (d :: ·) := by
        rw [List.mapM_cons, hc]
        cases cs.mapM value? <;> rfl
      rw [hcons, Option.map_eq_some_iff]
      simp [ih, hc, and_assoc]

theorem allDigits?_eq_some_iff {ds : List Nat} : allDigits? value? cs = some ds ↔
    cs ≠ [] ∧ (∀ c ∈ cs, (value? c).isSome = true) ∧ cs.filterMap value? = ds := by
  unfold allDigits?
  cases cs with
  | nil => simp
  | cons c cs =>
    rw [List.isEmpty_cons, if_neg Bool.false_ne_true, mapM_eq_some_iff]
    simp

theorem denotes_iff_allDigits? {digit : Char → Nat → Prop}
    (hv : ∀ c d, value? c = some d ↔ digit c d) {b n : Nat} :
    Denotes b digit cs n ↔ ∃ ds, allDigits? value? cs = some ds ∧ ofDigits b ds = n := by
  simp only [denotes_iff hv, allDigits?_eq_some_iff]
  constructor
  · rintro ⟨hne, hd, hn⟩
    exact ⟨_, ⟨hne, hd, rfl⟩, hn⟩
  · rintro ⟨ds, ⟨hne, hd, rfl⟩, hn⟩
    exact ⟨hne, hd, hn⟩

end

/-- An ASCII digit of base `b`, in either case. -/
def IsDigit (b : Nat) (c : Char) (d : Nat) : Prop :=
  d < b ∧ (c = d.digitChar ∨ c = d.digitChar.toUpper)

theorem isDigit_digitChar {b d : Nat} (h : d < b) : IsDigit b d.digitChar d := ⟨h, .inl rfl⟩

theorem Denotes.cons_zero {b n : Nat} {cs : List Char} (hb : 0 < b)
    (h : Denotes b (IsDigit b) cs n) : Denotes b (IsDigit b) ('0' :: cs) n := by
  have hzero : Denotes b (IsDigit b) ['0'] 0 := .single (isDigit_digitChar hb)
  induction h with
  | single last => simpa using hzero.snoc last
  | snoc front last ih => exact ih.snoc last

theorem Denotes.zeros_append {b n : Nat} {cs : List Char} (hb : 0 < b)
    (h : Denotes b (IsDigit b) cs n) (k : Nat) :
    Denotes b (IsDigit b) (List.replicate k '0' ++ cs) n := by
  induction k with
  | zero => exact h
  | succ k ih =>
    rw [List.replicate_succ]
    exact ih.cons_zero hb

theorem denotes_toDigits {b : Nat} (hb : 1 < b) (n : Nat) :
    Denotes b (IsDigit b) (Nat.toDigits b n) n := by
  induction n using Nat.strongRecOn with
  | ind n ih =>
    by_cases hn : n < b
    · rw [Nat.toDigits_of_lt_base hn]
      exact .single (isDigit_digitChar hn)
    · have hle : b ≤ n := Nat.le_of_not_lt hn
      have hfront := ih (n / b) (Nat.div_lt_self (by omega) hb)
      have h := hfront.snoc (isDigit_digitChar (Nat.mod_lt n (by omega)))
      rw [Nat.toDigits_of_base_le hb hle]
      rwa [Nat.div_add_mod'] at h

theorem exists_of_mem_toDigits {b : Nat} (hb : 1 < b) {c : Char} {n : Nat}
    (h : c ∈ Nat.toDigits b n) : ∃ d < b, c = d.digitChar := by
  induction n using Nat.strongRecOn with
  | ind n ih =>
    by_cases hn : n < b
    · rw [Nat.toDigits_of_lt_base hn, List.mem_singleton] at h
      exact ⟨n, hn, h⟩
    · rw [Nat.toDigits_of_base_le hb (Nat.le_of_not_lt hn), List.mem_append,
        List.mem_singleton] at h
      rcases h with h | h
      · exact ih (n / b) (Nat.div_lt_self (by omega) hb) h
      · exact ⟨n % b, Nat.mod_lt n (by omega), h⟩

theorem eq_ofNat {c : Char} {n : Nat} (h : c.toNat = n) : c = Char.ofNat n := by
  rw [← h, Char.ofNat_toNat]

private theorem ofNat_eq_digitChar :
    (∀ d < 10, Char.ofNat (48 + d) = d.digitChar) ∧
      ∀ d < 16, 10 ≤ d → Char.ofNat (87 + d) = d.digitChar ∧
        Char.ofNat (55 + d) = d.digitChar.toUpper := by decide

private theorem value?_digitChar :
    (∀ d < 10, decimalValue? d.digitChar = some d ∧ decimalValue? d.digitChar.toUpper = some d) ∧
      ∀ d < 16, hexValue? d.digitChar = some d ∧ hexValue? d.digitChar.toUpper = some d := by
  decide

theorem decimalValue?_eq_some_iff (c : Char) (d : Nat) :
    decimalValue? c = some d ↔ IsDigit 10 c d := by
  constructor
  · intro h
    have hc : c.toNat = 48 + d ∧ d < 10 := by
      simp [decimalValue?, Char.le_def, UInt32.le_iff_toNat_le] at h
      omega
    exact ⟨hc.2, .inl ((eq_ofNat hc.1).trans (ofNat_eq_digitChar.1 d hc.2))⟩
  · rintro ⟨hd, rfl | rfl⟩
    · exact (value?_digitChar.1 d hd).1
    · exact (value?_digitChar.1 d hd).2

theorem hexValue?_eq_some_iff (c : Char) (d : Nat) : hexValue? c = some d ↔ IsDigit 16 c d := by
  constructor
  · intro h
    have hc : (c.toNat = 48 + d ∧ d < 10) ∨
        10 ≤ d ∧ d < 16 ∧ (c.toNat = 87 + d ∨ c.toNat = 55 + d) := by
      simp [hexValue?, Char.le_def, UInt32.le_iff_toNat_le] at h
      split_ifs at h <;> have hd := Option.some.inj h <;> omega
    rcases hc with ⟨hc, hd⟩ | ⟨hl, hd, hc | hc⟩
    · exact ⟨by omega, .inl ((eq_ofNat hc).trans (ofNat_eq_digitChar.1 d hd))⟩
    · exact ⟨hd, .inl ((eq_ofNat hc).trans (ofNat_eq_digitChar.2 d hd hl).1)⟩
    · exact ⟨hd, .inr ((eq_ofNat hc).trans (ofNat_eq_digitChar.2 d hd hl).2)⟩
  · rintro ⟨hd, rfl | rfl⟩
    · exact (value?_digitChar.2 d hd).1
    · exact (value?_digitChar.2 d hd).2

theorem hexValue?_toLower (c : Char) : hexValue? c.toLower = hexValue? c := by
  have hascii : ∀ n < 128, hexValue? (Char.ofNat n).toLower = hexValue? (Char.ofNat n) := by
    decide +kernel
  by_cases hc : c.toNat < 128
  · simpa using hascii c.toNat hc
  · have hlower : c.toLower = c := by
      have hupper : ¬('A'.val ≤ c.val ∧ c.val ≤ 'Z'.val) := by
        rintro ⟨-, h⟩
        have hle : c.toNat ≤ 90 := UInt32.le_iff_toNat_le.1 h
        omega
      exact dif_neg hupper
    rw [hlower]

theorem denotes_map_toLower {cs : List Char} {n : Nat} :
    Denotes 16 (IsDigit 16) (cs.map Char.toLower) n ↔ Denotes 16 (IsDigit 16) cs n := by
  have hv : hexValue? ∘ Char.toLower = hexValue? := funext hexValue?_toLower
  simp only [denotes_iff hexValue?_eq_some_iff, ne_eq, List.map_eq_nil_iff, List.forall_mem_map,
    hexValue?_toLower, List.filterMap_map, hv]

theorem decimalValue?_of_isDigit (c : Char) (h : c.isDigit = true) :
    decimalValue? c = some (c.toNat - 48) := by
  have hc : '0' ≤ c ∧ c ≤ '9' := by simpa [Char.isDigit, Char.le_def] using h
  rw [decimalValue?, if_pos hc]

theorem digitValue?_of_isDigit (c : Char) (h : c.isDigit = true) :
    Text.digitValue? c = some (c.toNat - 48) := by
  have hc : 48 ≤ c.toNat ∧ c.toNat ≤ 57 := by
    simpa [Char.isDigit, UInt32.le_iff_toNat_le] using h
  have hz : 48 ≤ c.toNat ∧ c.toNat < 48 + 10 := by omega
  simp [Text.digitValue?, Text.digitZeros, hz]

theorem isSome_decimalValue?_iff (c : Char) :
    (decimalValue? c).isSome = true ↔ c.isDigit = true := by
  constructor
  · intro h
    obtain ⟨d, hc⟩ := Option.isSome_iff_exists.1 h
    simp only [decimalValue?, Option.ite_none_right_eq_some] at hc
    simpa [Char.isDigit, Char.le_def] using hc.1
  · intro h
    rw [decimalValue?_of_isDigit c h]
    rfl

/-- ASCII digits have their usual values under each reading of digits. -/
theorem ofDigits_filterMap {value? : Char → Option Nat} {cs : List Char}
    (h : ∀ c ∈ cs, value? c = some (c.toNat - 48)) :
    ofDigits 10 (cs.filterMap value?) = Nat.ofDigitChars 10 cs 0 := by
  have hv : cs.filterMap value? = cs.map fun c => c.toNat - 48 := by
    rw [List.filterMap_congr h, List.filterMap_eq_map']
  rw [hv, ofDigits, List.foldl_map, Nat.ofDigitChars_eq_foldl]
  simp only [Nat.mul_comm]
  rfl

theorem isDigit_of_mem_toDigits {c : Char} {n : Nat} (h : c ∈ Nat.toDigits 10 n) :
    c.isDigit = true := Nat.isDigit_of_mem_toDigits (by decide) (by decide) h

theorem isDigit_of_mem_padded {c : Char} {width n : Nat} (h : c ∈ padded 10 width n) :
    c.isDigit = true := by
  rcases List.mem_append.1 h with h | h
  · rw [List.eq_of_mem_replicate h]
    rfl
  · exact isDigit_of_mem_toDigits h

theorem length_padded {b width n : Nat} (hb : 1 < b) (hw : 0 < width) (h : n < b ^ width) :
    (padded b width n).length = width := by
  have hlength : (Nat.toDigits b n).length ≤ width := (Nat.length_toDigits_le_iff hb hw).2 h
  rw [padded, List.length_append, List.length_replicate]
  omega

section
variable {value? : Char → Option Nat}
  (hv : ∀ c : Char, c.isDigit = true → value? c = some (c.toNat - 48))
include hv

theorem ofDigits_padded (width n : Nat) :
    ofDigits 10 ((padded 10 width n).filterMap value?) = n := by
  rw [ofDigits_filterMap fun c hc => hv c (isDigit_of_mem_padded hc), padded,
    Nat.ofDigitChars_append, Nat.ofDigitChars_replicate_zero, Nat.mul_zero]
  exact Nat.ofDigitChars_ten_toDigits

theorem ofDigits_toDigits (n : Nat) : ofDigits 10 ((Nat.toDigits 10 n).filterMap value?) = n := by
  simpa [padded] using ofDigits_padded hv 0 n

end

theorem length_toDigits_le {n : Nat} (h : n < 10 ^ maxDigits) :
    (Nat.toDigits 10 n).length ≤ maxDigits :=
  (Nat.length_toDigits_le_iff (by decide) (by decide)).2 h

end PowerDelivery.Numeral
