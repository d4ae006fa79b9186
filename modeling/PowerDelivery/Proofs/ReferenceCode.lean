import PowerDelivery.Proofs.Numeral
import PowerDelivery.Proofs.Text.Runs
import PowerDelivery.ReferenceCode

/-! # Which texts are letter codes

A code counts in its upper case. Among all characters the upper case of an ASCII letter is shared by
the letter itself, its lower case and, for two of the letters, one character more. -/
namespace PowerDelivery

namespace Text

/-- No expansion is a single character, and no run leads to ASCII letters but that of the letters
themselves, the dotless i and the long s. -/
private theorem case_tables :
    (∀ e ∈ caseExpansions, 2 ≤ e.2.length) ∧
    ∀ r ∈ caseRuns, 128 ≤ r.upper ∨ r.first = 0x61 ∧ r.last = 0x7A ∧ r.upper = 0x41 ∨
      r.first = r.last ∧ (r.first = 0x131 ∧ r.upper = 0x49 ∨ r.first = 0x17F ∧ r.upper = 0x53) := by
  decide +kernel

theorem upperCase_cases (c : Char) :
    (∃ e ∈ caseExpansions, upperCase c = e.2.map Char.ofNat) ∨
    (∃ r ∈ caseRuns, (r.first ≤ c.toNat ∧ c.toNat ≤ r.last) ∧
      upperCase c = [Char.ofNat (r.upper + (c.toNat - r.first))]) ∨
    upperCase c = [c] := by
  unfold upperCase
  split
  · next n ns h => exact .inl ⟨(n, ns), List.mem_of_find?_eq_some h, rfl⟩
  · split
    · next r h =>
      have hc : (r.first ≤ c.toNat ∧ c.toNat ≤ r.last) ∧ (c.toNat - r.first) % r.step = 0 := by
        simpa [CaseRun.contains] using List.find?_some h
      exact .inr (.inl ⟨r, List.mem_of_find?_eq_some h, hc.1, rfl⟩)
    · exact .inr (.inr rfl)

theorem upperCase_ne_nil (c : Char) : upperCase c ≠ [] := by
  rcases upperCase_cases c with ⟨e, he, h⟩ | ⟨r, -, -, h⟩ | h
  · rw [h]
    intro hn
    have hlength := case_tables.1 e he
    rw [List.map_eq_nil_iff.1 hn] at hlength
    exact absurd hlength (by decide)
  · rw [h]
    exact List.cons_ne_nil _ _
  · rw [h]
    exact List.cons_ne_nil _ _

/-- Upper case never takes a character away, so that one character comes of one. -/
theorem flatMap_upperCase_eq_singleton_iff {cs : List Char} {l : Char} :
    cs.flatMap upperCase = [l] ↔ ∃ c, cs = [c] ∧ upperCase c = [l] := by
  constructor
  · intro h
    cases cs with
    | nil => cases h
    | cons c cs =>
      rw [List.flatMap_cons, List.append_eq_singleton_iff] at h
      obtain ⟨hc, -⟩ | ⟨hc, hcs⟩ := h
      · exact absurd hc (upperCase_ne_nil c)
      · cases cs with
        | nil => exact ⟨c, rfl, hc⟩
        | cons d cs =>
          rw [List.flatMap_cons, List.append_eq_nil_iff] at hcs
          exact absurd hcs.1 (upperCase_ne_nil d)
  · rintro ⟨c, rfl, hc⟩
    rw [List.flatMap_singleton, hc]

private theorem upperCase_ascii : ∀ n ≤ 90, 65 ≤ n →
    (Char.ofNat n).toLower = Char.ofNat (n + 32) ∧ upperCase (Char.ofNat n) = [Char.ofNat n] ∧
      upperCase (Char.ofNat (n + 32)) = [Char.ofNat n] := by decide +kernel

theorem toNat_of_ofNat_eq {n : Nat} {c : Char} (h : Char.ofNat n = c) (hc : c.toNat ≠ 0) :
    n = c.toNat := by
  by_cases hn : n.isValidChar
  · have hvalue : (Char.ofNat n).toNat = n := congrArg Char.toNat (dif_pos hn)
    rw [← hvalue, h]
  · have hzero : (Char.ofNat n).toNat = 0 := congrArg Char.toNat (dif_neg hn)
    rw [h] at hzero
    exact absurd hzero hc

theorem upperCase_eq_singleton_iff {c l : Char} (hl : 65 ≤ l.toNat ∧ l.toNat ≤ 90) :
    upperCase c = [l] ↔ c = l ∨ c = l.toLower ∨ l = 'I' ∧ c = 'ı' ∨ l = 'S' ∧ c = 'ſ' := by
  have hascii := upperCase_ascii l.toNat hl.2 hl.1
  rw [Char.ofNat_toNat] at hascii
  obtain ⟨hlower, hself, hother⟩ := hascii
  rw [hlower]
  constructor
  · intro h
    rcases upperCase_cases c with ⟨e, he, hc⟩ | ⟨r, hr, hin, hc⟩ | hc
    · have hlength := case_tables.1 e he
      have hone := congrArg List.length (hc.symm.trans h)
      rw [List.length_map, List.length_singleton] at hone
      omega
    · have hcode : r.upper + (c.toNat - r.first) = l.toNat :=
        toNat_of_ofNat_eq (List.singleton_inj.1 (hc.symm.trans h)) (by omega)
      rcases case_tables.2 r hr with hbig | ⟨hfirst, -, hupper⟩ | ⟨hone, hi | hs⟩
      · omega
      · have hcase : c.toNat = l.toNat + 32 := by omega
        exact .inr (.inl (Numeral.eq_ofNat hcase))
      · have hc : c.toNat = 0x131 ∧ l.toNat = 0x49 := by omega
        exact .inr (.inr (.inl ⟨Numeral.eq_ofNat hc.2, Numeral.eq_ofNat hc.1⟩))
      · have hc : c.toNat = 0x17F ∧ l.toNat = 0x53 := by omega
        exact .inr (.inr (.inr ⟨Numeral.eq_ofNat hc.2, Numeral.eq_ofNat hc.1⟩))
    · exact .inl (List.singleton_inj.1 (hc.symm.trans h))
  · rintro (rfl | rfl | ⟨rfl, rfl⟩ | ⟨rfl, rfl⟩)
    · exact hself
    · exact hother
    · decide +kernel
    · decide +kernel

end Text

namespace ReferenceCode

theorem lookup_letters_eq_some_iff {c : Char} {r : Reference} :
    letters.lookup c = some r ↔ (c, r) ∈ letters := by
  constructor
  · intro h
    obtain ⟨before, after, hl, -⟩ := List.lookup_eq_some_iff.1 h
    rw [hl]
    simp
  · intro h
    have hall : ∀ p ∈ letters, letters.lookup p.1 = some p.2 := by decide
    exact hall (c, r) h

/-- One of the letters, in either case. -/
def IsLetter (c : Char) (r : Reference) : Prop :=
  ∃ letter, (letter, r) ∈ letters ∧ (c = letter ∨ c = letter.toLower)

/-- The long s counts as an S. The dotless i would count as an I, which is none of the letters. -/
theorem ofChars?_eq_some_iff {cs : List Char} {r : Reference} :
    ofChars? cs = some r ↔ ∃ c, cs = [c] ∧ (IsLetter c r ∨ c = 'ſ' ∧ r = .avs) := by
  have hupper : ∀ p ∈ letters, (65 ≤ p.1.toNat ∧ p.1.toNat ≤ 90) ∧ p.1 ≠ 'I' := by decide
  have hs : ∀ p ∈ letters, p.1 = 'S' → p.2 = .avs := by decide
  have hlookup :
      ofChars? cs = some r ↔ ∃ l, cs.flatMap Text.upperCase = [l] ∧ (l, r) ∈ letters := by
    unfold ofChars?
    split
    · next l h => simp [h, lookup_letters_eq_some_iff]
    · next h => exact iff_of_false nofun fun ⟨l, hl, _⟩ => h l hl
  rw [hlookup]
  constructor
  · rintro ⟨l, hcs, hl⟩
    obtain ⟨c, rfl, hc⟩ := Text.flatMap_upperCase_eq_singleton_iff.1 hcs
    refine ⟨c, rfl, ?_⟩
    rcases (Text.upperCase_eq_singleton_iff (hupper _ hl).1).1 hc with
      h | h | ⟨h, -⟩ | ⟨h, hc⟩
    · exact .inl ⟨l, hl, .inl h⟩
    · exact .inl ⟨l, hl, .inr h⟩
    · exact absurd h (hupper _ hl).2
    · exact .inr ⟨hc, hs _ hl h⟩
  · rintro ⟨c, rfl, ⟨l, hl, h⟩ | ⟨rfl, rfl⟩⟩
    · exact ⟨l, Text.flatMap_upperCase_eq_singleton_iff.2
        ⟨c, rfl, (Text.upperCase_eq_singleton_iff (hupper _ hl).1).2 (by tauto)⟩, hl⟩
    · exact ⟨'S', Text.flatMap_upperCase_eq_singleton_iff.2
        ⟨'ſ', rfl, (Text.upperCase_eq_singleton_iff (by decide)).2 (by simp)⟩, by decide⟩

theorem ofText?_eq_some_iff {code : String} {r : Reference} : ofText? code = some r ↔
    ∃ c, Text.Trimmed code.toList [c] ∧ (IsLetter c r ∨ c = 'ſ' ∧ r = .avs) := by
  simp only [ofText?, ofChars?_eq_some_iff, Text.trimmed_iff, eq_comm (a := Text.trim _)]

/-- A text is a code exactly if it is one of the letters in either case, or the long s, between
blanks. Any other text is refused as it was given. -/
theorem toReferenceByCode_iff_letter (code : String) :
    (∀ r, (Value.text code).toReferenceByCode = .ok r ↔
      ∃ c, Text.Trimmed code.toList [c] ∧ (IsLetter c r ∨ c = 'ſ' ∧ r = .avs)) ∧
    ∀ e, (Value.text code).toReferenceByCode = .error e ↔
      e = ⟨.text code⟩ ∧ ¬∃ r c, Text.Trimmed code.toList [c] ∧
        (IsLetter c r ∨ c = 'ſ' ∧ r = .avs) := by
  simp only [← ofText?_eq_some_iff]
  cases h : ofText? code with
  | none => simp [Value.toReferenceByCode, h, eq_comm]
  | some r => simp [Value.toReferenceByCode, h]

/-- The long s is none of the letters, and yet it is taken for one. -/
theorem toReferenceByCode_longS : (Value.text "ſ").toReferenceByCode = .ok .avs ∧
    ∀ c r, Text.Trimmed "ſ".toList [c] → ¬IsLetter c r := by
  have htrim : Text.trim "ſ".toList = ['ſ'] := by decide
  constructor
  · have hcode : ofText? "ſ" = some .avs := by decide +kernel
    rw [Value.toReferenceByCode, hcode]
  · rintro c r hc ⟨letter, hl, hcase⟩
    have hno : ∀ p ∈ letters, 'ſ' ≠ p.1 ∧ 'ſ' ≠ p.1.toLower := by decide
    rw [Text.trimmed_iff, htrim, List.singleton_inj] at hc
    rw [hc] at hcase
    exact hcase.elim (hno _ hl).1 (hno _ hl).2

end ReferenceCode
end PowerDelivery
