import PowerDelivery.Proofs.Attribute

/-! # The grammar of attribute texts

A text with a number is digits of any script and letters, with blanks around either. There is one
way to part it, and what does not part counts as zero. A reading that comes to zero for want of a
number or of the unit says so, once. -/
namespace PowerDelivery

namespace Text

/-- A digit is as many places behind the zero of its script as its value says. -/
def IsDecimalDigit (c : Char) (d : Nat) : Prop := d < 10 ∧ ∃ z ∈ digitZeros, c.toNat = z + d

private theorem zeros_apart :
    ∀ z ∈ digitZeros, ∀ z' ∈ digitZeros, z = z' ∨ z + 10 ≤ z' ∨ z' + 10 ≤ z := by decide +kernel

theorem digitValue?_eq_some_iff (c : Char) (d : Nat) :
    digitValue? c = some d ↔ IsDecimalDigit c d := by
  constructor
  · intro h
    have hlt : d < 10 := digitValue?_lt h
    obtain ⟨z, hz, rfl⟩ := Option.map_eq_some_iff.1 h
    have hc : z ≤ c.toNat ∧ c.toNat < z + 10 := by simpa using List.find?_some hz
    exact ⟨hlt, z, List.mem_of_find?_eq_some hz, by omega⟩
  · rintro ⟨hd, z, hz, hc⟩
    have hdigit : isDigit c = true := by
      rw [isDigit, digitValue?, Option.isSome_map, List.find?_isSome]
      exact ⟨z, hz, by simp; omega⟩
    obtain ⟨d', hd'⟩ := Option.isSome_iff_exists.1 hdigit
    obtain ⟨z', hz', rfl⟩ := Option.map_eq_some_iff.1 hd'
    have hc' : z' ≤ c.toNat ∧ c.toNat < z' + 10 := by simpa using List.find?_some hz'
    have happart := zeros_apart z hz z' (List.mem_of_find?_eq_some hz')
    rw [hd', Option.some.injEq]
    omega

end Text

namespace Attribute
open Text
variable {text : String} {digits letters : List Char}

theorem Written.unique {digits' letters' : List Char} (h : Written text digits letters)
    (h' : Written text digits' letters') : digits' = digits ∧ letters' = letters := by
  obtain ⟨hd, hl, -⟩ := h.runs
  obtain ⟨hd', hl', -⟩ := h'.runs
  exact ⟨hd'.symm.trans hd, hl'.symm.trans hl⟩

theorem written_runs (hne : digitRun text ≠ [])
    (hall : ((unitPart text).dropWhile isLetter).all isBlank = true) :
    Written text (digitRun text) ((unitPart text).takeWhile isLetter) := by
  refine ⟨text.toList.takeWhile isBlank,
    ((text.toList.dropWhile isBlank).dropWhile isDigit).takeWhile isBlank,
    (unitPart text).dropWhile isLetter, ?_, ?_, hne, forall_mem_takeWhile isDigit _,
    forall_mem_takeWhile isLetter _⟩
  · rw [List.takeWhile_append_dropWhile, unitPart, List.takeWhile_append_dropWhile, digitRun,
      List.takeWhile_append_dropWhile, List.takeWhile_append_dropWhile]
  · intro c hc
    rcases List.mem_append.1 hc with hc | hc
    · rcases List.mem_append.1 hc with hc | hc
      · exact forall_mem_takeWhile isBlank _ c hc
      · exact forall_mem_takeWhile isBlank _ c hc
    · exact List.all_eq_true.1 hall c hc

theorem split?_of_not_written (h : ∀ digits letters, ¬Written text digits letters) :
    split? text = none := by
  rw [split?_eq, if_neg]
  rintro ⟨hne, hall⟩
  exact h _ _ (written_runs hne hall)

theorem Written.denotes (h : Written text digits letters) :
    Numeral.Denotes 10 IsDecimalDigit digits
      (Numeral.ofDigits 10 (digits.filterMap digitValue?)) := by
  obtain ⟨-, -, -, -, -, hne, hd, -⟩ := h
  exact (Numeral.denotes_iff digitValue?_eq_some_iff).2 ⟨hne, hd, rfl⟩

theorem read_of_written (h : Written text digits letters)
    (hlength : digits.length ≤ Numeral.maxDigits) (unit : Option String) :
    read (some text) unit = if letters = [] ∨ some (String.ofList letters) = unit then
      ⟨[], .ok (Numeral.ofDigits 10 (digits.filterMap digitValue?))⟩
    else ⟨[.otherUnit text unit], .ok 0⟩ := by
  have hnil : String.ofList letters = "" ↔ letters = [] := String.ofList_eq_empty_iff
  have hds : (digits.filterMap digitValue?).length ≤ Numeral.maxDigits :=
    Nat.le_trans (List.length_filterMap_le _ _) hlength
  simp only [read, split?_of_written h, ne_eq, hnil]
  by_cases hu : letters = [] ∨ some (String.ofList letters) = unit
  · rw [if_pos hu, if_neg (by tauto), Numeral.ofDecimal_eq_ok hds]
    rfl
  · rw [if_neg hu, if_pos (by tauto)]
    rfl

theorem read_of_not_written (h : ∀ digits letters, ¬Written text digits letters)
    (unit : Option String) : read (some text) unit = ⟨[.notNumber text], .ok 0⟩ := by
  rw [read, split?_of_not_written h]
  rfl

/-- Attributes are read by their grammar. A text of its form parts in one way. Its number counts if
it goes without a unit or is in the wanted one; otherwise it counts as zero, as does any other text,
and this is noted, once, for debugging. -/
theorem read_grammar (text : String) (unit : Option String) :
    (∀ digits letters, Written text digits letters →
      (∀ digits' letters', Written text digits' letters' →
        digits' = digits ∧ letters' = letters) ∧
      (digits.length ≤ Numeral.maxDigits → ∃ n, Numeral.Denotes 10 IsDecimalDigit digits n ∧
        read (some text) unit = if letters = [] ∨ some (String.ofList letters) = unit then
          ⟨[], .ok n⟩ else ⟨[.otherUnit text unit], .ok 0⟩)) ∧
    ((∀ digits letters, ¬Written text digits letters) →
      read (some text) unit = ⟨[.notNumber text], .ok 0⟩) ∧
    (Note.otherUnit text unit).level = .debug ∧ (Note.notNumber text).level = .debug := by
  refine ⟨?_, fun h => read_of_not_written h unit, rfl, rfl⟩
  intro digits letters h
  exact ⟨fun digits' letters' => h.unique,
    fun hlength => ⟨_, h.denotes, read_of_written h hlength unit⟩⟩

/-- Digits of two scripts, with blanks wherever they may stand. -/
def mixedText : String := " \u06634\tmV\n"

theorem read_grammar_mixed : Written mixedText ['\u0663', '4'] ['m', 'V'] ∧
    read (some mixedText) (some "mV") = ⟨[], .ok 34⟩ ∧
    read (some mixedText) (some "mA") = ⟨[.otherUnit mixedText (some "mA")], .ok 0⟩ ∧
    read (some "3.4 mV") (some "mV") = ⟨[.notNumber "3.4 mV"], .ok 0⟩ := by
  have h : Written mixedText ['\u0663', '4'] ['m', 'V'] := by
    refine ⟨[' '], ['\t'], ['\n'], rfl, ?_, by decide, ?_, ?_⟩ <;>
    exact List.all_eq_true.1 (by decide)
  have hpoint : ∀ digits letters, ¬Written "3.4 mV" digits letters := by
    intro digits letters hw
    have hsplit : split? "3.4 mV" = none := by decide
    rw [split?_of_written hw] at hsplit
    cases hsplit
  obtain ⟨n, hn, hread⟩ := ((read_grammar mixedText (some "mV")).1 _ _ h).2 (by decide)
  obtain ⟨n', -, hread'⟩ := ((read_grammar mixedText (some "mA")).1 _ _ h).2 (by decide)
  have hvalue : n = 34 := by
    obtain ⟨-, -, rfl⟩ := (Numeral.denotes_iff digitValue?_eq_some_iff).1 hn
    decide
  refine ⟨h, ?_, ?_, (read_grammar "3.4 mV" (some "mV")).2.1 hpoint⟩
  · rw [hread, hvalue]
    rfl
  · rw [hread', if_neg (by decide)]

end Attribute
end PowerDelivery
