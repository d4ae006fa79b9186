import PowerDelivery.Proofs.Literal

/-! # Words as text, and back

The text of a word is a literal for it, and so is every other way to spell its number. The text of a
number that is no word is refused. -/
namespace PowerDelivery.Literal
open Numeral

theorem isBlank_of_denotes {b n : Nat} {cs : List Char} (hb : b ≤ 16)
    (h : Denotes b (IsDigit b) cs n) : ∀ c ∈ cs, Text.isBlank c = false := by
  have hall : ∀ d < 16, Text.isBlank d.digitChar = false ∧
      Text.isBlank d.digitChar.toUpper = false := by decide
  intro c hc
  obtain ⟨d, hd, rfl | rfl⟩ := h.exists_of_mem hc
  · exact (hall d (by omega)).1
  · exact (hall d (by omega)).2

theorem Writes.isBlank_eq_false {cs : List Char} {n : Nat} (h : Writes cs n) :
    ∀ c ∈ cs, Text.isBlank c = false := by
  cases h with
  | decimal h => exact isBlank_of_denotes (by decide) h
  | @hex x cs n mark h =>
    have hmark : Text.isBlank x = false := by
      rcases mark with rfl | rfl <;> decide
    have hzero : Text.isBlank '0' = false := by decide
    simpa [hmark, hzero] using isBlank_of_denotes (by decide) h

/-- The characters that can stand for the number `n`: its digits behind zeros, in hexadecimal behind
the mark and in any mix of cases. -/
inductive Spells (n : Nat) : List Char → Prop where
  | hex {x : Char} {digits : List Char} (mark : x = 'x' ∨ x = 'X') (zeros : Nat)
      (digits_eq : digits.map Char.toLower = Nat.toDigits 16 n) :
      Spells n ('0' :: x :: (List.replicate zeros '0' ++ digits))
  | decimal (zeros : Nat) (short : zeros + (Nat.toDigits 10 n).length ≤ maxDigits) :
      Spells n (List.replicate zeros '0' ++ Nat.toDigits 10 n)

theorem Spells.writes {n : Nat} {cs : List Char} (h : Spells n cs) : Writes cs n := by
  cases h with
  | @hex x digits mark zeros hdigits =>
    have hn : Denotes 16 (IsDigit 16) digits n := by
      rw [← denotes_map_toLower, hdigits]
      exact denotes_toDigits (by decide) n
    exact .hex mark (hn.zeros_append (by decide) zeros)
  | decimal zeros short =>
    exact .decimal ((denotes_toDigits (by decide) n).zeros_append (by decide) zeros)

theorem Spells.not_overlong {n : Nat} {cs : List Char} (h : Spells n cs) : ¬Overlong cs := by
  cases h with
  | @hex x digits mark zeros hdigits =>
    rintro ⟨hd, -⟩
    have hx := hd x (by simp)
    rcases mark with rfl | rfl <;> cases hx
  | decimal zeros short =>
    rintro ⟨-, hlength⟩
    rw [List.length_append, List.length_replicate] at hlength
    omega

theorem Spells.number?_eq {n : Nat} {cs body : List Char} (h : Spells n body)
    (hcs : Text.Surrounded cs body) : number? (Text.trim cs) = some (.ok n) := by
  rw [hcs.trim_eq h.writes.isBlank_eq_false]
  exact number?_eq_ok_iff.2 ⟨h.writes, h.not_overlong⟩

theorem toLower_toDigits (n : Nat) : (Nat.toDigits 16 n).map Char.toLower = Nat.toDigits 16 n := by
  have hlower : ∀ d < 16, d.digitChar.toLower = d.digitChar := by decide
  have hid : (Nat.toDigits 16 n).map Char.toLower = (Nat.toDigits 16 n).map id := by
    apply List.map_congr_left
    intro c hc
    obtain ⟨d, hd, rfl⟩ := exists_of_mem_toDigits (by decide) hc
    exact hlower d hd
  rw [hid, List.map_id]

theorem toList_wordText (n : Nat) : (wordText n).toList = '0' :: 'x' :: padded 16 8 n := by
  have hn : ¬(n : Int) < 0 := by omega
  rw [wordText, if_neg hn, String.toList_ofList, Int.natAbs_natCast]

theorem spells_wordText (n : Nat) : Spells n (wordText n).toList := by
  rw [toList_wordText]
  exact .hex (.inl rfl) _ (toLower_toDigits n)

def lowerDigits : List Char := "0123456789abcdef".toList

theorem mem_lowerDigits_of_mem_padded {c : Char} {n : Nat} (h : c ∈ padded 16 8 n) :
    c ∈ lowerDigits := by
  have hall : ∀ d < 16, d.digitChar ∈ lowerDigits := by decide
  rcases List.mem_append.1 h with h | h
  · rw [List.eq_of_mem_replicate h]
    exact hall 0 (by decide)
  · obtain ⟨d, hd, rfl⟩ := exists_of_mem_toDigits (by decide) h
    exact hall d hd

theorem length_padded_word {n : Nat} (h : n < 2 ^ 32) : (padded 16 8 n).length = 8 :=
  length_padded (by decide) (by decide) h

/-- A sign is no digit. -/
theorem number?_wordText_of_neg {n : Int} (h : n < 0) :
    number? (Text.trim (wordText n).toList) = none := by
  have htext : (wordText n).toList = '0' :: 'x' :: '-' :: padded 16 7 n.natAbs := by
    rw [wordText, if_pos h, String.toList_ofList]
  have hdigits : Denotes 16 (IsDigit 16) (padded 16 7 n.natAbs) n.natAbs :=
    (denotes_toDigits (by decide) _).zeros_append (by decide) _
  have hmarks : Text.isBlank '0' = false ∧ Text.isBlank 'x' = false ∧ Text.isBlank '-' = false := by
    decide
  have htrim : Text.trim (wordText n).toList = '0' :: 'x' :: '-' :: padded 16 7 n.natAbs := by
    rw [htext, Text.trim, Text.trimBy_eq_self]
    simpa [hmarks] using isBlank_of_denotes (by decide) hdigits
  rw [htrim, number?_eq_none_iff]
  intro m hw
  cases hw with
  | decimal hm =>
    obtain ⟨d, hd⟩ := hm.exists_of_mem (c := 'x') (by simp)
    cases (decimalValue?_eq_some_iff 'x' d).2 hd
  | hex mark hm =>
    obtain ⟨d, hd⟩ := hm.exists_of_mem (c := '-') (by simp)
    cases (hexValue?_eq_some_iff '-' d).2 hd

section
variable {text : String} {n : Nat} (operation : Option String)

theorem parseWord_of_lt (h : number? (Text.trim text.toList) = some (.ok n)) (hn : n < 2 ^ 32) :
    parseWord text operation = .ok (BitVec.ofNat 32 n) := by
  simp only [parseWord, h, if_pos hn]

theorem parseWord_of_le (h : number? (Text.trim text.toList) = some (.ok n)) (hn : 2 ^ 32 ≤ n) :
    parseWord text operation = .error (.literal ⟨.text text, .tooLarge, operation⟩) := by
  simp only [parseWord, h, if_neg (Nat.not_lt.2 hn)]

end

/-- The text of a word has eight lower-case digits and is read as the word, and so is every spelling
of its number between blanks, which then has the same text. A number too large for a word is refused
as such, and a number below zero as no number. -/
theorem parseWord_wordText (operation : Option String) (n : Int) :
    (0 ≤ n ∧ n ≤ 0xFFFFFFFF →
      (∃ w, parseWord (wordText n) operation = .ok w ∧ (w.toNat : Int) = n) ∧
      (∃ digits, (wordText n).toList = '0' :: 'x' :: digits ∧ digits.length = 8 ∧
        ∀ c ∈ digits, c ∈ lowerDigits) ∧
      ∀ text body, Text.Surrounded text.toList body → Spells n.toNat body →
        ∃ w, parseWord text operation = .ok w ∧ (w.toNat : Int) = n ∧ w.text = wordText n) ∧
    (0xFFFFFFFF < n → parseWord (wordText n) operation =
      .error (.literal ⟨.text (wordText n), .tooLarge, operation⟩)) ∧
    (n < 0 → parseWord (wordText n) operation =
      .error (.literal ⟨.text (wordText n), .notNumber, operation⟩)) ∧
    LiteralReason.tooLarge.message = "does not fit in 32 bits" ∧
    LiteralReason.notNumber.message = "expected a decimal or 0x-prefixed hex number" := by
  have hread (m : Nat) : number? (Text.trim (wordText m).toList) = some (.ok m) :=
    (spells_wordText m).number?_eq (Text.surrounded_self _)
  refine ⟨?_, ?_, ?_, rfl, rfl⟩
  · rintro ⟨h0, hle⟩
    obtain ⟨m, rfl⟩ := Int.eq_ofNat_of_zero_le h0
    have hm : m < 2 ^ 32 := by omega
    have hvalue : (BitVec.ofNat 32 m).toNat = m := by
      rw [BitVec.toNat_ofNat, Nat.mod_eq_of_lt hm]
    refine ⟨⟨_, parseWord_of_lt operation (hread m) hm, congrArg _ hvalue⟩,
      ⟨_, toList_wordText m, length_padded_word hm, fun c => mem_lowerDigits_of_mem_padded⟩, ?_⟩
    intro text body hsurrounded hspells
    refine ⟨_, parseWord_of_lt operation (hspells.number?_eq hsurrounded) hm, congrArg _ hvalue, ?_⟩
    exact congrArg (fun k : Nat => wordText k) hvalue
  · intro hlarge
    obtain ⟨m, rfl⟩ := Int.eq_ofNat_of_zero_le (by omega : 0 ≤ n)
    exact parseWord_of_le operation (hread m) (by omega)
  · intro hneg
    simp only [parseWord, number?_wordText_of_neg hneg]

/-- A word in a spelling of its own: between blanks, with zeros and in both cases. -/
def mixedText : String := "\t0X0001912C\n"

theorem parseWord_wordText_limits :
    (∃ w, parseWord (wordText 0xFFFFFFFF) none = .ok w ∧ (w.toNat : Int) = 0xFFFFFFFF) ∧
    (∃ w, parseWord mixedText none = .ok w ∧ w.text = wordText 0x1912C) ∧
    parseWord (wordText 0x100000000) none =
      .error (.literal ⟨.text (wordText 0x100000000), .tooLarge, none⟩) ∧
    parseWord (wordText (-1)) none =
      .error (.literal ⟨.text (wordText (-1)), .notNumber, none⟩) := by
  have hspells : Spells 0x1912C ['0', 'X', '0', '0', '0', '1', '9', '1', '2', 'C'] :=
    .hex (.inr rfl) 3 (by decide)
  have hsurrounded : Text.Surrounded mixedText.toList
      ['0', 'X', '0', '0', '0', '1', '9', '1', '2', 'C'] :=
    ⟨['\t'], ['\n'], by decide, List.all_eq_true.1 (by decide)⟩
  obtain ⟨w, hw, -, htext⟩ :=
    ((parseWord_wordText none 0x1912C).1 (by decide)).2.2 mixedText _ hsurrounded hspells
  exact ⟨((parseWord_wordText none 0xFFFFFFFF).1 (by decide)).1, ⟨w, hw, htext⟩,
    (parseWord_wordText none 0x100000000).2.1 (by decide),
    (parseWord_wordText none (-1)).2.2.1 (by decide)⟩

end PowerDelivery.Literal
