import PowerDelivery.Literal
import PowerDelivery.Proofs.Numeral
import PowerDelivery.Proofs.Text.Runs

/-! # The grammar of word literals

A literal is a decimal numeral, or a hexadecimal one behind `0x`, with blanks around it. What cannot
be read is refused as a literal, except that a run of too many decimal digits is not read at all,
whatever number it writes. -/
namespace PowerDelivery.Literal
open Numeral

/-- The number that the characters write, in decimal or behind `0x` in hexadecimal. -/
inductive Writes : List Char → Nat → Prop where
  | decimal {cs : List Char} {n : Nat} (digits : Denotes 10 (IsDigit 10) cs n) : Writes cs n
  | hex {x : Char} {cs : List Char} {n : Nat} (mark : x = 'x' ∨ x = 'X')
      (digits : Denotes 16 (IsDigit 16) cs n) : Writes ('0' :: x :: cs) n

/-- A run of decimal digits with more of them than may be read. -/
def Overlong (cs : List Char) : Prop := (∀ c ∈ cs, c.isDigit = true) ∧ maxDigits < cs.length

section
variable {cs : List Char} {n : Nat}

theorem hexDigits?_of_denotes {x : Char} (hx : x = 'x' ∨ x = 'X')
    (h : Denotes 16 (IsDigit 16) cs n) :
    ∃ ds, hexDigits? ('0' :: x :: cs) = some ds ∧ ofDigits 16 ds = n := by
  obtain ⟨ds, hds, hn⟩ := (denotes_iff_allDigits? hexValue?_eq_some_iff).1 h
  exact ⟨ds, by rw [hexDigits?, if_pos hx, hds], hn⟩

theorem exists_of_hexDigits? {ds : List Nat} (h : hexDigits? cs = some ds) :
    ∃ x digits, cs = '0' :: x :: digits ∧ (x = 'x' ∨ x = 'X') ∧
      Denotes 16 (IsDigit 16) digits (ofDigits 16 ds) := by
  unfold hexDigits? at h
  split at h
  · next x digits =>
    obtain ⟨hx, hds⟩ := Option.ite_none_right_eq_some.1 h
    exact ⟨x, digits, rfl, hx, (denotes_iff_allDigits? hexValue?_eq_some_iff).2 ⟨ds, hds, rfl⟩⟩
  · cases h

theorem hexDigits?_of_isDigit (h : ∀ c ∈ cs, (decimalValue? c).isSome = true) :
    hexDigits? cs = none := by
  cases hh : hexDigits? cs with
  | none => rfl
  | some ds =>
    obtain ⟨x, digits, rfl, hx, -⟩ := exists_of_hexDigits? hh
    have hd := h x (by simp)
    rcases hx with rfl | rfl <;> cases hd

instance (cs : List Char) : Decidable (Overlong cs) :=
  decidable_of_iff (cs.all Char.isDigit = true ∧ maxDigits < cs.length)
    (and_congr_left fun _ => List.all_eq_true)

theorem number?_of_writes (h : Writes cs n) :
    number? cs = some (if Overlong cs then .error ⟨cs.length⟩ else .ok n) := by
  cases h with
  | decimal h =>
    obtain ⟨hne, hd, hn⟩ := (denotes_iff decimalValue?_eq_some_iff).1 h
    have hdigits : decimalDigits? cs = some (cs.filterMap decimalValue?) :=
      allDigits?_eq_some_iff.2 ⟨hne, hd, rfl⟩
    have hlength : (cs.filterMap decimalValue?).length = cs.length :=
      List.filterMap_length_eq_length.2 hd
    have ho : Overlong cs ↔ ¬cs.length ≤ maxDigits := by
      rw [Nat.not_le]
      exact and_iff_right fun c hc => (isSome_decimalValue?_iff c).1 (hd c hc)
    simp only [number?, hexDigits?_of_isDigit hd, hdigits, Option.map_some, ofDecimal, hlength, hn,
      ho, ite_not]
  | @hex x cs n mark h =>
    obtain ⟨ds, hds, rfl⟩ := hexDigits?_of_denotes mark h
    have ho : ¬Overlong ('0' :: x :: cs) := by
      rintro ⟨hd, -⟩
      have hx := hd x (by simp)
      rcases mark with rfl | rfl <;> cases hx
    rw [number?, hds, if_neg ho]

theorem writes_of_number? {x : Except TooLong Nat} (h : number? cs = some x) :
    ∃ n, Writes cs n := by
  unfold number? at h
  split at h
  · next ds hds =>
    obtain ⟨x, digits, rfl, hx, hn⟩ := exists_of_hexDigits? hds
    exact ⟨_, .hex hx hn⟩
  · obtain ⟨ds, hds, -⟩ := Option.map_eq_some_iff.1 h
    exact ⟨_, .decimal ((denotes_iff_allDigits? decimalValue?_eq_some_iff).2 ⟨ds, hds, rfl⟩)⟩

theorem number?_eq_some_iff {x : Except TooLong Nat} : number? cs = some x ↔
    ∃ n, Writes cs n ∧ (if Overlong cs then .error ⟨cs.length⟩ else .ok n) = x := by
  constructor
  · intro h
    obtain ⟨n, hn⟩ := writes_of_number? h
    exact ⟨n, hn, Option.some.inj ((number?_of_writes hn).symm.trans h)⟩
  · rintro ⟨n, hn, rfl⟩
    exact number?_of_writes hn

theorem number?_eq_none_iff : number? cs = none ↔ ∀ n, ¬Writes cs n := by
  simp only [Option.eq_none_iff_forall_ne_some, ne_eq, number?_eq_some_iff]
  exact ⟨fun h n hn => h _ ⟨n, hn, rfl⟩, fun h x ⟨n, hn, _⟩ => h n hn⟩

theorem number?_eq_ok_iff : number? cs = some (.ok n) ↔ Writes cs n ∧ ¬Overlong cs := by
  rw [number?_eq_some_iff]
  by_cases ho : Overlong cs <;> simp [ho]

theorem Overlong.exists_writes (h : Overlong cs) : ∃ n, Writes cs n := by
  have hne : cs ≠ [] := List.ne_nil_of_length_pos (Nat.zero_lt_of_lt h.2)
  exact ⟨_, .decimal ((denotes_iff decimalValue?_eq_some_iff).2
    ⟨hne, fun c hc => (isSome_decimalValue?_iff c).2 (h.1 c hc), rfl⟩)⟩

theorem number?_eq_error_iff {e : TooLong} :
    number? cs = some (.error e) ↔ Overlong cs ∧ e = ⟨cs.length⟩ := by
  rw [number?_eq_some_iff]
  by_cases ho : Overlong cs
  · simp [ho, ho.exists_writes, eq_comm]
  · simp [ho]

end

section
variable {text : String} {operation : Option String}

theorem parseWord_eq_ok_iff {w : Word} :
    parseWord text operation = .ok w ↔ number? (Text.trim text.toList) = some (.ok w.toNat) := by
  unfold parseWord
  cases number? (Text.trim text.toList) with
  | none => exact iff_of_false nofun nofun
  | some x =>
    cases x with
    | error e => exact iff_of_false nofun nofun
    | ok n =>
      rw [Option.some.injEq, Except.ok.injEq, BitVec.nat_eq_toNat]
      by_cases hn : n < 2 ^ 32
      · simp [hn, eq_comm]
      · simp [hn]

theorem parseWord_eq_tooLong_iff {e : TooLong} :
    parseWord text operation = .error (.tooLong e) ↔
      number? (Text.trim text.toList) = some (.error e) := by
  unfold parseWord
  cases number? (Text.trim text.toList) with
  | none => exact iff_of_false nofun nofun
  | some x =>
    cases x with
    | error e' => simp
    | ok n =>
      by_cases hn : n < 2 ^ 32 <;> simp [hn]

theorem parseWord_eq_literal_iff {e : LiteralError} :
    parseWord text operation = .error (.literal e) ↔
      e = ⟨.text text, .notNumber, operation⟩ ∧ number? (Text.trim text.toList) = none ∨
      e = ⟨.text text, .tooLarge, operation⟩ ∧
        ∃ n, number? (Text.trim text.toList) = some (.ok n) ∧ 2 ^ 32 ≤ n := by
  unfold parseWord
  cases number? (Text.trim text.toList) with
  | none => simp [eq_comm]
  | some x =>
    cases x with
    | error e' => simp
    | ok n =>
      by_cases hn : n < 2 ^ 32
      · simp [hn]
      · simp [hn, eq_comm, Nat.le_of_not_lt hn]

end

/-- A text that is not too long is read as a word exactly if it is a numeral for one between blanks.
It is refused as too large if it is a numeral for a greater number, and otherwise as no number. -/
theorem parseWord_grammar (text : String) (operation : Option String)
    (h : ¬Overlong (Text.trim text.toList)) :
    (∀ body, Text.Trimmed text.toList body ↔ body = Text.trim text.toList) ∧
    (∀ n, (∃ w, parseWord text operation = .ok w ∧ w.toNat = n) ↔
      Writes (Text.trim text.toList) n ∧ n ≤ 0xFFFFFFFF) ∧
    (parseWord text operation = .error (.literal ⟨.text text, .tooLarge, operation⟩) ↔
      ∃ n, Writes (Text.trim text.toList) n ∧ 0xFFFFFFFF < n) ∧
    (parseWord text operation = .error (.literal ⟨.text text, .notNumber, operation⟩) ↔
      ∀ n, ¬Writes (Text.trim text.toList) n) ∧
    LiteralReason.tooLarge.message = "does not fit in 32 bits" ∧
    LiteralReason.notNumber.message = "expected a decimal or 0x-prefixed hex number" := by
  have hnumber (n : Nat) : number? (Text.trim text.toList) = some (.ok n) ↔
      Writes (Text.trim text.toList) n := by
    rw [number?_eq_ok_iff, and_iff_left h]
  refine ⟨fun body => Text.trimmed_iff, ?_, ?_, ?_, rfl, rfl⟩
  · intro n
    simp only [parseWord_eq_ok_iff, hnumber]
    constructor
    · rintro ⟨w, hw, rfl⟩
      exact ⟨hw, by omega⟩
    · rintro ⟨hn, hlt⟩
      have hw : (BitVec.ofNat 32 n).toNat = n := by
        rw [BitVec.toNat_ofNat]
        omega
      exact ⟨BitVec.ofNat 32 n, by rwa [hw], hw⟩
  · have hlarge (n : Nat) : 2 ^ 32 ≤ n ↔ 0xFFFFFFFF < n := by omega
    simp only [parseWord_eq_literal_iff, hnumber, hlarge, LiteralError.mk.injEq, reduceCtorEq,
      false_and, and_false, false_or, true_and]
  · simp only [parseWord_eq_literal_iff, number?_eq_none_iff, LiteralError.mk.injEq, reduceCtorEq,
      false_and, and_false, or_false, true_and]

/-- Zeros before the digits and digits in either case. -/
def hexText : String := "\t0X00fF\n"

theorem trim_hexText : Text.trim hexText.toList = ['0', 'X', '0', '0', 'f', 'F'] := by decide

theorem parseWord_grammar_hex : ¬Overlong (Text.trim hexText.toList) ∧
    ∃ w, parseWord hexText none = .ok w ∧ w.toNat = 255 := by
  have ho : ¬Overlong (Text.trim hexText.toList) := by
    rw [trim_hexText]
    exact fun h => absurd h.2 (by decide)
  have hdigits : Denotes 16 (IsDigit 16) ['0', '0', 'f', 'F'] 255 :=
    (denotes_iff hexValue?_eq_some_iff).2
      ⟨by decide, List.all_eq_true.1 (by decide), by decide⟩
  have hw : Writes (Text.trim hexText.toList) 255 := by
    rw [trim_hexText]
    exact .hex (.inr rfl) hdigits
  exact ⟨ho, ((parseWord_grammar hexText none ho).2.1 255).2 ⟨hw, by decide⟩⟩

/-- Every text is read as a word or refused as a literal, with one exception: a run of too many
decimal digits fails as such. Hexadecimal digits have no such limit. -/
theorem parseWord_outcome (text : String) (operation : Option String) :
    Overlong (Text.trim text.toList) ∧ parseWord text operation =
        .error (.tooLong ⟨(Text.trim text.toList).length⟩) ∨
      ¬Overlong (Text.trim text.toList) ∧
        ((∃ w, parseWord text operation = .ok w) ∨
          ∃ reason, (reason = .notNumber ∨ reason = .tooLarge) ∧
            parseWord text operation = .error (.literal ⟨.text text, reason, operation⟩)) := by
  by_cases ho : Overlong (Text.trim text.toList)
  · exact .inl ⟨ho, parseWord_eq_tooLong_iff.2 (number?_eq_error_iff.2 ⟨ho, rfl⟩)⟩
  · refine .inr ⟨ho, ?_⟩
    cases h : parseWord text operation with
    | ok w => exact .inl ⟨w, rfl⟩
    | error e =>
      cases e with
      | tooLong e => exact absurd (number?_eq_error_iff.1 (parseWord_eq_tooLong_iff.1 h)).1 ho
      | literal e =>
        rcases parseWord_eq_literal_iff.1 h with ⟨rfl, -⟩ | ⟨rfl, -⟩
        · exact .inr ⟨_, .inl rfl, rfl⟩
        · exact .inr ⟨_, .inr rfl, rfl⟩

def zeros (n : Nat) : String := String.ofList (List.replicate n '0')

theorem trim_zeros (n : Nat) : Text.trim (zeros n).toList = List.replicate n '0' := by
  rw [zeros, String.toList_ofList, Text.trim, Text.trimBy_eq_self]
  intro c hc
  rw [List.eq_of_mem_replicate hc]
  decide

theorem denotes_zeros {b : Nat} (hb : 0 < b) (n : Nat) :
    Denotes b (IsDigit b) (List.replicate (n + 1) '0') 0 := by
  have hlast : Denotes b (IsDigit b) ['0'] 0 := .single (isDigit_digitChar hb)
  rw [List.replicate_succ']
  exact hlast.zeros_append hb n

theorem overlong_zeros {n : Nat} (hn : maxDigits < n) : Overlong (List.replicate n '0') := by
  refine ⟨fun c hc => ?_, by rwa [List.length_replicate]⟩
  rw [List.eq_of_mem_replicate hc]
  rfl

/-- With one digit more than can be read, zero is a numeral for a word and yet neither read nor
refused as a literal. -/
theorem parseWord_zeros : Writes (Text.trim (zeros 4301).toList) 0 ∧
    ¬((∃ w, parseWord (zeros 4301) none = .ok w) ∨
      ∃ e, parseWord (zeros 4301) none = .error (.literal e)) := by
  have ho : Overlong (Text.trim (zeros 4301).toList) := by
    rw [trim_zeros]
    exact overlong_zeros (by decide)
  have herror : parseWord (zeros 4301) none = .error (.tooLong ⟨_⟩) :=
    parseWord_eq_tooLong_iff.2 (number?_eq_error_iff.2 ⟨ho, rfl⟩)
  constructor
  · rw [trim_zeros]
    exact .decimal (denotes_zeros (by decide) 4300)
  · rw [herror]
    rintro (⟨w, hw⟩ | ⟨e, he⟩)
    · cases hw
    · cases he

end PowerDelivery.Literal
