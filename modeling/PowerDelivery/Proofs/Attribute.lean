import PowerDelivery.Proofs.Numeral
import PowerDelivery.Proofs.Outcome
import PowerDelivery.Proofs.Text.Runs

/-! # What is read from the text of an attribute -/
namespace PowerDelivery

namespace Attribute
open Text

/-- Digits and letters, in this order, with blanks before, between and after. -/
def Written (text : String) (digits letters : List Char) : Prop :=
  ∃ before between after : List Char,
    text.toList = before ++ (digits ++ (between ++ (letters ++ after))) ∧
    (∀ c ∈ before ++ between ++ after, isBlank c = true) ∧
    digits ≠ [] ∧ (∀ c ∈ digits, isDigit c = true) ∧ ∀ c ∈ letters, isLetter c = true

section
variable (text : String)

def digitRun : List Char := (text.toList.dropWhile isBlank).takeWhile isDigit

def unitPart : List Char := ((text.toList.dropWhile isBlank).dropWhile isDigit).dropWhile isBlank

theorem filterMap_digits_eq_nil {digits : List Char} (hd : ∀ c ∈ digits, isDigit c = true) :
    digits.filterMap digitValue? = [] ↔ digits = [] := by
  rw [← List.length_eq_zero_iff, List.filterMap_length_eq_length.2 hd, List.length_eq_zero_iff]

theorem split?_eq : split? text =
    if digitRun text ≠ [] ∧ ((unitPart text).dropWhile isLetter).all isBlank = true then
      some ((digitRun text).filterMap digitValue?,
        String.ofList ((unitPart text).takeWhile isLetter))
    else none := by
  have hlead : leadingDigits (text.toList.dropWhile isBlank) =
      (digitRun text).filterMap digitValue? := rfl
  have hnil : (digitRun text).filterMap digitValue? = [] ↔ digitRun text = [] :=
    filterMap_digits_eq_nil (forall_mem_takeWhile isDigit _)
  unfold split?
  simp only [hlead]
  split
  · next h => rw [if_neg fun hc => hc.1 (hnil.1 h)]
  · next ds h =>
    have hne : digitRun text ≠ [] := fun hn => h (hnil.2 hn)
    simp only [hne, ne_eq, not_false_eq_true, true_and]
    rfl

end

theorem Written.runs {text : String} {digits letters : List Char}
    (h : Written text digits letters) :
    digitRun text = digits ∧ (unitPart text).takeWhile isLetter = letters ∧
      ((unitPart text).dropWhile isLetter).all isBlank = true := by
  obtain ⟨before, between, after, ht, hb, hn, hd, hl⟩ := h
  have hbefore : ∀ c ∈ before, isBlank c = true := fun c hc => hb c (by simp [hc])
  have hbetween : ∀ c ∈ between, isBlank c = true := fun c hc => hb c (by simp [hc])
  have hafter : ∀ c ∈ after, isBlank c = true := fun c hc => hb c (by simp [hc])
  have hcs : text.toList.dropWhile isBlank = digits ++ (between ++ (letters ++ after)) := by
    rw [ht]
    apply dropWhile_run hbefore
    obtain ⟨c, digits, rfl⟩ := List.exists_cons_of_ne_nil hn
    exact stops_cons.2 (isBlank_of_isDigit (hd c List.mem_cons_self))
  have hstop : Stops isDigit (between ++ (letters ++ after)) := by
    apply Stops.append fun c hc => isDigit_of_isBlank (hbetween c hc)
    apply Stops.append fun c hc => isDigit_of_isLetter (hl c hc)
    simpa using Stops.append (fun c hc => isDigit_of_isBlank (hafter c hc)) stops_nil
  have hunit : unitPart text = letters ++ (if letters = [] then [] else after) := by
    rw [unitPart, hcs, dropWhile_run hd hstop]
    cases letters with
    | nil =>
      have hb : ∀ c ∈ between ++ after, isBlank c = true := fun c hc =>
        (List.mem_append.1 hc).elim (hbetween c) (hafter c)
      simpa using dropWhile_run hb stops_nil
    | cons c letters =>
      exact dropWhile_run hbetween (stops_cons.2 (isBlank_of_isLetter (hl c List.mem_cons_self)))
  have htail : ∀ c ∈ (if letters = [] then [] else after), isBlank c = true := by
    intro c hc
    split at hc
    · cases hc
    · exact hafter c hc
  have hend : Stops isLetter (if letters = [] then [] else after) := by
    simpa using Stops.append (fun c hc => isLetter_of_isBlank (htail c hc)) stops_nil
  refine ⟨by rw [digitRun, hcs, takeWhile_run hd hstop], ?_, ?_⟩
  · rw [hunit, takeWhile_run hl hend]
  · rw [hunit, dropWhile_run hl hend]
    exact List.all_eq_true.2 htail

theorem split?_of_written {text : String} {digits letters : List Char}
    (h : Written text digits letters) :
    split? text = some (digits.filterMap digitValue?, String.ofList letters) := by
  have hn : digits ≠ [] := by
    obtain ⟨-, -, -, -, -, hn, -⟩ := h
    exact hn
  obtain ⟨hdigits, hletters, hall⟩ := h.runs
  rw [split?_eq, hdigits, hletters, if_pos ⟨hn, hall⟩]

/-- The digits of a number without a unit or in the wanted one. -/
def digits? (text unit : Option String) : Option (List Nat) :=
  (text.bind split?).bind fun (ds, suffix) =>
    if suffix = "" ∨ some suffix = unit then some ds else none

theorem digits?_of_written {text : String} {digits letters : List Char} {unit : Option String}
    (h : Written text digits letters)
    (hu : String.ofList letters = "" ∨ some (String.ofList letters) = unit) :
    digits? (some text) unit = some (digits.filterMap digitValue?) := by
  rw [digits?, Option.bind_some, split?_of_written h, Option.bind_some]
  exact if_pos hu

/-- The number that the digits write; what is not read as a number counts as zero. -/
def number (text unit : Option String) : Nat :=
  ((digits? text unit).map (Numeral.ofDigits 10)).getD 0

/-- Why the digits cannot be read, if there are too many. -/
def fault? (text unit : Option String) : Option TooLong :=
  (digits? text unit).bind fun ds =>
    if ds.length ≤ Numeral.maxDigits then none else some ⟨ds.length⟩

theorem read_outcome (text unit : Option String) :
    (read text unit).outcome = match fault? text unit with
      | some e => .error e
      | none => .ok (number text unit) := by
  cases text with
  | none => rfl
  | some text =>
    cases hs : split? text with
    | none => simp [read, hs, fault?, number, digits?]; rfl
    | some p =>
      obtain ⟨ds, suffix⟩ := p
      by_cases hu : suffix = "" ∨ some suffix = unit
      · have hn : ¬(suffix ≠ "" ∧ some suffix ≠ unit) := by tauto
        have hd : digits? (some text) unit = some ds := by simp [digits?, hs, hu]
        simp only [read, hs, if_neg hn, fault?, number, hd, Traced.outcome_ofExcept,
          Numeral.ofDecimal]
        by_cases hl : ds.length ≤ Numeral.maxDigits <;> simp [hl]
      · have hn : suffix ≠ "" ∧ some suffix ≠ unit := by tauto
        have hd : digits? (some text) unit = none := by simp [digits?, hs, hu]
        simp [read, hs, if_pos hn, fault?, number, hd]
        rfl

theorem number_eq_of_read {text unit : Option String} {n : Nat}
    (h : (read text unit).outcome = .ok n) : number text unit = n := by
  rw [read_outcome] at h
  cases hf : fault? text unit with
  | some e => rw [hf] at h; cases h
  | none => rw [hf] at h; exact Except.ok.inj h

theorem written_toString (n : Nat) {suffix : String}
    (h : ∀ c ∈ suffix.toList, isLetter c = true) :
    Written (toString n ++ suffix) (Nat.toDigits 10 n) suffix.toList := by
  refine ⟨[], [], [], ?_, by simp, Nat.toDigits_ne_nil, ?_, h⟩
  · simp [Nat.toList_repr]
  · intro c hc
    rw [isDigit, Numeral.digitValue?_of_isDigit c (Numeral.isDigit_of_mem_toDigits hc)]
    rfl

theorem digits?_toString (n : Nat) {suffix : String} {unit : Option String}
    (h : ∀ c ∈ suffix.toList, isLetter c = true) (hu : suffix = "" ∨ some suffix = unit) :
    digits? (some (toString n ++ suffix)) unit =
      some ((Nat.toDigits 10 n).filterMap digitValue?) := by
  apply digits?_of_written (written_toString n h)
  rwa [String.ofList_toList]

theorem digits?_zeros {n : Nat} (hn : n ≠ 0) {suffix : String} {unit : Option String}
    (h : ∀ c ∈ suffix.toList, isLetter c = true) (hu : suffix = "" ∨ some suffix = unit) :
    digits? (some (String.ofList (List.replicate n '0') ++ suffix)) unit =
      some (List.replicate n 0) := by
  have hw : Written (String.ofList (List.replicate n '0') ++ suffix) (List.replicate n '0')
      suffix.toList := by
    refine ⟨[], [], [], by simp, by simp, by simp [hn], ?_, h⟩
    intro c hc
    rw [List.eq_of_mem_replicate hc]
    decide
  rw [digits?_of_written hw (by rwa [String.ofList_toList])]
  exact congrArg some (List.filterMap_replicate_of_some (by decide))

theorem number_toString (n : Nat) {suffix : String} {unit : Option String}
    (h : ∀ c ∈ suffix.toList, isLetter c = true) (hu : suffix = "" ∨ some suffix = unit) :
    number (some (toString n ++ suffix)) unit = n := by
  rw [number, digits?_toString n h hu]
  exact Numeral.ofDigits_toDigits Numeral.digitValue?_of_isDigit n

theorem fault?_toString {n : Nat} (hn : n < 10 ^ Numeral.maxDigits) {suffix : String}
    {unit : Option String} (h : ∀ c ∈ suffix.toList, isLetter c = true)
    (hu : suffix = "" ∨ some suffix = unit) :
    fault? (some (toString n ++ suffix)) unit = none := by
  have hl : ((Nat.toDigits 10 n).filterMap digitValue?).length ≤ Numeral.maxDigits :=
    Nat.le_trans (List.length_filterMap_le _ _) (Numeral.length_toDigits_le hn)
  rw [fault?, digits?_toString n h hu, Option.bind_some, if_pos hl]

theorem isLetter_of_mem_unit (q : Quantity) : ∀ c ∈ q.unit.toList, isLetter c = true := by
  have h : q.unit.toList.all isLetter = true := by cases q <;> decide
  exact List.all_eq_true.1 h

/-- The number of the text, if it has one, is short enough to be read. -/
def Short (text : String) : Prop := ∀ p ∈ split? text, p.1.length ≤ Numeral.maxDigits

instance (text : String) : Decidable (Short text) :=
  inferInstanceAs (Decidable (∀ p ∈ split? text, p.1.length ≤ Numeral.maxDigits))

theorem Short.fault?_eq_none {text : String} (h : Short text) (unit : Option String) :
    fault? (some text) unit = none := by
  cases hs : split? text with
  | none => simp [fault?, digits?, hs]
  | some p =>
    have hp : p.1.length ≤ Numeral.maxDigits := h p hs
    by_cases hu : p.2 = "" ∨ some p.2 = unit <;> simp [fault?, digits?, hs, hu, hp]

end Attribute

namespace Attributes

def number (attrs : Attributes) (f : FieldName) : Nat :=
  Attribute.number (attrs.get? f.text) f.unit?

def faultAt? (attrs : Attributes) (f : FieldName) : Option TooLong :=
  Attribute.fault? (attrs.get? f.text) f.unit?

/-- No text of a name has a number too long to be read. -/
def Short (attrs : Attributes) : Prop :=
  ∀ name text, attrs.get? name = some text → Attribute.Short text

theorem Short.fault?_eq_none {attrs : Attributes} (h : attrs.Short) (name : String)
    (unit : Option String) : Attribute.fault? (attrs.get? name) unit = none := by
  cases ht : attrs.get? name with
  | none => rfl
  | some text => exact (h name text ht).fault?_eq_none unit

theorem get?_cons (name k : String) (text : Option String) (attrs : Attributes) :
    get? ((name, text) :: attrs) k = if k = name then text else attrs.get? k := by
  rw [get?, Keyed.lookup_cons]
  split <;> rfl

theorem get?_put (name k : String) (text : Option String) (attrs : Attributes) :
    get? (Keyed.put name text attrs) k = if k = name then text else attrs.get? k := by
  rw [get?, Keyed.lookup_put]
  split <;> rfl

theorem mem_of_get?_eq_some {attrs : Attributes} {name text : String}
    (h : attrs.get? name = some text) : (name, some text) ∈ attrs := by
  rw [get?, Option.join_eq_some_iff, List.lookup_eq_some_iff] at h
  obtain ⟨before, after, rfl, -⟩ := h
  simp

theorem short_of_forall_mem {attrs : Attributes}
    (h : ∀ p ∈ attrs, ∀ text ∈ p.2, Attribute.Short text) : attrs.Short :=
  fun _ text ht => h _ (mem_of_get?_eq_some ht) text rfl

end Attributes
end PowerDelivery
