import PowerDelivery.Proofs.Classification
import PowerDelivery.Proofs.Decoding
import PowerDelivery.Proofs.Encoding
import Mathlib.Data.List.Forall2

/-! # Reading an encoded word back

Each decoded field holds what its own attribute says and nothing of the others, and the word is
classified as the variant it was encoded for. -/
namespace PowerDelivery

/-- The raw bits of a row after its attribute has been encoded: nothing without an attribute, the
low bits of a number, or of the whole steps in it; a flag says whether the number is zero. -/
inductive Row.Stores (row : Row) : Option String → Nat → Prop
  | absent : Stores row none 0
  | flag {text : String} {n : Nat} (unitless : row.scale = .unitless) (single : row.span.width = 1)
      (read : (Attribute.read (some text) none).outcome = .ok n) :
      Stores row (some text) (if n = 0 then 0 else 1)
  | number {text : String} {n : Nat} (unitless : row.scale = .unitless)
      (wide : row.span.width ≠ 1) (read : (Attribute.read (some text) none).outcome = .ok n) :
      Stores row (some text) (n % 2 ^ row.span.width)
  | scaled {text : String} {n step : Nat} (linear : row.scale.step = .ok step)
      (read : (Attribute.read (some text) row.name.unit?).outcome = .ok n) :
      Stores row (some text) (n / step % 2 ^ row.span.width)

theorem Row.stores_value {row : Row} (hl : row.scale ≠ .halvedQuarterVolt) {text : Option String}
    (hf : Attribute.fault? text row.unit? = none) :
    row.Stores text (row.value text % 2 ^ row.span.width) := by
  cases text with
  | none =>
    rw [value_none, Nat.zero_mod]
    exact .absent
  | some text =>
    have hr := Attribute.read_outcome (some text) row.unit?
    rw [hf] at hr
    cases hs : row.scale with
    | halvedQuarterVolt => exact absurd hs hl
    | unitless =>
      rw [unit?_of_unitless hs] at hr
      rw [value_of_unitless hs]
      by_cases hw : row.span.width = 1
      · have hb (b : Prop) [Decidable b] : (if b then 0 else 1) % 2 ^ 1 = if b then 0 else 1 := by
          split <;> rfl
        rw [if_pos hw, hw, hb]
        exact .flag hs hw hr
      · rw [if_neg hw]
        exact .number hs hw hr
    | linear m hm =>
      have hstep : row.scale.step = .ok (m * 10) := by rw [hs]; rfl
      rw [unit?_of_ne_unitless (by simp [hs])] at hr
      rw [value_of_linear hs]
      exact .scaled hstep hr

theorem Row.Stores.unique {row : Row} {text : Option String} {a b : Nat}
    (ha : row.Stores text a) (hb : row.Stores text b) : a = b := by
  cases ha with
  | absent => cases hb; rfl
  | flag hu hw hr =>
    cases hb with
    | flag _ _ hr' => rw [Except.ok.inj (hr.symm.trans hr')]
    | number _ hw' => exact absurd hw hw'
    | scaled hs => rw [hu] at hs; cases hs
  | number hu hw hr =>
    cases hb with
    | flag _ hw' => exact absurd hw' hw
    | number _ _ hr' => rw [Except.ok.inj (hr.symm.trans hr')]
    | scaled hs => rw [hu] at hs; cases hs
  | scaled hs hr =>
    cases hb with
    | flag hu => rw [hu] at hs; cases hs
    | number hu => rw [hu] at hs; cases hs
    | scaled hs' hr' => rw [Except.ok.inj (hr.symm.trans hr'), Except.ok.inj (hs.symm.trans hs')]

/-- A field is that of its row, and its own attribute alone settles its bits. -/
def DecodedField.Holds (field : DecodedField) (row : Row) (attrs : Attributes) : Prop :=
  field.name = row.name ∧ field.display = row.scale.display field.raw ∧
    ∀ raw, row.Stores (attrs.get? row.name.text) raw ↔ raw = field.raw

section
variable {v : Variant} {selector : Word} (hv : v.selector? = some selector)
include hv

theorem capability_holds (first side : Bool) {attrs : Attributes} (h : attrs.Short) :
    List.Forall₂ (fun row field => field.Holds row attrs) (v.rows first side)
      ((selector.writeAll (attrs.fields (v.rows first side))).capability first side v).fields := by
  have hl := layout v first side
  rw [Word.capability, List.forall₂_map_right_iff, List.forall₂_same]
  intro row hr
  have hs := row.stores_value (hl.linear row hr) (h.fault?_eq_none row.name.text row.unit?)
  rw [← hl.read_writeAll (fun _ => Variant.selector?_read_eq_zero hv) attrs hr] at hs
  exact ⟨rfl, rfl, fun raw => ⟨fun hraw => hraw.unique hs, fun hraw => hraw ▸ hs⟩⟩

/-- Decoding an encoded word gives one field to a row, each with what its attribute says. -/
theorem decode_encode (side : Bool) (position : Int) {attrs : Attributes} (h : attrs.Short) :
    ∃ w d, (encode (.known v) (some side) position attrs).outcome = .ok w ∧
      (decodeCapability (.int w.toNat) (position == 1) (some side)
        (some (.known v))).outcome = .ok d ∧
      List.Forall₂ (fun row field => field.Holds row attrs) (v.rows (position == 1) side)
        d.fields := by
  refine ⟨_, _, encode_of_short hv side position h, ?_, capability_holds hv _ side h⟩
  rw [Word.decodeCapability_of_variant, Word.decodeCapability_outcome]

end

/-- Attributes with numbers that do not fit, in another unit, or absent. -/
def oversized : Attributes :=
  [("voltage", some "5000mV"), ("maximum_current", some "70000000000 mA"),
    ("peak_current", some "1023"), ("dual_role_data", some " ٣ "), ("dual_role_power", none),
    ("higher_capability", some "1 mV"), ("maximum_current_15V_to_20V", some "99999999999mA")]

theorem oversized_short : oversized.Short := Attributes.short_of_forall_mem (by decide)

/-- The current and the peak current are cut to their own bits of a fixed supply. -/
theorem decode_encode_oversized :
    oversized.Short ∧ ∃ w d, (encode (.known .fixed) (some true) 1 oversized).outcome = .ok w ∧
      (decodeCapability (.int w.toNat) true (some true) (some (.known .fixed))).outcome = .ok d ∧
      List.Forall₂ (fun row field => field.Holds row oversized) (Variant.fixed.rows true true)
        d.fields := by
  have hv : Variant.fixed.selector? = some 0x00000000#32 := rfl
  exact ⟨oversized_short, decode_encode hv true 1 oversized_short⟩

section
variable {v : Variant} {selector : Word} (hv : v.selector? = some selector)
include hv

/-- An encoded word is of the variant it was encoded for, but for a fixed supply without any bit. -/
theorem classify_encode (side : Bool) (position : Int) {attrs : Attributes} (h : attrs.Short) :
    ∃ w, (encode (.known v) (some side) position attrs).outcome = .ok w ∧
      w.classify = (if v = .fixed ∧ w = 0 then .null else v) ∧
      (¬(v = .fixed ∧ w = 0) → ∀ first side,
        decodeCapability (.int w.toNat) first (some side) none =
          decodeCapability (.int w.toNat) first (some side) (some (.known v))) := by
  refine ⟨_, encode_of_short hv side position h, ?_⟩
  generalize hw : selector.writeAll (attrs.fields (v.rows (position == 1) side)) = w
  have hm : w.read v.marks = selector.read v.marks := by
    rw [← hw, (layout v (position == 1) side).read_marks_writeAll]
  have hc : ¬(v = .fixed ∧ w = 0) → w.classify = v := by
    intro hn
    refine (Word.classify_eq_iff hv w).2 ⟨?_, hm⟩
    rintro rfl
    exact hn ⟨(Variant.selector?_marks_eq_zero_iff hv).1 (by rw [← hm]; simp [Word.read]), rfl⟩
  constructor
  · split
    · next hz => rw [hz.2]; rfl
    · next hn => exact hc hn
  · intro hn first side
    rw [Word.decodeCapability_of_classify, Word.decodeCapability_of_variant, hc hn]

end

/-- No number of the attributes reaches the four marks of an adjustable supply. -/
theorem classify_encode_oversized :
    ∃ w, (encode (.known .sprAvs) (some true) 3 oversized).outcome = .ok w ∧
      w.classify = .sprAvs := by
  have hv : Variant.sprAvs.selector? = some 0xE0000000#32 := rfl
  obtain ⟨w, hw, hc, -⟩ := classify_encode hv true 3 oversized_short
  exact ⟨w, hw, hc⟩

end PowerDelivery
