import PowerDelivery.Proofs.Decoding
import PowerDelivery.Proofs.Encoding
import PowerDelivery.Proofs.Scale

/-! # Encoding what a decoded word displays

The names and displays of the fields suffice to build the word again, up to the bits that no field
covers. -/
namespace PowerDelivery

/-- The attribute text that a field's display stands for: itself for a bare number, and thousandths
with the unit for a scaled value. -/
def DecodedField.attribute (field : DecodedField) : String :=
  match field.name.unit? with
  | none => field.display
  | some unit => toString (thousandthsShown field.display) ++ unit

def DataObject.attributes (o : DataObject) : Attributes :=
  o.fields.map fun field => (field.name.text, some field.attribute)

namespace Attributes

theorem get?_map {α : Type} {items : List α} (name : α → FieldName) (text : α → String)
    (h : items.Pairwise fun a b => name a ≠ name b) {a : α} (ha : a ∈ items) :
    get? (items.map fun a => ((name a).text, some (text a))) (name a).text = some (text a) := by
  induction items with
  | nil => cases ha
  | cons b items ih =>
    obtain ⟨hb, h⟩ := List.pairwise_cons.1 h
    rw [List.map_cons, get?_cons]
    rcases List.mem_cons.1 ha with rfl | ha
    · rw [if_pos rfl]
    · rw [if_neg fun he => hb a ha (FieldName.text_injective he).symm]
      exact ih h ha

end Attributes

namespace Row
variable (row : Row) (w : Word)

theorem read_lt : w.read row.span < 2 ^ 16 :=
  Nat.lt_of_lt_of_le (w.read_lt row.span) (Nat.pow_le_pow_right (by decide) row.narrow)

theorem attribute_decode_unitless (hs : row.scale = .unitless) (hu : row.name.unit? = none) :
    (row.decode w).attribute = toString (w.read row.span) ++ "" := by
  simp only [DecodedField.attribute, decode, hu, hs]
  rw [String.append_empty]
  exact Scale.display_unitless _

theorem attribute_decode_linear {m : Nat} {hm : 0 < m} {unit : String}
    (hs : row.scale = .linear m hm) (hu : row.name.unit? = some unit) :
    (row.decode w).attribute = toString (10 * (w.read row.span * m)) ++ unit := by
  simp only [DecodedField.attribute, decode, hu, hs]
  rw [Scale.display_linear, thousandthsShown_hundredthsText]

end Row

namespace Layout
variable {marks : Span} {rows : List Row} (hl : Layout marks rows) {row : Row} (hr : row ∈ rows)
  (w : Word)
include hl hr

/-- The bits of a row come back from its display, which is short enough to be read. -/
theorem value_attribute_decode :
    Attribute.fault? (some (row.decode w).attribute) row.unit? = none ∧
      row.value (some (row.decode w).attribute) = w.read row.span := by
  have hlt := row.read_lt w
  have hshort {n : Nat} (hn : n < 10 ^ 8) : n < 10 ^ Numeral.maxDigits :=
    Nat.lt_of_lt_of_le hn (Nat.pow_le_pow_right (by decide) (by decide))
  cases hs : row.scale with
  | halvedQuarterVolt => exact absurd hs (hl.linear row hr)
  | unitless =>
    have hname : row.name.unit? = none := (hl.units row hr).1 hs
    have hempty : ∀ c ∈ "".toList, Attribute.isLetter c = true := by simp
    have hn : Attribute.number (some (toString (w.read row.span) ++ "")) none = w.read row.span :=
      Attribute.number_toString _ hempty (.inl rfl)
    have hbit := w.read_lt row.span
    rw [row.attribute_decode_unitless w hs hname, Row.unit?_of_unitless hs,
      Row.value_of_unitless hs, hn]
    refine ⟨Attribute.fault?_toString (hshort (by omega)) hempty (.inl rfl), ?_⟩
    split
    · next hw =>
      rw [hw] at hbit
      split <;> omega
    · rfl
  | linear m hm =>
    have hne : row.scale ≠ .unitless := by simp [hs]
    obtain ⟨unit, hname⟩ : ∃ unit, row.name.unit? = some unit := by
      rw [← Option.isSome_iff_exists, Option.isSome_iff_ne_none, ne_eq, ← hl.units row hr]
      exact hne
    have hletters : ∀ c ∈ unit.toList, Attribute.isLetter c = true := by
      obtain ⟨q, -, rfl⟩ := Option.map_eq_some_iff.1 hname
      exact Attribute.isLetter_of_mem_unit q
    have hle : m ≤ 100 := by
      have := hl.stepped row hr
      rwa [hs] at this
    have hprod : w.read row.span * m ≤ 2 ^ 16 * 100 := Nat.mul_le_mul (by omega) hle
    have hn : Attribute.number (some (toString (10 * (w.read row.span * m)) ++ unit)) (some unit) =
        w.read row.span * (m * 10) := by
      rw [Attribute.number_toString _ hletters (.inr rfl), Nat.mul_comm 10, Nat.mul_assoc]
    rw [row.attribute_decode_linear w hs hname, Row.unit?_of_ne_unitless hne,
      Row.value_of_linear hs, hname, hn]
    refine ⟨Attribute.fault?_toString (hshort (by omega)) hletters (.inr rfl), ?_⟩
    exact Nat.mul_div_cancel _ (by omega)

end Layout

section
variable (w : Word) (first side : Bool) (v : Variant)

theorem get?_attributes_capability {row : Row} (hr : row ∈ v.rows first side) :
    (w.capability first side v).attributes.get? row.name.text =
      some (row.decode w).attribute := by
  rw [DataObject.attributes, Word.capability, List.map_map]
  exact Attributes.get?_map Row.name _ (layout v first side).named hr

theorem fault?_attributes_capability :
    (w.capability first side v).attributes.fault? (v.rows first side) = none := by
  apply List.findSome?_eq_none_iff.2
  intro row hr
  rw [get?_attributes_capability w first side v hr]
  exact ((layout v first side).value_attribute_decode hr w).1

theorem fields_attributes_capability :
    (w.capability first side v).attributes.fields (v.rows first side) =
      ((v.rows first side).map (·.span)).map fun s => (s, w.read s) := by
  rw [Attributes.fields, List.map_map]
  apply List.map_congr_left
  intro row hr
  rw [get?_attributes_capability w first side v hr,
    ((layout v first side).value_attribute_decode hr w).2]
  rfl

end

/-- The word comes back with the bits of its rows and the selector of the variant it was decoded
as. If the variant is its own, just the bits that belong to no row are cleared. -/
theorem encode_attributes_capability {v : Variant} {selector : Word}
    (hv : v.selector? = some selector) (w : Word) (first side : Bool) :
    ∃ d, (decodeCapability (.int w.toNat) first (some side) (some (.known v))).outcome = .ok d ∧
      (encode (.known v) (some side) (if first then 1 else 2) d.attributes).outcome =
        .ok (w &&& Word.coverage ((v.rows first side).map (·.span)) ||| selector) ∧
      (w.classify = v →
        (encode (.known v) (some side) (if first then 1 else 2) d.attributes).outcome =
          .ok (w &&& Word.coverage (v.marks :: (v.rows first side).map (·.span)))) := by
  have hp : ((if first then 1 else 2 : Int) == 1) = first := by cases first <;> rfl
  have he : (encode (.known v) (some side) (if first then 1 else 2)
      (w.capability first side v).attributes).outcome =
        .ok (w &&& Word.coverage ((v.rows first side).map (·.span)) ||| selector) := by
    rw [encode_outcome hv, hp, fault?_attributes_capability, fields_attributes_capability,
      Word.writeAll_read]
  refine ⟨w.capability first side v, ?_, he, ?_⟩
  · rw [Word.decodeCapability_of_variant, Word.decodeCapability_outcome]
  · intro hc
    rw [he, Word.and_coverage_or_selector hv hc]

/-- A programmable supply loses bits 25 to 27, 16 and 7, which a sink has no field for. -/
theorem encode_attributes_pps :
    ∃ d, (decodeCapability (.int (0xCFFFFFFF#32).toNat) false (some false)
        (some (.known .pps))).outcome = .ok d ∧
      (encode (.known .pps) (some false) 2 d.attributes).outcome = .ok 0xC1FEFF7F#32 := by
  have hv : Variant.pps.selector? = some 0xC0000000#32 := rfl
  obtain ⟨d, hd, -, h⟩ := encode_attributes_capability hv 0xCFFFFFFF#32 false false
  refine ⟨d, hd, ?_⟩
  have hw : (0xCFFFFFFF#32 : Word) &&& Word.coverage
      (Variant.pps.marks :: (Variant.pps.rows false false).map (·.span)) = 0xC1FEFF7F#32 := by
    decide +kernel
  rw [← hw]
  exact h (by decide)

end PowerDelivery
