import PowerDelivery.Proofs.DataObject
import PowerDelivery.Proofs.Encoding.Redisplay

/-! # Which attributes an encoding depends on

They are the fields that the decoder reports, and each of them reaches the bits of its own field and
no others. -/
namespace PowerDelivery

namespace Attributes

/-- The maps have the same text, or none, under each name of the class. -/
def AgreeOn (names : String → Prop) (attrs attrs' : Attributes) : Prop :=
  ∀ name, names name → attrs.get? name = attrs'.get? name

variable {attrs attrs' : Attributes} {rows : List Row}

theorem fault?_congr
    (h : ∀ row ∈ rows, attrs.get? row.name.text = attrs'.get? row.name.text) :
    attrs.fault? rows = attrs'.fault? rows :=
  fault?_eq_findSome? fun row hr => by rw [h row hr]

theorem fields_congr
    (h : ∀ row ∈ rows, attrs.get? row.name.text = attrs'.get? row.name.text) :
    attrs.fields rows = attrs'.fields rows :=
  List.map_congr_left fun row hr => by rw [h row hr]

/-- A bit depends on the attributes of those rows alone that have it. -/
theorem getLsbD_writeAll_congr {i : Nat}
    (h : ∀ row ∈ rows, row.span.covers i = true →
      attrs.get? row.name.text = attrs'.get? row.name.text) (w : Word) :
    (w.writeAll (attrs.fields rows)).getLsbD i = (w.writeAll (attrs'.fields rows)).getLsbD i := by
  rw [Word.getLsbD_writeAll, Word.getLsbD_writeAll, fields, fields, List.any_map, List.any_map]
  congr 1
  rw [Bool.eq_iff_iff, List.any_eq_true, List.any_eq_true]
  refine exists_congr fun row => and_congr_right fun hr => ?_
  by_cases hc : row.span.covers i = true
  · simp [h row hr hc]
  · simp [hc]

end Attributes

namespace Layout
variable {marks : Span} {rows : List Row} (hl : Layout marks rows) {row : Row} (hr : row ∈ rows)
include hl

theorem eq_of_name_eq {r s : Row} (hr : r ∈ rows) (hs : s ∈ rows) (h : r.name = s.name) :
    r = s := by
  have hn : (rows.map (·.name)).Nodup := List.pairwise_map.2 hl.named
  exact List.inj_on_of_nodup_map hn hr hs h

include hr

/-- Maps that differ in the attribute of one row give words that differ in its span. -/
theorem getLsbD_eq_of_agreeOn {attrs attrs' : Attributes}
    (h : Attributes.AgreeOn (· ≠ row.name.text) attrs attrs') (w : Word) {i : Nat}
    (hi : row.span.covers i = false) :
    (w.writeAll (attrs.fields rows)).getLsbD i = (w.writeAll (attrs'.fields rows)).getLsbD i := by
  apply Attributes.getLsbD_writeAll_congr
  intro r hm hc
  apply h
  intro ht
  rw [hl.eq_of_name_eq hm hr (FieldName.text_injective ht), hi] at hc
  cases hc

/-- The attribute that the row displays with its lowest bit set changes the word. -/
theorem exists_read_ne {selector : Word} (hs : ∀ s : Span, s.Disjoint marks → selector.read s = 0) :
    ∃ text : String, Attributes.fault? [(row.name.text, some text)] rows = none ∧
      (selector.writeAll (Attributes.fields [] rows)).read row.span ≠
        (selector.writeAll
          (Attributes.fields [(row.name.text, some text)] rows)).read row.span := by
  generalize hw : (0 : Word).write row.span 1 = w
  have hone : w.read row.span = 1 := by
    rw [← hw, Word.read_write_self (by simp [Word.read])]
    exact Nat.one_mod_two_pow row.span.width_pos
  refine ⟨(row.decode w).attribute, ?_, ?_⟩
  · apply List.findSome?_eq_none_iff.2
    intro r hm
    rw [Attributes.get?_cons]
    split
    · next h =>
      rw [hl.eq_of_name_eq hm hr (FieldName.text_injective h)]
      exact (hl.value_attribute_decode hr w).1
    · rfl
  · have hzero : Attributes.get? [] row.name.text = none := rfl
    rw [hl.read_writeAll hs _ hr, hl.read_writeAll hs _ hr, hzero, Row.value_none,
      Attributes.get?_cons, if_pos rfl, (hl.value_attribute_decode hr w).2, hone, Nat.zero_mod,
      Nat.one_mod_two_pow row.span.width_pos]
    decide

end Layout

section
variable {v : Variant} {selector : Word} (hv : v.selector? = some selector) (side : Bool)
  (position : Int)
include hv

theorem encode_outcome_of_agreeOn {attrs attrs' : Attributes}
    (h : ∀ row ∈ v.rows (position == 1) side,
      attrs.get? row.name.text = attrs'.get? row.name.text) :
    (encode (.known v) (some side) position attrs).outcome =
      (encode (.known v) (some side) position attrs').outcome := by
  rw [encode_outcome hv, encode_outcome hv, Attributes.fault?_congr h, Attributes.fields_congr h]

/-- Some text under the name of a row gives another word than no attribute at all. -/
theorem exists_encode_ne {row : Row} (hr : row ∈ v.rows (position == 1) side) :
    ∃ text w w', (encode (.known v) (some side) position []).outcome = .ok w ∧
      (encode (.known v) (some side) position [(row.name.text, some text)]).outcome = .ok w' ∧
      w ≠ w' := by
  have hl := layout v (position == 1) side
  obtain ⟨text, hf, hne⟩ := hl.exists_read_ne hr fun _ => Variant.selector?_read_eq_zero hv
  have hf₀ : Attributes.fault? [] (v.rows (position == 1) side) = none :=
    List.findSome?_eq_none_iff.2 fun _ _ => rfl
  refine ⟨text, _, _, ?_, ?_, fun h => hne (congrArg (·.read row.span) h)⟩
  · rw [encode_outcome hv, hf₀]
  · rw [encode_outcome hv, hf]

/-- A name is reported by the decoder exactly if the word can depend on the attribute of that name.
Changing that attribute changes bits of its own field alone, and changing others that are not
reported changes nothing. -/
theorem mem_names_iff_encode_depends (w : Word) :
    ∃ d, (decodeCapability (.int w.toNat) (position == 1) (some side)
        (some (.known v))).outcome = .ok d ∧
      (∀ name, (∃ attrs attrs' word word', Attributes.AgreeOn (· ≠ name) attrs attrs' ∧
          (encode (.known v) (some side) position attrs).outcome = .ok word ∧
          (encode (.known v) (some side) position attrs').outcome = .ok word' ∧ word ≠ word') ↔
        name ∈ d.names) ∧
      ∀ attrs attrs' : Attributes, attrs.Short → attrs'.Short →
        ∃ word word', (encode (.known v) (some side) position attrs).outcome = .ok word ∧
          (encode (.known v) (some side) position attrs').outcome = .ok word' ∧
          (∀ name ∈ d.names, Attributes.AgreeOn (· ≠ name) attrs attrs' →
            ∃ row ∈ v.rows (position == 1) side, row.name.text = name ∧
              ∀ i, row.span.covers i = false → word.getLsbD i = word'.getLsbD i) ∧
          (Attributes.AgreeOn (· ∈ d.names) attrs attrs' → word = word') := by
  have hl := layout v (position == 1) side
  refine ⟨w.capability (position == 1) side v, ?_, ?_, ?_⟩
  · rw [Word.decodeCapability_of_variant, Word.decodeCapability_outcome]
  · intro name
    rw [Word.names_capability_eq, List.mem_map]
    constructor
    · rintro ⟨attrs, attrs', word, word', ha, hw, hw', hne⟩
      by_contra hno
      have he := encode_outcome_of_agreeOn hv side position fun row hr =>
        ha row.name.text fun ht => hno ⟨row, hr, ht⟩
      rw [hw, hw'] at he
      exact hne (Except.ok.inj he)
    · rintro ⟨row, hr, rfl⟩
      obtain ⟨text, word, word', hw, hw', hne⟩ := exists_encode_ne hv side position hr
      refine ⟨[], [(row.name.text, some text)], word, word', ?_, hw, hw', hne⟩
      intro name hname
      rw [Attributes.get?_cons, if_neg hname]
  · intro attrs attrs' hs hs'
    refine ⟨_, _, encode_of_short hv side position hs, encode_of_short hv side position hs', ?_, ?_⟩
    · intro name hname ha
      rw [Word.names_capability_eq] at hname
      obtain ⟨row, hr, rfl⟩ := List.mem_map.1 hname
      exact ⟨row, hr, rfl, fun i hi => hl.getLsbD_eq_of_agreeOn hr ha selector hi⟩
    · intro ha
      rw [Attributes.fields_congr]
      intro row hr
      apply ha
      rw [Word.names_capability_eq]
      exact List.mem_map.2 ⟨row, hr, rfl⟩

end

/-- A voltage too large for its field changes the bits of the voltage alone. -/
theorem encode_depends_voltage :
    ∃ d word word', "voltage" ∈ d.names ∧
      (decodeCapability (.int (0x0001912C#32).toNat) true (some true)
        (some (.known .fixed))).outcome = .ok d ∧
      (encode (.known .fixed) (some true) 1 [("voltage", some "5000mV")]).outcome = .ok word ∧
      (encode (.known .fixed) (some true) 1 [("voltage", some "99999 mV")]).outcome = .ok word' ∧
      ∃ row ∈ Variant.fixed.rows true true, row.name.text = "voltage" ∧
        ∀ i, row.span.covers i = false → word.getLsbD i = word'.getLsbD i := by
  have hv : Variant.fixed.selector? = some 0x00000000#32 := rfl
  obtain ⟨d, hd, -, h⟩ := mem_names_iff_encode_depends hv true 1 0x0001912C#32
  have hnames : "voltage" ∈ d.names := by
    rw [Word.decodeCapability_of_variant, Word.decodeCapability_outcome] at hd
    rw [← Except.ok.inj hd, Word.names_capability_eq]
    decide
  obtain ⟨word, word', hw, hw', hbits, -⟩ := h [("voltage", some "5000mV")]
    [("voltage", some "99999 mV")] (Attributes.short_of_forall_mem (by decide))
    (Attributes.short_of_forall_mem (by decide))
  refine ⟨d, word, word', hnames, hd, hw, hw', hbits "voltage" hnames ?_⟩
  intro name hname
  rw [Attributes.get?_cons, if_neg hname, Attributes.get?_cons, if_neg hname]

end PowerDelivery
