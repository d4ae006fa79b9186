import PowerDelivery.Proofs.DataObject
import PowerDelivery.Proofs.Decoding
import PowerDelivery.Proofs.Encoding
import PowerDelivery.Proofs.Summary

/-! # A summary shows what the encoded word displays

A summary is made from the attributes, without the word. Where every number fits into its field, it
has the same figures as the word that the attributes are encoded as. -/
namespace PowerDelivery

/-- Thousandths are cut to hundredths and not rounded. -/
theorem thousandthsText_eq (n : Nat) : thousandthsText n = hundredthsText (n / 10 : Nat) := by
  have hw : ((n / 10 : Nat) : Int) / 100 = (n / 1000 : Nat) := by omega
  have hp : (((n / 10 : Nat) : Int) % 100).toNat = n % 1000 / 10 := by omega
  rw [thousandthsText, hundredthsText, hw, hp, toString_natCast]

namespace Summary

variable {source : Bool} {n : FieldName → Nat} {v : Variant}

theorem figure_of_unit?_eq_none {f : FieldName} (h : f.unit? = none) :
    figure n f = toString (n f) := by
  rw [figure, Option.map_eq_none_iff.1 h]

theorem figure_of_unit?_ne_none {f : FieldName} (h : f.unit? ≠ none) :
    figure n f = thousandthsText (n f) := by
  rw [figure]
  split
  · next hq => exact absurd (by rw [FieldName.unit?, hq]; rfl) h
  · rfl

/-- A template has no figures but those of the fields that the summary reads. -/
theorem template_congr {g g' : FieldName → String}
    (h : ∀ f ∈ fields source v, f ≠ .ppsPowerLimited → g f = g' f) :
    template source g v = template source g' v := by
  have hcurrent : current source ≠ .ppsPowerLimited := by cases source <;> decide
  have hpower : power source ≠ .ppsPowerLimited := by cases source <;> decide
  unfold template
  cases v with
  | null => rfl
  | fixed =>
    have hmV := h .voltage (by simp [fields]) (by decide)
    have hmA := h (current source) (by simp [fields]) hcurrent
    simp only [hmV, hmA]
  | battery =>
    have hlow := h .minimumVoltage (by simp [fields]) (by decide)
    have hhigh := h .maximumVoltage (by simp [fields]) (by decide)
    have hmW := h (power source) (by simp [fields]) hpower
    simp only [hlow, hhigh, hmW]
  | variableSupply =>
    have hlow := h .minimumVoltage (by simp [fields]) (by decide)
    have hhigh := h .maximumVoltage (by simp [fields]) (by decide)
    have hmA := h (current source) (by simp [fields]) hcurrent
    simp only [hlow, hhigh, hmA]
  | pps =>
    have hlow := h .minimumVoltage (by simp [fields]) (by decide)
    have hhigh := h .maximumVoltage (by simp [fields]) (by decide)
    have hmA := h .maximumCurrent (by simp [fields]) (by decide)
    simp only [hlow, hhigh, hmA]
  | eprAvs =>
    have hlow := h .minimumVoltage (by simp [fields]) (by decide)
    have hhigh := h .maximumVoltage (by simp [fields]) (by decide)
    have hmW := h .pdp (by simp [fields]) (by decide)
    have hpeak := h .peakCurrent (by simp [fields]) (by decide)
    simp only [hlow, hhigh, hmW, hpeak]
  | sprAvs =>
    have hmA15 := h .maximumCurrent9To15 (by simp [fields]) (by decide)
    have hmA20 := h .maximumCurrent15To20 (by simp [fields]) (by decide)
    have hpeak := h .peakCurrent (by simp [fields]) (by decide)
    simp only [hmA15, hmA20, hpeak]

/-- Every field that a summary reads has a row, but for the peak current of a sink. -/
theorem exists_row (first : Bool) (h : v = .sprAvs ∨ v = .eprAvs → source = true) :
    ∀ f ∈ fields source v, ∃ row ∈ v.rows first source, row.name = f := by
  revert h
  cases v <;> cases source <;> cases first <;> decide +kernel

/-- The peak current is the only number that a summary shows without a unit. -/
theorem eq_peakCurrent : ∀ f ∈ fields source v, f.unit? = none → f ≠ .ppsPowerLimited →
    f = .peakCurrent ∧ (v = .sprAvs ∨ v = .eprAvs) := by
  cases v <;> cases source <;> decide +kernel

theorem width_row {first : Bool} : ∀ row ∈ v.rows first source,
    (row.name = .peakCurrent → row.span.width = 2) ∧
      (row.name = .ppsPowerLimited → row.span.width = 1) := by
  cases v <;> cases source <;> cases first <;> decide +kernel

end Summary

namespace Row
variable {row : Row} {text : Option String}

/-- Whole steps, if they fit into the row, are displayed as what they add up to. -/
theorem display_value_of_steps {step k : Nat} (hs : row.scale.step = .ok step)
    (hk : k < 2 ^ row.span.width) (hn : Attribute.number text row.name.unit? = k * step) :
    row.scale.display (row.value text % 2 ^ row.span.width : Nat) = thousandthsText (k * step) := by
  cases hscale : row.scale with
  | unitless => rw [hscale] at hs; cases hs
  | halvedQuarterVolt => rw [hscale] at hs; cases hs
  | linear m hm =>
    rw [hscale] at hs
    obtain rfl : m * 10 = step := Except.ok.inj hs
    have hdiv : k * (m * 10) / 10 = k * m := by
      rw [← Nat.mul_assoc, Nat.mul_div_cancel _ (by decide)]
    rw [value_of_linear hscale, hn, Nat.mul_div_cancel _ (by omega), Nat.mod_eq_of_lt hk,
      Scale.display_linear, thousandthsText_eq, hdiv]

theorem display_value_of_unitless (hs : row.scale = .unitless) (hw : row.span.width ≠ 1)
    (hn : Attribute.number text none < 2 ^ row.span.width) :
    row.scale.display (row.value text % 2 ^ row.span.width : Nat) =
      toString (Attribute.number text none) := by
  rw [value_of_unitless hs, if_neg hw, Nat.mod_eq_of_lt hn, hs, Scale.display_unitless]

end Row

/-- What an object displays for a field, or nothing if it has no such field. -/
def DataObject.display (o : DataObject) (f : FieldName) : String :=
  ((o.get? f.text).map (·.display)).getD ""

/-- The object that the attributes come back as when they are encoded and decoded again. -/
def Attributes.object (attrs : Attributes) (v : Variant) (selector : Word) (first side : Bool) :
    DataObject :=
  (selector.writeAll (attrs.fields (v.rows first side))).capability first side v

section
variable {v : Variant} {selector : Word} (hv : v.selector? = some selector) {first side : Bool}
  {attrs : Attributes} {row : Row} (hr : row ∈ v.rows first side)
include hv hr

variable (attrs) in
theorem get?_object :
    ∃ field, (attrs.object v selector first side).get? row.name.text = some field ∧
      field.raw = row.value (attrs.get? row.name.text) % 2 ^ row.span.width ∧
      field.display = row.scale.display field.raw := by
  refine ⟨_, Word.get?_capability _ hr, ?_, rfl⟩
  exact (layout v first side).read_writeAll (fun _ => Variant.selector?_read_eq_zero hv) attrs hr

theorem display_object : (attrs.object v selector first side).display row.name =
    row.scale.display (row.value (attrs.get? row.name.text) % 2 ^ row.span.width : Nat) := by
  obtain ⟨field, hfield, hraw, hdisplay⟩ := get?_object hv attrs hr
  rw [DataObject.display, hfield, ← hraw, ← hdisplay]
  rfl

/-- A scaled field is displayed as the summary shows it if its attribute is a whole number of steps
that fits. -/
theorem figure_eq_display_of_steps {step k : Nat} (hs : row.scale.step = .ok step)
    (hk : k < 2 ^ row.span.width)
    (hn : (Attribute.read (attrs.get? row.name.text) row.name.unit?).outcome = .ok (k * step)) :
    Summary.figure attrs.number row.name =
      (attrs.object v selector first side).display row.name := by
  have hnumber := Attribute.number_eq_of_read hn
  have hunit : row.name.unit? ≠ none := by
    rw [ne_eq, ← (layout v first side).units row hr]
    intro hu
    rw [hu] at hs
    cases hs
  rw [display_object hv hr, Row.display_value_of_steps hs hk hnumber,
    Summary.figure_of_unit?_ne_none hunit, Attributes.number, hnumber]

theorem figure_eq_display_of_peakCurrent (hp : row.name = .peakCurrent) {n : Nat} (hlt : n < 4)
    (hn : (Attribute.read (attrs.get? row.name.text) none).outcome = .ok n) :
    Summary.figure attrs.number row.name =
      (attrs.object v selector first side).display row.name := by
  have hnumber := Attribute.number_eq_of_read hn
  have hunit : row.name.unit? = none := by rw [hp]; rfl
  have hscale : row.scale = .unitless := ((layout v first side).units row hr).2 hunit
  have hwidth : row.span.width = 2 := (Summary.width_row row hr).1 hp
  have hfits : Attribute.number (attrs.get? row.name.text) none < 2 ^ row.span.width := by
    rwa [hnumber, hwidth]
  rw [display_object hv hr, Row.display_value_of_unitless hscale (by omega) hfits,
    Summary.figure_of_unit?_eq_none hunit, Attributes.number, hunit]

theorem raw_ppsPowerLimited_iff (hp : row.name = .ppsPowerLimited) :
    ((attrs.object v selector first side).get? row.name.text).map (·.raw) = some 1 ↔
      attrs.number row.name ≠ 0 := by
  have hunit : row.name.unit? = none := by rw [hp]; rfl
  have hscale : row.scale = .unitless := ((layout v first side).units row hr).2 hunit
  have hwidth : row.span.width = 1 := (Summary.width_row row hr).2 hp
  obtain ⟨field, hfield, hraw, -⟩ := get?_object hv attrs hr
  rw [hfield, Option.map_some, hraw, Row.value_of_unitless hscale, if_pos hwidth, hwidth,
    Attributes.number, hunit]
  split
  · next hn => exact iff_of_false (by decide) fun h => h hn
  · next hn => exact iff_of_true rfl hn

end

section
variable {v : Variant} {selector : Word} (hv : v.selector? = some selector) (side : Bool)
  (position : Int)
include hv

/-- The summary of attributes that fit has the figures that the word they are encoded as displays,
and marks a limited power exactly if the word has its flag. -/
theorem summarize_encode {attrs : Attributes} (hs : attrs.Short) (hne : attrs ≠ [])
    (hscaled : ∀ row ∈ v.rows (position == 1) side, row.name ∈ Summary.fields side v →
      ∀ step, row.scale.step = .ok step → ∃ k < 2 ^ row.span.width,
        (Attribute.read (attrs.get? row.name.text) row.name.unit?).outcome = .ok (k * step))
    (hpeak : v = .sprAvs ∨ v = .eprAvs → side = true ∧ ∃ n < 4,
      (Attribute.read (attrs.get? FieldName.peakCurrent.text) none).outcome = .ok n) :
    ∃ w d, (encode (.known v) (some side) position attrs).outcome = .ok w ∧
      (decodeCapability (.int w.toNat) (position == 1) (some side)
        (some (.known v))).outcome = .ok d ∧
      (∀ f ∈ Summary.fields side v, (d.get? f.text).isSome = true) ∧
      (summarize (.known v) side attrs).outcome = .ok (Summary.template side d.display v ++
        if v = .pps ∧ side = true ∧
          (d.get? FieldName.ppsPowerLimited.text).map (·.raw) = some 1 then " [PL]" else "") := by
  have hl := layout v (position == 1) side
  have hrow := Summary.exists_row (position == 1) fun h => (hpeak h).1
  refine ⟨_, attrs.object v selector (position == 1) side, encode_of_short hv side position hs,
    ?_, ?_, ?_⟩
  · rw [Word.decodeCapability_of_variant, Word.decodeCapability_outcome]
    rfl
  · intro f hf
    obtain ⟨row, hr, rfl⟩ := hrow f hf
    obtain ⟨field, hfield, -⟩ := get?_object hv attrs hr
    rw [hfield]
    rfl
  · have hfault : (Summary.fields side v).findSome? attrs.faultAt? = none :=
      List.findSome?_eq_none_iff.2 fun f _ => hs.fault?_eq_none f.text f.unit?
    have hempty : attrs.isEmpty = false := by simpa using hne
    have hfigure : ∀ f ∈ Summary.fields side v, f ≠ .ppsPowerLimited →
        Summary.figure attrs.number f =
          (attrs.object v selector (position == 1) side).display f := by
      intro f hf hflag
      obtain ⟨row, hr, rfl⟩ := hrow f hf
      cases hscale : row.scale with
      | linear m hm =>
        have hstep : row.scale.step = .ok (m * 10) := by rw [hscale]; rfl
        obtain ⟨k, hk, hn⟩ := hscaled row hr hf _ hstep
        exact figure_eq_display_of_steps hv hr hstep hk hn
      | unitless =>
        obtain ⟨hp, havs⟩ :=
          Summary.eq_peakCurrent row.name hf ((hl.units row hr).1 hscale) hflag
        obtain ⟨-, n, hlt, hn⟩ := hpeak havs
        exact figure_eq_display_of_peakCurrent hv hr hp hlt (hp ▸ hn)
      | halvedQuarterVolt => exact absurd hscale (hl.linear row hr)
    have hmark : (v = .pps ∧ side = true ∧ attrs.number .ppsPowerLimited ≠ 0) ↔
        v = .pps ∧ side = true ∧ ((attrs.object v selector (position == 1) side).get?
          FieldName.ppsPowerLimited.text).map (·.raw) = some 1 := by
      refine and_congr_right fun hpps => and_congr_right fun hside => ?_
      obtain ⟨row, hr, hp⟩ := hrow .ppsPowerLimited (by rw [hpps, hside]; decide)
      rw [← hp, raw_ppsPowerLimited_iff hv hr hp]
    rw [summarize_outcome, hfault, hempty, if_neg Bool.false_ne_true, Summary.line,
      Summary.template_congr hfigure]
    simp only [hmark]

end

/-- A programmable supply of limited power, whose summary has what its word displays. -/
theorem summarize_encode_pps :
    let attrs : Attributes := [("maximum_voltage", some "11000mV"),
      ("minimum_voltage", some "3300mV"), ("maximum_current", some "3000mA"),
      ("pps_power_limited", some "1")]
    ∃ w d, (encode (.known .pps) (some true) 2 attrs).outcome = .ok w ∧
      (decodeCapability (.int w.toNat) false (some true) (some (.known .pps))).outcome = .ok d ∧
      (summarize (.known .pps) true attrs).outcome = .ok (Summary.template true d.display .pps ++
        if (d.get? FieldName.ppsPowerLimited.text).map (·.raw) = some 1 then " [PL]" else "") := by
  intro attrs
  have hs : attrs.Short := Attributes.short_of_forall_mem (by decide)
  have hscaled : ∀ row ∈ Variant.pps.rows (2 == 1) true, row.name ∈ Summary.fields true .pps →
      ∀ step, row.scale.step = .ok step → ∃ k < 2 ^ row.span.width,
        (Attribute.read (attrs.get? row.name.text) row.name.unit?).outcome = .ok (k * step) := by
    intro row hr _ step hstep
    have hrows : Variant.pps.rows (2 == 1) true = Block.ppsRows := rfl
    simp only [hrows, Block.ppsRows, List.mem_cons, List.not_mem_nil, or_false] at hr
    obtain rfl | rfl | rfl | rfl := hr
    · cases hstep
    · cases hstep
      exact ⟨110, by decide, by decide⟩
    · cases hstep
      exact ⟨33, by decide, by decide⟩
    · cases hstep
      exact ⟨60, by decide, by decide⟩
  obtain ⟨w, d, hw, hd, -, h⟩ := summarize_encode (v := .pps) rfl true 2 hs (by simp) hscaled
    (by rintro (h | h) <;> cases h)
  exact ⟨w, d, hw, hd, by simpa using h⟩

end PowerDelivery
