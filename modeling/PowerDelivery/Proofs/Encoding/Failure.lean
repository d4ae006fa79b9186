import PowerDelivery.Proofs.Encoding
import PowerDelivery.Proofs.Summary

/-! # Which attributes an encoding or a summary fails on

Only a number with more digits than can be read is a failure. Whatever is no number in the wanted
unit counts as the number zero. -/
namespace PowerDelivery

namespace Attributes

/-- The attribute of the field is a number, in its unit or in none, of more digits than can be
read. -/
def Overlong (attrs : Attributes) (f : FieldName) : Prop :=
  ∃ ds, Attribute.digits? (attrs.get? f.text) f.unit? = some ds ∧ Numeral.maxDigits < ds.length

theorem faultAt?_eq_none_iff {attrs : Attributes} {f : FieldName} :
    attrs.faultAt? f = none ↔ ¬attrs.Overlong f := by
  unfold faultAt? Attribute.fault? Overlong
  cases Attribute.digits? (attrs.get? f.text) f.unit? with
  | none => simp
  | some ds => simp

theorem Short.not_overlong {attrs : Attributes} (h : attrs.Short) (f : FieldName) :
    ¬attrs.Overlong f :=
  faultAt?_eq_none_iff.1 (h.fault?_eq_none f.text f.unit?)

/-- Both maps have the same number, or the same fault, for each field. -/
structure Alike (attrs attrs' : Attributes) : Prop where
  fault : ∀ f, attrs.faultAt? f = attrs'.faultAt? f
  number : ∀ f, attrs.number f = attrs'.number f

theorem isEmpty_put_of_get? {attrs : Attributes} {name text : String} {new : Option String}
    (h : attrs.get? name = some text) : (Keyed.put name new attrs).isEmpty = attrs.isEmpty := by
  cases attrs with
  | nil => cases h
  | cons p attrs =>
    rw [Keyed.put]
    split <;> rfl

/-- A zero reads as what is no number does. -/
theorem alike_put_zero {attrs : Attributes} {f : FieldName}
    (h : Attribute.digits? (attrs.get? f.text) f.unit? = none) :
    Alike (Keyed.put f.text (some "0") attrs) attrs := by
  have hzero (unit : Option String) : Attribute.digits? (some "0") unit = some [0] := by
    have hs : Attribute.split? "0" = some ([0], "") := by decide
    simp [Attribute.digits?, hs]
  constructor
  · intro g
    rw [faultAt?, faultAt?, get?_put]
    split
    · next hg =>
      rw [FieldName.text_injective hg]
      simp [Attribute.fault?, hzero, h, Numeral.maxDigits]
    · rfl
  · intro g
    rw [number, number, get?_put]
    split
    · next hg =>
      rw [FieldName.text_injective hg]
      simp [Attribute.number, hzero, h, Numeral.ofDigits]
    · rfl

end Attributes

namespace Layout
variable {marks : Span} {rows : List Row} (hl : Layout marks rows)
include hl

theorem fault?_eq (attrs : Attributes) :
    attrs.fault? rows = rows.findSome? fun row => attrs.faultAt? row.name :=
  Attributes.fault?_eq_findSome? fun row hr => by rw [hl.unit?_eq hr, Attributes.faultAt?]

theorem fault?_eq_none_iff (attrs : Attributes) :
    attrs.fault? rows = none ↔ ∀ row ∈ rows, ¬attrs.Overlong row.name := by
  rw [hl.fault?_eq, List.findSome?_eq_none_iff]
  exact forall₂_congr fun _ _ => Attributes.faultAt?_eq_none_iff

theorem fields_congr {attrs attrs' : Attributes} (h : attrs.Alike attrs') :
    attrs.fields rows = attrs'.fields rows := by
  apply List.map_congr_left
  intro row hr
  have hn : Attribute.number (attrs.get? row.name.text) row.unit? =
      Attribute.number (attrs'.get? row.name.text) row.unit? := by
    rw [hl.unit?_eq hr]
    exact h.number row.name
  rw [Row.value, Row.value, hn]

end Layout

section
variable {v : Variant} {attrs attrs' : Attributes}

/-- A variant without a selector has no rows, so that no attribute can make its encoding fail. -/
theorem encode_outcome_of_no_selector (hv : v.selector? = none) (side : Option Bool)
    (position : Int) : (encode (.known v) side position attrs).outcome = .ok 0 := by
  simp only [encode, hv]
  rfl

theorem rows_of_no_selector (hv : v.selector? = none) (first side : Bool) :
    v.rows first side = [] := by
  cases v <;> first | rfl | cases hv

theorem encode_outcome_ok_iff (side : Bool) (position : Int) :
    (∃ w, (encode (.known v) (some side) position attrs).outcome = .ok w) ↔
      ∀ row ∈ v.rows (position == 1) side, ¬attrs.Overlong row.name := by
  cases hv : v.selector? with
  | none => simp [encode_outcome_of_no_selector hv, rows_of_no_selector hv]
  | some selector =>
    rw [encode_outcome hv, ← (layout v (position == 1) side).fault?_eq_none_iff]
    cases attrs.fault? (v.rows (position == 1) side) <;> simp

theorem encode_outcome_congr (h : attrs.Alike attrs') (side : Bool) (position : Int) :
    (encode (.known v) (some side) position attrs).outcome =
      (encode (.known v) (some side) position attrs').outcome := by
  cases hv : v.selector? with
  | none => rw [encode_outcome_of_no_selector hv, encode_outcome_of_no_selector hv]
  | some selector =>
    have hl := layout v (position == 1) side
    rw [encode_outcome hv, encode_outcome hv, hl.fault?_eq, hl.fault?_eq, hl.fields_congr h,
      funext fun row : Row => h.fault row.name]

theorem summarize_outcome_ok_iff (source : Bool) :
    (∃ s, (summarize (.known v) source attrs).outcome = .ok s) ↔
      ∀ f ∈ Summary.fields source v, ¬attrs.Overlong f := by
  rw [summarize_outcome, ← forall₂_congr fun _ _ => Attributes.faultAt?_eq_none_iff,
    ← List.findSome?_eq_none_iff]
  cases (Summary.fields source v).findSome? attrs.faultAt? <;> simp

theorem summarize_outcome_congr (h : attrs.Alike attrs') (he : attrs.isEmpty = attrs'.isEmpty)
    (source : Bool) : (summarize (.known v) source attrs).outcome =
      (summarize (.known v) source attrs').outcome := by
  rw [summarize_outcome, summarize_outcome, he, funext h.fault, funext h.number]

end

/-- A text that is no number in the wanted unit counts as a zero, and an encoding or a summary
succeeds exactly if it reads no number of too many digits. -/
theorem encode_summarize_outcome (v : Variant) (side : Bool) (position : Int)
    (attrs : Attributes) :
    ((∃ w, (encode (.known v) (some side) position attrs).outcome = .ok w) ↔
      ∀ row ∈ v.rows (position == 1) side, ¬attrs.Overlong row.name) ∧
    ((∃ s, (summarize (.known v) side attrs).outcome = .ok s) ↔
      ∀ f ∈ Summary.fields side v, ¬attrs.Overlong f) ∧
    ∀ (f : FieldName) (text : String), attrs.get? f.text = some text →
      Attribute.digits? (some text) f.unit? = none →
      (encode (.known v) (some side) position (Keyed.put f.text (some "0") attrs)).outcome =
        (encode (.known v) (some side) position attrs).outcome ∧
      (summarize (.known v) side (Keyed.put f.text (some "0") attrs)).outcome =
        (summarize (.known v) side attrs).outcome := by
  refine ⟨encode_outcome_ok_iff side position, summarize_outcome_ok_iff side, ?_⟩
  intro f text ht hd
  have ha : Attributes.Alike (Keyed.put f.text (some "0") attrs) attrs :=
    Attributes.alike_put_zero (ht ▸ hd)
  have he : (Keyed.put f.text (some "0") attrs).isEmpty = attrs.isEmpty :=
    Attributes.isEmpty_put_of_get? ht
  exact ⟨encode_outcome_congr ha side position, summarize_outcome_congr ha he side⟩

/-- A voltage in volts is in another unit than the wanted one. -/
theorem encode_summarize_volts :
    (encode (.known .fixed) (some true) 1 [("voltage", some "0")]).outcome =
        (encode (.known .fixed) (some true) 1 [("voltage", some "5V")]).outcome ∧
      (summarize (.known .fixed) true [("voltage", some "0")]).outcome =
        (summarize (.known .fixed) true [("voltage", some "5V")]).outcome := by
  obtain ⟨-, -, h⟩ := encode_summarize_outcome .fixed true 1 [("voltage", some "5V")]
  exact h .voltage "5V" rfl (by decide)

/-- A voltage of zero, written with `n` digits. -/
def zeroVolts (n : Nat) : Attributes :=
  [("voltage", some (String.ofList (List.replicate n '0') ++ "mV"))]

theorem faultAt?_zeroVolts {n : Nat} (hn : Numeral.maxDigits < n) (f : FieldName) :
    (zeroVolts n).faultAt? f = if f = .voltage then some ⟨n⟩ else none := by
  split
  · next hf =>
    have hd : Attribute.digits? ((zeroVolts n).get? "voltage") (some "mV") =
        some (List.replicate n 0) :=
      Attribute.digits?_zeros (by omega) (Attribute.isLetter_of_mem_unit .voltage) (.inr rfl)
    have hf' : f.text = "voltage" ∧ f.unit? = some "mV" := by rw [hf]; decide
    rw [Attributes.faultAt?, hf'.1, hf'.2, Attribute.fault?, hd, Option.bind_some,
      List.length_replicate, if_neg (Nat.not_le.2 hn)]
  · next hf =>
    have ht : f.text ≠ "voltage" := fun ht => hf (FieldName.text_injective ht)
    rw [Attributes.faultAt?, zeroVolts, Attributes.get?_cons, if_neg ht]
    rfl

/-- One digit more than can be read makes both fail, though every digit is a zero. -/
theorem encode_summarize_zeroVolts :
    (encode (.known .fixed) (some true) 1 (zeroVolts 4301)).outcome = .error (.tooLong ⟨4301⟩) ∧
      (summarize (.known .fixed) true (zeroVolts 4301)).outcome = .error ⟨4301⟩ := by
  have hf : (zeroVolts 4301).faultAt? = fun f => if f = .voltage then some ⟨4301⟩ else none :=
    funext (faultAt?_zeroVolts (by decide))
  have hv : Variant.fixed.selector? = some 0 := rfl
  constructor
  · have hr : (Variant.fixed.rows ((1 : Int) == 1) true).findSome?
        (fun row => if row.name = FieldName.voltage then some (TooLong.mk 4301) else none) =
          some ⟨4301⟩ := by decide +kernel
    rw [encode_outcome hv, (layout _ _ _).fault?_eq, hf, hr]
  · rw [summarize_outcome, hf]
    rfl

end PowerDelivery
