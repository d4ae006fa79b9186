import PowerDelivery.Proofs.Attribute
import PowerDelivery.Proofs.Classification
import PowerDelivery.Encode

/-! # What an encoding writes, and when it fails -/
namespace PowerDelivery

namespace Row
variable {row : Row} {text : Option String}

/-- The value that an attribute's number gives a row, before it is cut to the row's width. -/
def value (row : Row) (text : Option String) : Nat :=
  let n := Attribute.number text row.unit?
  if row.scale = .unitless then (if row.span.width = 1 then (if n = 0 then 0 else 1) else n)
  else n / (row.scale.multiplier * 10)

theorem value_none (row : Row) : row.value none = 0 := by
  have hn : Attribute.number none row.unit? = 0 := rfl
  simp [value, hn]

theorem value_of_unitless (hs : row.scale = .unitless) : row.value text =
    if row.span.width = 1 then (if Attribute.number text none = 0 then 0 else 1)
    else Attribute.number text none := by
  rw [value, unit?_of_unitless hs, if_pos hs]

theorem value_of_linear {m : Nat} {hm : 0 < m} (hs : row.scale = .linear m hm) :
    row.value text = Attribute.number text row.name.unit? / (m * 10) := by
  have hne : row.scale ≠ .unitless := by simp [hs]
  rw [value, unit?_of_ne_unitless hne, if_neg hne, hs]
  rfl

theorem read_bind_outcome (text unit : Option String) (next : Nat → Noted EncodeError Nat) :
    ((Attribute.read text unit).mapError .tooLong >>= next).outcome =
      match Attribute.fault? text unit with
      | some e => .error (.tooLong e)
      | none => (next (Attribute.number text unit)).outcome := by
  rw [Traced.outcome_bind, Traced.outcome_mapError, Attribute.read_outcome]
  cases Attribute.fault? text unit <;> rfl

/-- A linear or unitless row fails on nothing but a number that is too long. -/
theorem convert_outcome (h : row.scale ≠ .halvedQuarterVolt) (text : Option String) :
    (row.convert text).outcome = match Attribute.fault? text row.unit? with
      | some e => .error (.tooLong e)
      | none => .ok (row.value text) := by
  cases text with
  | none =>
    have hf : Attribute.fault? none row.unit? = none := rfl
    rw [hf, value_none]
    rfl
  | some text =>
    have hsome : ¬(some text).isNone = true := Bool.false_ne_true
    rw [convert, if_neg hsome]
    cases hs : row.scale with
    | halvedQuarterVolt => exact absurd hs h
    | unitless =>
      rw [if_pos rfl, read_bind_outcome, unit?_of_unitless hs, value_of_unitless hs]
      rfl
    | linear m hm =>
      have hne : row.scale ≠ .unitless := by simp [hs]
      rw [if_neg (hs ▸ hne), read_bind_outcome, unit?_of_ne_unitless hne, value_of_linear hs]
      rfl

end Row

namespace Attributes

/-- The fields of a word that the attributes fill. -/
def fields (attrs : Attributes) (rows : List Row) : List (Span × Nat) :=
  rows.map fun row => (row.span, row.value (attrs.get? row.name.text))

theorem fields_append (attrs : Attributes) (rows rest : List Row) :
    attrs.fields (rows ++ rest) = attrs.fields rows ++ attrs.fields rest := List.map_append

theorem forall_span_fields (attrs : Attributes) {rows : List Row} (p : Span → Prop)
    (h : ∀ row ∈ rows, p row.span) : ∀ f ∈ attrs.fields rows, p f.1 := List.forall_mem_map.2 h

/-- The number that cannot be read for the first of the rows with such a number. -/
def fault? (attrs : Attributes) (rows : List Row) : Option TooLong :=
  rows.findSome? fun row => Attribute.fault? (attrs.get? row.name.text) row.unit?

theorem fault?_eq_findSome? {attrs : Attributes} {rows : List Row} {fault : Row → Option TooLong}
    (h : ∀ row ∈ rows, Attribute.fault? (attrs.get? row.name.text) row.unit? = fault row) :
    attrs.fault? rows = rows.findSome? fault := by
  unfold fault?
  induction rows with
  | nil => rfl
  | cons row rows ih =>
    rw [List.findSome?_cons, List.findSome?_cons, h row List.mem_cons_self,
      ih fun r hr => h r (List.mem_cons_of_mem row hr)]

end Attributes

theorem encodeRows_outcome {rows : List Row} (h : ∀ row ∈ rows, row.scale ≠ .halvedQuarterVolt)
    (attrs : Attributes) (w : Word) :
    (encodeRows attrs w rows).outcome = match attrs.fault? rows with
      | some e => .error (.tooLong e)
      | none => .ok (w.writeAll (attrs.fields rows)) := by
  induction rows generalizing w with
  | nil => rfl
  | cons row rows ih =>
    have hrow := Row.convert_outcome (h row List.mem_cons_self) (attrs.get? row.name.text)
    have hrows := ih fun r hr => h r (List.mem_cons_of_mem row hr)
    rw [encodeRows, Traced.outcome_bind, hrow, Attributes.fault?, List.findSome?_cons]
    cases Attribute.fault? (attrs.get? row.name.text) row.unit? with
    | some e => rfl
    | none => exact hrows _

/-- An encoding fails on a number that is too long and on nothing else. -/
theorem encode_outcome {v : Variant} {selector : Word} (hv : v.selector? = some selector)
    (side : Bool) (position : Int) (attrs : Attributes) :
    (encode (.known v) (some side) position attrs).outcome =
      match attrs.fault? (v.rows (position == 1) side) with
      | some e => .error (.tooLong e)
      | none => .ok (selector.writeAll (attrs.fields (v.rows (position == 1) side))) := by
  rw [← encodeRows_outcome (layout v (position == 1) side).linear attrs selector]
  simp only [encode, hv, Traced.outcome_bind, Traced.outcome_ofExcept]
  rfl

theorem encode_of_short {v : Variant} {selector : Word} (hv : v.selector? = some selector)
    (side : Bool) (position : Int) {attrs : Attributes} (h : attrs.Short) :
    (encode (.known v) (some side) position attrs).outcome =
      .ok (selector.writeAll (attrs.fields (v.rows (position == 1) side))) := by
  have hf : attrs.fault? (v.rows (position == 1) side) = none :=
    List.findSome?_eq_none_iff.2 fun row _ => h.fault?_eq_none row.name.text row.unit?
  rw [encode_outcome hv, hf]

section
variable {marks : Span} {rows : List Row} (hl : Layout marks rows)
include hl

theorem Layout.apart_fields (attrs : Attributes) :
    (attrs.fields rows).Pairwise fun f g => f.1.Disjoint g.1 := List.pairwise_map.2 hl.apart

theorem Layout.read_eq_zero_of_mem_fields {selector : Word}
    (hs : ∀ s : Span, s.Disjoint marks → selector.read s = 0) (attrs : Attributes) :
    ∀ f ∈ attrs.fields rows, selector.read f.1 = 0 :=
  attrs.forall_span_fields (selector.read · = 0) fun row hr => hs row.span (hl.below row hr)

theorem Layout.read_writeAll {selector : Word}
    (hs : ∀ s : Span, s.Disjoint marks → selector.read s = 0) (attrs : Attributes) {row : Row}
    (hr : row ∈ rows) :
    (selector.writeAll (attrs.fields rows)).read row.span =
      row.value (attrs.get? row.name.text) % 2 ^ row.span.width :=
  Word.read_writeAll (hl.apart_fields attrs) (hl.read_eq_zero_of_mem_fields hs attrs)
    (List.mem_map.2 ⟨row, hr, rfl⟩)

theorem Layout.read_marks_writeAll (selector : Word) (attrs : Attributes) :
    (selector.writeAll (attrs.fields rows)).read marks = selector.read marks :=
  Word.read_writeAll_of_disjoint (attrs.forall_span_fields (·.Disjoint marks) hl.below) selector

end

end PowerDelivery
