import PowerDelivery.Proofs.Attribute.Grammar
import PowerDelivery.Proofs.Encoding.Influence
import PowerDelivery.Proofs.Events
import Mathlib.Data.List.Forall2

/-! # What is noted while attributes are encoded

There is one note for each row whose attribute is there but is no number in the row's unit, in the
order of the rows, and no other. An attribute that is noted counts as little as one that is not
there. -/
namespace PowerDelivery

namespace Attribute
variable {text : String} {unit : Option String} {note : Note}

/-- What there is to note of a text: it is no number, or a number in another unit. -/
inductive Complaint (text : String) (unit : Option String) : Note → Prop
  | notNumber (shapeless : ∀ digits letters, ¬Written text digits letters) :
      Complaint text unit (.notNumber text)
  | otherUnit {digits letters : List Char} (shape : Written text digits letters)
      (suffixed : letters ≠ []) (other : some (String.ofList letters) ≠ unit) :
      Complaint text unit (.otherUnit text unit)

theorem Complaint.level_eq (h : Complaint text unit note) : note.level = .debug := by
  cases h <;> rfl

theorem read_of_complaint (h : Complaint text unit note) :
    read (some text) unit = ⟨[note], .ok 0⟩ := by
  cases h with
  | notNumber shapeless => exact read_of_not_written shapeless unit
  | otherUnit shape suffixed other =>
    have hne : String.ofList _ ≠ "" := fun he => suffixed (String.ofList_eq_empty_iff.1 he)
    simp only [read, split?_of_written shape]
    rw [if_pos ⟨hne, other⟩]
    rfl

theorem events_read_of_no_complaint (h : ∀ note, ¬Complaint text unit note) :
    (read (some text) unit).events = [] := by
  by_cases hw : ∃ digits letters, Written text digits letters
  · obtain ⟨digits, letters, hw⟩ := hw
    have hnot : ¬(String.ofList letters ≠ "" ∧ some (String.ofList letters) ≠ unit) := by
      rintro ⟨hne, hother⟩
      exact h _ (.otherUnit hw (fun he => hne (String.ofList_eq_empty_iff.2 he)) hother)
    simp only [read, split?_of_written hw]
    rw [if_neg hnot]
    rfl
  · simp only [not_exists] at hw
    exact absurd (.notNumber hw) (h _)

end Attribute

namespace Row
variable {row : Row} {attrs : Attributes} {note : Note}

/-- The row's attribute is there, and something is to be noted of it. -/
def Complains (row : Row) (attrs : Attributes) (note : Note) : Prop :=
  ∃ text, attrs.get? row.name.text = some text ∧ Attribute.Complaint text row.unit? note

theorem events_convert (row : Row) (text : Option String) :
    (row.convert text).events = (Attribute.read text row.unit?).events := by
  cases text with
  | none => rfl
  | some text =>
    have hsome : ¬(some text).isNone = true := Bool.false_ne_true
    rw [convert, if_neg hsome]
    by_cases hs : row.scale = .unitless
    · rw [if_pos hs, unit?_of_unitless hs]
      exact Traced.events_bind_of_silent fun _ => rfl
    · rw [if_neg hs, unit?_of_ne_unitless hs]
      exact Traced.events_bind_of_silent fun _ => Traced.events_bind_of_silent fun _ => rfl

def isNoted (attrs : Attributes) (row : Row) : Bool :=
  !(row.convert (attrs.get? row.name.text)).events.isEmpty

theorem convert_of_complains (h : row.Complains attrs note) :
    (row.convert (attrs.get? row.name.text)).events = [note] ∧ row.isNoted attrs = true := by
  obtain ⟨text, ht, hc⟩ := h
  have he : (row.convert (attrs.get? row.name.text)).events = [note] := by
    rw [ht, events_convert, Attribute.read_of_complaint hc]
  exact ⟨he, by rw [isNoted, he]; rfl⟩

theorem convert_of_no_complaint (h : ∀ note, ¬row.Complains attrs note) :
    (row.convert (attrs.get? row.name.text)).events = [] ∧ row.isNoted attrs = false := by
  have he : (row.convert (attrs.get? row.name.text)).events = [] := by
    rw [events_convert]
    cases ht : attrs.get? row.name.text with
    | none => rfl
    | some text => exact Attribute.events_read_of_no_complaint fun note hc => h note ⟨text, ht, hc⟩
  exact ⟨he, by rw [isNoted, he]; rfl⟩

theorem isNoted_iff : row.isNoted attrs = true ↔ ∃ note, row.Complains attrs note := by
  constructor
  · intro h
    by_contra hno
    rw [(convert_of_no_complaint (not_exists.1 hno)).2] at h
    cases h
  · rintro ⟨note, h⟩
    exact (convert_of_complains h).2

theorem value_of_complains (h : row.Complains attrs note) :
    row.value (attrs.get? row.name.text) = row.value none := by
  obtain ⟨text, ht, hc⟩ := h
  have hn : Attribute.number (some text) row.unit? = Attribute.number none row.unit? :=
    Attribute.number_eq_of_read (by rw [Attribute.read_of_complaint hc]; rfl)
  rw [ht, value, value, hn]

end Row

/-- One note for each row of which something is to be noted, row by row. -/
theorem forall₂_notes_encodeRows {attrs : Attributes} (h : attrs.Short) {rows : List Row}
    (hlinear : ∀ row ∈ rows, row.scale ≠ .halvedQuarterVolt) (w : Word) :
    List.Forall₂ (fun row note => row.Complains attrs note) (rows.filter (·.isNoted attrs))
      (encodeRows attrs w rows).events := by
  induction rows generalizing w with
  | nil => exact .nil
  | cons row rows ih =>
    have hrow := Row.convert_outcome (hlinear row List.mem_cons_self) (attrs.get? row.name.text)
    rw [h.fault?_eq_none] at hrow
    have hrest := ih (fun r hr => hlinear r (List.mem_cons_of_mem row hr))
      (w.write row.span (row.value (attrs.get? row.name.text)))
    rw [encodeRows, Traced.bind_of_ok hrow]
    by_cases hcomplaint : ∃ note, row.Complains attrs note
    · obtain ⟨note, hnote⟩ := hcomplaint
      obtain ⟨hevents, hnoted⟩ := Row.convert_of_complains hnote
      rw [List.filter_cons_of_pos hnoted, hevents]
      exact .cons hnote hrest
    · obtain ⟨hevents, hnoted⟩ := Row.convert_of_no_complaint (not_exists.1 hcomplaint)
      rw [List.filter_cons_of_neg (by rw [hnoted]; exact Bool.false_ne_true), hevents]
      exact hrest

namespace Attributes

def without (attrs : Attributes) (names : List String) : Attributes :=
  attrs.filter fun p => !names.contains p.1

theorem get?_without (attrs : Attributes) (names : List String) (name : String) :
    (attrs.without names).get? name = if name ∈ names then none else attrs.get? name := by
  have hnil : get? [] name = none := rfl
  induction attrs with
  | nil => rw [without, List.filter_nil, hnil, ite_self]
  | cons p attrs ih =>
    obtain ⟨k, text⟩ := p
    rw [without] at ih
    rw [without, List.filter_cons, get?_cons]
    by_cases hk : k ∈ names
    · rw [if_neg (by simpa using hk), ih]
      split
      · rfl
      · next hname =>
        have hne : name ≠ k := by
          rintro rfl
          exact hname hk
        rw [if_neg hne]
    · rw [if_pos (by simpa using hk), get?_cons, ih]
      by_cases he : name = k
      · rw [if_pos he, if_pos he, if_neg (he ▸ hk)]
      · rw [if_neg he, if_neg he]

theorem Short.without {attrs : Attributes} (h : attrs.Short) (names : List String) :
    (attrs.without names).Short := by
  intro name text ht
  rw [get?_without] at ht
  split at ht
  · cases ht
  · exact h name text ht

end Attributes

/-- To take away what is noted leaves the fields as they are. -/
theorem Layout.fields_without_noted {marks : Span} {rows : List Row} (hl : Layout marks rows)
    (attrs : Attributes) :
    (attrs.without ((rows.filter (·.isNoted attrs)).map (·.name.text))).fields rows =
      attrs.fields rows := by
  apply List.map_congr_left
  intro row hr
  rw [Attributes.get?_without]
  split
  · next hm =>
    obtain ⟨r, hnoted, hname⟩ := List.mem_map.1 hm
    obtain ⟨hrows, hnoted⟩ := List.mem_filter.1 hnoted
    obtain rfl := hl.eq_of_name_eq hrows hr (FieldName.text_injective hname)
    obtain ⟨note, hnote⟩ := Row.isNoted_iff.1 hnoted
    rw [Row.value_of_complains hnote]
  · rfl

theorem encode_eq_encodeRows {v : Variant} {selector : Word} (hv : v.selector? = some selector)
    (side : Bool) (position : Int) (attrs : Attributes) :
    encode (.known v) (some side) position attrs =
      encodeRows attrs selector (v.rows (position == 1) side) := by
  simp only [encode, hv]
  exact pure_bind _ _

/-- The notes of an encoding are one for each row of which something is to be noted, in the order of
the rows and for debugging; without the attributes that are noted the word is the same. A variant
without a selector is noted as such, once, whatever the attributes. -/
theorem encode_notes (position : Int) (attrs : Attributes) :
    (∀ (v : Variant) (selector : Word) (side : Bool), v.selector? = some selector → attrs.Short →
      ∃ reported notes w,
        encode (.known v) (some side) position attrs = ⟨notes, .ok w⟩ ∧
        reported.Sublist (v.rows (position == 1) side) ∧
        (∀ row ∈ v.rows (position == 1) side,
          row ∈ reported ↔ ∃ note, row.Complains attrs note) ∧
        List.Forall₂ (fun row note => row.Complains attrs note ∧ note.level = .debug)
          reported notes ∧
        (encode (.known v) (some side) position
          (attrs.without (reported.map (·.name.text)))).outcome = .ok w) ∧
    ∀ (variant : Choice Variant) (side : Option Bool),
      (∀ v, variant = .known v → v.selector? = none) →
      encode variant side position attrs = ⟨[.noEncoding variant.plain], .ok 0⟩ := by
  constructor
  · intro v selector side hv h
    have hl := layout v (position == 1) side
    have hnotes := forall₂_notes_encodeRows h hl.linear selector
    refine ⟨(v.rows (position == 1) side).filter (·.isNoted attrs), _,
      selector.writeAll (attrs.fields (v.rows (position == 1) side)), ?_, List.filter_sublist, ?_,
      hnotes.imp fun row note ⟨text, ht, hc⟩ => ⟨⟨text, ht, hc⟩, hc.level_eq⟩, ?_⟩
    · rw [← encode_of_short hv side position h, ← encode_eq_encodeRows hv]
    · intro row hr
      rw [List.mem_filter, Row.isNoted_iff, and_iff_right hr]
    · rw [encode_of_short hv side position (h.without _), hl.fields_without_noted]
  · intro variant side hnone
    cases variant with
    | other x => rfl
    | known v =>
      rw [encode]
      simp only [hnone v rfl]
      rfl

/-- Attributes of a row that are no number or in another unit, absent, or of no row. -/
def misread : Attributes :=
  [("voltage", some "5000 mA"), ("colour", some "red"), ("maximum_current", some "3000mA"),
    ("peak_current", some "-1"), ("dual_role_data", none)]

/-- The peak current is noted before the voltage, as its row is the first. -/
theorem encode_notes_misread : misread.Short ∧
    ∃ reported notes w,
      encode (.known .fixed) (some true) 1 misread = ⟨notes, .ok w⟩ ∧
      reported.Sublist (Variant.fixed.rows true true) ∧
      List.Forall₂ (fun row note => row.Complains misread note ∧ note.level = .debug)
        reported notes ∧
      notes.map Note.message = ["attribute value '-1' is not a number",
        "attribute value '5000 mA': expected unit mV"] ∧
      (encode (.known .fixed) (some true) 1
        (misread.without (reported.map (·.name.text)))).outcome = .ok w ∧
      encode (.other (.text "usb") rfl) none 1 misread = ⟨[.noEncoding "usb"], .ok 0⟩ := by
  have hshort : misread.Short := Attributes.short_of_forall_mem (by decide)
  obtain ⟨hnotes, hnone⟩ := encode_notes 1 misread
  obtain ⟨reported, notes, w, he, hs, -, hf, hw⟩ := hnotes .fixed _ true rfl hshort
  have hevents : notes = (encode (.known .fixed) (some true) 1 misread).events := by rw [he]
  refine
    ⟨hshort, reported, notes, w, he, hs, hf, ?_, hw, hnone (.other (.text "usb") rfl) none nofun⟩
  rw [hevents]
  decide

end PowerDelivery
