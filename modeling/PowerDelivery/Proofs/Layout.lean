import PowerDelivery.Proofs.Word.Fields
import PowerDelivery.Table
import Mathlib.Data.List.Nodup

/-! # The layout of capability words

The rows that are kept for a side and a position lie apart from each other and below the bits that
mark the variant, and each has a name of its own. -/
namespace PowerDelivery

namespace FieldName

theorem texts_nodup : (members.map text).Nodup := by decide +kernel

theorem text_injective : Function.Injective text := fun f g h =>
  List.inj_on_of_nodup_map texts_nodup (mem_members f) (mem_members g) h

end FieldName

/-- The bits that tell a variant, two for a plain supply and four for an augmented one. -/
def Variant.marks (v : Variant) : Span :=
  if v.isAugmented then ⟨28, 4, Nat.zero_lt_succ 3, by decide⟩
  else ⟨30, 2, Nat.zero_lt_two, by decide⟩

/-- The rows that a word of the variant is made of, at the first position or later, for a side. -/
abbrev Variant.rows (v : Variant) (first side : Bool) : List Row :=
  (Handle.ofVariant v first).rows .standard side

/-- The rows that a request is made of, with the giveback flag or without. -/
abbrev Reference.rows (r : Reference) (giveback : Bool) : List Row :=
  (Handle.ofReference r giveback).rows .standard giveback

def Row.unit? (row : Row) : Option String := if row.scale = .unitless then none else row.name.unit?

theorem Row.unit?_of_unitless {row : Row} (h : row.scale = .unitless) : row.unit? = none := if_pos h

theorem Row.unit?_of_ne_unitless {row : Row} (h : row.scale ≠ .unitless) :
    row.unit? = row.name.unit? := if_neg h

/-- The rows share no bit and no name, leave the marked bits alone, and a row has steps of at most a
whole unit exactly if its name has a unit. -/
structure Layout (marks : Span) (rows : List Row) : Prop where
  apart : rows.Pairwise fun r s => r.span.Disjoint s.span
  below : ∀ row ∈ rows, row.span.Disjoint marks
  named : rows.Pairwise fun r s => r.name ≠ s.name
  linear : ∀ row ∈ rows, row.scale ≠ .halvedQuarterVolt
  stepped : ∀ row ∈ rows, row.scale.multiplier ≤ 100
  units : ∀ row ∈ rows, row.scale = .unitless ↔ row.name.unit? = none

instance (marks : Span) (rows : List Row) : Decidable (Layout marks rows) :=
  decidable_of_iff
    (rows.Pairwise (fun r s => r.span.Disjoint s.span) ∧ (∀ row ∈ rows, row.span.Disjoint marks) ∧
      rows.Pairwise (fun r s => r.name ≠ s.name) ∧
      (∀ row ∈ rows, row.scale ≠ .halvedQuarterVolt) ∧
      (∀ row ∈ rows, row.scale.multiplier ≤ 100) ∧
      ∀ row ∈ rows, row.scale = .unitless ↔ row.name.unit? = none)
    ⟨fun ⟨a, b, n, l, s, u⟩ => ⟨a, b, n, l, s, u⟩, fun ⟨a, b, n, l, s, u⟩ => ⟨a, b, n, l, s, u⟩⟩

theorem Layout.unit?_eq {marks : Span} {rows : List Row} (hl : Layout marks rows) {row : Row}
    (hr : row ∈ rows) : row.unit? = row.name.unit? := by
  by_cases h : row.scale = .unitless
  · rw [Row.unit?_of_unitless h, (hl.units row hr).1 h]
  · exact Row.unit?_of_ne_unitless h

theorem layout (v : Variant) (first side : Bool) : Layout v.marks (v.rows first side) := by
  cases v <;> cases first <;> cases side <;> decide +kernel

end PowerDelivery
