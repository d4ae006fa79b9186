import PowerDelivery.Proofs.Decoding
import PowerDelivery.Proofs.Encoding.Failure

/-! # What the position of a capability changes

At the first position the walk of a fixed supply goes on into the rows of another block, which lie
inside bits 23 to 29. Whether it goes on is settled before the rows of one side are selected, so
that both sides have such rows. The walks of the other variants do not depend on the position. -/
namespace PowerDelivery

namespace Variant

/-- The bits that a fixed supply uses at the first position alone. -/
def firstBits : Span := ⟨23, 7, Nat.zero_lt_succ 6, by decide⟩

/-- What the walk of the variant has at the first position alone, for both sides. -/
def extension (v : Variant) : List Row := if v = .fixed then Block.fixedFirstRows else []

/-- The rows that the variant has at the first position alone. -/
def firstRows (v : Variant) (side : Bool) : List Row := v.extension.filter (·.appliesTo side)

variable (v : Variant) (side : Bool)

theorem walk_first : (Handle.ofVariant v true).walk .standard =
    (Handle.ofVariant v false).walk .standard ++ v.extension := by
  cases v <;> decide +kernel

theorem rows_first : v.rows true side = v.rows false side ++ v.firstRows side := by
  rw [rows, Handle.rows, walk_first, List.filter_append]
  rfl

theorem firstRows_eq_nil_iff : v.firstRows side = [] ↔ v ≠ .fixed := by
  by_cases hv : v = .fixed
  · have hrow : Row.placed .dualRolePower 29 1 .unitless Block.start (by decide) ∈
        v.firstRows side := by
      rw [firstRows, extension, if_pos hv]
      exact List.mem_filter.2 ⟨List.mem_cons_self, rfl⟩
    exact iff_of_false (List.ne_nil_of_mem hrow) (not_not_intro hv)
  · have hnil : v.firstRows side = [] := by rw [firstRows, extension, if_neg hv, List.filter_nil]
    exact iff_of_true hnil hv

theorem within_extension : ∀ row ∈ v.extension, row.span.Within firstBits := by
  cases v <;> decide

theorem within_firstRows : ∀ row ∈ v.firstRows side, row.span.Within firstBits :=
  fun row hr => v.within_extension row (List.mem_of_mem_filter hr)

theorem disjoint_fixedRows : ∀ row ∈ fixed.rows false side, row.span.Disjoint firstBits := by
  have hwalk : ∀ row ∈ (Handle.ofVariant fixed false).walk .standard,
      row.span.Disjoint firstBits := by decide +kernel
  exact fun row hr => hwalk row (List.mem_of_mem_filter hr)

end Variant

theorem Handle.ofVariant_of_ne_fixed {v : Variant} (h : v ≠ .fixed) (first : Bool) :
    ofVariant v first = ofVariant v true := by
  cases v with
  | fixed => exact absurd rfl h
  | _ => rfl

/-- At the first position the fields of the extension follow the others. -/
theorem Word.fields_first (w : Word) (side : Bool) (v : Variant) :
    (w.capability true side v).fields =
      (w.capability false side v).fields ++ (v.firstRows side).map (·.decode w) := by
  change (v.rows true side).map (·.decode w) = _
  rw [v.rows_first, List.map_append]
  rfl

section
variable (side : Bool) {position : Int} {attrs : Attributes}

theorem encode_of_ne_fixed {v : Variant} (h : v ≠ .fixed) (position : Int) (attrs : Attributes) :
    encode (.known v) (some side) position attrs = encode (.known v) (some side) 1 attrs := by
  simp only [encode, Handle.ofVariant_of_ne_fixed h]

/-- A later fixed supply is encoded as the first one with the bits of the extension clear. -/
theorem encode_fixed_of_ne_one (hp : position ≠ 1) (h : attrs.Short) :
    ∃ w, (encode (.known .fixed) (some side) 1 attrs).outcome = .ok w ∧
      (encode (.known .fixed) (some side) position attrs).outcome =
        .ok (w.clear Variant.firstBits) := by
  have hv : Variant.fixed.selector? = some 0x00000000#32 := rfl
  have hrows : Variant.fixed.rows ((1 : Int) == 1) side =
      Variant.fixed.rows false side ++ Variant.fixed.firstRows side :=
    Variant.rows_first .fixed side
  refine ⟨_, encode_of_short hv side 1 h, ?_⟩
  have houtside := attrs.forall_span_fields (·.Disjoint Variant.firstBits)
    (Variant.disjoint_fixedRows side)
  have hinside := attrs.forall_span_fields (·.Within Variant.firstBits)
    (Variant.within_firstRows .fixed side)
  rw [encode_of_short hv side position h, beq_eq_false_iff_ne.2 hp, hrows,
    Attributes.fields_append, Word.clear_writeAll_append (by decide) houtside hinside]

end

/-- At the first position the fields of a fixed supply are followed by others, all of them in bits
23 to 29, and those of other variants by none. Likewise an encoding depends on the position for a
fixed supply only, which has those bits clear at the other positions. -/
theorem position_extends_fixed (side : Bool) :
    (∀ (w : Word) (variant : Option Variant), ∃ d d' rows,
      (decodeCapability (.int w.toNat) false (some side) (variant.map .known)).outcome = .ok d ∧
      (decodeCapability (.int w.toNat) true (some side) (variant.map .known)).outcome = .ok d' ∧
      d'.fields = d.fields ++ rows.map (·.decode w) ∧
      (variant.getD w.classify).rows true side =
        (variant.getD w.classify).rows false side ++ rows ∧
      (rows = [] ↔ variant.getD w.classify ≠ .fixed) ∧
      ∀ row ∈ rows, row.span.Within Variant.firstBits) ∧
    ∀ (v : Variant) (position : Int) (attrs : Attributes), position ≠ 1 → attrs.Short →
      ∃ w, (encode (.known v) (some side) 1 attrs).outcome = .ok w ∧
        (encode (.known v) (some side) position attrs).outcome =
          .ok (if v = .fixed then w.clear Variant.firstBits else w) := by
  constructor
  · intro w variant
    exact ⟨_, _, (variant.getD w.classify).firstRows side,
      w.decodeCapability_of_word_outcome false side variant,
      w.decodeCapability_of_word_outcome true side variant, w.fields_first side _,
      Variant.rows_first _ side, Variant.firstRows_eq_nil_iff _ side,
      Variant.within_firstRows _ side⟩
  · intro v position attrs hp h
    by_cases hv : v = .fixed
    · obtain ⟨w, hw, hlater⟩ := encode_fixed_of_ne_one side hp h
      exact ⟨w, by rw [hv, hw], by rw [if_pos hv, hv, hlater]⟩
    · obtain ⟨w, hw⟩ := (encode_outcome_ok_iff side 1).2 fun row _ => h.not_overlong row.name
      exact ⟨w, hw, by rw [if_neg hv, encode_of_ne_fixed side hv, hw]⟩

/-- A first supply with a flag of the extension and a voltage too large for its row. -/
def dualRoleAttributes : Attributes :=
  [("dual_role_data", some "1"), ("unconstrained_power", some " 7 "), ("voltage", some "99999 mV")]

/-- Behind the first position the two flags are lost, and nothing else is. -/
theorem position_extends_fixed_dualRole :
    dualRoleAttributes.Short ∧
      ∃ w, (encode (.known .fixed) (some true) 1 dualRoleAttributes).outcome = .ok w ∧
        (encode (.known .fixed) (some true) 2 dualRoleAttributes).outcome =
          .ok (w.clear Variant.firstBits) := by
  have hshort : dualRoleAttributes.Short := Attributes.short_of_forall_mem (by decide)
  exact ⟨hshort, (position_extends_fixed true).2 .fixed 2 dualRoleAttributes (by decide) hshort⟩

end PowerDelivery
