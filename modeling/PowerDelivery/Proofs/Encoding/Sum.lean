import PowerDelivery.Proofs.Encoding.ReadBack
import PowerDelivery.Proofs.Word.Sum

/-! # An encoded word as a sum

The selector and the rows lie apart, so that a word is put together by adding what each of them
holds. -/
namespace PowerDelivery

section
variable {marks : Span} {rows : List Row} (hl : Layout marks rows)
include hl

theorem Layout.toNat_writeAll {selector : Word}
    (hs : ∀ s : Span, s.Disjoint marks → selector.read s = 0) (attrs : Attributes) :
    (selector.writeAll (attrs.fields rows)).toNat = selector.toNat + (rows.map fun row =>
      row.value (attrs.get? row.name.text) % 2 ^ row.span.width * 2 ^ row.span.offset).sum := by
  rw [Word.toNat_writeAll (hl.apart_fields attrs) (hl.read_eq_zero_of_mem_fields hs attrs),
    Attributes.fields, List.map_map]
  rfl

end

/-- An encoded word is the sum of its selector and of what each row stores, at the row's place. The
sum does not overflow, and a bit of neither the selector nor a row is clear. -/
theorem encode_eq_sum {v : Variant} {selector : Word} (hv : v.selector? = some selector)
    (side : Bool) (position : Int) {attrs : Attributes} (h : attrs.Short) :
    ∃ (w : Word) (stored : Row → Nat),
      (encode (.known v) (some side) position attrs).outcome = .ok w ∧
      (∀ row ∈ v.rows (position == 1) side,
        row.Stores (attrs.get? row.name.text) (stored row) ∧ stored row < 2 ^ row.span.width) ∧
      w.toNat = selector.toNat +
        ((v.rows (position == 1) side).map fun row => stored row * 2 ^ row.span.offset).sum ∧
      selector.toNat + ((v.rows (position == 1) side).map fun row =>
        stored row * 2 ^ row.span.offset).sum < 2 ^ 32 ∧
      ∀ i, selector.getLsbD i = false →
        (∀ row ∈ v.rows (position == 1) side, row.span.covers i = false) →
        w.getLsbD i = false := by
  have hl := layout v (position == 1) side
  have hsum := hl.toNat_writeAll (fun _ => Variant.selector?_read_eq_zero hv) attrs
  refine ⟨_, fun row => row.value (attrs.get? row.name.text) % 2 ^ row.span.width,
    encode_of_short hv side position h, ?_, hsum, ?_, ?_⟩
  · intro row hr
    exact ⟨row.stores_value (hl.linear row hr) (h.fault?_eq_none row.name.text row.unit?),
      Nat.mod_lt _ (Nat.two_pow_pos _)⟩
  · rw [← hsum]
    exact BitVec.isLt _
  · intro i hi hrows
    have huncovered := attrs.forall_span_fields (·.covers i = false) hrows
    rw [Word.getLsbD_writeAll_of_uncovered huncovered, hi]

/-- Numbers far too large for their rows are cut before they are added. -/
theorem encode_eq_sum_oversized :
    oversized.Short ∧ ∃ (w : Word) (stored : Row → Nat),
      (encode (.known .sprAvs) (some true) 3 oversized).outcome = .ok w ∧
      (∀ row ∈ Variant.sprAvs.rows false true, row.Stores (oversized.get? row.name.text)
        (stored row) ∧ stored row < 2 ^ row.span.width) ∧
      w.toNat = (0xE0000000#32).toNat +
        ((Variant.sprAvs.rows false true).map fun row => stored row * 2 ^ row.span.offset).sum := by
  have hv : Variant.sprAvs.selector? = some 0xE0000000#32 := rfl
  obtain ⟨w, stored, hw, hstored, hsum, -⟩ := encode_eq_sum hv true 3 oversized_short
  exact ⟨oversized_short, w, stored, hw, hstored, hsum⟩

end PowerDelivery
