import PowerDelivery.Proofs.Word.Fields
import Mathlib.Algebra.GroupWithZero.Nat

/-! # A word as the sum of its fields -/
namespace PowerDelivery
namespace Word

/-- Writing to a field that was clear adds the value, at its place. No bit is set twice, so nothing
is carried. -/
theorem toNat_write {w : Word} {s : Span} (h : w.read s = 0) (v : Nat) :
    (w.write s v).toNat = w.toNat + v % 2 ^ s.width * 2 ^ s.offset := by
  have hand : w &&& BitVec.ofNat 32 (v % 2 ^ s.width * 2 ^ s.offset) = 0 := by
    have hzero : BitVec.ofNat 32 (v % 2 ^ s.width * 2 ^ s.offset) = (0 : Word).write s v :=
      (BitVec.zero_or (x := BitVec.ofNat 32 (v % 2 ^ s.width * 2 ^ s.offset))).symm
    apply BitVec.eq_of_getLsbD_eq
    intro i _
    rw [BitVec.getLsbD_and, hzero, getLsbD_write]
    by_cases hi : s.covers i = true
    · simp [getLsbD_of_read_eq_zero h hi]
    · simp [hi]
  rw [write, ← BitVec.add_eq_or_of_and_eq_zero _ _ hand, BitVec.toNat_add_of_and_eq_zero hand,
    BitVec.toNat_ofNat, Nat.mod_eq_of_lt (s.shifted_lt v)]

theorem toNat_writeAll {fields : List (Span × Nat)}
    (hd : fields.Pairwise fun f g => f.1.Disjoint g.1) {w : Word}
    (hc : ∀ f ∈ fields, w.read f.1 = 0) :
    (w.writeAll fields).toNat =
      w.toNat + (fields.map fun f => f.2 % 2 ^ f.1.width * 2 ^ f.1.offset).sum := by
  induction fields generalizing w with
  | nil => rfl
  | cons f fields ih =>
    obtain ⟨hf, hd⟩ := List.pairwise_cons.1 hd
    have hrest : ∀ g ∈ fields, (w.write f.1 f.2).read g.1 = 0 := by
      intro g hg
      rw [read_write_of_disjoint (hf g hg)]
      exact hc g (List.mem_cons_of_mem f hg)
    rw [writeAll_cons, ih hd hrest, toNat_write (hc f List.mem_cons_self), List.map_cons,
      List.sum_cons, Nat.add_assoc]

end Word
end PowerDelivery
