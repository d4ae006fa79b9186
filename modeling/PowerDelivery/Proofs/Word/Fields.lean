import PowerDelivery.Word

/-! # Fields of a word: reading back what was written -/
namespace PowerDelivery

namespace Span
variable {s t : Span} {i : Nat}

def Disjoint (s t : Span) : Prop :=
  s.offset + s.width ≤ t.offset ∨ t.offset + t.width ≤ s.offset

instance : Decidable (s.Disjoint t) := inferInstanceAs (Decidable (_ ∨ _))

theorem Disjoint.symm (h : s.Disjoint t) : t.Disjoint s := Or.symm h

theorem covers_iff : s.covers i = true ↔ s.offset ≤ i ∧ i < s.offset + s.width := by
  simp [covers]

theorem covers_eq_false_iff : s.covers i = false ↔ i < s.offset ∨ s.offset + s.width ≤ i := by
  rw [← Bool.not_eq_true, covers_iff]
  omega

theorem Disjoint.covers_eq_false (h : s.Disjoint t) (hi : s.covers i = true) :
    t.covers i = false := by
  rw [covers_iff] at hi
  rw [covers_eq_false_iff]
  unfold Disjoint at h
  omega

/-- Every bit of the first span lies in the second. -/
def Within (s t : Span) : Prop := t.offset ≤ s.offset ∧ s.offset + s.width ≤ t.offset + t.width

instance : Decidable (s.Within t) := inferInstanceAs (Decidable (_ ∧ _))

theorem Within.covers (h : s.Within t) (hi : s.covers i = true) : t.covers i = true := by
  rw [covers_iff] at hi ⊢
  unfold Within at h
  omega

theorem testBit_mask (s : Span) (i : Nat) : s.mask.testBit i = decide (i < s.width) := by
  rw [mask, Nat.testBit_two_pow_sub_one]

theorem shifted_lt (s : Span) (v : Nat) : v % 2 ^ s.width * 2 ^ s.offset < 2 ^ 32 := by
  calc v % 2 ^ s.width * 2 ^ s.offset
      < 2 ^ s.width * 2 ^ s.offset :=
        Nat.mul_lt_mul_of_pos_right (Nat.mod_lt _ (Nat.two_pow_pos _)) (Nat.two_pow_pos _)
    _ = 2 ^ (s.offset + s.width) := by rw [Nat.pow_add, Nat.mul_comm]
    _ ≤ 2 ^ 32 := Nat.pow_le_pow_right (by decide) s.fits

end Span

namespace Word

/-- Without their `k` low bits two words read alike in a span exactly if they agree on its bits from
the `k`-th on. -/
theorem read_div_eq_iff {w w' : Word} {s : Span} {k : Nat} :
    w.read s / 2 ^ k = w'.read s / 2 ^ k ↔
      ∀ i, s.covers i = true → s.offset + k ≤ i → w.getLsbD i = w'.getLsbD i := by
  constructor
  · intro h i hi hk
    obtain ⟨hl, hr⟩ := Span.covers_iff.1 hi
    have hb := congrArg (·.testBit (i - s.offset - k)) h
    have hj : i - s.offset - k + k = i - s.offset := by omega
    have hw : i - s.offset < s.width := by omega
    have ho : s.offset + (i - s.offset) = i := by omega
    simpa [Nat.testBit_div_two_pow, hj, testBit_read, hw, ho] using hb
  · intro h
    apply Nat.eq_of_testBit_eq
    intro j
    rw [Nat.testBit_div_two_pow, Nat.testBit_div_two_pow, testBit_read, testBit_read]
    by_cases hj : j + k < s.width
    · rw [h (s.offset + (j + k)) (Span.covers_iff.2 ⟨by omega, by omega⟩) (by omega)]
    · simp [hj]

theorem read_congr {w w' : Word} {s : Span}
    (h : ∀ i, s.covers i = true → w.getLsbD i = w'.getLsbD i) : w.read s = w'.read s := by
  simpa using (read_div_eq_iff (k := 0)).2 fun i hi _ => h i hi

theorem getLsbD_of_read_eq {w w' : Word} {s : Span} (h : w.read s = w'.read s) {i : Nat}
    (hi : s.covers i = true) : w.getLsbD i = w'.getLsbD i :=
  (read_div_eq_iff (k := 0)).1 (by rw [h]) i hi (Span.covers_iff.1 hi).1

/-- A write is the "or" with the shifted value, of which nothing is cut off. -/
theorem toNat_write_eq_or (w : Word) (s : Span) (v : Nat) :
    (w.write s v).toNat = w.toNat ||| (v % 2 ^ s.width) <<< s.offset := by
  rw [write, BitVec.toNat_or, BitVec.toNat_ofNat, Nat.mod_eq_of_lt (s.shifted_lt v),
    Nat.shiftLeft_eq]

theorem read_write_of_disjoint {s t : Span} (h : s.Disjoint t) (w : Word) (v : Nat) :
    (w.write s v).read t = w.read t := by
  apply read_congr
  intro i hi
  rw [getLsbD_write, h.symm.covers_eq_false hi]
  simp

/-- A field that was clear holds what of the value fits into it. -/
theorem read_write_self {w : Word} {s : Span} (h : w.read s = 0) (v : Nat) :
    (w.write s v).read s = v % 2 ^ s.width := by
  apply Nat.eq_of_testBit_eq
  intro i
  rw [testBit_read, Nat.testBit_mod_two_pow, getLsbD_write]
  by_cases hi : i < s.width
  · have hb : (w.read s).testBit i = false := by rw [h, Nat.zero_testBit]
    have hc : s.covers (s.offset + i) = true := Span.covers_iff.2 ⟨by omega, by omega⟩
    rw [testBit_read] at hb
    simp_all
  · simp [hi]

/-- Writes one value after the other, each to its span. -/
def writeAll (w : Word) (fields : List (Span × Nat)) : Word :=
  fields.foldl (fun w f => w.write f.1 f.2) w

@[simp] theorem writeAll_nil (w : Word) : w.writeAll [] = w := rfl

@[simp] theorem writeAll_cons (w : Word) (f : Span × Nat) (fields : List (Span × Nat)) :
    w.writeAll (f :: fields) = (w.write f.1 f.2).writeAll fields := rfl

theorem writeAll_append (w : Word) (fields rest : List (Span × Nat)) :
    w.writeAll (fields ++ rest) = (w.writeAll fields).writeAll rest := List.foldl_append

theorem getLsbD_writeAll (w : Word) (fields : List (Span × Nat)) (i : Nat) :
    (w.writeAll fields).getLsbD i =
      (w.getLsbD i || fields.any fun f => f.1.covers i && f.2.testBit (i - f.1.offset)) := by
  induction fields generalizing w with
  | nil => simp
  | cons f fields ih => rw [writeAll_cons, ih, getLsbD_write, List.any_cons, Bool.or_assoc]

theorem getLsbD_writeAll_of_uncovered {fields : List (Span × Nat)} {i : Nat}
    (h : ∀ f ∈ fields, f.1.covers i = false) (w : Word) :
    (w.writeAll fields).getLsbD i = w.getLsbD i := by
  have hany : (fields.any fun f => f.1.covers i && f.2.testBit (i - f.1.offset)) = false :=
    List.any_eq_false.2 fun f hf => by simp [h f hf]
  rw [getLsbD_writeAll, hany, Bool.or_false]

theorem read_writeAll_of_disjoint {t : Span} {fields : List (Span × Nat)}
    (h : ∀ f ∈ fields, f.1.Disjoint t) (w : Word) : (w.writeAll fields).read t = w.read t := by
  induction fields generalizing w with
  | nil => rfl
  | cons f fields ih =>
    rw [writeAll_cons, ih (fun g hg => h g (List.mem_cons_of_mem f hg)),
      read_write_of_disjoint (h f List.mem_cons_self)]

/-- No other write reaches a field: it holds what of its own value fits. -/
theorem read_writeAll {fields : List (Span × Nat)}
    (hd : fields.Pairwise fun f g => f.1.Disjoint g.1) {w : Word}
    (hc : ∀ f ∈ fields, w.read f.1 = 0) {s : Span} {v : Nat} (hm : (s, v) ∈ fields) :
    (w.writeAll fields).read s = v % 2 ^ s.width := by
  induction fields generalizing w with
  | nil => cases hm
  | cons f fields ih =>
    obtain ⟨hf, hd⟩ := List.pairwise_cons.1 hd
    rw [writeAll_cons]
    rcases List.mem_cons.1 hm with rfl | hm
    · rw [read_writeAll_of_disjoint (fun g hg => (hf g hg).symm)]
      exact read_write_self (hc _ List.mem_cons_self) v
    · apply ih hd _ hm
      intro g hg
      rw [read_write_of_disjoint (hf g hg)]
      exact hc g (List.mem_cons_of_mem f hg)

theorem getLsbD_of_read_eq_zero {w : Word} {s : Span} (h : w.read s = 0) {i : Nat}
    (hi : s.covers i = true) : w.getLsbD i = false := by
  have hzero : (0 : Word).read s = 0 := by simp [read]
  rw [getLsbD_of_read_eq (h.trans hzero.symm) hi]
  exact BitVec.getLsbD_zero

/-- The word in which exactly the bits of the spans are set. -/
def coverage (spans : List Span) : Word := spans.foldr (fun s w => w.write s s.mask) 0

theorem getLsbD_coverage (spans : List Span) (i : Nat) :
    (coverage spans).getLsbD i = spans.any (·.covers i) := by
  induction spans with
  | nil => simp [coverage]
  | cons s spans ih =>
    have hs : (coverage (s :: spans)) = (coverage spans).write s s.mask := rfl
    rw [hs, getLsbD_write, ih, Span.testBit_mask, List.any_cons]
    by_cases hi : s.covers i = true
    · have hw : i - s.offset < s.width := by
        have := Span.covers_iff.1 hi
        omega
      simp [hi, hw]
    · simp [hi]

/-- Under the mask of a span two words are the same if they read alike there. -/
theorem and_coverage_eq_iff {w w' : Word} {s : Span} :
    w &&& coverage [s] = w' &&& coverage [s] ↔ w.read s = w'.read s := by
  constructor
  · intro h
    apply read_congr
    intro i hi
    have hb := congrArg (·.getLsbD i) h
    simpa [getLsbD_coverage, hi] using hb
  · intro h
    apply BitVec.eq_of_getLsbD_eq
    intro i _
    rw [BitVec.getLsbD_and, BitVec.getLsbD_and, getLsbD_coverage]
    by_cases hi : s.covers i = true
    · rw [getLsbD_of_read_eq h hi]
    · simp [hi]

def clear (w : Word) (s : Span) : Word := w &&& ~~~coverage [s]

theorem getLsbD_clear (w : Word) (s : Span) (i : Nat) :
    (w.clear s).getLsbD i = (w.getLsbD i && !s.covers i) := by
  rw [clear, BitVec.getLsbD_and, BitVec.getLsbD_not, getLsbD_coverage]
  by_cases hi : i < 32
  · simp [hi]
  · simp [BitVec.getLsbD_of_ge w i (by omega)]

/-- To clear a span undoes the writes inside it, and no others. -/
theorem clear_writeAll_append {w : Word} {s : Span} {outside inside : List (Span × Nat)}
    (hw : w.read s = 0) (ho : ∀ f ∈ outside, f.1.Disjoint s) (hi : ∀ f ∈ inside, f.1.Within s) :
    (w.writeAll (outside ++ inside)).clear s = w.writeAll outside := by
  apply BitVec.eq_of_getLsbD_eq
  intro i _
  rw [getLsbD_clear, writeAll_append]
  by_cases hc : s.covers i = true
  · rw [getLsbD_writeAll_of_uncovered fun f hf => (ho f hf).symm.covers_eq_false hc,
      getLsbD_of_read_eq_zero hw hc, hc]
    exact Bool.and_false _
  · have hinside : ∀ f ∈ inside, f.1.covers i = false := by
      intro f hf
      rw [← Bool.not_eq_true]
      exact fun hfi => hc ((hi f hf).covers hfi)
    rw [getLsbD_writeAll_of_uncovered hinside]
    simp [hc]

theorem writeAll_read (w w' : Word) (spans : List Span) :
    w.writeAll (spans.map fun s => (s, w'.read s)) = w' &&& coverage spans ||| w := by
  apply BitVec.eq_of_getLsbD_eq
  intro i _
  rw [getLsbD_writeAll, BitVec.getLsbD_or, BitVec.getLsbD_and, getLsbD_coverage, Bool.or_comm]
  congr 1
  induction spans with
  | nil => simp
  | cons s spans ih =>
    have hs : (s.covers i && (w'.read s).testBit (i - s.offset)) =
        (w'.getLsbD i && s.covers i) := by
      by_cases hi : s.covers i = true
      · obtain ⟨hl, hr⟩ := Span.covers_iff.1 hi
        have hw : i - s.offset < s.width := by omega
        have ho : s.offset + (i - s.offset) = i := by omega
        simp [testBit_read, hi, hw, ho]
      · simp [hi]
    rw [List.map_cons, List.any_cons, List.any_cons, ih, hs, Bool.and_or_distrib_left]

end Word
end PowerDelivery
