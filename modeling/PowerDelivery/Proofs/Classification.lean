import PowerDelivery.Proofs.Layout

/-! # The bits that tell the variant of a capability word -/
namespace PowerDelivery

namespace Variant
variable {v : Variant} {selector : Word}

theorem covers_of_selector? (hv : v.selector? = some selector) {i : Nat}
    (hi : selector.getLsbD i = true) : v.marks.covers i = true := by
  have h : ∀ i < 32, selector.getLsbD i = true → v.marks.covers i = true := by
    cases v <;> cases hv <;> decide +kernel
  exact h i (BitVec.lt_of_getLsbD hi) hi

theorem selector?_read_eq_zero (hv : v.selector? = some selector) {s : Span}
    (hs : s.Disjoint v.marks) : selector.read s = 0 := by
  apply Nat.eq_of_testBit_eq
  intro i
  rw [Word.testBit_read, Nat.zero_testBit, Bool.and_eq_false_iff, decide_eq_false_iff_not]
  by_cases hi : i < s.width
  · right
    rw [← Bool.not_eq_true]
    intro hb
    have hm := covers_of_selector? hv hb
    rw [hs.covers_eq_false (Span.covers_iff.2 ⟨by omega, by omega⟩)] at hm
    cases hm
  · exact Or.inl hi

theorem selector?_marks_eq_zero_iff (hv : v.selector? = some selector) :
    selector.read v.marks = 0 ↔ v = fixed := by
  cases v <;> cases hv <;> decide

/-- The bits that tell a variant, as a word. -/
def mask (v : Variant) : Word := if v.isAugmented then 0xF0000000#32 else 0xC0000000#32

theorem mask_eq_coverage (v : Variant) : v.mask = Word.coverage [v.marks] := by
  cases v <;> decide

theorem and_mask_eq_selector_iff {v : Variant} {selector : Word}
    (hv : v.selector? = some selector) (w : Word) :
    w &&& v.mask = selector ↔ w.read v.marks = selector.read v.marks := by
  have hs : selector &&& v.mask = selector := by
    cases v <;> cases hv <;> decide
  rw [← Word.and_coverage_eq_iff, ← mask_eq_coverage, hs]

/-- What the table of selectors says: a variant has the words other than zero whose bits under its
mask are its selector, and the one without a selector has zero and the words with all four of the
highest bits set. -/
def Selects (v : Variant) (w : Word) : Prop :=
  match v.selector? with
  | some selector => w ≠ 0 ∧ w &&& v.mask = selector
  | none => w = 0 ∨ w &&& 0xF0000000#32 = 0xF0000000#32

theorem mask_and_top (v : Variant) : 0xF0000000#32 &&& v.mask = v.mask := by
  cases v <;> decide

theorem selects_congr {w w' : Word} (h : w ≠ 0) (h' : w' ≠ 0)
    (htop : w &&& 0xF0000000#32 = w' &&& 0xF0000000#32) (v : Variant) :
    v.Selects w ↔ v.Selects w' := by
  have hmask : w &&& v.mask = w' &&& v.mask := by
    rw [← v.mask_and_top, ← BitVec.and_assoc, ← BitVec.and_assoc, htop]
  unfold Selects
  rw [hmask, htop]
  cases v.selector? with
  | none => exact or_congr (iff_of_false h h') Iff.rfl
  | some selector => exact and_congr (iff_of_true h h') Iff.rfl

end Variant

namespace Word

theorem read_marks (w : Word) (v : Variant) : w.read v.marks =
    if v.isAugmented then w.toNat / 2 ^ 28 else w.toNat / 2 ^ 30 := by
  have hw := w.isLt
  rw [read, Variant.marks]
  cases v.isAugmented with
  | true => exact Nat.mod_eq_of_lt (show w.toNat / 2 ^ 28 < 2 ^ 4 by omega)
  | false => exact Nat.mod_eq_of_lt (show w.toNat / 2 ^ 30 < 2 ^ 2 by omega)

theorem and_top_eq_iff (w w' : Word) :
    w &&& 0xF0000000#32 = w' &&& 0xF0000000#32 ↔ w.toNat / 2 ^ 28 = w'.toNat / 2 ^ 28 := by
  have hmask : coverage [Variant.pps.marks] = 0xF0000000#32 := by decide
  have hread : w &&& coverage [Variant.pps.marks] = w' &&& coverage [Variant.pps.marks] ↔
      w.read Variant.pps.marks = w'.read Variant.pps.marks := and_coverage_eq_iff
  rwa [hmask, read_marks, read_marks] at hread

theorem classify_eq_iff {v : Variant} {selector : Word} (hv : v.selector? = some selector)
    (w : Word) : w.classify = v ↔ w ≠ 0 ∧ w.read v.marks = selector.read v.marks := by
  by_cases h : w = 0
  · subst h
    cases v <;> cases hv <;> decide
  · have hw := w.isLt
    have hq : w.toNat / 2 ^ 28 < 16 := by omega
    have hs : w.toNat / 2 ^ 30 = w.toNat / 2 ^ 28 / 4 := by omega
    simp only [classify, read_marks, hs, ne_eq, h, not_false_eq_true, true_and]
    generalize w.toNat / 2 ^ 28 = q at hq
    cases v <;> cases hv <;> revert q <;> decide

/-- In a word of a variant the selector is there already, in the marked bits. -/
theorem and_coverage_or_selector {v : Variant} {selector : Word} (hv : v.selector? = some selector)
    {w : Word} (hw : w.classify = v) (spans : List Span) :
    w &&& coverage spans ||| selector = w &&& coverage (v.marks :: spans) := by
  have hs : selector = w &&& coverage [v.marks] := by
    rw [← v.mask_eq_coverage]
    exact ((Variant.and_mask_eq_selector_iff hv w).2 ((classify_eq_iff hv w).1 hw).2).symm
  rw [hs]
  apply BitVec.eq_of_getLsbD_eq
  intro i _
  simp only [BitVec.getLsbD_or, BitVec.getLsbD_and, getLsbD_coverage, List.any_cons, List.any_nil,
    Bool.or_false]
  rw [← Bool.and_or_distrib_left, Bool.or_comm]

/-- The reserved words are of no variant, like zero. -/
theorem classify_eq_null_iff (w : Word) :
    w.classify = .null ↔ w = 0 ∨ w &&& 0xF0000000#32 = 0xF0000000#32 := by
  by_cases h : w = 0
  · subst h
    decide
  · have hw := w.isLt
    have hq : w.toNat / 2 ^ 28 < 16 := by omega
    have hs : w.toNat / 2 ^ 30 = w.toNat / 2 ^ 28 / 4 := by omega
    have htop : w &&& 0xF0000000#32 = 0xF0000000#32 ↔ w.toNat / 2 ^ 28 = 15 :=
      and_top_eq_iff w 0xF0000000#32
    simp only [classify, htop, hs, h, if_false, false_or]
    generalize w.toNat / 2 ^ 28 = q at hq
    revert q
    decide

theorem classify_eq_iff_selects (w : Word) (v : Variant) : w.classify = v ↔ v.Selects w := by
  cases hv : v.selector? with
  | none =>
    have hnull : v = .null := by
      cases v with
      | null => rfl
      | _ => cases hv
    subst hnull
    exact w.classify_eq_null_iff
  | some selector =>
    simp only [Variant.Selects, hv]
    rw [classify_eq_iff hv, Variant.and_mask_eq_selector_iff hv]

/-- Classification and the table of selectors part the words in the same way: a word is of the
variant that selects it, no word is selected twice or not at all, and of a word other than zero the
four highest bits decide. -/
theorem classify_selects (w : Word) :
    (∀ v, w.classify = v ↔ v.Selects w) ∧ (∃! v : Variant, v.Selects w) ∧
      ∀ w' : Word, w ≠ 0 → w' ≠ 0 → w &&& 0xF0000000#32 = w' &&& 0xF0000000#32 →
        w.classify = w'.classify := by
  refine ⟨w.classify_eq_iff_selects, ⟨w.classify, ?_, ?_⟩, ?_⟩
  · exact (w.classify_eq_iff_selects _).1 rfl
  · intro v hv
    exact ((w.classify_eq_iff_selects v).2 hv).symm
  · intro w' h h' htop
    rw [classify_eq_iff_selects]
    exact (Variant.selects_congr h h' htop _).2 ((w'.classify_eq_iff_selects _).1 rfl)

theorem classify_selects_eprAvs :
    Variant.eprAvs.Selects 0xDFFFFFFF#32 ∧ Word.classify 0xDFFFFFFF#32 = .eprAvs ∧
      (0xDFFFFFFF#32 : Word) ≠ 0 ∧ (0xD0000000#32 : Word) ≠ 0 ∧
      (0xDFFFFFFF#32 : Word) &&& 0xF0000000#32 = 0xD0000000#32 &&& 0xF0000000#32 ∧
      Word.classify 0xDFFFFFFF#32 = Word.classify 0xD0000000#32 := by
  have hs : Variant.eprAvs.Selects 0xDFFFFFFF#32 := ⟨by decide, by decide⟩
  exact ⟨hs, ((classify_selects 0xDFFFFFFF#32).1 .eprAvs).2 hs, by decide, by decide, by decide,
    (classify_selects 0xDFFFFFFF#32).2.2 0xD0000000#32 (by decide) (by decide) (by decide)⟩

end Word
end PowerDelivery
