import PowerDelivery.Proofs.Word.Fields
import PowerDelivery.Word.Packing

/-! # Runs of the packer

A step that is not refused sets its bits and leaves the others as they are. So the word after a run
has the bits that some step sets, whatever the order of the steps and however often one of them
comes, and fields that lie apart are read back as they were written. -/
namespace PowerDelivery

namespace Span

theorem ofInts_span (s : Span) : ofInts s.offset s.width = .ok s := ofInts_eq_ok s.width_pos s.fits

theorem ofInts_eq_ok_iff {offset width : Int} {s : Span} :
    ofInts offset width = .ok s ↔ offset = s.offset ∧ width = s.width := by
  constructor
  · intro h
    unfold ofInts at h
    split at h
    · cases h
    · split at h
      · cases h
      · cases h
        constructor <;> simp only <;> omega
  · rintro ⟨rfl, rfl⟩
    exact s.ofInts_span

theorem exists_ofInts_eq_ok_iff {offset width : Int} : (∃ s, ofInts offset width = .ok s) ↔
    (1 ≤ width ∧ width ≤ 32) ∧ 0 ≤ offset ∧ offset + width ≤ 32 := by
  constructor
  · rintro ⟨s, hs⟩
    obtain ⟨rfl, rfl⟩ := ofInts_eq_ok_iff.1 hs
    have hp := s.width_pos
    have hf := s.fits
    omega
  · intro h
    exact ⟨⟨offset.toNat, width.toNat, by omega, by omega⟩,
      ofInts_eq_ok_iff.2 ⟨by simp only; omega, by simp only; omega⟩⟩

end Span

namespace PackStep

/-- A number below zero is refused, and so are a width that no field has and a place outside the
word. -/
def Refused : PackStep → Prop
  | number value offset width =>
    value < 0 ∨ (width < 1 ∨ 32 < width) ∨ offset < 0 ∨ 32 < offset + width
  | flag value offset => value = true ∧ (offset < 0 ∨ 31 < offset)

instance : (s : PackStep) → Decidable s.Refused
  | number .. => inferInstanceAs (Decidable (_ ∨ _))
  | flag .. => inferInstanceAs (Decidable (_ ∧ _))

/-- The bits that a step asks for, as a number without bound. -/
def bits : PackStep → Nat
  | number value offset width => (value.toNat % 2 ^ width.toNat) <<< offset.toNat
  | flag value offset => value.toNat <<< offset.toNat

def ofField (f : Span × Nat) : PackStep := number f.2 f.1.offset f.1.width

/-- What a step comes to on a word: it is refused for its own arguments alone, in the same way on
every word, and then changes nothing, and else it sets its bits, which all lie in the word. No bit
is ever cleared. -/
structure TakesTo (s : PackStep) (w : Word) (outcome : Except PackError Word) (w' : Word) :
    Prop where
  error_iff : (∃ e, outcome = .error e) ↔ s.Refused
  same_error : ∀ e, outcome = .error e → ∀ u : Word, u.step s = .error e
  result : ∀ u, outcome = .ok u → w' = u
  unchanged : s.Refused → w' = w
  sets : ¬s.Refused → w'.toNat = w.toNat ||| s.bits ∧ w.toNat ||| s.bits < 2 ^ 32
  keeps : ∀ i, w.getLsbD i = true → w'.getLsbD i = true

theorem refused_flag_iff (offset : Int) :
    (flag true offset).Refused ↔ (number 1 offset 1).Refused := by
  simp only [Refused, eq_self, true_and]
  omega

theorem exists_of_not_refused {value offset width : Int}
    (h : ¬(number value offset width).Refused) :
    ∃ (s : Span) (v : Nat), value = v ∧ offset = s.offset ∧ width = s.width := by
  have hn : ¬(value < 0 ∨ (width < 1 ∨ 32 < width) ∨ offset < 0 ∨ 32 < offset + width) := h
  obtain ⟨s, hs⟩ := Span.exists_ofInts_eq_ok_iff.2
    (by omega : (1 ≤ width ∧ width ≤ 32) ∧ 0 ≤ offset ∧ offset + width ≤ 32)
  exact ⟨s, value.toNat, by omega, Span.ofInts_eq_ok_iff.1 hs⟩

theorem takesTo_of_refused {s : PackStep} (h : s.Refused) {w : Word} {e : PackError}
    (he : w.step s = .error e) : s.TakesTo w (.error e) w where
  error_iff := iff_of_true ⟨e, rfl⟩ h
  same_error := by
    rintro e' he' u
    cases he'
    exact (Word.step_eq_error_iff w u s e).1 he
  result := by
    intro u hu
    cases hu
  unchanged _ := rfl
  sets hn := absurd h hn
  keeps _ hi := hi

theorem takesTo_of_toNat_eq {s : PackStep} (h : ¬s.Refused) {w w' : Word}
    (hw : w'.toNat = w.toNat ||| s.bits) : s.TakesTo w (.ok w') w' where
  error_iff := by
    refine iff_of_false ?_ h
    rintro ⟨e, he⟩
    cases he
  same_error := by
    intro e he
    cases he
  result := by
    intro u hu
    cases hu
    rfl
  unchanged hr := absurd hr h
  sets _ := ⟨hw, hw ▸ w'.isLt⟩
  keeps i hi := by
    rw [BitVec.getLsbD] at hi ⊢
    rw [hw, Nat.testBit_or, hi, Bool.true_or]

end PackStep

namespace Word

theorem step_number (w : Word) (s : Span) (v : Nat) :
    w.step (.number v s.offset s.width) = .ok (w.write s v) := by
  have hv : ¬(v : Int) < 0 := by omega
  rw [step, writeNumber, if_neg hv, s.ofInts_span]
  rfl

theorem exists_writeNumber_eq_error (w : Word) {value offset width : Int}
    (h : (PackStep.number value offset width).Refused) :
    ∃ e, w.writeNumber value offset width = .error e := by
  unfold writeNumber
  by_cases hv : value < 0
  · exact ⟨.negative value, if_pos hv⟩
  · rw [if_neg hv]
    cases hs : Span.ofInts offset width with
    | error e => exact ⟨.span e, rfl⟩
    | ok s =>
      have hspan := Span.exists_ofInts_eq_ok_iff.1 ⟨s, hs⟩
      rcases h with h | h | h <;> omega

theorem takesTo_number (w : Word) (value offset width : Int) :
    (PackStep.number value offset width).TakesTo w (w.step (.number value offset width))
      (w.stepOn (.number value offset width)) := by
  by_cases h : (PackStep.number value offset width).Refused
  · obtain ⟨e, he⟩ := w.exists_writeNumber_eq_error h
    have hstep : w.step (.number value offset width) = .error e := he
    rw [stepOn, hstep]
    exact PackStep.takesTo_of_refused h hstep
  · obtain ⟨s, v, rfl, rfl, rfl⟩ := PackStep.exists_of_not_refused h
    rw [stepOn, step_number]
    exact PackStep.takesTo_of_toNat_eq h (w.toNat_write_eq_or s v)

theorem takesTo_step (w : Word) (s : PackStep) : s.TakesTo w (w.step s) (w.stepOn s) := by
  cases s with
  | number value offset width => exact w.takesTo_number value offset width
  | flag value offset =>
    cases value with
    | false =>
      apply PackStep.takesTo_of_toNat_eq
      · exact fun h => Bool.noConfusion h.1
      · simp [PackStep.bits]
    | true =>
      have h := w.takesTo_number 1 offset 1
      have hr := PackStep.refused_flag_iff offset
      exact ⟨h.error_iff.trans hr.symm, h.same_error, h.result, fun hf => h.unchanged (hr.1 hf),
        fun hf => h.sets fun hn => hf (hr.2 hn), h.keeps⟩

theorem pack_cons (w : Word) (s : PackStep) (steps : List PackStep) :
    w.pack (s :: steps) = (w.stepOn s).pack steps := rfl

/-- A step sets the bits that it asks for, if it is not refused, and no others. -/
theorem getLsbD_stepOn_iff (w : Word) (s : PackStep) (i : Nat) :
    (w.stepOn s).getLsbD i = true ↔
      w.getLsbD i = true ∨ ¬s.Refused ∧ s.bits.testBit i = true := by
  have h := w.takesTo_step s
  by_cases hr : s.Refused
  · simp [h.unchanged hr, hr]
  · simp [BitVec.getLsbD, (h.sets hr).1, hr]

theorem getLsbD_pack_iff (w : Word) (steps : List PackStep) (i : Nat) :
    (w.pack steps).getLsbD i = true ↔
      w.getLsbD i = true ∨ ∃ s ∈ steps, ¬s.Refused ∧ s.bits.testBit i = true := by
  induction steps generalizing w with
  | nil => simp [pack]
  | cons s steps ih =>
    rw [pack_cons, ih, getLsbD_stepOn_iff, or_assoc]
    simp

/-- Only the set of the steps matters. -/
theorem pack_congr {steps steps' : List PackStep} (h : ∀ s, s ∈ steps ↔ s ∈ steps') (w : Word) :
    w.pack steps = w.pack steps' := by
  apply BitVec.eq_of_getLsbD_eq
  intro i _
  rw [Bool.eq_iff_iff, getLsbD_pack_iff, getLsbD_pack_iff]
  simp only [h]

theorem pack_append (w : Word) (before after : List PackStep) :
    w.pack (before ++ after) = (w.pack before).pack after := List.foldl_append

theorem packTrace_append (w : Word) (before after : List PackStep) :
    w.packTrace (before ++ after) = w.packTrace before ++ (w.pack before).packTrace after := by
  induction before generalizing w with
  | nil => rfl
  | cons s before ih =>
    rw [List.cons_append, packTrace, ih]
    rfl

/-- Wherever a step stands in a run, it is refused or sets its bits, and no step clears any; the
order of the steps does not show in the word, nor does a step that comes once more. -/
theorem pack_run (w : Word) (steps : List PackStep) :
    (∀ before s after, steps = before ++ s :: after →
      w.packTrace steps = w.packTrace before ++
        ((w.pack before).step s, w.pack (before ++ [s])) ::
          (w.pack (before ++ [s])).packTrace after ∧
      s.TakesTo (w.pack before) ((w.pack before).step s) (w.pack (before ++ [s]))) ∧
    (∀ steps', steps'.Perm steps → w.pack steps' = w.pack steps) ∧
    ∀ before s after, steps = before ++ after → s ∈ steps →
      w.pack (before ++ s :: after) = w.pack steps := by
  refine ⟨?_, ?_, ?_⟩
  · rintro before s after rfl
    have hlast : w.pack (before ++ [s]) = (w.pack before).stepOn s := pack_append w before [s]
    rw [packTrace_append, hlast]
    exact ⟨rfl, takesTo_step _ s⟩
  · intro steps' hp
    exact pack_congr (fun s => hp.mem_iff) w
  · rintro before s after rfl hs
    apply pack_congr
    intro t
    simp only [List.mem_append, List.mem_cons] at hs ⊢
    constructor
    · rintro (h | rfl | h)
      · exact .inl h
      · exact hs
      · exact .inr h
    · rintro (h | h)
      · exact .inl h
      · exact .inr (.inr h)

/-- Two fields, a flag at the last bit, and between them steps that are refused or set nothing. -/
def mixedSteps : List PackStep :=
  [.number 0x7FF 10 10, .number (-1) 0 4, .flag true 31, .flag false 40, .number 1 30 4,
    .number 300 0 10]

theorem pack_run_mixed :
    (∃ e, Word.step (Word.pack 0 [.number 0x7FF 10 10]) (.number (-1) 0 4) = .error e) ∧
    Word.pack 0 [.number 0x7FF 10 10, .number (-1) 0 4] = Word.pack 0 [.number 0x7FF 10 10] ∧
    Word.pack 0 mixedSteps.reverse = Word.pack 0 mixedSteps ∧
    Word.pack 0 (.flag true 31 :: mixedSteps) = Word.pack 0 mixedSteps ∧
    Word.pack 0 mixedSteps = 0x800FFD2C#32 := by
  obtain ⟨hsteps, hperm, hrepeat⟩ := pack_run 0 mixedSteps
  have hnegative := (hsteps [.number 0x7FF 10 10] (.number (-1) 0 4) _ rfl).2
  exact ⟨hnegative.error_iff.2 (by decide), hnegative.unchanged (by decide),
    hperm mixedSteps.reverse (List.reverse_perm mixedSteps),
    hrepeat [] (.flag true 31) mixedSteps rfl (by decide), by decide⟩

theorem pack_ofField (w : Word) (fields : List (Span × Nat)) :
    w.pack (fields.map .ofField) = w.writeAll fields := by
  induction fields generalizing w with
  | nil => rfl
  | cons f fields ih =>
    have hstep : w.stepOn (.ofField f) = w.write f.1 f.2 := by
      rw [stepOn, PackStep.ofField, step_number]
      rfl
    rw [List.map_cons, pack_cons, hstep, ih, writeAll_cons]

theorem forall_packTrace_ofField (w : Word) (fields : List (Span × Nat)) :
    ∀ entry ∈ w.packTrace (fields.map .ofField), ∃ u, entry.1 = .ok u := by
  induction fields generalizing w with
  | nil => simp [packTrace]
  | cons f fields ih =>
    rw [List.map_cons, packTrace, List.forall_mem_cons]
    exact ⟨⟨_, w.step_number f.1 f.2⟩, ih _⟩

theorem readAt_span (w : Word) (s : Span) : w.readAt s.offset s.width = .ok (w.read s) := by
  rw [readAt, s.ofInts_span]
  rfl

/-- Fields that lie apart and were clear are all written, and each is read back as what of its value
fits, while a span apart from them reads as it did before. -/
theorem readAt_pack (w : Word) (fields : List (Span × Nat))
    (apart : fields.Pairwise fun f g => f.1.Disjoint g.1)
    (clear : ∀ f ∈ fields, w.readAt f.1.offset f.1.width = .ok 0) :
    (∀ entry ∈ w.packTrace (fields.map .ofField), ∃ u, entry.1 = .ok u) ∧
    (∀ f ∈ fields, (w.pack (fields.map .ofField)).readAt f.1.offset f.1.width =
      .ok (f.2 % 2 ^ f.1.width)) ∧
    ∀ t : Span, (∀ f ∈ fields, f.1.Disjoint t) → ∃ n, w.readAt t.offset t.width = .ok n ∧
      (w.pack (fields.map .ofField)).readAt t.offset t.width = .ok n := by
  have hclear : ∀ f ∈ fields, w.read f.1 = 0 := by
    intro f hf
    have h := clear f hf
    rw [readAt_span] at h
    exact Except.ok.inj h
  refine ⟨w.forall_packTrace_ofField fields, ?_, ?_⟩
  · intro f hf
    rw [readAt_span, pack_ofField, read_writeAll apart hclear hf]
  · intro t ht
    refine ⟨w.read t, w.readAt_span t, ?_⟩
    rw [readAt_span, pack_ofField, read_writeAll_of_disjoint ht]

/-- Fields up to both ends of the word, with one bit left between them and two values too large. -/
def endFields : List (Span × Nat) :=
  [(⟨24, 8, Nat.zero_lt_succ 7, Nat.le_refl 32⟩, 0x1FF),
    (⟨0, 11, Nat.zero_lt_succ 10, Nat.le_add_right 11 21⟩, 300),
    (⟨11, 12, Nat.zero_lt_succ 11, Nat.le_add_right 23 9⟩, 10000)]

theorem readAt_pack_ends :
    (endFields.Pairwise fun f g => f.1.Disjoint g.1) ∧
    (∀ f ∈ endFields, Word.readAt 0x00800000#32 f.1.offset f.1.width = .ok 0) ∧
    (∀ f ∈ endFields, (Word.pack 0x00800000#32 (endFields.map .ofField)).readAt
      f.1.offset f.1.width = .ok (f.2 % 2 ^ f.1.width)) ∧
    ∃ n, Word.readAt 0x00800000#32 23 1 = .ok n ∧
      (Word.pack 0x00800000#32 (endFields.map .ofField)).readAt 23 1 = .ok n := by
  have apart : endFields.Pairwise fun f g => f.1.Disjoint g.1 := by decide
  have clear : ∀ f ∈ endFields, Word.readAt 0x00800000#32 f.1.offset f.1.width = .ok 0 := by
    simp only [endFields, List.forall_mem_cons]
    exact ⟨rfl, rfl, rfl, nofun⟩
  have h := readAt_pack 0x00800000#32 endFields apart clear
  exact ⟨apart, clear, h.2.1,
    h.2.2 ⟨23, 1, Nat.zero_lt_one, Nat.le_add_right 24 8⟩ (by decide)⟩

end Word
end PowerDelivery
