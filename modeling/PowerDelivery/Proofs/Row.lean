import PowerDelivery.Decode
import PowerDelivery.Proofs.Encoding
import PowerDelivery.Proofs.Events
import PowerDelivery.Proofs.Word.Packing

/-! # Accepted rows and the checks of packing

A row's place is checked when the row is made, and once more, with other bounds, whenever its bits
are read or written. The second check never fails, so that encoding and decoding go without it. -/
namespace PowerDelivery

namespace Span
variable (s : Span)

theorem and_mask (v : Nat) : v &&& s.mask = v % 2 ^ s.width :=
  Nat.and_two_pow_sub_one_eq_mod v s.width

theorem mask_shiftLeft_lt : s.mask <<< s.offset < 2 ^ 32 := by
  have hmod : s.mask % 2 ^ s.width = s.mask :=
    Nat.mod_eq_of_lt (Nat.sub_lt (Nat.two_pow_pos _) Nat.one_pos)
  rw [Nat.shiftLeft_eq, ← hmod]
  exact s.shifted_lt s.mask

end Span

namespace Row
variable {name : FieldName} {offset width : Int} {scale : Scale} {flags : Flags} {row : Row}

theorem ofInts_eq_ok_iff : ofInts name offset width scale flags = .ok row ↔
    (row.name = name ∧ row.scale = scale ∧ row.flags = flags) ∧
      offset = row.span.offset ∧ width = row.span.width := by
  constructor
  · intro h
    unfold ofInts at h
    split at h
    · cases h
    · split at h
      · cases h
      · split at h
        · cases h
        · cases h
          refine ⟨⟨rfl, rfl, rfl⟩, ?_, ?_⟩ <;> simp only <;> omega
  · rintro ⟨⟨rfl, rfl, rfl⟩, rfl, rfl⟩
    have hpos := row.span.width_pos
    have hfits := row.span.fits
    have hnarrow := row.narrow
    rw [ofInts, dif_neg (by omega), dif_neg (by omega), dif_neg (by omega)]
    rfl

theorem exists_ofInts_eq_ok_iff : (∃ row, ofInts name offset width scale flags = .ok row) ↔
    (0 ≤ offset ∧ offset ≤ 31) ∧ (1 ≤ width ∧ width ≤ 16) ∧ offset + width ≤ 32 := by
  constructor
  · rintro ⟨row, h⟩
    obtain ⟨-, rfl, rfl⟩ := ofInts_eq_ok_iff.1 h
    have hpos := row.span.width_pos
    have hfits := row.span.fits
    have hnarrow := row.narrow
    omega
  · intro h
    refine ⟨⟨name, ⟨offset.toNat, width.toNat, by omega, by omega⟩, scale, flags, ?_⟩,
      ofInts_eq_ok_iff.2 ⟨⟨rfl, rfl, rfl⟩, ?_, ?_⟩⟩ <;> simp only <;> omega

/-- The row's field, read with the check of its place. -/
def decodeChecked (row : Row) (w : Word) : Except SpanError DecodedField :=
  (w.readAt row.span.offset row.span.width).map fun raw => ⟨row.name, raw, row.scale.display raw⟩

theorem decodeChecked_eq (row : Row) (w : Word) : row.decodeChecked w = .ok (row.decode w) := by
  rw [decodeChecked, Word.readAt_span]
  rfl

/-- The word with the row's value, written with the packer's checks: nothing without an attribute, a
flag to a single bit that has no unit, and a number to any other place. -/
def packChecked (row : Row) (w : Word) (text : Option String) (n : Nat) : Except PackError Word :=
  if text.isNone then .ok w
  else if row.scale = .unitless ∧ row.span.width = 1 then w.step (.flag (n != 0) row.span.offset)
  else w.step (.number n row.span.offset row.span.width)

theorem convert_flag {text : Option String} {n : Nat} (hs : row.scale = .unitless)
    (hw : row.span.width = 1) (hn : (row.convert text).outcome = .ok n) : n = 0 ∨ n = 1 := by
  have hlinear : row.scale ≠ .halvedQuarterVolt := by simp [hs]
  rw [convert_outcome hlinear] at hn
  split at hn
  · cases hn
  · rw [← Except.ok.inj hn, value_of_unitless hs, if_pos hw]
    split
    · exact .inl rfl
    · exact .inr rfl

/-- The value of the row's own attribute is never refused. -/
theorem packChecked_eq {text : Option String} {n : Nat} (hn : (row.convert text).outcome = .ok n)
    (w : Word) : row.packChecked w text n = .ok (w.write row.span n) := by
  have hzero : w.write row.span 0 = w := by simp [Word.write]
  cases text with
  | none =>
    rw [← Except.ok.inj hn, hzero]
    rfl
  | some text =>
    have hsome : ¬(some text).isNone = true := Bool.false_ne_true
    rw [packChecked, if_neg hsome]
    split
    · next h =>
      obtain ⟨hs, hw⟩ := h
      rcases convert_flag hs hw hn with rfl | rfl
      · rw [hzero]
        rfl
      · have hstep := w.step_number row.span 1
        rw [hw] at hstep
        exact hstep
    · exact w.step_number row.span n

end Row

/-- Encodes row by row, each step with the packer's checks. -/
def encodeRowsChecked (attrs : Attributes) :
    Word → List Row → Noted (EncodeError ⊕ PackError) Word
  | w, [] => pure w
  | w, row :: rows => do
    let text := attrs.get? row.name.text
    let n ← (row.convert text).mapError .inl
    let w ← Traced.ofExcept ((row.packChecked w text n).mapError .inr)
    encodeRowsChecked attrs w rows

/-- The packer's checks fail on no row, whatever the attributes say. -/
theorem encodeRowsChecked_eq (attrs : Attributes) (w : Word) (rows : List Row) :
    encodeRowsChecked attrs w rows = (encodeRows attrs w rows).mapError .inl := by
  induction rows generalizing w with
  | nil => rfl
  | cons row rows ih =>
    rw [encodeRowsChecked, encodeRows, Traced.mapError_bind]
    apply Traced.bind_congr_of_ok
    intro n hn
    rw [Traced.outcome_mapError_eq_ok_iff] at hn
    rw [Row.packChecked_eq hn]
    exact (pure_bind _ _).trans (ih _)

/-- A row is accepted for exactly the places of up to sixteen bits inside the word. Every accepted
row can be read from every word, without exceeding its mask, and written with every number, of which
it holds what the mask keeps. So no list of rows can fail a check of packing on the way through
encoding or decoding. -/
theorem Row.ofInts_packs (name : FieldName) (offset width : Int) (scale : Scale) (flags : Flags) :
    ((∃ row, ofInts name offset width scale flags = .ok row) ↔
      (0 ≤ offset ∧ offset ≤ 31) ∧ (1 ≤ width ∧ width ≤ 16) ∧ offset + width ≤ 32) ∧
    (∀ row, ofInts name offset width scale flags = .ok row → ∀ (w : Word) (v : Nat),
      (∃ n, w.readAt offset width = .ok n ∧ n ≤ row.span.mask) ∧
      row.span.mask <<< offset.toNat < 2 ^ 32 ∧
      ∃ w', w.writeNumber v offset width = .ok w' ∧
        (w.readAt offset width = .ok 0 → w'.readAt offset width = .ok (v &&& row.span.mask))) ∧
    ∀ rows : List Row,
      (∀ row ∈ rows,
        ofInts row.name row.span.offset row.span.width row.scale row.flags = .ok row) ∧
      (∀ w : Word, rows.mapM (·.decodeChecked w) = .ok (rows.map (·.decode w))) ∧
      ∀ (attrs : Attributes) (w : Word),
        encodeRowsChecked attrs w rows = (encodeRows attrs w rows).mapError .inl := by
  refine ⟨exists_ofInts_eq_ok_iff, ?_, fun rows => ⟨?_, ?_, ?_⟩⟩
  · intro row h w v
    obtain ⟨-, rfl, rfl⟩ := ofInts_eq_ok_iff.1 h
    refine ⟨⟨w.read row.span, w.readAt_span row.span, ?_⟩, row.span.mask_shiftLeft_lt,
      w.write row.span v, w.step_number row.span v, ?_⟩
    · exact Nat.le_sub_one_of_lt (w.read_lt row.span)
    · intro hclear
      rw [Word.readAt_span] at hclear
      rw [Word.readAt_span, Word.read_write_self (Except.ok.inj hclear), Span.and_mask]
  · exact fun row _ => ofInts_eq_ok_iff.2 ⟨⟨rfl, rfl, rfl⟩, rfl, rfl⟩
  · intro w
    simp only [decodeChecked_eq]
    exact List.mapM_pure
  · exact fun attrs w => encodeRowsChecked_eq attrs w rows

/-- A row of the widest kind at the upper end, into which a number too large is written. -/
theorem Row.ofInts_packs_top : ∃ row, ofInts .voltage 16 16 .unitless {} = .ok row ∧
    row.span.mask <<< 16 < 2 ^ 32 ∧
    ∃ w', Word.writeNumber 0x0000FFFF#32 0x1ABCD 16 16 = .ok w' ∧
      w'.readAt 16 16 = .ok 0xABCD := by
  obtain ⟨haccepted, hpacks, -⟩ := ofInts_packs .voltage 16 16 .unitless {}
  obtain ⟨row, hrow⟩ := haccepted.2 (by decide)
  obtain ⟨-, hmask, w', hw', hread⟩ := hpacks row hrow 0x0000FFFF#32 0x1ABCD
  have hkept : 0x1ABCD &&& row.span.mask = 0xABCD := by
    obtain ⟨-, -, hwidth⟩ := ofInts_eq_ok_iff.1 hrow
    rw [Span.mask, ← Int.ofNat_inj.1 hwidth]
    rfl
  refine ⟨row, hrow, hmask, w', hw', ?_⟩
  rw [hread rfl, hkept]

end PowerDelivery
