import PowerDelivery.Proofs.DataObject.Record
import PowerDelivery.Proofs.Decoding
import PowerDelivery.Proofs.Layout
import PowerDelivery.Proofs.Word.Packing
import Mathlib.Data.List.Forall2

/-! # When decoding fails, and when it finds nothing

A value is refused exactly if it is no word. Every word is decoded, and no check on the way can
fail: the rows lie inside the word, and the object passes the check of its record. Only the null
variant has no fields. -/
namespace PowerDelivery

/-- An integer of 32 bits, which a truth value is not. -/
def Value.IsWord (v : Value) : Prop := ∃ n : Int, v = .int n ∧ 0 ≤ n ∧ n < 2 ^ 32

namespace Value
variable {v : Value}

theorem toWord_eq_ok_iff {w : Word} : v.toWord = .ok w ↔ v = .int w.toNat := by
  constructor
  · intro h
    unfold toWord at h
    split at h
    · next n =>
      split at h
      · next hn =>
        have hw : n.toNat = w.toNat :=
          BitVec.nat_eq_toNat.2 ⟨by omega, (Except.ok.inj h).symm⟩
        rw [← hw, Int.toNat_of_nonneg hn.1]
      · cases h
    · cases h
  · rintro rfl
    exact w.toWord_toNat

theorem isWord_iff : v.IsWord ↔ ∃ w : Word, v = .int w.toNat := by
  constructor
  · rintro ⟨n, rfl, h0, hn⟩
    have hw : n.toNat = (BitVec.ofNat 32 n.toNat).toNat := BitVec.nat_eq_toNat.2 ⟨by omega, rfl⟩
    exact ⟨BitVec.ofNat 32 n.toNat, by rw [← hw, Int.toNat_of_nonneg h0]⟩
  · rintro ⟨w, rfl⟩
    have hw := w.isLt
    exact ⟨w.toNat, rfl, by omega, by omega⟩

theorem toWord_eq_error_iff : (∃ e, v.toWord = .error e) ↔ ¬v.IsWord := by
  rw [isWord_iff, not_exists]
  simp only [← toWord_eq_ok_iff]
  cases v.toWord <;> simp

end Value

/-- Fails exactly if the value is no word, always with an error about the word, and reports nothing
then. -/
structure RefusesAllButWords (value : Value) (x : Noted DecodeError DataObject) : Prop where
  refuses_iff : (∃ e, x.outcome = .error e) ↔ ¬value.IsWord
  reason {e : DecodeError} (h : x.outcome = .error e) : ∃ why, e = .word why
  silent {e : DecodeError} (h : x.outcome = .error e) : x.events = []

/-- A decoder that first reads the word and fails on nothing else. -/
theorem refusesAllButWords_bind (value : Value) {f : Word → Noted DecodeError DataObject}
    (h : ∀ w, ∃ d, (f w).outcome = .ok d) :
    RefusesAllButWords value (Traced.ofExcept (value.toWord.mapError .word) >>= f) := by
  cases hw : value.toWord with
  | error why =>
    exact ⟨iff_of_true ⟨_, rfl⟩ (Value.toWord_eq_error_iff.1 ⟨why, hw⟩),
      fun he => ⟨why, (Except.error.inj he).symm⟩, fun _ => rfl⟩
  | ok w =>
    change RefusesAllButWords value (pure w >>= f)
    rw [pure_bind]
    have hno (e : DecodeError) : (f w).outcome ≠ .error e := by
      obtain ⟨d, hd⟩ := h w
      rw [hd]
      exact nofun
    have hword : value.IsWord := Value.isWord_iff.2 ⟨w, Value.toWord_eq_ok_iff.1 hw⟩
    exact ⟨iff_of_false (fun ⟨e, he⟩ => hno e he) (not_not_intro hword),
      fun he => absurd he (hno _), fun he => absurd he (hno _)⟩

theorem Variant.rows_eq_nil_iff (v : Variant) (first side : Bool) :
    v.rows first side = [] ↔ v = .null := by
  cases v <;> cases first <;> cases side <;> decide

theorem Reference.rows_ne_nil (r : Reference) (giveback : Bool) : r.rows giveback ≠ [] := by
  cases r <;> cases giveback <;> decide

/-- The object is of the word, has one field to a row, read from the row's place by a checked read,
and passes the check of its record. -/
structure DataObject.ReadBy (o : DataObject) (w : Word) (rows : List Row) : Prop where
  word : o.word = w
  fields : List.Forall₂ (fun row f => f.name = row.name ∧
    w.readAt row.span.offset row.span.width = .ok f.raw ∧
    f.display = row.scale.display f.raw) rows o.fields
  record : DataObject.ofRecord o.record = .ok o

theorem DataObject.readBy_of_fields_eq {o : DataObject} {rows : List Row}
    (h : o.fields = rows.map (·.decode o.word)) : o.ReadBy o.word rows := by
  refine ⟨rfl, ?_, o.ofRecord_record⟩
  rw [h, List.forall₂_map_right_iff, List.forall₂_same]
  exact fun row _ => ⟨rfl, o.word.readAt_span row.span, rfl⟩

namespace Word
variable (w : Word)

theorem isEmpty_capability (first side : Bool) (v : Variant) :
    (w.capability first side v).isEmpty = decide (v = .null) := by
  rw [← Bool.coe_iff_coe, decide_eq_true_eq, ← v.rows_eq_nil_iff first side]
  simp [DataObject.isEmpty, capability]

theorem isEmpty_request (r : Reference) : (w.request r).isEmpty = false := by
  have h := r.rows_ne_nil (w.read givebackSpan == 1)
  simpa [DataObject.isEmpty, request] using h

end Word

/-- Whatever is handed over, decoding fails on nothing but a value that is no word. A word is
decoded without a failing check. The null variant alone gives no fields, and that alone is noted. -/
theorem decode_total (first side : Bool) (variant : Option Variant) (r : Reference) :
    (∀ value : Value,
      RefusesAllButWords value (decodeCapability value first (some side) (variant.map .known)) ∧
      RefusesAllButWords value (decodeRequest value (.known r))) ∧
    ∀ w : Word,
      (∃ d, decodeCapability (.int w.toNat) first (some side) (variant.map .known) =
          ⟨if d.isEmpty then [.noVariantBlock w (variant.getD w.classify).text] else [], .ok d⟩ ∧
        (d.isEmpty = true ↔ variant.getD w.classify = .null) ∧
        d.ReadBy w ((variant.getD w.classify).rows first side)) ∧
      ∃ d, decodeRequest (.int w.toNat) (.known r) = ⟨[], .ok d⟩ ∧ d.isEmpty = false ∧
        d.ReadBy w (r.rows (w.read givebackSpan == 1)) := by
  refine ⟨fun value => ⟨?_, ?_⟩, fun w => ⟨?_, ?_⟩⟩
  · apply refusesAllButWords_bind
    intro w
    refine ⟨w.capability first side (variant.getD w.classify), ?_⟩
    cases variant <;> exact w.decodeCapability_outcome first side _
  · apply refusesAllButWords_bind
    exact fun w => ⟨w.request r, rfl⟩
  · refine ⟨w.capability first side (variant.getD w.classify), ?_, ?_,
      DataObject.readBy_of_fields_eq rfl⟩
    · rw [w.decodeCapability_of_word, w.decodeCapability_eq, w.isEmpty_capability]
      simp only [decide_eq_true_eq]
    · rw [w.isEmpty_capability, decide_eq_true_eq]
  · exact ⟨w.request r, w.decodeRequest_of_word r, w.isEmpty_request r,
      DataObject.readBy_of_fields_eq rfl⟩

end PowerDelivery
