import PowerDelivery.Decode
import PowerDelivery.Proofs.Outcome

/-! # Decoding a word whose variant is known -/
namespace PowerDelivery

namespace Word
variable (w : Word) (first side : Bool)

theorem toWord_toNat : (Value.int w.toNat).toWord = .ok w := by
  have hw : 0 ≤ (w.toNat : Int) ∧ (w.toNat : Int) < 2 ^ 32 := by omega
  rw [Value.toWord, if_pos hw, Int.toNat_natCast, BitVec.ofNat_toNat, BitVec.setWidth_eq]

/-- An override goes before what the word's own bits say. -/
theorem decodeCapability_of_word (variant : Option Variant) :
    PowerDelivery.decodeCapability (.int w.toNat) first (some side) (variant.map .known) =
      w.decodeCapability first side (variant.getD w.classify) := by
  rw [PowerDelivery.decodeCapability, toWord_toNat]
  cases variant <;> exact pure_bind w _

theorem decodeCapability_of_variant (v : Variant) :
    PowerDelivery.decodeCapability (.int w.toNat) first (some side) (some (.known v)) =
      w.decodeCapability first side v :=
  w.decodeCapability_of_word first side (some v)

theorem decodeCapability_of_classify :
    PowerDelivery.decodeCapability (.int w.toNat) first (some side) none =
      w.decodeCapability first side w.classify :=
  w.decodeCapability_of_word first side none

theorem decodeRequest_of_word (r : Reference) :
    decodeRequest (.int w.toNat) (.known r) = pure (w.request r) := by
  rw [decodeRequest, toWord_toNat]
  exact pure_bind w _

theorem decodeRequest_of_reference (r : Reference) :
    (decodeRequest (.int w.toNat) (.known r)).outcome = .ok (w.request r) := by
  rw [decodeRequest_of_word, Traced.outcome_pure]

theorem decodeCapability_eq {ε : Type} (v : Variant) :
    (w.decodeCapability first side v : Noted ε DataObject) =
      ⟨if v = .null then [.noVariantBlock w v.text] else [], .ok (w.capability first side v)⟩ := by
  unfold decodeCapability
  split <;> rfl

@[simp] theorem decodeCapability_outcome {ε : Type} (v : Variant) :
    (w.decodeCapability first side v : Noted ε DataObject).outcome =
      .ok (w.capability first side v) := by
  rw [decodeCapability_eq]

theorem decodeCapability_of_word_outcome (variant : Option Variant) :
    (PowerDelivery.decodeCapability (.int w.toNat) first (some side) (variant.map .known)).outcome =
      .ok (w.capability first side (variant.getD w.classify)) := by
  rw [decodeCapability_of_word, decodeCapability_outcome]

end Word
end PowerDelivery
