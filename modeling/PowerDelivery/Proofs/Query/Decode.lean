import PowerDelivery.Proofs.Decoding.Total
import PowerDelivery.Proofs.Literal
import PowerDelivery.Query

/-! # Decoding what a checked query asks for

The check of a query and the check of the decoder agree on what a word is: the number that a
query's word was given as, by a literal or by a value equal to it, is one that the decoder takes. -/
namespace PowerDelivery

/-- The number that a value stands for as the word of a query. -/
inductive Value.StandsFor : Value → Int → Prop
  | literal {s : String} {n : Nat} (number : Literal.number? (Text.trim s.toList) = some (.ok n)) :
    StandsFor (.text s) n
  | equal {v : Value} {n : Int} (int : v.toInt? = some n) : StandsFor v n

namespace Value

/-- Other values than texts are read as integers only if they are equal to them. -/
theorem toInt?_of_readInt {v : Value} (ht : ∀ s, v ≠ text s) {n : Int} (h : v.readInt = .ok n) :
    v.toInt? = some n := by
  cases v with
  | bool b => exact congrArg some (Except.ok.inj h)
  | int m => exact congrArg some (Except.ok.inj h)
  | float x =>
    simp only [readInt] at h
    split at h
    · cases h
    · split at h
      · next m hm =>
        split at h
        · rw [toInt?, hm, Except.ok.inj h]
        · cases h
      · cases h
  | text s => exact absurd rfl (ht s)
  | none => cases h
  | list items => cases h
  | record entries => cases h
  | variant v => cases h
  | reference r => cases h
  | field f => cases h

theorem standsFor_of_readQueryWord {v : Value} {w : Word} (h : v.readQueryWord = .ok w) :
    v.StandsFor w.toNat := by
  by_cases ht : ∃ s, v = text s
  · obtain ⟨s, rfl⟩ := ht
    simp only [readQueryWord] at h
    split at h
    · next w' hs => exact .literal (Literal.parseWord_eq_ok_iff.1 (Except.ok.inj h ▸ hs))
    · cases h
  · have hv : ∀ s, v ≠ text s := fun s hs => ht ⟨s, hs⟩
    have hread : v.readQueryWord = v.readWord := by
      unfold readQueryWord
      split
      · exact absurd rfl (hv _)
      · rfl
    exact .equal (toInt?_of_readInt hv (readWord_eq_ok_iff.1 (hread ▸ h)))

end Value

theorem PdoQuery.word_of_ofRecord {r : Record} {q : PdoQuery} (h : ofRecord r = .ok q) :
    ∃ v, r.lookup "word" = some v ∧ v.readQueryWord = .ok q.word := by
  obtain ⟨w, rest, hw, -, rfl⟩ := Checked.both_eq_ok_iff.1 h
  exact Record.required_eq_ok_iff.1 hw

theorem RdoQuery.word_of_ofRecord {r : Record} {q : RdoQuery} (h : ofRecord r = .ok q) :
    ∃ v, r.lookup "word" = some v ∧ v.readQueryWord = .ok q.word := by
  obtain ⟨w, reference, hw, -, rfl⟩ := Checked.both_eq_ok_iff.1 h
  exact Record.required_eq_ok_iff.1 hw

/-- A query that passes its check can be decoded. The decoder takes the number that the word was
given as, and the result is that word, decoded as what the query says. -/
theorem query_decodes :
    (∀ (r : Record) (q : PdoQuery), PdoQuery.ofRecord r = .ok q →
      ∃ v n d, r.lookup "word" = some v ∧ v.StandsFor n ∧ n = q.word.toNat ∧
        (decodeCapability (.int n) q.first (some q.source) (q.variant.map .known)).outcome =
          .ok d ∧
        d.word = q.word ∧ d.variant = (q.variant.getD q.word.classify).text ∧
        d.ReadBy q.word ((q.variant.getD q.word.classify).rows q.first q.source) ∧
        ∀ f ∈ d.fields, 0 ≤ (f.raw : Int)) ∧
    ∀ (r : Record) (q : RdoQuery), RdoQuery.ofRecord r = .ok q →
      ∃ v n d, r.lookup "word" = some v ∧ v.StandsFor n ∧ n = q.word.toNat ∧
        (decodeRequest (.int n) (.known q.reference)).outcome = .ok d ∧
        d.word = q.word ∧ d.variant = q.reference.text ∧
        d.ReadBy q.word (q.reference.rows (q.word.read givebackSpan == 1)) ∧
        (∀ f ∈ d.fields, 0 ≤ (f.raw : Int)) ∧ d.isEmpty = false := by
  constructor
  · intro r q h
    obtain ⟨v, hv, hread⟩ := PdoQuery.word_of_ofRecord h
    exact ⟨v, q.word.toNat, q.word.capability q.first q.source (q.variant.getD q.word.classify), hv,
      Value.standsFor_of_readQueryWord hread, rfl,
      q.word.decodeCapability_of_word_outcome q.first q.source q.variant, rfl, rfl,
      DataObject.readBy_of_fields_eq rfl, fun f _ => Int.natCast_nonneg f.raw⟩
  · intro r q h
    obtain ⟨v, hv, hread⟩ := RdoQuery.word_of_ofRecord h
    exact ⟨v, q.word.toNat, q.word.request q.reference, hv,
      Value.standsFor_of_readQueryWord hread, rfl, q.word.decodeRequest_of_reference q.reference,
      rfl, rfl, DataObject.readBy_of_fields_eq rfl, fun f _ => Int.natCast_nonneg f.raw,
      q.word.isEmpty_request q.reference⟩

/-- A word given as a float, in a query that overrides what its bits say. -/
def floatQuery : Record :=
  [("variant", .text "pps"), ("word", .float (.finite false 51350 1)), ("source", .int 0),
    ("first", .float (.finite false 1 0))]

/-- A word given as a truth value, which the decoder itself would not take. -/
def truthQuery : Record := [("word", .bool true), ("reference", .text " e ")]

theorem query_decodes_coerced :
    (∃ n d, (Value.float (.finite false 51350 1)).StandsFor n ∧
      (decodeCapability (.int n) true (some false) (some (.known .pps))).outcome = .ok d ∧
      d.word = 0x0001912C#32 ∧ d.variant = "pps") ∧
    ∃ n d, (Value.bool true).StandsFor n ∧
      (decodeRequest (.int n) (.known .avs)).outcome = .ok d ∧ d.word = 1#32 ∧
      d.isEmpty = false := by
  obtain ⟨hpdo, hrdo⟩ := query_decodes
  obtain ⟨v, n, d, hv, hn, -, hd, hw, hvariant, -⟩ :=
    hpdo floatQuery ⟨0x0001912C#32, true, false, some .pps⟩ rfl
  obtain ⟨v', n', d', hv', hn', -, hd', hw', -, -, -, hne⟩ := hrdo truthQuery ⟨1#32, .avs⟩ rfl
  cases hv
  cases hv'
  exact ⟨⟨n, d, hn, hd, hw, hvariant⟩, n', d', hn', hd', hw', hne⟩

end PowerDelivery
