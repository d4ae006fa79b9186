import PowerDelivery.DataObject.Check

/-! # Data objects as records

The check of records accepts what a data object writes, and gives the object back. -/
namespace PowerDelivery

namespace DecodedField

def record (f : DecodedField) : Record :=
  [("name", .field f.name), ("raw_bits", .int f.raw), ("display_value", .text f.display)]

theorem ofRecord_record (f : DecodedField) : ofRecord f.record = .ok f := by
  have hname : f.record.required "name" Value.readField = .ok f.name := rfl
  have hraw : f.record.required "raw_bits" Value.readNat = .ok f.raw :=
    Record.required_eq_ok_iff.2 ⟨_, rfl, Value.readNat_eq_ok_iff.2 rfl⟩
  have hdisplay : f.record.required "display_value" Value.readText = .ok f.display := rfl
  have honly : f.record.onlyNames ["name", "raw_bits", "display_value"] = .ok () := rfl
  simp only [ofRecord, hname, hraw, hdisplay, honly]
  rfl

end DecodedField

namespace DataObject

def record (o : DataObject) : Record :=
  [("kind", .text o.kind.text), ("word", .int o.word.toNat), ("variant", .text o.variant),
   ("fields", .list (o.fields.map fun f => .record f.record))]

/-- Every data object passes the check of its record. -/
theorem ofRecord_record (o : DataObject) : ofRecord o.record = .ok o := by
  have hkind : o.record.required "kind" Value.readObjectKind = .ok o.kind :=
    Record.required_eq_ok_iff.2 ⟨_, rfl, by cases o.kind <;> rfl⟩
  have hword : o.record.required "word" Value.readWord = .ok o.word :=
    Record.required_eq_ok_iff.2 ⟨_, rfl, Value.readWord_eq_ok_iff.2 rfl⟩
  have hvariant : o.record.required "variant" Value.readText = .ok o.variant := rfl
  have hfields : o.record.withDefault "fields" [] Value.readDecodedFields = .ok o.fields :=
    Record.withDefault_of_lookup rfl (Checked.items_map DecodedField.ofRecord_record 0 o.fields) []
  have honly : o.record.onlyNames ["kind", "word", "variant", "fields"] = .ok () := rfl
  simp only [ofRecord, hkind, hword, hvariant, hfields, honly]
  rfl

end DataObject
end PowerDelivery
