import PowerDelivery.Check
import PowerDelivery.DataObject

/-! # Data objects built from records -/
namespace PowerDelivery

def DecodedField.ofRecord (r : Record) : Checked DecodedField :=
  let rest := Checked.both (fun display () => display)
    (r.required "display_value" Value.readText)
    (r.onlyNames ["name", "raw_bits", "display_value"])
  let rest := Checked.both Prod.mk (r.required "raw_bits" Value.readNat) rest
  Checked.both (fun name (raw, display) => ⟨name, raw, display⟩)
    (r.required "name" Value.readField) rest

namespace Value

def readDecodedField : Value → Checked DecodedField
  | record r => DecodedField.ofRecord r
  | _ => .refuse (.recordType "DecodedField")

def readDecodedFields : Value → Checked (List DecodedField)
  | list vs => Checked.items readDecodedField 0 vs
  | _ => .refuse .listType

def readObjectKind (v : Value) : Checked ObjectKind :=
  let kinds : List ObjectKind := [.pdo, .rdo]
  let named := match v with
    | text s => kinds.find? (·.text == s)
    | _ => .none
  match named with
  | some kind => .ok kind
  | .none => .refuse (.notLiteral (kinds.map ObjectKind.text))

end Value

def DataObject.ofRecord (r : Record) : Checked DataObject :=
  let rest := Checked.both (fun fields () => fields)
    (r.withDefault "fields" [] Value.readDecodedFields)
    (r.onlyNames ["kind", "word", "variant", "fields"])
  let rest := Checked.both Prod.mk (r.required "variant" Value.readText) rest
  let rest := Checked.both Prod.mk (r.required "word" Value.readWord) rest
  Checked.both (fun kind (word, variant, fields) => ⟨kind, word, variant, fields⟩)
    (r.required "kind" Value.readObjectKind) rest

end PowerDelivery
