import PowerDelivery.DataObject
import PowerDelivery.Table
import PowerDelivery.Traced

/-! # Decoding capability and request words -/
namespace PowerDelivery

inductive DecodeError
  | word (error : WordError)
  | noSide (error : NoSide)
  | noMember (typeName : String)
  deriving DecidableEq, Repr

def DecodeError.message : DecodeError → String
  | word e => e.message
  | noSide e => e.message
  | noMember typeName => s!"'{typeName}' object has no attribute 'value'"

def Row.decode (row : Row) (w : Word) : DecodedField :=
  ⟨row.name, w.read row.span, row.scale.display (w.read row.span)⟩

def givebackSpan : Span := ⟨27, 1, Nat.zero_lt_one, by decide⟩

namespace Word

def capability (w : Word) (first side : Bool) (v : Variant) : DataObject :=
  ⟨.pdo, w, v.text, ((Handle.ofVariant v first).rows .standard side).map (·.decode w)⟩

def request (w : Word) (r : Reference) : DataObject :=
  let giveback := w.read givebackSpan == 1
  ⟨.rdo, w, r.text, ((Handle.ofReference r giveback).rows .standard giveback).map (·.decode w)⟩

/-- Only the null variant has no rows to decode by. -/
def decodeCapability {ε : Type} (w : Word) (first side : Bool) (v : Variant) :
    Noted ε DataObject := do
  if v = .null then Traced.tell (.noVariantBlock w v.text)
  return w.capability first side v

end Word

/-- Decodes as `variant`, or else as the word classifies itself. A member of another vocabulary
stands for a variant without rows. -/
def decodeCapability (word : Value) (first : Bool) (side : Option Bool)
    (variant : Option (Choice Variant)) : Noted DecodeError DataObject := do
  let w ← Traced.ofExcept (word.toWord.mapError .word)
  match (variant.bind Choice.given?).getD (.known w.classify) with
  | .known v =>
    match side with
    | some side => w.decodeCapability first side v
    | none => do
      if v = .null then Traced.tell (.noVariantBlock w v.text)
      Traced.fail (.noSide {})
  | .other x _ =>
    match x.memberText? with
    | none => Traced.fail (.noMember x.typeName)
    | some name => do
      Traced.tell (.noVariantBlock w name)
      let _ ← Traced.ofExcept ((Handle.empty.select .standard side).mapError .noSide)
      return ⟨.pdo, w, name, []⟩

/-- Decodes a request against what it refers to. An unknown reference has no fields. -/
def decodeRequest (word : Value) (reference : Choice Reference) : Noted DecodeError DataObject := do
  let w ← Traced.ofExcept (word.toWord.mapError .word)
  match reference with
  | .known r => return w.request r
  | .other x _ => do
    Traced.tell (.noReferenceBlock w x.plain)
    return ⟨.rdo, w, x.plain, []⟩

end PowerDelivery
