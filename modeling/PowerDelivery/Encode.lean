import PowerDelivery.Attribute
import PowerDelivery.Table

/-! # Encoding attributes as a capability word -/
namespace PowerDelivery

inductive EncodeError
  | tooLong (error : TooLong)
  | noSide (error : NoSide)
  | scale (error : ScaleError)
  deriving DecidableEq, Repr

def EncodeError.message : EncodeError → String
  | tooLong e => e.message
  | noSide e => e.message
  | scale e => e.message

/-- The value that an attribute gives a row, before it is cut to the row's width: a flag is set by
any number but zero, and a scaled value counts whole steps. -/
def Row.convert (row : Row) (text : Option String) : Noted EncodeError Nat :=
  if text.isNone then pure 0
  else if row.scale = .unitless then do
    let n ← (Attribute.read text none).mapError .tooLong
    return if row.span.width = 1 then (if n = 0 then 0 else 1) else n
  else do
    let n ← (Attribute.read text row.name.unit?).mapError .tooLong
    let step ← Traced.ofExcept (row.scale.step.mapError .scale)
    return n / step

def encodeRows (attrs : Attributes) : Word → List Row → Noted EncodeError Word
  | w, [] => pure w
  | w, row :: rows => do
    let n ← row.convert (attrs.get? row.name.text)
    encodeRows attrs (w.write row.span n) rows

/-- A variant without a selector has no encoding, and its word is zero. -/
def encode (variant : Choice Variant) (side : Option Bool) (position : Int) (attrs : Attributes) :
    Noted EncodeError Word :=
  match variant with
  | .known v =>
    match v.selector? with
    | some selector => do
      let handle := Handle.ofVariant v (position == 1)
      let rows ← Traced.ofExcept ((handle.select .standard side).mapError .noSide)
      encodeRows attrs selector rows
    | none => unencoded
  | .other .. => unencoded
where
  unencoded : Noted EncodeError Word := do
    Traced.tell (.noEncoding variant.plain)
    return 0

end PowerDelivery
