import PowerDelivery.FieldName
import PowerDelivery.Scale
import PowerDelivery.Word

/-! # Rows: where a field sits, how it is shown and when it applies -/
namespace PowerDelivery

structure Flags where
  groupStart : Bool := false
  sourceOnly : Bool := false
  sinkOnly : Bool := false
  continueGroup : Bool := false
  deriving DecidableEq, Repr

structure Row where
  name : FieldName
  span : Span
  scale : Scale
  flags : Flags
  narrow : span.width ≤ 16
  deriving DecidableEq, Repr

inductive RowError
  | offset (name : FieldName) (offset : Int)
  | width (name : FieldName) (width : Int)
  | overrun (name : FieldName)
  deriving DecidableEq, Repr

def RowError.message : RowError → String
  | offset name n => s!"{name.text}: bit_offset must be 0-31, got {n}"
  | width name n => s!"{name.text}: bit_width must be 1-16, got {n}"
  | overrun name => s!"{name.text}: field runs past bit 31"

namespace Row

def placed (name : FieldName) (offset width : Nat) (scale : Scale) (flags : Flags)
    (h : (0 < width ∧ width ≤ 16) ∧ offset + width ≤ 32) : Row :=
  ⟨name, ⟨offset, width, h.1.1, h.2⟩, scale, flags, h.1.2⟩

def ofInts (name : FieldName) (offset width : Int) (scale : Scale) (flags : Flags) :
    Except RowError Row :=
  if ho : offset < 0 ∨ 31 < offset then .error (.offset name offset)
  else if hw : width < 1 ∨ 16 < width then .error (.width name width)
  else if h : 32 < offset + width then .error (.overrun name)
  else
    .ok ⟨name, ⟨offset.toNat, width.toNat, by omega, by omega⟩, scale, flags, by simp; omega⟩

/-- Whether the row is kept for a side: the capability role, or the giveback flag of a request. -/
def appliesTo (row : Row) (side : Bool) : Bool :=
  if row.flags.sourceOnly then side
  else if row.flags.sinkOnly then !side
  else true

end Row
end PowerDelivery
