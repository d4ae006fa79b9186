import PowerDelivery.FieldName
import PowerDelivery.Keyed
import PowerDelivery.Note

/-! # Decoded data objects and their views -/
namespace PowerDelivery

structure DecodedField where
  name : FieldName
  raw : Nat
  display : String
  deriving DecidableEq, Repr

def DecodedField.line (f : DecodedField) : String := s!"{f.name.text}={f.display}\n"

/-- A word with its fields. One without fields could not be decoded. -/
structure DataObject where
  kind : ObjectKind
  word : Word
  variant : String
  fields : List DecodedField
  deriving DecidableEq, Repr

namespace DataObject

def isEmpty (o : DataObject) : Bool := o.fields.isEmpty

def names (o : DataObject) : List String := o.fields.map (·.name.text)

def get? (o : DataObject) (name : String) : Option DecodedField :=
  o.fields.find? (·.name.text == name)

/-- A member of the vocabulary asks for the field that it is written as. -/
def getMember? (o : DataObject) (name : FieldName) : Option DecodedField := o.get? name.text

def text (o : DataObject) : String := String.join (o.fields.map DecodedField.line)

/-- Names with displays, each name once. -/
def entries (o : DataObject) : List (String × String) :=
  Keyed.ofList (o.fields.map fun f => (f.name.text, f.display))

end DataObject
end PowerDelivery
