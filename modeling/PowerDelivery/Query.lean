import PowerDelivery.Check
import PowerDelivery.Decode
import PowerDelivery.Literal
import PowerDelivery.ReferenceCode

/-! # Queries: checked requests to decode a word -/
namespace PowerDelivery

/-- A word given as text is a literal. -/
def Value.readQueryWord (v : Value) : Checked Word :=
  match v with
  | text s => match Literal.parseWord s .none with
    | .ok w => .ok w
    | .error e => .refuse (.rejected e.message)
  | v => v.readWord

/-- A text of one character is a letter code. -/
def Value.readQueryReference (v : Value) : Checked Reference :=
  match v with
  | text s =>
    if (Text.trim s.toList).length = 1 then
      match v.toReferenceByCode with
      | .ok r => .ok r
      | .error e => .refuse (.rejected e.message)
    else v.readReference
  | v => v.readReference

def Value.readOptionalVariant : Value → Checked (Option Variant)
  | none => .ok .none
  | v => v.readVariant.map some

structure PdoQuery where
  word : Word
  first : Bool
  source : Bool
  variant : Option Variant
  deriving DecidableEq, Repr

structure RdoQuery where
  word : Word
  reference : Reference
  deriving DecidableEq, Repr

def LiteralError.ofIssues (literal : Value) (operation : String) (issues : List Issue) :
    LiteralError :=
  ⟨literal, .issue (issues.headD ⟨.missing, []⟩), some operation⟩

/-- A query's parts cannot be set again. -/
def Issue.frozen (name : String) : Issue := ⟨.frozen, [name]⟩

namespace PdoQuery

def ofRecord (r : Record) : Checked PdoQuery :=
  let rest := Checked.both (fun variant () => variant)
    (r.withDefault "variant" none Value.readOptionalVariant)
    (r.onlyNames ["word", "first", "source", "variant"])
  let rest := Checked.both Prod.mk (r.withDefault "source" true Value.readBool) rest
  let rest := Checked.both Prod.mk (r.withDefault "first" false Value.readBool) rest
  Checked.both (fun word (first, source, variant) => ⟨word, first, source, variant⟩)
    (r.required "word" Value.readQueryWord) rest

def ofLiteral (literal : Value) (r : Record) : Except LiteralError PdoQuery :=
  (ofRecord (("word", literal) :: r)).mapError (.ofIssues literal "PDO decode")

def parts (first source : Bool) (variant : Option Variant) : Record :=
  [("first", .bool first), ("source", .bool source), ("variant", variant.elim .none .variant)]

def decode {ε : Type} (q : PdoQuery) : Noted ε DataObject :=
  q.word.decodeCapability q.first q.source (q.variant.getD q.word.classify)

end PdoQuery

namespace RdoQuery

def ofRecord (r : Record) : Checked RdoQuery :=
  let rest := Checked.both (fun reference () => reference)
    (r.required "reference" Value.readQueryReference) (r.onlyNames ["word", "reference"])
  Checked.both mk (r.required "word" Value.readQueryWord) rest

def ofLiteral (literal reference : Value) : Except LiteralError RdoQuery :=
  (ofRecord [("word", literal), ("reference", reference)]).mapError
    (.ofIssues literal s!"RDO decode (reference {reference.plain})")

def decode (q : RdoQuery) : DataObject := q.word.request q.reference

end RdoQuery
end PowerDelivery
