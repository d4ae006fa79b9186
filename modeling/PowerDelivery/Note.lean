import PowerDelivery.Literal
import PowerDelivery.Vocabulary

/-! # Notes: what is reported beside a result -/
namespace PowerDelivery

inductive ObjectKind | pdo | rdo
  deriving DecidableEq, Repr

def ObjectKind.text : ObjectKind → String
  | pdo => "pdo"
  | rdo => "rdo"

instance : Vocabulary ObjectKind := ⟨"ObjectKind", [.pdo, .rdo], ObjectKind.text⟩

inductive Level | debug | info | warning
  deriving DecidableEq, Repr

namespace Level

def rank : Level → Nat
  | debug => 10
  | info => 20
  | warning => 30

def text : Level → String
  | debug => "DEBUG"
  | info => "INFO"
  | warning => "WARNING"

end Level

inductive Note
  | notNumber (text : String)
  | otherUnit (text : String) (unit : Option String)
  | noEncoding (variant : String)
  | noVariantBlock (word : Word) (variant : String)
  | noReferenceBlock (word : Word) (reference : String)
  | undecoded (kind : ObjectKind) (word : Word) (variant : String)
  | unknownAttribute (name : String)
  deriving DecidableEq, Repr

namespace Note

def source : Note → String
  | notNumber .. | otherUnit .. | noEncoding .. => "pdocodec.codec.encoder"
  | noVariantBlock .. | noReferenceBlock .. => "pdocodec.codec.decoder"
  | undecoded .. | unknownAttribute .. => "pdocodec.cli.main"

def level : Note → Level
  | undecoded .. | unknownAttribute .. => .warning
  | _ => .debug

def message : Note → String
  | notNumber text => s!"attribute value {Text.quoted text} is not a number"
  | otherUnit text unit =>
    let wanted := match unit with
      | none | some "" => "none"
      | some unit => unit
    s!"attribute value {Text.quoted text}: expected unit {wanted}"
  | noEncoding variant => s!"no encoding for PDO variant {variant}"
  | noVariantBlock word variant => s!"PDO {word.text}: no field block for variant {variant}"
  | noReferenceBlock word reference => s!"RDO {word.text}: no field block for reference {reference}"
  | undecoded kind word variant => s!"could not decode {kind.text} {word.text} as {variant}"
  | unknownAttribute name => s!"unknown attribute {Text.quoted name} ignored"

def line (n : Note) : String := s!"{n.source}: {n.level.text}: {n.message}\n"

end Note

end PowerDelivery
