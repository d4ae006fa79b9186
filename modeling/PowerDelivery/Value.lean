import PowerDelivery.Binary64.Shortest
import PowerDelivery.FieldName
import PowerDelivery.Variant

/-! # Values that a caller may hand over where a word, a name or a flag is expected -/
namespace PowerDelivery

inductive Value
  | none
  | bool (b : Bool)
  | int (n : Int)
  | float (x : Binary64)
  | text (s : String)
  | list (items : List Value)
  | record (entries : List (String × Value))
  | variant (v : Variant)
  | reference (r : Reference)
  | field (f : FieldName)
  deriving Inhabited

namespace Value

def typeName : Value → String
  | none => "NoneType"
  | bool _ => "bool"
  | int _ => "int"
  | float _ => "float"
  | text _ => "str"
  | list _ => "list"
  | record _ => "dict"
  | variant _ => Vocabulary.title Variant
  | reference _ => Vocabulary.title Reference
  | field _ => Vocabulary.title FieldName

def memberShown {α : Type} [Vocabulary α] (a : α) : String :=
  s!"<{Vocabulary.qualifiedName a}: {Text.quoted (Vocabulary.text a)}>"

mutual

/-- The value as it is shown inside a message, texts quoted. -/
def shown : Value → String
  | none => "None"
  | bool b => if b then "True" else "False"
  | int n => toString n
  | float x => x.text
  | text s => Text.quoted s
  | list items => "[" ++ ", ".intercalate (itemsShown items) ++ "]"
  | record entries => "\x7b" ++ ", ".intercalate (entriesShown entries) ++ "\x7d"
  | variant v => memberShown v
  | reference r => memberShown r
  | field f => memberShown f

def itemsShown : List Value → List String
  | [] => []
  | v :: vs => v.shown :: itemsShown vs

def entriesShown : List (String × Value) → List String
  | [] => []
  | (k, v) :: rest => s!"{Text.quoted k}: {v.shown}" :: entriesShown rest

end

/-- The value as it stands alone in a message: a text is itself, a member its qualified name. -/
def plain : Value → String
  | text s => s
  | variant v => Vocabulary.qualifiedName v
  | reference r => Vocabulary.qualifiedName r
  | field f => Vocabulary.qualifiedName f
  | v => v.shown

/-- Nothing, zero and what is empty do not hold. -/
def holds : Value → Bool
  | none => false
  | bool b => b
  | int n => n != 0
  | float x => x.toInt? != some 0
  | text s => !s.isEmpty
  | list items => !items.isEmpty
  | record entries => !entries.isEmpty
  | _ => true

def memberText? : Value → Option String
  | variant v => some v.text
  | reference r => some r.text
  | field f => some f.text
  | _ => .none

def toInt? : Value → Option Int
  | bool b => some (if b then 1 else 0)
  | int n => some n
  | float x => x.toInt?
  | _ => .none

/-- Whether the value can be looked up in a table. -/
def isKey : Value → Bool
  | list _ | record _ => false
  | _ => true

end Value

class Enumerated (α : Type) where
  ofValue? : Value → Option α

instance : Enumerated Variant := ⟨fun | .variant v => some v | _ => .none⟩

instance : Enumerated Reference := ⟨fun | .reference r => some r | _ => .none⟩

instance : Enumerated FieldName := ⟨fun | .field f => some f | _ => .none⟩

namespace Value
variable (α : Type) [Enumerated α]

def isUnknown (v : Value) : Bool := v.isKey && (Enumerated.ofValue? v : Option α).isNone

/-- The member that a value is, or that a text writes. -/
def member? [Vocabulary α] (v : Value) : Option α :=
  (Enumerated.ofValue? v).or <| match v with
    | text s => Vocabulary.ofText? s
    | _ => .none

end Value

/-- A name given from outside: a member of its vocabulary, or what is looked up among them in
vain. -/
inductive Choice (α : Type) [Enumerated α]
  | known (a : α)
  | other (v : Value) (unknown : v.isUnknown α = true)

namespace Choice
variable {α : Type} [Enumerated α]

def plain [Vocabulary α] : Choice α → String
  | known a => Vocabulary.qualifiedName a
  | other v _ => v.plain

/-- Nothing leaves the choice to others. -/
def given? : Choice α → Option (Choice α)
  | other .none _ => none
  | c => some c

end Choice

/-- A list or a record is no choice. -/
def Value.choice? (α : Type) [Vocabulary α] [Enumerated α] (v : Value) : Option (Choice α) :=
  match v.member? α with
  | some a => some (.known a)
  | .none => if h : v.isUnknown α = true then some (.other v h) else .none

inductive WordError
  | type (name : String)
  | range (value : Int)
  deriving DecidableEq, Repr

def WordError.message : WordError → String
  | type name => s!"word must be an int, got {name}"
  | range n => s!"word {n} does not fit in 32 bits"

/-- A word is an integer, which a truth value is not. -/
def Value.toWord : Value → Except WordError Word
  | int n => if 0 ≤ n ∧ n < 2 ^ 32 then .ok (BitVec.ofNat 32 n.toNat) else .error (.range n)
  | v => .error (.type v.typeName)

end PowerDelivery
