import PowerDelivery.Text.Quoted

/-! # Closed sets of names -/
namespace PowerDelivery

/-- Each member of a vocabulary is written as one text, and `title` names the set. -/
class Vocabulary (α : Type) where
  title : String
  members : List α
  text : α → String

/-- A text that no member of the titled vocabulary is written as. -/
structure UnknownName where
  text : String
  title : String
  deriving DecidableEq, Repr

def UnknownName.message (e : UnknownName) : String :=
  s!"{Text.quoted e.text} is not a valid {e.title}"

namespace Vocabulary
variable {α : Type} [Vocabulary α]

def ofText? (s : String) : Option α := members.find? fun a => text a == s

def ofText (s : String) : Except UnknownName α :=
  match ofText? s with
  | some a => .ok a
  | none => .error ⟨s, title α⟩

def name (a : α) : String := (text a).toUpper

def qualifiedName (a : α) : String := s!"{title α}.{name a}"

theorem ofText?_text {s : String} {a : α} (h : ofText? s = some a) : text a = s := by
  simpa [ofText?] using List.find?_some h

end Vocabulary
end PowerDelivery
