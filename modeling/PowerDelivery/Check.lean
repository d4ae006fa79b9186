import PowerDelivery.Issue
import PowerDelivery.Numeral.Lenient
import PowerDelivery.Value

/-! # Checking records: every part is read, and all issues are kept -/
namespace PowerDelivery

abbrev Record := List (String × Value)

abbrev Checked (α : Type) := Except (List Issue) α

namespace Checked
variable {α β γ : Type}

def issues : Checked α → List Issue
  | .ok _ => []
  | .error is => is

def refuse (kind : IssueKind) : Checked α := .error [⟨kind, []⟩]

/-- Both parts, or the issues of the first and then of the second. -/
def both (f : α → β → γ) (x : Checked α) (y : Checked β) : Checked γ :=
  match x, y with
  | .ok a, .ok b => .ok (f a b)
  | x, y => .error (x.issues ++ y.issues)

def within (name : String) (x : Checked α) : Checked α :=
  x.mapError (List.map (Issue.within name))

/-- Reads a list item by item, each located at its index from `i` on. -/
def items (read : Value → Checked α) : Nat → List Value → Checked (List α)
  | _, [] => .ok []
  | i, v :: vs => both List.cons (within (toString i) (read v)) (items read (i + 1) vs)

theorem both_eq_ok_iff {f : α → β → γ} {x : Checked α} {y : Checked β} {c : γ} :
    both f x y = .ok c ↔ ∃ a b, x = .ok a ∧ y = .ok b ∧ f a b = c := by
  cases x <;> cases y <;> simp [both]

theorem within_eq_ok_iff {name : String} {x : Checked α} {a : α} :
    within name x = .ok a ↔ x = .ok a := by
  cases x with
  | error is => exact iff_of_false nofun nofun
  | ok b => rfl

theorem bind_eq_ok_iff {x : Checked α} {f : α → Checked β} {b : β} :
    x.bind f = .ok b ↔ ∃ a, x = .ok a ∧ f a = .ok b := by
  cases x with
  | error is => exact iff_of_false nofun fun ⟨_, h, _⟩ => nomatch h
  | ok a => exact ⟨fun h => ⟨a, rfl, h⟩, fun ⟨_, ha, h⟩ => Except.ok.inj ha ▸ h⟩

/-- Items that were written in a form that can be read are all read back. -/
theorem items_map {read : Value → Checked α} {write : α → Value}
    (h : ∀ a, read (write a) = .ok a) (i : Nat) (as : List α) :
    items read i (as.map write) = .ok as := by
  induction as generalizing i with
  | nil => rfl
  | cons a as ih =>
    rw [List.map_cons, items, h, ih]
    rfl

end Checked

namespace Record
variable {α : Type}

def required (r : Record) (name : String) (read : Value → Checked α) : Checked α :=
  Checked.within name <| match r.lookup name with
    | none => .refuse .missing
    | some v => read v

def withDefault (r : Record) (name : String) (fallback : α) (read : Value → Checked α) :
    Checked α :=
  match r.lookup name with
  | none => .ok fallback
  | some v => Checked.within name (read v)

def onlyNames (r : Record) (names : List String) : Checked Unit :=
  match r.filter fun p => !names.contains p.1 with
  | [] => .ok ()
  | extra => .error (extra.map fun p => ⟨.extra, [p.1]⟩)

theorem required_eq_ok_iff {r : Record} {name : String} {read : Value → Checked α} {a : α} :
    r.required name read = .ok a ↔ ∃ v, r.lookup name = some v ∧ read v = .ok a := by
  rw [required, Checked.within_eq_ok_iff]
  cases r.lookup name with
  | none => exact iff_of_false nofun fun ⟨_, h, _⟩ => nomatch h
  | some v => exact ⟨fun h => ⟨v, rfl, h⟩, fun ⟨_, hv, h⟩ => Option.some.inj hv ▸ h⟩

theorem withDefault_of_lookup {r : Record} {name : String} {v : Value} {read : Value → Checked α}
    {a : α} (hv : r.lookup name = some v) (h : read v = .ok a) (fallback : α) :
    r.withDefault name fallback read = .ok a := by
  rw [withDefault, hv]
  exact Checked.within_eq_ok_iff.2 h

end Record

namespace Value

/-- What is equal to an integer is read as that integer, and so is a text that writes one. Floats
of magnitude `2 ^ 63` and above and members of vocabularies are refused for their size. -/
def readInt : Value → Checked Int
  | bool b => .ok (if b then 1 else 0)
  | int n => .ok n
  | float x =>
    if !x.isFinite then .refuse .notFinite
    else match x.toInt? with
      | some n => if n.natAbs < 2 ^ 63 then .ok n else .refuse .intSize
      | .none => .refuse .fraction
  | text s => match Numeral.Lenient.read s.toList with
    | .ok n => .ok n
    | .error .form => .refuse .intText
    | .error .size => .refuse .intSize
  | v => if v.memberText?.isSome then .refuse .intSize else .refuse .intType

def readNat (v : Value) : Checked Nat :=
  v.readInt.bind fun n => if n < 0 then Checked.refuse (.below 0) else .ok n.toNat

def readWord (v : Value) : Checked Word :=
  v.readNat.bind fun n =>
    if n < 2 ^ 32 then .ok (BitVec.ofNat 32 n) else Checked.refuse (.above (2 ^ 32 - 1))

theorem readNat_eq_ok_iff {v : Value} {n : Nat} :
    v.readNat = .ok n ↔ v.readInt = .ok (n : Int) := by
  rw [readNat, Checked.bind_eq_ok_iff]
  constructor
  · rintro ⟨m, hm, hn⟩
    split at hn
    · cases hn
    · rw [hm, ← Except.ok.inj hn, Int.toNat_of_nonneg (by omega)]
  · intro h
    have hn : ¬(n : Int) < 0 := by omega
    exact ⟨n, h, if_neg hn⟩

theorem readWord_eq_ok_iff {v : Value} {w : Word} :
    v.readWord = .ok w ↔ v.readInt = .ok (w.toNat : Int) := by
  rw [← readNat_eq_ok_iff, readWord, Checked.bind_eq_ok_iff]
  constructor
  · rintro ⟨n, hn, hw⟩
    split at hw
    · next hlt => rw [hn, BitVec.nat_eq_toNat.2 ⟨hlt, (Except.ok.inj hw).symm⟩]
    · cases hw
  · intro h
    refine ⟨w.toNat, h, ?_⟩
    rw [if_pos w.isLt, BitVec.ofNat_toNat, BitVec.setWidth_eq]

def trueTexts : List String := ["1", "on", "t", "true", "y", "yes"]

def falseTexts : List String := ["0", "off", "f", "false", "n", "no"]

/-- Zero and one stand for truth values, and so do some texts in either case. Numbers beyond the
signed 64-bit words are not considered. -/
def readBool : Value → Checked Bool
  | bool b => .ok b
  | text s =>
    if trueTexts.contains s.toLower then .ok true
    else if falseTexts.contains s.toLower then .ok false
    else .refuse .boolText
  | int n => if -2 ^ 63 ≤ n ∧ n < 2 ^ 63 then ofInt n else .refuse .boolType
  | float x => match x.toInt? with
    | some n => if n.natAbs < 2 ^ 63 then ofInt n else .refuse .boolType
    | .none => .refuse .boolType
  | _ => .refuse .boolType
where
  ofInt (n : Int) : Checked Bool :=
    if n = 0 then .ok false else if n = 1 then .ok true else .refuse .boolText

def readText : Value → Checked String
  | text s => .ok s
  | v => match v.memberText? with
    | some s => .ok s
    | .none => .refuse .textType

def readMember (α : Type) [Vocabulary α] [Enumerated α] (v : Value) : Checked α :=
  match v.member? α with
  | some a => .ok a
  | .none => .refuse (.notMember ((Vocabulary.members : List α).map Vocabulary.text))

def readVariant : Value → Checked Variant := readMember Variant

def readReference : Value → Checked Reference := readMember Reference

def readField : Value → Checked FieldName := readMember FieldName

end Value
end PowerDelivery
