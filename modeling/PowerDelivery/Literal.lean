import PowerDelivery.Issue
import PowerDelivery.Text.Scan
import PowerDelivery.Value

/-! # Word literals -/
namespace PowerDelivery

inductive LiteralReason
  | notNumber
  | tooLarge
  | notLeaf
  | issue (issue : Issue)
  deriving DecidableEq, Repr

def LiteralReason.message : LiteralReason → String
  | notNumber => "expected a decimal or 0x-prefixed hex number"
  | tooLarge => "does not fit in 32 bits"
  | notLeaf => "expected <index>:<kind>"
  | issue i => if i.path.isEmpty then i.message else s!"{i.path}: {i.message}"

/-- What cannot serve as a literal, as it was given, with what it was meant for. -/
structure LiteralError where
  literal : Value
  reason : LiteralReason
  operation : Option String

def LiteralError.message (e : LiteralError) : String :=
  let purpose := match e.operation with
    | none | some "" => ""
    | some operation => s!" for {operation}"
  s!"bad literal {e.literal.shown}{purpose}: {e.reason.message}"

inductive WordTextError
  | literal (error : LiteralError)
  | tooLong (error : TooLong)

def WordTextError.message : WordTextError → String
  | literal e => e.message
  | tooLong e => e.message

namespace Literal

/-- The digits after `0x` or `0X`. -/
def hexDigits? : List Char → Option (List Nat)
  | '0' :: x :: cs => if x = 'x' ∨ x = 'X' then Numeral.allDigits? Numeral.hexValue? cs else none
  | _ => none

def decimalDigits? (cs : List Char) : Option (List Nat) :=
  Numeral.allDigits? Numeral.decimalValue? cs

/-- The number that the characters write, which only a decimal numeral can fail to do for its
length. -/
def number? (cs : List Char) : Option (Except TooLong Nat) :=
  match hexDigits? cs with
  | some ds => some (.ok (Numeral.ofDigits 16 ds))
  | none => (decimalDigits? cs).map Numeral.ofDecimal

def parseWord (text : String) (operation : Option String) : Except WordTextError Word :=
  match number? (Text.trim text.toList) with
  | none => .error (.literal ⟨.text text, .notNumber, operation⟩)
  | some (.error e) => .error (.tooLong e)
  | some (.ok n) =>
    if n < 2 ^ 32 then .ok (BitVec.ofNat 32 n)
    else .error (.literal ⟨.text text, .tooLarge, operation⟩)

/-- `0x` and eight lower-case digits, of which a sign takes one. -/
def wordText (n : Int) : String :=
  String.ofList ('0' :: 'x' ::
    if n < 0 then '-' :: Numeral.padded 16 7 n.natAbs else Numeral.padded 16 8 n.natAbs)

end Literal

def Word.text (w : Word) : String := Literal.wordText w.toNat

end PowerDelivery
