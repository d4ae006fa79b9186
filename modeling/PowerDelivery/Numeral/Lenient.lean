import PowerDelivery.Numeral
import PowerDelivery.Text.Scan

/-! # Integers as loosely written text -/
namespace PowerDelivery.Numeral.Lenient

inductive Refusal | form | size
  deriving DecidableEq, Repr

def isDigit (c : Char) : Bool := '0' ≤ c && c ≤ '9'

/-- Whether the text starts with more digits than may be read, whatever follows them. Digits that
start with a zero are not counted. -/
def isOverlong (cs : List Char) : Bool :=
  let unsigned := match cs with
    | '-' :: cs => cs
    | cs => cs
  unsigned.head? != some '0' && maxDigits < (unsigned.takeWhile isDigit).length

/-- What is left behind leading zeros and the underscores among them, of which `last` was the last.
It stays where a point or nothing follows. -/
def pastZeros (last : Char) : List Char → Option (List Char)
  | [] => some [last]
  | c :: cs =>
    if c = '0' ∨ c = '_' then pastZeros c cs
    else if c = '.' then some (last :: c :: cs)
    else if isDigit c ∨ c = '-' then some (c :: cs)
    else none

/-- The text without leading zeros. It must start with a digit, but a minus sign may follow the
zeros. -/
def dropZeros? : List Char → Option (List Char)
  | [] => none
  | c :: cs => if c = '0' then pastZeros c cs else if isDigit c then some (c :: cs) else none

/-- The text without a fraction that is made of zeros, at least one of them. -/
def dropFraction (cs : List Char) : List Char :=
  match cs.dropWhile (· != '.') with
  | '.' :: z :: zs => if (z :: zs).all (· == '0') then cs.takeWhile (· != '.') else cs
  | _ => cs

/-- The text without its underscores, if each of them has a neighbour of another kind on either
side. -/
def dropUnderscores (cs : List Char) : List Char :=
  if cs.head? = some '_' ∨ cs.getLast? = some '_' ∨ ('_', '_') ∈ cs.zip cs.tail then cs
  else cs.filter (· != '_')

def magnitude? : List Char → Option Nat
  | '0' :: _ :: _ => none
  | cs => if cs.length ≤ maxDigits then (allDigits? decimalValue? cs).map (ofDigits 10) else none

/-- The integer that digits without leading zeros write, a minus sign at most in front. -/
def plain? : List Char → Option Int
  | '-' :: cs => (magnitude? cs).map fun n => -(n : Int)
  | cs => (magnitude? cs).map Int.ofNat

/-- The text with its sign and without white space around it, leading zeros, a fraction of zeros
and single underscores. -/
def tidy? (cs : List Char) : Option (List Char) :=
  let signed := match Text.trimBy Text.isWhiteSpace cs with
    | '+' :: cs => dropZeros? cs
    | '-' :: cs => (dropZeros? cs).map ('-' :: ·)
    | cs => dropZeros? cs
  signed.map fun cs => dropUnderscores (dropFraction cs)

def read (cs : List Char) : Except Refusal Int :=
  if isOverlong cs then .error .size
  else match (tidy? cs).bind plain? with
    | some n => .ok n
    | none => .error .form

end PowerDelivery.Numeral.Lenient
