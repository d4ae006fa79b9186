import PowerDelivery.Numeral
import PowerDelivery.Text.Printable

/-! # Quoted text on one printable line -/
namespace PowerDelivery.Text

def apostrophe : Char := '\x27'
def doubleQuote : Char := '\x22'

/-- The apostrophe, unless the text has one and no double quote. -/
def quoteMark (cs : List Char) : Char :=
  if apostrophe ∈ cs ∧ doubleQuote ∉ cs then doubleQuote else apostrophe

/-- A code point in lower-case hexadecimal, in the shortest of the three escape forms. -/
def escapeCode (n : Nat) : List Char :=
  if n < 0x100 then '\\' :: 'x' :: Numeral.padded 16 2 n
  else if n < 0x10000 then '\\' :: 'u' :: Numeral.padded 16 4 n
  else '\\' :: 'U' :: Numeral.padded 16 8 n

def escape (mark c : Char) : List Char :=
  if c = mark ∨ c = '\\' then ['\\', c]
  else if c = '\t' then ['\\', 't']
  else if c = '\n' then ['\\', 'n']
  else if c = '\r' then ['\\', 'r']
  else if isPrintable c then [c]
  else escapeCode c.toNat

def quoteChars (cs : List Char) : List Char :=
  quoteMark cs :: cs.flatMap (escape (quoteMark cs)) ++ [quoteMark cs]

def quoted (s : String) : String := String.ofList (quoteChars s.toList)

end PowerDelivery.Text
