import PowerDelivery.Numeral

/-! # JSON documents as indented ASCII text -/
namespace PowerDelivery

inductive Json
  | text (s : String)
  | list (items : List Json)
  | record (entries : List (String × Json))

namespace Json

def codeUnit (n : Nat) : List Char := '\\' :: 'u' :: Numeral.padded 16 4 n

/-- Characters beyond printable ASCII are written as UTF-16 units. -/
def escape (c : Char) : List Char :=
  let n := c.toNat
  if n = 0x22 ∨ n = 0x5C then ['\\', c]
  else if c = '\n' then ['\\', 'n']
  else if c = '\r' then ['\\', 'r']
  else if c = '\t' then ['\\', 't']
  else if n = 0x8 then ['\\', 'b']
  else if n = 0xC then ['\\', 'f']
  else if 0x20 ≤ n ∧ n ≤ 0x7E then [c]
  else if n < 0x10000 then codeUnit n
  else codeUnit (0xD800 + (n - 0x10000) / 0x400) ++ codeUnit (0xDC00 + (n - 0x10000) % 0x400)

def quoted (s : String) : String := String.ofList ('\x22' :: s.toList.flatMap escape ++ ['\x22'])

def newline (indent : Nat) : String := String.ofList ('\n' :: List.replicate indent ' ')

/-- Parts on lines of their own, two columns further in than what closes them. -/
def enclosed (opening closing : String) (indent : Nat) (parts : List String) : String :=
  if parts.isEmpty then opening ++ closing
  else opening ++ newline (indent + 2) ++ ("," ++ newline (indent + 2)).intercalate parts ++
    newline indent ++ closing

mutual

def render (indent : Nat) : Json → String
  | text s => quoted s
  | list items => enclosed "[" "]" indent (renderItems (indent + 2) items)
  | record entries => enclosed "\x7b" "\x7d" indent (renderEntries (indent + 2) entries)

def renderItems (indent : Nat) : List Json → List String
  | [] => []
  | j :: rest => j.render indent :: renderItems indent rest

def renderEntries (indent : Nat) : List (String × Json) → List String
  | [] => []
  | (k, j) :: rest => s!"{quoted k}: {j.render indent}" :: renderEntries indent rest

end

end Json
end PowerDelivery
