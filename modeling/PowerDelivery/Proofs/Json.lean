import PowerDelivery.Json
import PowerDelivery.Proofs.Numeral

/-! # Reading JSON documents

The reader takes one character at a time and keeps what it has read of the lists and records that
are not closed yet. White space between the parts of a document does not matter to it. -/
namespace PowerDelivery.Json

/-- A list or record that is not closed yet, with what stands in it before the part to come. -/
inductive Frame
  | item (before : List Json)
  | entry (before : List (String × Json)) (name : String)

inductive Role
  | value (frames : List Frame)
  | name (before : List (String × Json)) (frames : List Frame)

inductive Escape
  | none
  | started
  | digits (cs : List Char)

/-- What the reader has come to. Of a text it has UTF-16 units. -/
inductive State
  | value (frames : List Frame)
  | name (before : List (String × Json)) (frames : List Frame)
  | colon (before : List (String × Json)) (name : String) (frames : List Frame)
  | after (j : Json) (frames : List Frame)
  | text (role : Role) (units : List Nat) (escape : Escape)

/-- The characters of UTF-16 units, after the first half of a pair or not. -/
def decode : Option Nat → List Nat → Option (List Char)
  | none, [] => some []
  | some _, [] => none
  | none, u :: us =>
    if u < 0xD800 ∨ 0xE000 ≤ u then (decode none us).map (Char.ofNat u :: ·)
    else if u < 0xDC00 then decode (some u) us
    else none
  | some first, u :: us =>
    if 0xDC00 ≤ u ∧ u < 0xE000 then
      (decode none us).map (Char.ofNat (0x10000 + (first - 0xD800) * 0x400 + (u - 0xDC00)) :: ·)
    else none

def isSpace (c : Char) : Bool := c = ' ' || c = '\n' || c = '\t' || c = '\r'

def shortEscapes : List (Char × Nat) :=
  [('\x22', 0x22), ('\\', 0x5C), ('/', 0x2F), ('b', 0x8), ('f', 0xC), ('n', 0xA), ('r', 0xD),
   ('t', 0x9)]

def Role.read (s : String) : Role → State
  | value frames => .after (.text s) frames
  | name before frames => .colon before s frames

namespace State

def textStep (role : Role) (units : List Nat) : Escape → Char → Option State
  | .none, c =>
    if c = '\x22' then (decode Option.none units).map fun cs => role.read (String.ofList cs)
    else if c = '\\' then some (text role units .started)
    else if c.toNat < 0x20 then none
    else some (text role (units ++ [c.toNat]) .none)
  | .started, c =>
    if c = 'u' then some (text role units (.digits []))
    else (shortEscapes.lookup c).map fun u => text role (units ++ [u]) .none
  | .digits cs, c =>
    if cs.length < 3 then some (text role units (.digits (cs ++ [c])))
    else (Numeral.allDigits? Numeral.hexValue? (cs ++ [c])).map fun ds =>
      text role (units ++ [Numeral.ofDigits 16 ds]) .none

/-- A bracket closes a list either at once or behind an item, and so does a brace a record. -/
def partStep : State → Char → Option State
  | value frames, '\x22' => some (text (.value frames) [] .none)
  | value frames, '[' => some (value (.item [] :: frames))
  | value frames, '\x7b' => some (name [] frames)
  | value (.item [] :: frames), ']' => some (after (.list []) frames)
  | name before frames, '\x22' => some (text (.name before frames) [] .none)
  | name [] frames, '\x7d' => some (after (.record []) frames)
  | colon before n frames, ':' => some (value (.entry before n :: frames))
  | after j (.item before :: frames), ',' => some (value (.item (before ++ [j]) :: frames))
  | after j (.item before :: frames), ']' => some (after (.list (before ++ [j])) frames)
  | after j (.entry before n :: frames), ',' => some (name (before ++ [(n, j)]) frames)
  | after j (.entry before n :: frames), '\x7d' =>
    some (after (.record (before ++ [(n, j)])) frames)
  | _, _ => none

def step : State → Char → Option State
  | text role units escape, c => textStep role units escape c
  | s, c => if isSpace c then some s else s.partStep c

def run (s : State) (cs : List Char) : Option State := cs.foldlM step s

end State

def units (c : Char) : List Nat :=
  if c.toNat < 0x10000 then [c.toNat]
  else [0xD800 + (c.toNat - 0x10000) / 0x400, 0xDC00 + (c.toNat - 0x10000) % 0x400]

namespace State

section
variable (role : Role) (us : List Nat)

end

/-- What the reader comes to inside brackets, where `before` has been read of the parts. -/
structure Brackets (α : Type) where
  start : List α → State
  stop : List α → α → State
  finish : List α → State
  close : Char
  start_space : ∀ before c, isSpace c = true → (start before).step c = some (start before)
  stop_space : ∀ before a c, isSpace c = true → (stop before a).step c = some (stop before a)
  comma : ∀ before a, (stop before a).step ',' = some (start (before ++ [a]))
  closes : ∀ before a, (stop before a).step close = some (finish (before ++ [a]))
  closes_empty : (start []).step close = some (finish [])

namespace Brackets
variable {α : Type}

def list (frames : List Frame) : Brackets Json where
  start before := value (.item before :: frames)
  stop before j := after j (.item before :: frames)
  finish items := after (.list items) frames
  close := ']'
  start_space _ _ h := if_pos h
  stop_space _ _ _ h := if_pos h
  comma _ _ := rfl
  closes _ _ := rfl
  closes_empty := rfl

def record (frames : List Frame) : Brackets (String × Json) where
  start before := name before frames
  stop before p := after p.2 (.entry before p.1 :: frames)
  finish entries := after (.record entries) frames
  close := '\x7d'
  start_space _ _ h := if_pos h
  stop_space _ _ _ h := if_pos h
  comma _ _ := rfl
  closes _ _ := rfl
  closes_empty := rfl

variable (b : Brackets α) {write : α → String} {items : List α}

end Brackets

end State

@[elab_as_elim, induction_eliminator]
theorem induction {motive : Json → Prop} (text : ∀ s, motive (.text s))
    (list : ∀ items, (∀ j ∈ items, motive j) → motive (.list items))
    (record : ∀ entries, (∀ p ∈ entries, motive p.2) → motive (.record entries)) (j : Json) :
    motive j :=
  @rec motive (fun items => ∀ j ∈ items, motive j) (fun entries => ∀ p ∈ entries, motive p.2)
    (fun p => motive p.2) text list record (List.forall_mem_nil _)
    (fun _ _ hj hitems => List.forall_mem_cons.2 ⟨hj, hitems⟩) (List.forall_mem_nil _)
    (fun _ _ hp hentries => List.forall_mem_cons.2 ⟨hp, hentries⟩) (fun _ _ hj => hj) j

namespace State

end State

end PowerDelivery.Json
