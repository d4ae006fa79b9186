import PowerDelivery.Block
import PowerDelivery.Value

/-! # The field table and walks through it -/
namespace PowerDelivery

/-- Blocks laid end to end, and the row at which each key starts, the latest first. -/
structure Table where
  rows : List Row
  starts : List (BlockKey × Nat)
  deriving DecidableEq, Repr

inductive TableError
  | unopened (key : BlockKey)
  | innerStart (key : BlockKey)
  deriving DecidableEq, Repr

def TableError.message : TableError → String
  | unopened key => s!"block {key.text} must open with a GROUP_START row"
  | innerStart key => s!"block {key.text} has a GROUP_START row past its head"

/-- A row must start a group exactly if it opens a block. -/
def Block.fault? (b : Block) : Option TableError :=
  match b.rows with
  | [] => some (.unopened b.key)
  | head :: rest =>
    if !head.flags.groupStart then some (.unopened b.key)
    else if rest.any (·.flags.groupStart) then some (.innerStart b.key)
    else none

namespace Table

def append (t : Table) (b : Block) : Table :=
  ⟨t.rows ++ b.rows, (b.key, t.rows.length) :: t.starts⟩

def flatten (blocks : List Block) : Table := blocks.foldl append ⟨[], []⟩

def ofBlocks (blocks : List Block) : Except TableError Table :=
  match blocks.findSome? Block.fault? with
  | some e => .error e
  | none => .ok (flatten blocks)

def standard : Table := flatten Block.standard

def start? (t : Table) (key : BlockKey) : Option Nat := t.starts.lookup key

/-- The rows up to the next one that starts a group, the first row apart. -/
def firstGroup : List Row → List Row
  | [] => []
  | row :: rows => row :: rows.takeWhile fun r => !r.flags.groupStart

def groupAt (t : Table) (start : Nat) : List Row := firstGroup (t.rows.drop start)

def block (t : Table) (key : BlockKey) : List Row :=
  match t.start? key with
  | none => []
  | some start => t.groupAt start

end Table

/-- Where a walk starts, which side its rows are kept for, and whether it may go on into the next
group. -/
structure Handle where
  key : Option BlockKey
  side : Option Bool
  continued : Bool
  deriving DecidableEq, Repr

/-- A selection for which neither the caller nor the handle says the side. -/
structure NoSide where
  deriving DecidableEq, Repr

def NoSide.message (_ : NoSide) : String := "no role given for this block"

namespace Handle

def empty : Handle := ⟨none, none, false⟩

def isEmpty (h : Handle) : Bool := h.key.isNone

/-- The rows of a fixed supply at the first position go on into the next group. -/
def ofVariant (v : Variant) (first : Bool) : Handle :=
  match BlockKey.ofVariant? v with
  | none => empty
  | some key => ⟨some key, none, key == .fixed && first⟩

/-- The giveback flag of a request is the side of its rows. -/
def ofReference (r : Reference) (giveback : Bool) : Handle :=
  ⟨some (BlockKey.ofReference r), some giveback, false⟩

/-- What an unknown name leads to has no rows. -/
def ofChoice {α : Type} [Enumerated α] (handle : α → Handle) : Choice α → Handle
  | .known a => handle a
  | .other .. => empty

/-- The group at the handle's key, and the next one if the handle is continued and the last row
carries on. -/
def walk (h : Handle) (t : Table) : List Row :=
  match h.key.bind t.start? with
  | none => []
  | some start =>
    let group := t.groupAt start
    if h.continued && group.getLast?.any (·.flags.continueGroup) then
      group ++ t.groupAt (start + group.length)
    else group

def rows (h : Handle) (t : Table) (side : Bool) : List Row := (h.walk t).filter (·.appliesTo side)

/-- The caller's side goes before the handle's own. -/
def select (h : Handle) (t : Table) (side : Option Bool) : Except NoSide (List Row) :=
  match side.or h.side with
  | none => .error {}
  | some side => .ok (h.rows t side)

theorem select_eq_error_iff (h : Handle) (t : Table) (side : Option Bool) :
    h.select t side = .error {} ↔ side = none ∧ h.side = none := by
  unfold select
  cases side <;> cases h.side <;> simp

end Handle

namespace Table

theorem ofBlocks_standard : ofBlocks Block.standard = .ok standard := rfl

end Table
end PowerDelivery
