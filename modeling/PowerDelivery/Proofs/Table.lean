import PowerDelivery.Table

/-! # Tables built from blocks

No boundary between two blocks is stored in a table. A walk finds it again, because a block starts
a group at its first row and nowhere else. -/
namespace PowerDelivery

/-- The first row starts a group and no other row does. -/
def IsGroup (rows : List Row) : Prop :=
  ∃ head rest, rows = head :: rest ∧ head.flags.groupStart = true ∧
    ∀ row ∈ rest, row.flags.groupStart = false

namespace Block

/-- What keeps a block out of a table. -/
inductive Faulty (b : Block) : TableError → Prop
  | empty (rows : b.rows = []) : Faulty b (.unopened b.key)
  | unopened {head : Row} {rest : List Row} (rows : b.rows = head :: rest)
      (closed : head.flags.groupStart = false) : Faulty b (.unopened b.key)
  | innerStart {head inner : Row} {rest : List Row} (rows : b.rows = head :: rest)
      (opened : head.flags.groupStart = true) (mem : inner ∈ rest)
      (start : inner.flags.groupStart = true) : Faulty b (.innerStart b.key)

theorem fault?_eq_none_iff {b : Block} : b.fault? = none ↔ IsGroup b.rows := by
  unfold fault? IsGroup
  cases b.rows with
  | nil => simp
  | cons head rest =>
    simp only [List.cons.injEq]
    constructor
    · intro h
      cases hs : head.flags.groupStart with
      | false => simp [hs] at h
      | true => exact ⟨head, rest, ⟨rfl, rfl⟩, hs, by simpa [hs] using h⟩
    · rintro ⟨_, _, ⟨rfl, rfl⟩, hs, hr⟩
      simpa [hs] using hr

theorem fault?_eq_some_iff {b : Block} {e : TableError} : b.fault? = some e ↔ b.Faulty e := by
  constructor
  · intro h
    unfold fault? at h
    cases hr : b.rows with
    | nil =>
      simp only [hr, Option.some.injEq] at h
      exact h ▸ .empty hr
    | cons head rest =>
      cases hs : head.flags.groupStart with
      | false =>
        simp only [hr, hs, Bool.not_false, if_true, Option.some.injEq] at h
        exact h ▸ .unopened hr hs
      | true =>
        simp only [hr, hs, Bool.not_true, Bool.false_eq_true, if_false,
          Option.ite_none_right_eq_some, Option.some.injEq, List.any_eq_true] at h
        obtain ⟨⟨inner, hm, hi⟩, rfl⟩ := h
        exact .innerStart hr hs hm hi
  · intro h
    cases h with
    | empty hr => simp [fault?, hr]
    | unopened hr hs => simp [fault?, hr, hs]
    | @innerStart head inner rest hr hs hm hi =>
      have ha : rest.any (·.flags.groupStart) = true := List.any_eq_true.2 ⟨inner, hm, hi⟩
      simp only [fault?, hr, hs, ha, Bool.not_true, Bool.false_eq_true, if_false, if_true]

theorem Faulty.not_isGroup {b : Block} {e : TableError} (h : b.Faulty e) : ¬IsGroup b.rows := by
  rw [← fault?_eq_none_iff, fault?_eq_some_iff.2 h]
  exact Option.some_ne_none e

/-- Whether the block's last row asks for the next block. -/
def carriesOn (b : Block) : Bool := b.rows.getLast?.any (·.flags.continueGroup)

end Block

namespace Table
variable {blocks before after : List Block} {b : Block}

theorem ofBlocks_eq_ok_iff {t : Table} :
    ofBlocks blocks = .ok t ↔ (∀ b ∈ blocks, IsGroup b.rows) ∧ flatten blocks = t := by
  simp only [← Block.fault?_eq_none_iff, ← List.findSome?_eq_none_iff, ofBlocks]
  cases blocks.findSome? Block.fault? <;> simp

theorem ofBlocks_eq_error_iff {e : TableError} :
    ofBlocks blocks = .error e ↔ ∃ before b after, blocks = before ++ b :: after ∧
      (∀ a ∈ before, IsGroup a.rows) ∧ b.Faulty e := by
  have h : ofBlocks blocks = .error e ↔ blocks.findSome? Block.fault? = some e := by
    unfold ofBlocks
    cases blocks.findSome? Block.fault? <;> simp
  simp only [h, List.findSome?_eq_some_iff, Block.fault?_eq_some_iff, Block.fault?_eq_none_iff]
  constructor
  · rintro ⟨before, b, after, hb, hf, hg⟩
    exact ⟨before, b, after, hb, hg, hf⟩
  · rintro ⟨before, b, after, hb, hg, hf⟩
    exact ⟨before, b, after, hb, hf, hg⟩

theorem rows_foldl_append (t : Table) (blocks : List Block) :
    (blocks.foldl append t).rows = t.rows ++ blocks.flatMap Block.rows := by
  induction blocks generalizing t with
  | nil => simp
  | cons b blocks ih => simp [ih, append, List.append_assoc]

theorem start?_append (t : Table) (b : Block) (key : BlockKey) :
    (t.append b).start? key = if key = b.key then some t.rows.length else t.start? key := by
  rw [start?, append, List.lookup_cons]
  by_cases h : key = b.key
  · simp [h]
  · rw [beq_eq_false_iff_ne.2 h, if_neg h]
    rfl

theorem start?_foldl_append {key : BlockKey} (h : ∀ a ∈ after, a.key ≠ key) (t : Table) :
    (after.foldl append t).start? key = t.start? key := by
  induction after generalizing t with
  | nil => rfl
  | cons a after ih =>
    have ha : key ≠ a.key := (h a List.mem_cons_self).symm
    rw [List.foldl_cons, ih fun b hb => h b (List.mem_cons_of_mem a hb), start?_append, if_neg ha]

theorem rows_flatten (blocks : List Block) : (flatten blocks).rows = blocks.flatMap Block.rows := by
  rw [flatten, rows_foldl_append, List.nil_append]

theorem start?_flatten (h : ∀ a ∈ after, a.key ≠ b.key) :
    (flatten (before ++ b :: after)).start? b.key = some (before.flatMap Block.rows).length := by
  rw [flatten, List.foldl_append, List.foldl_cons, start?_foldl_append h, start?_append, if_pos rfl,
    rows_foldl_append, List.nil_append]

/-- The scan for the next start stops at the end of a group, whatever group comes next. -/
theorem firstGroup_append {rows rest : List Row} (hg : IsGroup rows)
    (hr : ∀ row ∈ rest.head?, row.flags.groupStart = true) : firstGroup (rows ++ rest) = rows := by
  obtain ⟨head, inner, rfl, -, hi⟩ := hg
  have hstop : rest.takeWhile (fun r => !r.flags.groupStart) = [] := by
    cases rest with
    | nil => rfl
    | cons row rest =>
      have hrow : row.flags.groupStart = true := hr row rfl
      simp [hrow]
  rw [List.cons_append, firstGroup, List.takeWhile_append_of_pos (by simpa using hi), hstop,
    List.append_nil]

theorem firstGroup_flatMap (h : ∀ a ∈ b :: after, IsGroup a.rows) :
    firstGroup ((b :: after).flatMap Block.rows) = b.rows := by
  rw [List.flatMap_cons]
  apply firstGroup_append (h b List.mem_cons_self)
  cases after with
  | nil => simp
  | cons next after =>
    obtain ⟨head, inner, hrows, hs, -⟩ := h next (by simp)
    simp [hrows, hs]

theorem groupAt_flatten (h : ∀ a ∈ after, IsGroup a.rows) :
    (flatten (before ++ after)).groupAt (before.flatMap Block.rows).length =
      after.head?.elim [] Block.rows := by
  rw [groupAt, rows_flatten, List.flatMap_append, List.drop_left]
  cases after with
  | nil => rfl
  | cons b after => exact firstGroup_flatMap h

section
variable (hg : ∀ a ∈ before ++ b :: after, IsGroup a.rows) (last : ∀ a ∈ after, a.key ≠ b.key)
include hg

theorem groupAt_own : (flatten (before ++ b :: after)).groupAt (before.flatMap Block.rows).length =
    b.rows :=
  groupAt_flatten fun a ha => hg a (List.mem_append_right before ha)

/-- The next group starts where the blocks up to `b` end. -/
theorem groupAt_next : (flatten (before ++ b :: after)).groupAt
    ((before.flatMap Block.rows).length + b.rows.length) = after.head?.elim [] Block.rows := by
  have h : (flatten ((before ++ [b]) ++ after)).groupAt
      ((before ++ [b]).flatMap Block.rows).length = after.head?.elim [] Block.rows :=
    groupAt_flatten fun a ha => hg a (List.mem_append_right before (List.mem_cons_of_mem b ha))
  simpa using h

include last

theorem block_flatten : (flatten (before ++ b :: after)).block b.key = b.rows := by
  rw [block, start?_flatten last]
  exact groupAt_own hg

theorem walk_flatten (side : Option Bool) (continued : Bool) :
    (Handle.mk (some b.key) side continued).walk (flatten (before ++ b :: after)) =
      b.rows ++ if continued && b.carriesOn then after.head?.elim [] Block.rows else [] := by
  simp only [Handle.walk, Option.bind_some, start?_flatten last, groupAt_own hg, groupAt_next hg]
  change (if (continued && b.carriesOn) = true then _ else _) = _
  split
  · rfl
  · rw [List.append_nil]

end

/-- Building fails on the first block that is not one group. In a table that was built, a key leads
to the rows of its last block, and on into the next block, if there is one, only where the walk is
to be continued and the last row asks for it. What the last row of the next block asks for does not
count. -/
theorem walk_ofBlocks (blocks : List Block) :
    ((∃ e, ofBlocks blocks = .error e) ↔ ∃ b ∈ blocks, ¬IsGroup b.rows) ∧
    (∀ e, ofBlocks blocks = .error e ↔ ∃ before b after, blocks = before ++ b :: after ∧
      (∀ a ∈ before, IsGroup a.rows) ∧ b.Faulty e) ∧
    ∀ t, ofBlocks blocks = .ok t → ∀ before b after, blocks = before ++ b :: after →
      (∀ a ∈ after, a.key ≠ b.key) →
      t.block b.key = b.rows ∧
      ∀ side, (Handle.mk (some b.key) side false).walk t = b.rows ∧
        (Handle.mk (some b.key) side true).walk t =
          b.rows ++ if b.carriesOn then after.head?.elim [] Block.rows else [] := by
  refine ⟨?_, fun e => ofBlocks_eq_error_iff, ?_⟩
  · cases hb : ofBlocks blocks with
    | ok t => simpa using (ofBlocks_eq_ok_iff.1 hb).1
    | error e =>
      obtain ⟨before, b, after, rfl, -, hf⟩ := ofBlocks_eq_error_iff.1 hb
      simpa using ⟨b, by simp, hf.not_isGroup⟩
  · rintro t ht before b after rfl hkey
    obtain ⟨hg, rfl⟩ := ofBlocks_eq_ok_iff.1 ht
    exact ⟨block_flatten hg hkey, fun side =>
      ⟨(walk_flatten hg hkey side false).trans (List.append_nil _),
        walk_flatten hg hkey side true⟩⟩

/-- Two neighbouring blocks that both ask for the next one, and a key that is given twice. -/
def chain : List Block :=
  [⟨.fixed, Block.batteryRows⟩, ⟨.battery, Block.fixedRows⟩, ⟨.fixed, Block.fixedRows⟩,
   ⟨.fixedFirst, Block.fixedFirstRows⟩]

/-- The walk ends with the second block, and the repeated key leads to its later block. -/
theorem walk_chain : ∃ t, ofBlocks chain = .ok t ∧ t.block .fixed = Block.fixedRows ∧
    (Handle.mk (some .battery) none true).walk t = Block.fixedRows ++ Block.fixedRows := by
  obtain ⟨-, -, h⟩ := walk_ofBlocks chain
  have ht : ofBlocks chain = .ok (flatten chain) := rfl
  have hfixed := h _ ht [⟨.fixed, Block.batteryRows⟩, ⟨.battery, Block.fixedRows⟩]
    ⟨.fixed, Block.fixedRows⟩ [⟨.fixedFirst, Block.fixedFirstRows⟩] rfl (by decide)
  have hbattery := h _ ht [⟨.fixed, Block.batteryRows⟩] ⟨.battery, Block.fixedRows⟩
    [⟨.fixed, Block.fixedRows⟩, ⟨.fixedFirst, Block.fixedFirstRows⟩] rfl (by decide)
  exact ⟨_, ht, hfixed.1, (hbattery.2 none).2⟩

end Table
end PowerDelivery
