import PowerDelivery.Proofs.Table

/-! # Selecting the rows of a walk for a side

A walk is dealt out to the two sides row by row. Where it ends is settled before any row is dropped:
a last row that asks for the next block is obeyed for the side that does not keep it, too. -/
namespace PowerDelivery

/-- The rows of a walk dealt out in order: a row marked for a side goes to that side, the source
before the sink, and a row without a mark to both. -/
inductive Dealt : List Row → List Row → List Row → Prop
  | nil : Dealt [] [] []
  | source {row : Row} {rows source sink : List Row} (marked : row.flags.sourceOnly = true)
      (rest : Dealt rows source sink) : Dealt (row :: rows) (row :: source) sink
  | sink {row : Row} {rows source sink : List Row} (free : row.flags.sourceOnly = false)
      (marked : row.flags.sinkOnly = true) (rest : Dealt rows source sink) :
      Dealt (row :: rows) source (row :: sink)
  | both {row : Row} {rows source sink : List Row} (free : row.flags.sourceOnly = false)
      (unmarked : row.flags.sinkOnly = false) (rest : Dealt rows source sink) :
      Dealt (row :: rows) (row :: source) (row :: sink)

namespace Dealt
variable {rows source sink : List Row} {row : Row}

theorem sublist_source (h : Dealt rows source sink) : source.Sublist rows := by
  induction h with
  | nil => exact .slnil
  | source _ _ ih => exact ih.cons_cons _
  | sink _ _ _ ih => exact ih.cons _
  | both _ _ _ ih => exact ih.cons_cons _

theorem sublist_sink (h : Dealt rows source sink) : sink.Sublist rows := by
  induction h with
  | nil => exact .slnil
  | source _ _ ih => exact ih.cons _
  | sink _ _ _ ih => exact ih.cons_cons _
  | both _ _ _ ih => exact ih.cons_cons _

theorem mem_source_iff (h : Dealt rows source sink) : row ∈ source ↔
    row ∈ rows ∧ (row.flags.sourceOnly = true ∨ row.flags.sinkOnly = false) := by
  induction h with
  | nil => simp
  | source marked _ ih => grind
  | sink free marked _ ih => grind
  | both _ unmarked _ ih => grind

theorem mem_sink_iff (h : Dealt rows source sink) :
    row ∈ sink ↔ row ∈ rows ∧ row.flags.sourceOnly = false := by
  induction h with
  | nil => simp
  | source marked _ ih => grind
  | sink free _ _ ih => grind
  | both free _ _ ih => grind

end Dealt

/-- The selections for the two sides deal out what they select from. -/
theorem dealt_filter (rows : List Row) :
    Dealt rows (rows.filter (·.appliesTo true)) (rows.filter (·.appliesTo false)) := by
  induction rows with
  | nil => exact .nil
  | cons row rows ih =>
    cases hs : row.flags.sourceOnly with
    | true => simpa [Row.appliesTo, hs] using Dealt.source hs ih
    | false =>
      cases hk : row.flags.sinkOnly with
      | true => simpa [Row.appliesTo, hs, hk] using Dealt.sink hs hk ih
      | false => simpa [Row.appliesTo, hs, hk] using Dealt.both hs hk ih

/-- A key that some block has is the key of a last block. -/
theorem Block.exists_last {blocks : List Block} {key : BlockKey}
    (h : ∃ b ∈ blocks, b.key = key) :
    ∃ before b after, blocks = before ++ b :: after ∧ b.key = key ∧ ∀ a ∈ after, a.key ≠ key := by
  induction blocks with
  | nil => simp at h
  | cons c blocks ih =>
    by_cases hlater : ∃ b ∈ blocks, b.key = key
    · obtain ⟨before, b, after, rfl, hb, hlast⟩ := ih hlater
      exact ⟨c :: before, b, after, rfl, hb, hlast⟩
    · have hc : c.key = key := by simpa [hlater] using h
      exact ⟨[], c, blocks, rfl, hc, by simpa using hlater⟩

namespace Handle
variable {blocks : List Block}

/-- A handle into a table of the blocks: it has the key of one of them, or none. -/
def Over (h : Handle) (blocks : List Block) : Prop := ∀ key ∈ h.key, ∃ b ∈ blocks, b.key = key

/-- The rows on a handle's way through the blocks, whatever side they are for. A key stands for its
last block. -/
inductive Walks (blocks : List Block) : Handle → List Row → Prop
  | empty (side : Option Bool) (continued : Bool) : Walks blocks ⟨none, side, continued⟩ []
  | single {before after : List Block} {b : Block} (split : blocks = before ++ b :: after)
      (last : ∀ a ∈ after, a.key ≠ b.key) (side : Option Bool) {continued : Bool}
      (stops : continued = false ∨ b.carriesOn = false ∨ after = []) :
      Walks blocks ⟨some b.key, side, continued⟩ b.rows
  | onward {before after : List Block} {b next : Block}
      (split : blocks = before ++ b :: next :: after) (last : ∀ a ∈ next :: after, a.key ≠ b.key)
      (side : Option Bool) (carries : b.carriesOn = true) :
      Walks blocks ⟨some b.key, side, true⟩ (b.rows ++ next.rows)

theorem Over.exists_walks {h : Handle} (ho : h.Over blocks) : ∃ rows, h.Walks blocks rows := by
  obtain ⟨_ | key, side, continued⟩ := h
  · exact ⟨[], .empty side continued⟩
  · obtain ⟨before, b, after, hsplit, rfl, hlast⟩ := Block.exists_last (ho key rfl)
    by_cases hstop : continued = false ∨ b.carriesOn = false ∨ after = []
    · exact ⟨b.rows, .single hsplit hlast side hstop⟩
    · simp only [not_or, Bool.not_eq_false] at hstop
      obtain ⟨rfl, hcarries, hafter⟩ := hstop
      obtain ⟨next, after, rfl⟩ := List.exists_cons_of_ne_nil hafter
      exact ⟨b.rows ++ next.rows, .onward hsplit hlast side hcarries⟩

end Handle

theorem Handle.Walks.walk_eq {blocks : List Block} {t : Table} (ht : Table.ofBlocks blocks = .ok t)
    {h : Handle} {rows : List Row} (hw : h.Walks blocks rows) : h.walk t = rows := by
  obtain ⟨hg, rfl⟩ := Table.ofBlocks_eq_ok_iff.1 ht
  cases hw with
  | empty side continued => rfl
  | single split last side stops =>
    subst split
    rw [Table.walk_flatten hg last]
    rcases stops with rfl | hcarries | rfl <;> simp [*]
  | onward split last side carries =>
    subst split
    rw [Table.walk_flatten hg last]
    simp [carries]

/-- Over a table built from blocks a handle walks the way that they give, and its selections deal
out that walk: each keeps the order, no row is lost, and a row is in both exactly if it is marked for
neither side. The caller's side goes before the handle's own, and without either of them there is no
selection, be there rows or none. -/
theorem Handle.select_ofBlocks {blocks : List Block} {t : Table}
    (ht : Table.ofBlocks blocks = .ok t) {h : Handle} (ho : h.Over blocks) :
    ∃ (walk : List Row) (kept : Bool → List Row),
      h.Walks blocks walk ∧ h.walk t = walk ∧ Dealt walk (kept true) (kept false) ∧
      (∀ side, (kept side).Sublist walk) ∧
      (∀ row ∈ walk, (row ∈ kept true ∨ row ∈ kept false) ∧
        (row ∈ kept true ∧ row ∈ kept false ↔
          row.flags.sourceOnly = false ∧ row.flags.sinkOnly = false)) ∧
      ∀ own : Option Bool,
        (∀ side, { h with side := own }.select t (some side) = .ok (kept side)) ∧
        (∀ side, own = some side → { h with side := own }.select t none = .ok (kept side)) ∧
        ∀ side, (∃ e, { h with side := own }.select t side = .error e) ↔
          side = none ∧ own = none := by
  obtain ⟨walk, hw⟩ := ho.exists_walks
  obtain rfl := hw.walk_eq ht
  have hd : Dealt (h.walk t) (h.rows t true) (h.rows t false) := dealt_filter (h.walk t)
  refine ⟨h.walk t, h.rows t, hw, rfl, hd, ?_, ?_, fun own => ⟨fun side => rfl, ?_, ?_⟩⟩
  · intro side
    cases side with
    | false => exact hd.sublist_sink
    | true => exact hd.sublist_source
  · intro row hrow
    rw [hd.mem_source_iff, hd.mem_sink_iff]
    cases row.flags.sourceOnly <;> simp [hrow]
  · rintro side rfl
    rfl
  · intro side
    rw [← select_eq_error_iff { h with side := own } t side]
    exact ⟨fun ⟨_, he⟩ => he, fun he => ⟨_, he⟩⟩

/-- Rows for the source at the start, for both sides by their marks, and for the sink where the next
block is asked for. -/
def markedRows : List Row :=
  [{ Block.objectPosition with flags := { groupStart := true, sourceOnly := true } },
    { Block.giveback with flags := { sourceOnly := true, sinkOnly := true } },
    { Block.giveback with flags := { sinkOnly := true, continueGroup := true } }]

/-- The last of the marked rows is not kept for the source, and carries its walk on. -/
theorem Handle.select_markedRows :
    ∃ t, Table.ofBlocks [⟨.pps, markedRows⟩, ⟨.fixed, Block.fixedRows⟩] = .ok t ∧
      (Handle.mk (some .pps) (some false) true).Over
        [⟨.pps, markedRows⟩, ⟨.fixed, Block.fixedRows⟩] ∧
      ∃ kept : Bool → List Row, Dealt (markedRows ++ Block.fixedRows) (kept true) (kept false) ∧
        (Handle.mk (some .pps) (some false) true).select t (some true) = .ok (kept true) ∧
        (Handle.mk (some .pps) (some false) true).select t none = .ok (kept false) ∧
        (kept true).map (·.name) =
          [.objectPosition, .givebackFlag, .peakCurrent, .voltage, .maximumCurrent] ∧
        (kept false).map (·.name) = [.givebackFlag, .voltage, .operationalCurrent] := by
  have ht : Table.ofBlocks [⟨.pps, markedRows⟩, ⟨.fixed, Block.fixedRows⟩] =
      .ok (Table.flatten [⟨.pps, markedRows⟩, ⟨.fixed, Block.fixedRows⟩]) := rfl
  have ho : (Handle.mk (some .pps) (some false) true).Over
      [⟨.pps, markedRows⟩, ⟨.fixed, Block.fixedRows⟩] := by
    intro key hkey
    exact ⟨⟨.pps, markedRows⟩, List.mem_cons_self, Option.some.inj hkey⟩
  obtain ⟨walk, kept, -, hwalk, hd, -, -, hselect⟩ := select_ofBlocks ht ho
  obtain ⟨hsource, hsink, -⟩ := hselect (some false)
  have hs := hsource true
  have hk := hsink false rfl
  refine ⟨_, ht, ho, kept, ?_, hs, hk, ?_, ?_⟩
  · rw [← hwalk] at hd
    exact hd
  · rw [← Except.ok.inj hs]
    rfl
  · rw [← Except.ok.inj hk]
    rfl

end PowerDelivery
