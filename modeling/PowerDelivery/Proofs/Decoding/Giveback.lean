import PowerDelivery.Proofs.Decoding.Request

/-! # What the giveback flag of a request changes

The flag is the side that the rows of a request are kept for. Where a request has the flag, two rows
of its walk are kept for one side only; they lie on the same bits and have different names. Flipping
the flag exchanges the one for the other. Where a request has no such flag, the bit is reserved. -/
namespace PowerDelivery

namespace Word
variable (w : Word)

/-- The word with the bit `i` changed. -/
def flip (i : Nat) : Word := w ^^^ BitVec.twoPow 32 i

theorem getLsbD_flip {i : Nat} (hi : i < 32) (j : Nat) :
    (w.flip i).getLsbD j = (w.getLsbD j ^^ decide (j = i)) := by
  rw [flip, BitVec.getLsbD_xor, BitVec.getLsbD_twoPow]
  by_cases h : j = i
  · simp [h, hi]
  · have h' : ¬i = j := fun he => h he.symm
    simp [h, h']

theorem getLsbD_flip_self {i : Nat} (hi : i < 32) : (w.flip i).getLsbD i = !w.getLsbD i := by
  rw [getLsbD_flip w hi, decide_eq_true rfl, Bool.xor_true]

theorem read_flip {s : Span} {i : Nat} (hi : i < 32) (h : s.covers i = false) :
    (w.flip i).read s = w.read s := by
  apply read_congr
  intro j hj
  have hne : j ≠ i := by
    rintro rfl
    rw [hj] at h
    cases h
  rw [getLsbD_flip w hi, decide_eq_false hne, Bool.xor_false]

theorem read_givebackSpan : w.read givebackSpan = (w.getLsbD 27).toNat :=
  (Nat.toNat_testBit w.toNat 27).symm

theorem giveback_eq : (w.read givebackSpan == 1) = w.getLsbD 27 := by
  rw [read_givebackSpan]
  cases w.getLsbD 27 <;> rfl

end Word

def DecodedField.giveback (flag : Bool) : DecodedField :=
  ⟨.givebackFlag, flag.toNat, toString flag.toNat⟩

/-- Two lists of fields that differ in the giveback flag and in the name of the last field alone. -/
def ExchangesLimit (limit : Bool → FieldName) (flag : Bool) (fields fields' : List DecodedField) :
    Prop :=
  ∃ (before between : List DecodedField) (raw : Nat) (display : String),
    fields = before ++ [DecodedField.giveback flag] ++ between ++ [⟨limit flag, raw, display⟩] ∧
    fields' = before ++ [DecodedField.giveback !flag] ++ between ++ [⟨limit !flag, raw, display⟩]

theorem Block.decode_giveback (w : Word) :
    Block.giveback.decode w = DecodedField.giveback (w.getLsbD 27) := by
  have h : w.read Block.giveback.span = (w.getLsbD 27).toNat := w.read_givebackSpan
  rw [Row.decode, h]
  rfl

namespace Reference

/-- The name of the last field of a request that has a giveback flag: the least that it operates
with where the flag is set, and the most where it is clear. -/
def limit? : Reference → Option (Bool → FieldName)
  | fixedOrVariable => some fun giveback =>
      if giveback then .minimumOperatingCurrent else .maximumOperatingCurrent
  | battery => some fun giveback =>
      if giveback then .minimumOperatingPower else .maximumOperatingPower
  | pps | avs => none

variable {r : Reference} {giveback : Bool}

theorem covers_giveback_iff : ∀ row ∈ r.rows giveback,
    row.span.covers 27 = true ↔ row.name = .givebackFlag := by
  cases r <;> cases giveback <;> decide +kernel

theorem rows_of_no_limit (h : r.limit? = none) (giveback giveback' : Bool) :
    r.rows giveback = r.rows giveback' ∧ ∀ row ∈ r.rows giveback, row.name ≠ .givebackFlag := by
  cases r <;> cases h <;> cases giveback <;> cases giveback' <;> decide +kernel

/-- The rows of the two sides agree up to the last, and the last ones agree up to their names. -/
theorem rows_of_limit {limit : Bool → FieldName} (h : r.limit? = some limit) :
    ∃ (between : List Row) (last : Bool → Row),
      (∀ side, r.rows side = Block.objectPosition :: Block.giveback :: (between ++ [last side])) ∧
      (∀ row ∈ between, row.name ≠ .givebackFlag) ∧
      ∀ side, (last side).name = limit side ∧ (last side).span = (last true).span ∧
        (last side).scale = (last true).scale := by
  refine ⟨((r.rows true).drop 2).dropLast,
    fun side => (r.rows side).getLast?.getD Block.giveback, ?_, ?_, ?_⟩
  all_goals cases r <;> cases h <;> decide +kernel

/-- Each side has the limit of its own name. -/
theorem mem_names_limit_iff {limit : Bool → FieldName} (h : r.limit? = some limit) (side : Bool) :
    limit side ∈ (r.rows giveback).map (·.name) ↔ side = giveback := by
  cases r <;> cases h <;> cases side <;> cases giveback <;> decide +kernel

end Reference

namespace Word
variable (w : Word) {r : Reference}

theorem fields_request : (w.request r).fields = (r.rows (w.getLsbD 27)).map (·.decode w) := by
  rw [← giveback_eq]
  rfl

/-- Only the flag's own field tells the two words apart. -/
theorem decode_flip (r : Reference) (giveback : Bool) {row : Row} (hr : row ∈ r.rows giveback)
    (hn : row.name ≠ .givebackFlag) : row.decode (w.flip 27) = row.decode w := by
  have hc : row.span.covers 27 = false := by
    rw [← Bool.not_eq_true, Reference.covers_giveback_iff row hr]
    exact hn
  rw [Row.decode, read_flip w (by decide) hc, Row.decode]

theorem fields_flip_of_no_limit (h : r.limit? = none) :
    ((w.flip 27).request r).fields = (w.request r).fields := by
  obtain ⟨hrows, hname⟩ := Reference.rows_of_no_limit h (!w.getLsbD 27) (w.getLsbD 27)
  rw [fields_request, getLsbD_flip_self w (by decide), fields_request, ← hrows]
  exact List.map_congr_left fun row hr => w.decode_flip r _ hr (hname row hr)

theorem exchangesLimit_flip {limit : Bool → FieldName} (h : r.limit? = some limit) :
    ExchangesLimit limit (w.getLsbD 27) (w.request r).fields ((w.flip 27).request r).fields := by
  obtain ⟨between, last, hrows, hbetween, hlast⟩ := Reference.rows_of_limit h
  have hname : ∀ side, limit side ≠ .givebackFlag := by cases r <;> cases h <;> decide
  have hposition : Block.objectPosition.decode (w.flip 27) = Block.objectPosition.decode w :=
    w.decode_flip r true (by simp [hrows]) (by decide)
  have hmiddle : between.map (·.decode (w.flip 27)) = between.map (·.decode w) :=
    List.map_congr_left fun row hr =>
      w.decode_flip r true (by simp [hrows, hr]) (hbetween row hr)
  have hlimit (side : Bool) : (last side).decode w =
      ⟨limit side, ((last true).decode w).raw, ((last true).decode w).display⟩ := by
    obtain ⟨hn, hs, hc⟩ := hlast side
    rw [Row.decode, hn, hs, hc]
    rfl
  have hlimit' (side : Bool) : (last side).decode (w.flip 27) = (last side).decode w :=
    w.decode_flip r side (by simp [hrows]) ((hlast side).1 ▸ hname side)
  refine ⟨[Block.objectPosition.decode w], between.map (·.decode w),
    ((last true).decode w).raw, ((last true).decode w).display, ?_, ?_⟩
  · rw [fields_request, hrows, List.map_cons, List.map_cons, List.map_append, List.map_singleton,
      Block.decode_giveback, hlimit]
    rfl
  · rw [fields_request, hrows, List.map_cons, List.map_cons, List.map_append, List.map_singleton,
      Block.decode_giveback, hposition, hmiddle, hlimit', hlimit, getLsbD_flip_self w (by decide)]
    rfl

theorem mem_names_request_iff {limit : Bool → FieldName} (h : r.limit? = some limit) (side : Bool) :
    (limit side).text ∈ (w.request r).names ↔ side = w.getLsbD 27 := by
  have hnames : (w.request r).names =
      ((r.rows (w.getLsbD 27)).map (·.name)).map FieldName.text := by
    rw [DataObject.names, fields_request, List.map_map, List.map_map]
    rfl
  rw [hnames, List.mem_map_of_injective FieldName.text_injective]
  exact Reference.mem_names_limit_iff h side

end Word

/-- A request that has a giveback flag shows one limit, the least where the flag is set and the most
where it is clear; to flip the flag changes it and the name of the limit, and nothing else. In other
requests the bit changes nothing. -/
theorem request_flip_giveback (r : Reference) (w : Word) :
    ∃ d d', (decodeRequest (.int w.toNat) (.known r)).outcome = .ok d ∧
      (decodeRequest (.int (w.flip 27).toNat) (.known r)).outcome = .ok d' ∧
      match r.limit? with
      | none => d'.fields = d.fields
      | some limit => ExchangesLimit limit (w.getLsbD 27) d.fields d'.fields ∧
          ∀ side, ((limit side).text ∈ d.names ↔ side = w.getLsbD 27) ∧
            ((limit side).text ∈ d'.names ↔ side = !w.getLsbD 27) := by
  refine ⟨_, _, w.decodeRequest_of_reference r, (w.flip 27).decodeRequest_of_reference r, ?_⟩
  cases h : r.limit? with
  | none => exact w.fields_flip_of_no_limit h
  | some limit =>
    refine ⟨w.exchangesLimit_flip h, fun side => ⟨w.mem_names_request_iff h side, ?_⟩⟩
    rw [(w.flip 27).mem_names_request_iff h, w.getLsbD_flip_self (by decide)]

end PowerDelivery
