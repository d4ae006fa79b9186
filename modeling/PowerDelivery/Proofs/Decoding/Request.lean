import PowerDelivery.Proofs.DataObject
import PowerDelivery.Proofs.Decoding

/-! # What the text of a request tells of its word

The giveback flag settles which rows a request has. Either the text shows the flag, or the rows are
the same without it, so that two texts can be compared row by row. -/
namespace PowerDelivery

namespace Row
variable (row : Row)

/-- Whether the display of the row depends on the bit `i`. -/
def shows (i : Nat) : Bool := row.span.covers i && row.span.offset + row.scale.dropped ≤ i

theorem display_decode_eq_iff (w w' : Word) : (row.decode w).display = (row.decode w').display ↔
    ∀ i, row.shows i = true → w.getLsbD i = w'.getLsbD i := by
  simp only [decode, Scale.display_eq_iff, Word.read_div_eq_iff, shows, Bool.and_eq_true,
    decide_eq_true_eq, and_imp]

end Row

namespace Reference

/-- The bits of a request that its text does not show: the reserved ones, a giveback flag that does
not apply, and the low bit of the output voltage of an adjustable supply. -/
def unshown : Reference → List Nat
  | fixedOrVariable | battery => [20, 21]
  | pps => [7, 8, 21, 27]
  | avs => [7, 8, 9, 21, 27]

variable {r : Reference} {giveback giveback' : Bool}

theorem any_shows_iff {i : Nat} (hi : i < 32) :
    (r.rows giveback).any (·.shows i) = true ↔ i ∉ r.unshown := by
  have h : ∀ i < 32, (r.rows giveback).any (·.shows i) = true ↔ i ∉ r.unshown := by
    cases r <;> cases giveback <;> decide +kernel
  exact h i hi

theorem rows_eq_of_names_eq
    (h : (r.rows giveback).map (·.name) = (r.rows giveback').map (·.name)) :
    r.rows giveback = r.rows giveback' := by
  revert h
  cases r <;> cases giveback <;> cases giveback' <;> decide +kernel

/-- Where the giveback flag is not shown it makes no difference. -/
theorem rows_eq_of_unshown (h : 27 ∈ r.unshown) : r.rows giveback = r.rows giveback' := by
  revert h
  cases r <;> cases giveback <;> cases giveback' <;> decide +kernel

end Reference

namespace Word
variable (r : Reference) (w w' : Word)

theorem shown_request : (w.request r).shown =
    (r.rows (w.read givebackSpan == 1)).map fun row => (row.name.text, (row.decode w).display) := by
  rw [DataObject.shown, request, List.map_map]
  rfl

theorem rows_eq_of_agree {w w' : Word} (h : ∀ i < 32, i ∉ r.unshown → w.getLsbD i = w'.getLsbD i) :
    r.rows (w.read givebackSpan == 1) = r.rows (w'.read givebackSpan == 1) := by
  by_cases hg : 27 ∈ r.unshown
  · exact Reference.rows_eq_of_unshown hg
  · have hread : w.read givebackSpan = w'.read givebackSpan := by
      apply read_congr
      intro i hi
      have hi : i = 27 := by
        have := Span.covers_iff.1 hi
        simp only [givebackSpan] at this
        omega
      rw [hi]
      exact h 27 (by decide) hg
    rw [hread]

theorem shown_request_eq_iff : (w.request r).shown = (w'.request r).shown ↔
    ∀ i < 32, i ∉ r.unshown → w.getLsbD i = w'.getLsbD i := by
  rw [shown_request, shown_request]
  constructor
  · intro h i hi hs
    have hnames : (r.rows (w.read givebackSpan == 1)).map (·.name) =
        (r.rows (w'.read givebackSpan == 1)).map (·.name) := by
      have ht := congrArg (List.map Prod.fst) h
      rw [List.map_map, List.map_map] at ht
      apply FieldName.text_injective.list_map
      rw [List.map_map, List.map_map]
      exact ht
    rw [Reference.rows_eq_of_names_eq hnames, List.map_inj_left] at h
    obtain ⟨row, hr, hi⟩ := List.any_eq_true.1 ((Reference.any_shows_iff hi).2 hs)
    exact (row.display_decode_eq_iff w w').1 (congrArg Prod.snd (h row hr)) i hi
  · intro h
    rw [rows_eq_of_agree r h, List.map_inj_left]
    intro row hr
    rw [Prod.mk.injEq, row.display_decode_eq_iff]
    refine ⟨rfl, fun i hi => ?_⟩
    by_cases hlt : i < 32
    · exact h i hlt ((Reference.any_shows_iff hlt).1 (List.any_eq_true.2 ⟨row, hr, hi⟩))
    · rw [BitVec.getLsbD_of_ge w i (by omega), BitVec.getLsbD_of_ge w' i (by omega)]

end Word

/-- Two requests have the same text exactly if their words agree on every bit but the unshown
ones. -/
theorem request_text_eq_iff (r : Reference) (w w' : Word) :
    ∃ d d', (decodeRequest (.int w.toNat) (.known r)).outcome = .ok d ∧
      (decodeRequest (.int w'.toNat) (.known r)).outcome = .ok d' ∧
      (d.text = d'.text ↔ ∀ i < 32, i ∉ r.unshown → w.getLsbD i = w'.getLsbD i) := by
  refine ⟨_, _, w.decodeRequest_of_reference r, w'.decodeRequest_of_reference r, ?_⟩
  rw [DataObject.text_eq_text_iff (w.not_mem_display _) (w'.not_mem_display _),
    Word.shown_request_eq_iff]

end PowerDelivery
