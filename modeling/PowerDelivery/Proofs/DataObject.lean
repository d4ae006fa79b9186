import PowerDelivery.Decode
import PowerDelivery.Proofs.Keyed
import PowerDelivery.Proofs.Layout
import PowerDelivery.Proofs.Scale
import PowerDelivery.Proofs.Text.Runs

/-! # Names, entries and text of a data object

No two fields of a decoded word share a name. No name has an equals sign and no line of the text a
line feed, so the text tells which fields there are and what each of them displays. -/
namespace PowerDelivery

namespace Text

/-- The pairs that the lines of a text write, each line cut at its first equals sign. -/
def pairs (text : String) : List (String × String) :=
  ((text.toList.splitOn '\n').filterMap Text.cutAtEquals).map fun p =>
    (String.ofList p.1, String.ofList p.2)

end Text

theorem FieldName.not_mem_text (f : FieldName) : '\n' ∉ f.text.toList ∧ '=' ∉ f.text.toList := by
  have h : ∀ f ∈ members, '\n' ∉ f.text.toList ∧ '=' ∉ f.text.toList := by decide +kernel
  exact h f (mem_members f)

namespace DecodedField
variable (f : DecodedField)

def cells : List Char := f.name.text.toList ++ '=' :: f.display.toList

theorem toList_line : f.line.toList = f.cells ++ ['\n'] := by
  have hself (s : String) : toString s = s := rfl
  simp [line, cells, hself]

theorem cutAtEquals_cells : Text.cutAtEquals f.cells =
    some (f.name.text.toList, f.display.toList) :=
  Text.cutAtEquals_append f.name.not_mem_text.2 f.display.toList

end DecodedField

namespace Word
variable (w : Word)

theorem names_nodup_of_pairwise {rows : List Row} (h : rows.Pairwise fun r s => r.name ≠ s.name) :
    ((rows.map (·.decode w)).map (·.name.text)).Nodup := by
  rw [List.map_map, List.nodup_iff_pairwise_ne, List.pairwise_map]
  exact h.imp fun hne ht => hne (FieldName.text_injective ht)

theorem names_capability (first side : Bool) (v : Variant) :
    (w.capability first side v).names.Nodup :=
  w.names_nodup_of_pairwise (layout v first side).named

theorem names_capability_eq (first side : Bool) (v : Variant) :
    (w.capability first side v).names = (v.rows first side).map (·.name.text) := by
  rw [DataObject.names, capability, List.map_map]
  rfl

theorem names_request (r : Reference) : (w.request r).names.Nodup := by
  have h (giveback : Bool) : (r.rows giveback).Pairwise fun a b => a.name ≠ b.name := by
    cases r <;> cases giveback <;> decide
  exact w.names_nodup_of_pairwise (h _)

/-- What a decoded word displays is made of digits and points. -/
theorem not_mem_display (rows : List Row) :
    ∀ f ∈ rows.map (·.decode w), '\n' ∉ f.display.toList := by
  intro f hf h
  obtain ⟨row, -, rfl⟩ := List.mem_map.1 hf
  rcases Scale.isDigit_or_eq_of_mem_display h with h | h
  · exact absurd h (by decide)
  · exact absurd h (by decide)

end Word

namespace DataObject

/-- The name of each field with what it displays. -/
def shown (o : DataObject) : List (String × String) :=
  o.fields.map fun f => (f.name.text, f.display)

theorem entries_of_nodup {o : DataObject} (h : o.names.Nodup) : o.entries = o.shown := by
  apply Keyed.ofList_of_nodup
  rwa [List.map_map]

theorem get?_of_nodup {o : DataObject} (h : o.names.Nodup) {f : DecodedField} (hf : f ∈ o.fields) :
    o.get? f.name.text = some f := by
  unfold names get? at *
  generalize o.fields = fields at *
  induction fields with
  | nil => cases hf
  | cons g fields ih =>
    rw [List.map_cons, List.nodup_cons] at h
    rcases List.mem_cons.1 hf with rfl | hf
    · exact List.find?_cons_of_pos (beq_self_eq_true _)
    · have hne : g.name.text ≠ f.name.text := fun he => h.1 (he ▸ List.mem_map.2 ⟨f, hf, rfl⟩)
      rw [List.find?_cons_of_neg (by simpa using hne), ih h.2 hf]

/-- Where no display has a line feed, each field has a line of its own. -/
theorem splitOn_text {o : DataObject} (h : ∀ f ∈ o.fields, '\n' ∉ f.display.toList) :
    o.text.toList.splitOn '\n' = o.fields.map DecodedField.cells ++ [[]] := by
  unfold text
  generalize o.fields = fields at h
  induction fields with
  | nil => rfl
  | cons f fields ih =>
    have hcells : '\n' ∉ f.cells := by
      simp [DecodedField.cells, f.name.not_mem_text.1, h f List.mem_cons_self]
    rw [List.map_cons, String.join_cons, String.toList_append, f.toList_line, List.append_assoc,
      List.singleton_append, List.splitOn_append_cons_self_of_not_mem hcells,
      ih fun g hg => h g (List.mem_cons_of_mem f hg), List.map_cons, List.cons_append]

/-- The text then reads back as the names and the displays. -/
theorem pairs_text {o : DataObject} (h : ∀ f ∈ o.fields, '\n' ∉ f.display.toList) :
    Text.pairs o.text = o.shown := by
  have hcut : Text.cutAtEquals ∘ DecodedField.cells =
      some ∘ fun f => (f.name.text.toList, f.display.toList) :=
    funext DecodedField.cutAtEquals_cells
  have hnil : [[]].filterMap Text.cutAtEquals = [] := rfl
  rw [Text.pairs, splitOn_text h, List.filterMap_append, List.filterMap_map, hcut,
    List.filterMap_eq_map, hnil, List.append_nil, List.map_map, shown]
  apply List.map_congr_left
  intro f hf
  simp

theorem text_eq_join (o : DataObject) :
    o.text = String.join (o.shown.map fun p => s!"{p.1}={p.2}\n") := by
  rw [shown, List.map_map]
  rfl

theorem text_eq_text_iff {o o' : DataObject} (h : ∀ f ∈ o.fields, '\n' ∉ f.display.toList)
    (h' : ∀ f ∈ o'.fields, '\n' ∉ f.display.toList) : o.text = o'.text ↔ o.shown = o'.shown := by
  constructor
  · intro ht
    rw [← pairs_text h, ht, pairs_text h']
  · intro hs
    rw [text_eq_join, hs, text_eq_join]

end DataObject

theorem Word.get?_capability (w : Word) {first side : Bool} {v : Variant} {row : Row}
    (hr : row ∈ v.rows first side) :
    (w.capability first side v).get? row.name.text = some (row.decode w) :=
  DataObject.get?_of_nodup (w.names_capability first side v) (List.mem_map.2 ⟨row, hr, rfl⟩)

end PowerDelivery
