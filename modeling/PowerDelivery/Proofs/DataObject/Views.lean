import PowerDelivery.Proofs.DataObject
import PowerDelivery.Proofs.Decoding
import PowerDelivery.Proofs.Events

/-! # The views of a decoded object

Names, look-up, entries and lines of text all tell of the same fields. Each field has a name of its
own, which the rows of every variant and reference see to, so that no view can lose one. -/
namespace PowerDelivery

/-- Whatever the object is asked for, it answers from its fields, one to a name. -/
structure DataObject.ViewsAgree (o : DataObject) : Prop where
  names_nodup : o.names.Nodup
  get?_field : ∀ f ∈ o.fields, o.get? f.name.text = some f ∧ o.getMember? f.name = some f
  get?_other : ∀ name, name ∉ o.names → o.get? name = none
  getMember?_other : ∀ name, name ∉ o.fields.map (·.name) → o.getMember? name = none
  entries_eq : o.entries = o.fields.map fun f => (f.name.text, f.display)
  lines : ∃ lines, o.text.toList.splitOn '\n' = lines ++ [[]] ∧
    lines.map Text.cutAtEquals =
      o.fields.map fun f => some (f.name.text.toList, f.display.toList)

namespace DataObject

theorem get?_eq_none_iff {o : DataObject} {name : String} :
    o.get? name = none ↔ name ∉ o.names := by
  simp [get?, names, List.find?_eq_none]

theorem viewsAgree_of_nodup {o : DataObject} (hn : o.names.Nodup)
    (hd : ∀ f ∈ o.fields, '\n' ∉ f.display.toList) : o.ViewsAgree where
  names_nodup := hn
  get?_field f hf := ⟨get?_of_nodup hn hf, get?_of_nodup hn hf⟩
  get?_other name := get?_eq_none_iff.2
  getMember?_other name h := by
    apply get?_eq_none_iff.2
    intro hname
    obtain ⟨f, hf, ht⟩ := List.mem_map.1 hname
    exact h (List.mem_map.2 ⟨f, hf, FieldName.text_injective ht⟩)
  entries_eq := entries_of_nodup hn
  lines := by
    refine ⟨o.fields.map DecodedField.cells, splitOn_text hd, ?_⟩
    rw [List.map_map]
    exact List.map_congr_left fun f _ => f.cutAtEquals_cells

/-- The objects that decoding comes to, from whatever values. -/
inductive Decoded : DataObject → Prop where
  | capability {word : Value} {first : Bool} {side : Option Bool}
      {variant : Option (Choice Variant)} {o : DataObject} (h : (decodeCapability word first side variant).outcome = .ok o) : Decoded o
  | request {word : Value} {reference : Choice Reference} {o : DataObject}
      (h : (decodeRequest word reference).outcome = .ok o) : Decoded o

/-- A capability or a request, or an object without fields where the variant or the reference is not
known. -/
theorem Decoded.cases_fields {o : DataObject} (h : o.Decoded) :
    (∃ (w : Word) (first side : Bool) (v : Variant), o = w.capability first side v) ∨
    (∃ (w : Word) (r : Reference), o = w.request r) ∨ o.fields = [] := by
  cases h with
  | @capability word first side variant _ h =>
    rw [decodeCapability, Traced.outcome_bind_eq_ok_iff] at h
    obtain ⟨w, -, h⟩ := h
    split at h
    · next v _ =>
      split at h
      · next side =>
        rw [w.decodeCapability_outcome] at h
        exact .inl ⟨w, first, side, v, (Except.ok.inj h).symm⟩
      · dsimp only at h
        split at h
        · obtain ⟨_, -, h⟩ := Traced.outcome_bind_eq_ok_iff.1 h
          cases h
        · cases h
    · split at h
      · cases h
      · obtain ⟨_, -, h⟩ := Traced.outcome_bind_eq_ok_iff.1 h
        obtain ⟨_, -, h⟩ := Traced.outcome_bind_eq_ok_iff.1 h
        cases h
        exact .inr (.inr rfl)
  | @request word reference _ h =>
    rw [decodeRequest, Traced.outcome_bind_eq_ok_iff] at h
    obtain ⟨w, -, h⟩ := h
    cases reference with
    | known r =>
      cases h
      exact .inr (.inl ⟨w, r, rfl⟩)
    | other x =>
      obtain ⟨_, -, h⟩ := Traced.outcome_bind_eq_ok_iff.1 h
      cases h
      exact .inr (.inr rfl)

/-- All views of a decoded object agree. -/
theorem Decoded.viewsAgree {o : DataObject} (h : o.Decoded) : o.ViewsAgree := by
  rcases h.cases_fields with ⟨w, first, side, v, rfl⟩ | ⟨w, r, rfl⟩ | h
  · exact viewsAgree_of_nodup (w.names_capability first side v) (w.not_mem_display _)
  · exact viewsAgree_of_nodup (w.names_request r) (w.not_mem_display _)
  · refine viewsAgree_of_nodup ?_ ?_
    · rw [names, h]
      exact List.nodup_nil
    · rw [h]
      exact List.forall_mem_nil _

/-- The first capability of a source has the rows of two blocks. -/
theorem viewsAgree_first : ∃ o,
    (decodeCapability (.int 0x2A01912C) true (some true) none).outcome = .ok o ∧
      o.names.length = 10 ∧ o.ViewsAgree := by
  have h := Word.decodeCapability_of_word_outcome 0x2A01912C#32 true true none
  exact ⟨_, h, by decide +kernel, Decoded.viewsAgree (.capability h)⟩

end DataObject
end PowerDelivery
