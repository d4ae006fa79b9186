import PowerDelivery.Proofs.CommandLine.Readings
import PowerDelivery.Proofs.Encoding.Failure
import PowerDelivery.Proofs.Keyed

/-! # What an encoding in a run comes to -/
namespace PowerDelivery
namespace CommandLine

namespace Settings
variable (s : Settings)

/-- The attributes that have a name, each name once. -/
def named : List (String × String) := Keyed.ofList (s.attributes.filterMap id)

def texts : Attributes := s.named.map fun p => (p.1, some p.2)

def position : Int := if s.first then 1 else 2

def word (v : Variant) : Noted EncodeError Word :=
  PowerDelivery.encode (.known v) (some !s.sink) s.position s.texts

def line (v : Variant) : Noted TooLong (Option String) :=
  if s.summary then some <$> summarize (.known v) (!s.sink) s.texts else pure none

/-- All attributes have a name, and nothing stops the encoding or the summary. -/
structure Encoded (v : Variant) (word : Word) (summary : Option String) : Prop where
  named : none ∉ s.attributes
  word_eq : (s.word v).outcome = .ok word
  summary_eq : (s.line v).outcome = .ok summary

def unknown : List Note :=
  (s.named.filter fun p => (Vocabulary.ofText? p.1 : Option FieldName).isNone).map
    fun p => .unknownAttribute p.1

def encodingNotes (v : Variant) : List Note :=
  s.unknown ++ ((s.word v).events ++ (s.line v).events)

end Settings

namespace Session
open Traced

theorem pairs_of_named {attributes : List (Option (String × String))} (h : none ∉ attributes)
    (i : Nat) : pairs i attributes = .ok (attributes.filterMap id) := by
  induction attributes generalizing i with
  | nil => rfl
  | cons a attributes ih =>
    cases a with
    | none => exact absurd List.mem_cons_self h
    | some p =>
      rw [pairs, ih (fun hn => h (List.mem_cons_of_mem _ hn))]
      rfl

theorem named_of_pairs {attributes : List (Option (String × String))} {i : Nat}
    {ps : List (String × String)} (h : pairs i attributes = .ok ps) : none ∉ attributes := by
  induction attributes generalizing i ps with
  | nil => exact List.not_mem_nil
  | cons a attributes ih =>
    cases a with
    | none => cases h
    | some p =>
      cases hrest : pairs (i + 1) attributes with
      | error e => rw [pairs, hrest] at h; cases h
      | ok rest => simpa using ih hrest

variable {s : Settings} {v : Variant}

theorem line_bind (next : Option String → Session Unit) :
    ((s.line v).mapEvents .note).mapError .tooLong >>= next =
      if s.summary then
        ((summarize (.known v) (!s.sink) s.texts).mapEvents .note).mapError .tooLong >>=
          fun line => next (some line)
      else next none := by
  unfold Settings.line
  cases s.summary with
  | false => rfl
  | true =>
    obtain ⟨events, outcome⟩ := summarize (.known v) (!s.sink) s.texts
    cases outcome with
    | error e => rfl
    | ok line =>
      change (⟨(events ++ []).map .note ++ _, _⟩ : Session Unit) = ⟨events.map .note ++ _, _⟩
      rw [List.append_nil]

theorem encoding_of_named (h : none ∉ s.attributes) : encoding s v =
    (tellAll (s.unknown.map .note) >>= fun _ =>
      ((s.word v).mapEvents .note).mapError .encoding >>= fun word =>
        ((s.line v).mapEvents .note).mapError .tooLong >>= fun summary =>
          tellAll [.report (.encoded word v summary)]) := by
  have hunknown : ((s.named.filter fun p =>
      (Vocabulary.ofText? p.1 : Option FieldName).isNone).forM fun p =>
        tell (.note (.unknownAttribute p.1)) : Session Unit) = tellAll (s.unknown.map .note) := by
    have htell (p : String × String) : (tell (.note (.unknownAttribute p.1)) : Session Unit) =
        tellAll [.note (.unknownAttribute p.1)] := rfl
    rw [forM_eq_tellAll htell, Settings.unknown, List.map_map, List.map_eq_flatMap]
    rfl
  simp only [← hunknown, line_bind]
  unfold encoding
  rw [bind_of_ok (pairs_of_named h 0)]
  rfl

theorem encoding_eq {word : Word} {summary : Option String} (h : s.Encoded v word summary) :
    encoding s v =
      tellAll ((s.encodingNotes v).map .note ++ [.report (.encoded word v summary)]) := by
  have hword : (((s.word v).mapEvents Event.note).mapError RunError.encoding).outcome = .ok word :=
    outcome_mapError_eq_ok_iff.2 h.word_eq
  have hline : (((s.line v).mapEvents Event.note).mapError RunError.tooLong).outcome =
      .ok summary := outcome_mapError_eq_ok_iff.2 h.summary_eq
  rw [encoding_of_named h.named, Settings.encodingNotes, List.map_append, List.map_append,
    List.append_assoc, List.append_assoc]
  exact bind_eq_tellAll rfl (bind_eq_tellAll hword (bind_eq_tellAll hline rfl))

theorem encoding_ok_iff :
    (encoding s v).outcome = .ok () ↔ ∃ word summary, s.Encoded v word summary := by
  constructor
  · intro h
    have hnamed : none ∉ s.attributes := by
      obtain ⟨ps, hps, -⟩ := outcome_bind_eq_ok_iff.1 h
      exact named_of_pairs hps
    rw [encoding_of_named hnamed, outcome_bind_eq_ok_iff] at h
    obtain ⟨-, -, h⟩ := h
    obtain ⟨word, hword, h⟩ := outcome_bind_eq_ok_iff.1 h
    obtain ⟨summary, hline, -⟩ := outcome_bind_eq_ok_iff.1 h
    exact ⟨word, summary, hnamed, outcome_mapError_eq_ok_iff.1 hword,
      outcome_mapError_eq_ok_iff.1 hline⟩
  · rintro ⟨word, summary, h⟩
    rw [encoding_eq h]
    rfl

end Session

namespace Settings
variable {s : Settings} {v : Variant}

theorem position_eq_one : (s.position == 1) = s.first := by
  unfold position
  cases s.first <;> rfl

theorem line_ok_iff : (∃ summary, (s.line v).outcome = .ok summary) ↔
    (s.summary = true → ∀ f ∈ Summary.fields (!s.sink) v, ¬s.texts.Overlong f) := by
  unfold line
  rw [← summarize_outcome_ok_iff]
  cases s.summary with
  | false => exact iff_of_true ⟨none, rfl⟩ nofun
  | true =>
    rw [if_pos rfl, Traced.outcome_map]
    cases (summarize (.known v) (!s.sink) s.texts).outcome with
    | error e => exact iff_of_false nofun fun h => nomatch h rfl
    | ok line => exact iff_of_true ⟨some line, rfl⟩ fun _ => ⟨line, rfl⟩

theorem exists_encoded_iff : (∃ word summary, s.Encoded v word summary) ↔
    none ∉ s.attributes ∧ (∀ row ∈ v.rows s.first !s.sink, ¬s.texts.Overlong row.name) ∧
      (s.summary = true → ∀ f ∈ Summary.fields (!s.sink) v, ¬s.texts.Overlong f) := by
  rw [← line_ok_iff, ← position_eq_one, ← encode_outcome_ok_iff]
  constructor
  · rintro ⟨word, summary, h⟩
    exact ⟨h.named, ⟨word, h.word_eq⟩, summary, h.summary_eq⟩
  · rintro ⟨hnamed, ⟨word, hword⟩, summary, hsummary⟩
    exact ⟨word, summary, hnamed, hword, hsummary⟩

theorem texts_short (h : ∀ p ∈ s.attributes.filterMap id, Attribute.Short p.2) : s.texts.Short := by
  apply Attributes.short_of_forall_mem
  intro p hp text ht
  obtain ⟨q, hq, rfl⟩ := List.mem_map.1 hp
  obtain rfl : q.2 = text := Option.some.inj ht
  exact h q (Keyed.mem_of_mem_ofList hq)

end Settings
end CommandLine
end PowerDelivery
