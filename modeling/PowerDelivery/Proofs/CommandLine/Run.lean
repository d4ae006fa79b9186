import PowerDelivery.Proofs.CommandLine.Encoding

/-! # What a run yields: the readings of its literals, and then its encoding -/
namespace PowerDelivery.CommandLine

namespace Settings

/-- The transcript of a run whose output need not be configured as the settings say. -/
def transcriptUnder (s : Settings) (c : OutputConfig) : Except RunError Transcript :=
  (Session.run s c).outcome.map fun () => .ofEvents c (Session.run s c).events

theorem transcript_eq (s : Settings) : s.transcript = s.transcriptUnder s.config := rfl

def Returns (s : Settings) (c : OutputConfig) : Prop := ∃ t, s.transcriptUnder c = .ok t

def reports (s : Settings) (c : OutputConfig) : List Report :=
  (Session.run s c).events.filterMap Event.report?

def fails (s : Settings) (c : OutputConfig) : Bool := (Session.run s c).events.any Event.isFailure

def errorText (s : Settings) (c : OutputConfig) : String :=
  String.join ((Session.run s c).events.map (Event.errorText c))

/-- What the encoding reports, if one is asked for. -/
inductive EncodedAs (s : Settings) : Option Report → Prop
  | none (h : s.encode = none) : EncodedAs s none
  | some {v : Variant} {word : Word} {summary : Option String} (h : s.encode = some v)
      (encoded : s.Encoded v word summary) : EncodedAs s (some (.encoded word v summary))

theorem EncodedAs.with_literals {s : Settings} {report : Option Report} (h : s.EncodedAs report)
    (pdos rdos : List Operand) : { s with pdos, rdos }.EncodedAs report := by
  cases h with
  | none h => exact .none h
  | some h encoded => exact .some h ⟨encoded.named, encoded.word_eq, encoded.summary_eq⟩

theorem EncodedAs.unique {s : Settings} {report report' : Option Report}
    (h : s.EncodedAs report) (h' : s.EncodedAs report') : report = report' := by
  cases h with
  | none hn =>
    cases h' with
    | none _ => rfl
    | some hs _ => cases hn.symm.trans hs
  | some hs encoded =>
    cases h' with
    | none hn => cases hs.symm.trans hn
    | some hs' encoded' =>
      cases hs.symm.trans hs'
      rw [Except.ok.inj (encoded.word_eq.symm.trans encoded'.word_eq),
        Except.ok.inj (encoded.summary_eq.symm.trans encoded'.summary_eq)]

theorem exists_encodedAs_iff {s : Settings} : (∃ report, s.EncodedAs report) ↔
    ∀ v ∈ s.encode, ∃ word summary, s.Encoded v word summary := by
  constructor
  · rintro ⟨report, hr⟩ v hv
    cases hr with
    | none he => rw [he] at hv; cases hv
    | some he encoded =>
      obtain rfl := Option.some.inj (he.symm.trans hv)
      exact ⟨_, _, encoded⟩
  · intro h
    cases hs : s.encode with
    | none => exact ⟨none, .none hs⟩
    | some v =>
      obtain ⟨word, summary, encoded⟩ := h v hs
      exact ⟨_, .some hs encoded⟩

def notesOfEncode (s : Settings) : List Note := s.encode.elim [] s.encodingNotes

/-- The literals come to the readings, and the encoding to the report. -/
structure Yields (s : Settings) (c : OutputConfig) (xs : List Reading) (report : Option Report) :
    Prop where
  readings : ∃ ys, s.capabilityReadings c = .ok ys ∧ ys ++ s.requestReadings = xs
  encoded : s.EncodedAs report

end Settings

namespace Session
open Traced
variable {s : Settings} {c : OutputConfig}

def encodings (s : Settings) : Session Unit :=
  match s.encode with
  | none => pure ()
  | some v => encoding s v

theorem encodings_eq {report : Option Report} (h : s.EncodedAs report) :
    encodings s = tellAll (s.notesOfEncode.map .note ++ report.toList.map .report) := by
  unfold encodings Settings.notesOfEncode
  cases h with
  | none h =>
    rw [h]
    rfl
  | some h encoded =>
    rw [h]
    exact encoding_eq encoded

theorem encodings_ok_iff :
    (encodings s).outcome = .ok () ↔ ∃ report, s.EncodedAs report := by
  constructor
  · unfold encodings
    cases h : s.encode with
    | none => exact fun _ => ⟨none, .none h⟩
    | some v =>
      intro he
      obtain ⟨word, summary, encoded⟩ := encoding_ok_iff.1 he
      exact ⟨_, .some h encoded⟩
  · rintro ⟨report, h⟩
    rw [encodings_eq h]
    rfl

theorem run_eq (s : Settings) (c : OutputConfig) : run s c =
    Traced.ofExcept ((s.capabilityReadings c).mapError RunError.tooLong) >>= fun ys =>
      tellAll ((ys ++ s.requestReadings).flatMap Reading.events) >>= fun _ => encodings s := by
  change (capabilities s c >>= fun _ => requests s >>= fun _ => encodings s) = _
  rw [capabilities_eq, requests_eq, bind_assoc]
  refine bind_congr fun ys => ?_
  rw [← bind_assoc, tellAll_append, List.flatMap_append]

theorem run_of_readings {ys : List Reading} (h : s.capabilityReadings c = .ok ys) : run s c =
    ⟨(ys ++ s.requestReadings).flatMap Reading.events ++ (encodings s).events,
      (encodings s).outcome⟩ := by
  rw [run_eq, h]
  exact tellAll_bind _ _

theorem run_of_yields {xs : List Reading} {report : Option Report} (h : s.Yields c xs report) :
    run s c = tellAll (xs.flatMap Reading.events ++
      (s.notesOfEncode.map .note ++ report.toList.map .report)) := by
  obtain ⟨⟨ys, hys, rfl⟩, hr⟩ := h
  rw [run_of_readings hys, encodings_eq hr]
  rfl

/-- What stops a run is a leaf that cannot be read, or its encoding. -/
theorem run_ok_iff : (run s c).outcome = .ok () ↔ ∃ xs report, s.Yields c xs report := by
  constructor
  · intro h
    cases hys : s.capabilityReadings c with
    | error e =>
      rw [run_eq, hys] at h
      cases h
    | ok ys =>
      rw [run_of_readings hys] at h
      obtain ⟨report, hr⟩ := encodings_ok_iff.1 h
      exact ⟨_, report, ⟨ys, hys, rfl⟩, hr⟩
  · rintro ⟨xs, report, h⟩
    rw [run_of_yields h]
    rfl

end Session

namespace Settings
variable {s : Settings} {c : OutputConfig}

theorem transcriptUnder_eq_ok_iff {t : Transcript} : s.transcriptUnder c = .ok t ↔
    (Session.run s c).outcome = .ok () ∧
      ⟨if s.fails c then 1 else 0, Transcript.reportsText c.json (s.reports c),
        s.errorText c⟩ = t := by
  unfold transcriptUnder
  cases (Session.run s c).outcome with
  | error e => exact iff_of_false nofun fun h => nomatch h.1
  | ok u => exact ⟨fun h => ⟨rfl, Except.ok.inj h⟩, fun h => congrArg Except.ok h.2⟩

theorem returns_iff_yields : s.Returns c ↔ ∃ xs report, s.Yields c xs report := by
  rw [← Session.run_ok_iff]
  simp only [Returns, transcriptUnder_eq_ok_iff, exists_and_left, exists_eq', and_true]

namespace Yields
variable {xs : List Reading} {report : Option Report} (h : s.Yields c xs report)
include h

theorem reports_eq : s.reports c = xs.filterMap Reading.report? ++ report.toList := by
  have hreport : (report.toList.map Event.report).filterMap Event.report? = report.toList := by
    cases report <;> rfl
  rw [reports, Session.run_of_yields h, Traced.events_tellAll, List.filterMap_append,
    List.filterMap_append, Reading.filterMap_events, Event.filterMap_notes, hreport,
    List.nil_append]

theorem fails_eq : s.fails c = xs.any Reading.isFailure := by
  have hreport : (report.toList.map Event.report).any Event.isFailure = false := by
    cases report <;> rfl
  rw [fails, Session.run_of_yields h, Traced.events_tellAll, List.any_append, List.any_append,
    Reading.any_events, Event.any_notes, hreport, Bool.or_false, Bool.or_false]

theorem errorText_eq : s.errorText c = String.join (xs.map (Reading.errorText c)) ++
    String.join ((s.notesOfEncode.filter c.shows).map Note.line) := by
  have hreport : String.join ((report.toList.map Event.report).map (Event.errorText c)) = "" := by
    cases report <;> rfl
  rw [errorText, Session.run_of_yields h, Traced.events_tellAll, List.map_append, List.map_append,
    String.join_append, String.join_append, Reading.join_events, Event.join_notes, hreport,
    String.append_empty]

/-- Readings and encoding each add their part to the exit status and to either stream. -/
theorem transcriptUnder_eq : s.transcriptUnder c = .ok
    { exit := if xs.any Reading.isFailure then 1 else 0
      stdout := Transcript.reportsText c.json (xs.filterMap Reading.report? ++ report.toList)
      stderr := String.join (xs.map (Reading.errorText c)) ++
        String.join ((s.notesOfEncode.filter c.shows).map Note.line) } := by
  rw [transcriptUnder_eq_ok_iff, h.fails_eq, h.reports_eq, h.errorText_eq]
  exact ⟨Session.run_ok_iff.2 ⟨xs, report, h⟩, rfl⟩

end Yields

end Settings
end PowerDelivery.CommandLine
