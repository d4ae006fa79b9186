import PowerDelivery.Proofs.CommandLine.ErrorLines

/-! # Runs in text mode

What a literal adds to the transcript is found from the literal and the settings that all literals
share. -/
namespace PowerDelivery.CommandLine

/-- A request to encode a word: attributes are names with values. -/
structure EncodeRequest where
  variant : Variant
  attributes : List (String × String)
  summary : Bool

namespace Settings

/-- The settings with these literals and this request. Attributes that were given without a request
stay as they are. -/
def given (s : Settings) (pdos rdos : List Operand) (request : Option EncodeRequest) : Settings :=
  { s with
    pdos, rdos
    encode := request.map (·.variant)
    attributes := request.elim s.attributes fun r => r.attributes.map some
    summary := request.elim s.summary (·.summary) }

theorem exists_encodedAs_given (s : Settings) (pdos rdos : List Operand)
    {request : Option EncodeRequest} (h : ∀ r ∈ request, ∀ p ∈ r.attributes, Attribute.Short p.2) :
    ∃ report, (s.given pdos rdos request).EncodedAs report := by
  cases request with
  | none => exact ⟨none, .none rfl⟩
  | some r =>
    have hpairs : (r.attributes.map some).filterMap id = r.attributes := by
      rw [List.filterMap_map]
      exact List.filterMap_some
    have hnamed : none ∉ (s.given pdos rdos (some r)).attributes := by simp [given]
    have hshort : (s.given pdos rdos (some r)).texts.Short :=
      texts_short fun p hp => h r rfl p (hpairs ▸ hp)
    obtain ⟨word, summary, encoded⟩ := exists_encoded_iff.2
      ⟨hnamed, fun row _ => hshort.not_overlong row.name, fun _ f _ => hshort.not_overlong f⟩
    exact ⟨_, .some rfl encoded⟩

end Settings

theorem Transcript.reportsText_text (reports : List Report) :
    reportsText false reports = String.join (reports.map Report.text) := rfl

theorem Reading.join_text (xs : List Reading) :
    String.join ((xs.filterMap report?).map Report.text) = String.join (xs.map text) := by
  induction xs with
  | nil => rfl
  | cons x xs ih =>
    cases x with
    | error e =>
      rw [List.filterMap_cons_none rfl, ih, List.map_cons, String.join_cons]
      exact String.empty_append.symm
    | ok o =>
      have hcons : List.filterMap report? (.ok o :: xs) = .object o :: xs.filterMap report? := rfl
      rw [hcons, List.map_cons, String.join_cons, ih, List.map_cons, String.join_cons]
      rfl

/-- Each literal adds its own part to the output, to the error output and to the exit status, where
a leaf that is none fails once for all words of capabilities. There are error lines exactly if
something fails, and unless the reference brings in some of its own there is one for each failure,
in the same order. -/
theorem transcript_text (s : Settings) (c : OutputConfig) (request : Option EncodeRequest)
    (hc : c.json = false) (hleaf : ∀ leaf ∈ s.leaf, Leaf.Short leaf)
    (hrequest : ∀ r ∈ request, ∀ p ∈ r.attributes, Attribute.Short p.2) :
    ∃ (context : Except LiteralError Context) (report : Option Report),
      s.context c = .ok context ∧ (s.given [] [] request).EncodedAs report ∧
      ∀ pdos rdos : List Operand,
        let xs := readCapabilities context pdos ++ rdos.map (readRequest s.referenceValue)
        let notes := (s.given [] [] request).notesOfEncode.filter c.shows
        let stderr := String.join (xs.map (Reading.errorText c)) ++
          String.join (notes.map Note.line)
        (s.given pdos rdos request).transcriptUnder c = .ok
          { exit := if xs.any Reading.isFailure then 1 else 0
            stdout := String.join (xs.map Reading.text) ++ (report.map Report.text).getD ""
            stderr } ∧
        (xs.any Reading.isFailure = true ↔ Text.errorLines stderr ≠ []) ∧
        ((∀ r ∈ s.reference, Text.Quiet r) →
          Text.errorLines stderr = xs.filterMap Reading.errorLine?) := by
  obtain ⟨context, hcontext⟩ := Settings.context_ok_iff.2 fun _ => hleaf
  obtain ⟨report, hreport⟩ := s.exists_encodedAs_given [] [] hrequest
  refine ⟨context, report, hcontext, hreport, fun pdos rdos => ?_⟩
  have hx : (s.given pdos rdos request).capabilityReadings c =
      .ok (readCapabilities context pdos) := Settings.capabilityReadings_of_context hcontext
  have h : (s.given pdos rdos request).Yields c
      (readCapabilities context pdos ++ rdos.map (readRequest s.referenceValue)) report :=
    ⟨⟨_, hx, rfl⟩, hreport.with_literals pdos rdos⟩
  have hmarked := Settings.marked_readings hcontext pdos rdos
  have hnotes : ∀ n ∈ (s.given [] [] request).notesOfEncode.filter c.shows, n.OneLine :=
    fun n hn => Settings.oneLine_notesOfEncode n (List.mem_of_mem_filter hn)
  refine ⟨?_, ?_, fun hquiet => ?_⟩
  · rw [h.transcriptUnder_eq, hc, Transcript.reportsText_text, List.map_append, String.join_append,
      Reading.join_text]
    cases report <;> rfl
  · rw [Reading.errorLines_join_append _ hnotes, Reading.errorLines_ne_nil_iff hmarked]
  · rw [Reading.errorLines_join_append _ hnotes, Reading.errorLines_eq_filterMap hmarked hquiet]

def loudArguments : List String := ["--rdo", "junk", "--ref", "x\nError: y"]

/-- One literal that is none begins two lines where the reference brings in one. -/
theorem execute_loudReference :
    execute .older loudArguments = execute .newer loudArguments ∧
    ∃ t, execute .newer loudArguments = .ok t ∧ t.exit = 1 ∧
      Text.errorLines t.stderr =
        ["Error: bad literal 'junk' for RDO decode (reference x",
         "Error: y): word: Value error, bad literal 'junk': " ++
          "expected a decimal or 0x-prefixed hex number"] :=
  ⟨rfl, _, rfl, by decide +kernel, by decide +kernel⟩

/-- Settings of which the leaf says that a word is decoded as one at the first position. -/
def leafSettings : Settings := { leaf := some "1:fixed_supply", reference := some "F" }

/-- A literal that is no number is one line of the error output and leaves the others alone. -/
theorem transcript_text_junk :
    (∀ leaf ∈ leafSettings.leaf, Leaf.Short leaf) ∧ Attribute.Short "5000mV" ∧
    ∃ t, (leafSettings.given [some "0x0001912c", some "junk", some "0x0a01912c"]
        [some "0x1304b12c"] (some ⟨.fixed, [("voltage", "5000mV")], true⟩)).transcriptUnder
          ⟨0, false, .eprAvs⟩ = .ok t ∧
      t.exit = 1 ∧
      t.stdout = Transcript.reportsText false
        [.object ((0x0001912c : Word).capability true true .fixed),
         .object ((0x0a01912c : Word).capability true true .fixed),
         .object ((0x1304b12c : Word).request .fixedOrVariable),
         .encoded 0x00019000 .fixed (some "fixed: 5.00 Volts, 0.00 Amps (max)")] ∧
      Text.errorLines t.stderr =
        ["Error: bad literal 'junk' for PDO decode: word: Value error, " ++
          "bad literal 'junk': expected a decimal or 0x-prefixed hex number"] := by
  have hleaf : ∀ leaf ∈ leafSettings.leaf, Leaf.Short leaf := by decide +kernel
  have hshort : Attribute.Short "5000mV" := by decide +kernel
  have hquiet : ∀ r ∈ leafSettings.reference, Text.Quiet r := by decide +kernel
  obtain ⟨context, report, hcontext, hreport, h⟩ := transcript_text leafSettings
    ⟨0, false, .eprAvs⟩ (some ⟨.fixed, [("voltage", "5000mV")], true⟩) rfl hleaf
    (by simpa using hshort)
  obtain rfl : .ok ⟨true, true, some .fixed⟩ = context := Except.ok.inj hcontext
  have hfixed : (leafSettings.given [] [] (some ⟨.fixed, [("voltage", "5000mV")], true⟩)).Encoded
      .fixed 0x00019000 (some "fixed: 5.00 Volts, 0.00 Amps (max)") :=
    ⟨by decide +kernel, by decide +kernel, by decide +kernel⟩
  obtain rfl := hreport.unique (.some rfl hfixed)
  obtain ⟨ht, -, hlines⟩ := h [some "0x0001912c", some "junk", some "0x0a01912c"]
    [some "0x1304b12c"]
  refine ⟨hleaf, hshort, _, ht, ?_, ?_, ?_⟩
  · dsimp only
    decide +kernel
  · dsimp only
    decide +kernel
  · rw [hlines hquiet]
    decide +kernel

end PowerDelivery.CommandLine
