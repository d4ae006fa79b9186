import PowerDelivery.Proofs.CommandLine.Arguments
import PowerDelivery.Proofs.CommandLine.Run

/-! # The operations of a run

Each literal is an operation, and so is the encoding. A run returns exactly if each of its
operations returns when it is alone, and then it reports what they report. -/
namespace PowerDelivery.CommandLine

/-- A word of a capability alone fails for want of a context. -/
def readCapability (context : Except LiteralError Context) (literal : Operand) : Reading :=
  context.bind fun x => x.read literal

section
variable (context : Except LiteralError Context) (literals : List Operand)

theorem filterMap_readCapabilities :
    (readCapabilities context literals).filterMap Reading.report? =
      (literals.map (readCapability context)).filterMap Reading.report? := by
  cases context with
  | error e =>
    rw [List.filterMap_map]
    cases literals with
    | nil => rfl
    | cons literal literals => exact (List.filterMap_eq_nil_iff.2 fun _ _ => rfl).symm
  | ok x => rfl

theorem any_readCapabilities :
    (readCapabilities context literals).any Reading.isFailure =
      (literals.map (readCapability context)).any Reading.isFailure := by
  cases context with
  | error e => cases literals <;> rfl
  | ok x => rfl

end

namespace Settings

def capabilityAlone (s : Settings) (literal : Operand) : Settings :=
  { s with pdos := [literal], rdos := [], encode := none }

def requestAlone (s : Settings) (literal : Operand) : Settings :=
  { s with pdos := [], rdos := [literal], encode := none }

def encodeAlone (s : Settings) : Settings := { s with pdos := [], rdos := [] }

/-- The settings of each operation alone. -/
def operations (s : Settings) : List Settings :=
  s.pdos.map s.capabilityAlone ++ (s.rdos.map s.requestAlone ++
    (s.encode.map fun _ => s.encodeAlone).toList)

variable {s : Settings} {c : OutputConfig}

theorem yields_capabilityAlone {context : Except LiteralError Context}
    (h : s.context c = .ok context) (literal : Operand) :
    (s.capabilityAlone literal).Yields c [readCapability context literal] none := by
  have hone : readCapabilities context [literal] = [readCapability context literal] := by
    cases context <;> rfl
  exact ⟨⟨_, capabilityReadings_of_context h, (List.append_nil _).trans hone⟩, .none rfl⟩

theorem yields_requestAlone (s : Settings) (c : OutputConfig) (literal : Operand) :
    (s.requestAlone literal).Yields c [readRequest s.referenceValue literal] none :=
  ⟨⟨[], rfl, rfl⟩, .none rfl⟩

theorem yields_encodeAlone {report : Option Report} (h : s.EncodedAs report) (c : OutputConfig) :
    s.encodeAlone.Yields c [] report :=
  ⟨⟨[], rfl, rfl⟩, h.with_literals [] []⟩

end Settings

/-- The reports, and whether anything failed, are made of what each of the settings comes to, and
there is one report for each that does not fail. -/
structure MadeOf (c : OutputConfig) (reports : List Report) (failed : Bool) (os : List Settings) :
    Prop where
  reports_eq : reports = os.flatMap fun o => o.reports c
  failed_eq : failed = os.any fun o => o.fails c
  length_eq : reports.length = os.countP fun o => !o.fails c

namespace MadeOf
variable {c : OutputConfig}

theorem append {rs rs' : List Report} {b b' : Bool} {os os' : List Settings}
    (h : MadeOf c rs b os) (h' : MadeOf c rs' b' os') :
    MadeOf c (rs ++ rs') (b || b') (os ++ os') where
  reports_eq := by rw [List.flatMap_append, ← h.reports_eq, ← h'.reports_eq]
  failed_eq := by rw [List.any_append, ← h.failed_eq, ← h'.failed_eq]
  length_eq := by rw [List.length_append, List.countP_append, h.length_eq, h'.length_eq]

theorem of_reading {o : Settings} {x : Reading} (h : o.Yields c [x] none) :
    MadeOf c x.report?.toList x.isFailure [o] := by
  have hreports : o.reports c = x.report?.toList := by
    rw [h.reports_eq]
    cases x <;> rfl
  have hfails : o.fails c = x.isFailure := h.fails_eq.trans (Bool.or_false _)
  refine ⟨by rw [List.flatMap_singleton, hreports], by simp [hfails], ?_⟩
  rw [List.countP_singleton, hfails]
  cases x <;> rfl

theorem of_encoded {o : Settings} {r : Report} (h : o.Yields c [] (some r)) :
    MadeOf c [r] false [o] := by
  have hfails : o.fails c = false := h.fails_eq
  refine ⟨by rw [List.flatMap_singleton, h.reports_eq]; rfl, by simp [hfails], ?_⟩
  rw [List.countP_singleton, hfails]
  rfl

theorem of_readings {read : Operand → Reading} {alone : Operand → Settings}
    (h : ∀ literal, (alone literal).Yields c [read literal] none) (literals : List Operand) :
    MadeOf c ((literals.map read).filterMap Reading.report?)
      ((literals.map read).any Reading.isFailure) (literals.map alone) := by
  induction literals with
  | nil => exact ⟨rfl, rfl, rfl⟩
  | cons literal literals ih =>
    have hcons (x : Reading) (xs : List Reading) : (x :: xs).filterMap Reading.report? =
        x.report?.toList ++ xs.filterMap Reading.report? := by
      cases x <;> rfl
    rw [List.map_cons, List.map_cons, hcons, List.any_cons]
    exact (of_reading (h literal)).append ih

end MadeOf

namespace Settings
variable {s : Settings} {c : OutputConfig}

theorem capabilityReadings_ok_iff : (∃ ys, s.capabilityReadings c = .ok ys) ↔
    (s.pdos ≠ [] → ∃ context, s.context c = .ok context) := by
  unfold capabilityReadings
  cases s.pdos with
  | nil => exact iff_of_true ⟨[], rfl⟩ fun h => absurd rfl h
  | cons literal pdos =>
    cases s.context c with
    | error e => exact iff_of_false nofun fun h => nomatch h (List.cons_ne_nil _ _)
    | ok context => exact iff_of_true ⟨_, rfl⟩ fun _ => ⟨context, rfl⟩

theorem capabilities_madeOf {ys : List Reading} (h : s.capabilityReadings c = .ok ys) :
    MadeOf c (ys.filterMap Reading.report?) (ys.any Reading.isFailure)
      (s.pdos.map s.capabilityAlone) := by
  by_cases hp : s.pdos = []
  · unfold capabilityReadings at h
    rw [hp] at h ⊢
    obtain rfl := Except.ok.inj h
    exact ⟨rfl, rfl, rfl⟩
  · obtain ⟨context, hcontext⟩ := capabilityReadings_ok_iff.1 ⟨ys, h⟩ hp
    obtain rfl := Except.ok.inj ((capabilityReadings_of_context hcontext).symm.trans h)
    rw [filterMap_readCapabilities, any_readCapabilities]
    exact .of_readings (yields_capabilityAlone hcontext) s.pdos

theorem encode_madeOf {report : Option Report} (h : s.EncodedAs report) (c : OutputConfig) :
    MadeOf c report.toList false (s.encode.map fun _ => s.encodeAlone).toList := by
  cases h with
  | none he =>
    rw [he]
    exact ⟨rfl, rfl, rfl⟩
  | some he encoded =>
    rw [he]
    exact .of_encoded (yields_encodeAlone (.some he encoded) c)

theorem Yields.madeOf_operations {xs : List Reading} {report : Option Report}
    (h : s.Yields c xs report) : MadeOf c (s.reports c) (s.fails c) s.operations := by
  rw [h.reports_eq, h.fails_eq]
  obtain ⟨⟨ys, hys, rfl⟩, hr⟩ := h
  have hrequests : MadeOf c (s.requestReadings.filterMap Reading.report?)
      (s.requestReadings.any Reading.isFailure) (s.rdos.map s.requestAlone) :=
    .of_readings (s.yields_requestAlone c) s.rdos
  have hall := (capabilities_madeOf hys).append (hrequests.append (encode_madeOf hr c))
  rwa [Bool.or_false, ← List.any_append, ← List.append_assoc, ← List.filterMap_append] at hall

theorem returns_iff : s.Returns c ↔
    (s.pdos ≠ [] → ∃ context, s.context c = .ok context) ∧ ∃ report, s.EncodedAs report := by
  rw [returns_iff_yields, ← capabilityReadings_ok_iff]
  constructor
  · rintro ⟨xs, report, ⟨ys, hys, -⟩, hr⟩
    exact ⟨⟨ys, hys⟩, report, hr⟩
  · rintro ⟨⟨ys, hys⟩, report, hr⟩
    exact ⟨_, report, ⟨ys, hys, rfl⟩, hr⟩

theorem returns_capabilityAlone (literal : Operand) :
    (s.capabilityAlone literal).Returns c ↔ ∃ context, s.context c = .ok context := by
  rw [returns_iff]
  exact ⟨fun h => h.1 (List.cons_ne_nil _ _), fun h => ⟨fun _ => h, none, .none rfl⟩⟩

theorem returns_requestAlone (literal : Operand) : (s.requestAlone literal).Returns c :=
  returns_iff.2 ⟨fun h => absurd rfl h, none, .none rfl⟩

theorem returns_encodeAlone : s.encodeAlone.Returns c ↔ ∃ report, s.EncodedAs report := by
  rw [returns_iff]
  constructor
  · rintro ⟨-, report, hr⟩
    exact ⟨report, hr.with_literals s.pdos s.rdos⟩
  · rintro ⟨report, hr⟩
    exact ⟨fun h => absurd rfl h, report, hr.with_literals [] []⟩

theorem returns_iff_operations : s.Returns c ↔ ∀ o ∈ s.operations, o.Returns c := by
  have hcapabilities : (∀ o ∈ s.pdos.map s.capabilityAlone, o.Returns c) ↔
      (s.pdos ≠ [] → ∃ context, s.context c = .ok context) := by
    rw [List.forall_mem_map]
    simp only [returns_capabilityAlone]
    constructor
    · intro h hp
      obtain ⟨literal, hl⟩ := List.exists_mem_of_ne_nil _ hp
      exact h literal hl
    · exact fun h literal hl => h (List.ne_nil_of_mem hl)
  have hrequests : ∀ o ∈ s.rdos.map s.requestAlone, o.Returns c :=
    List.forall_mem_map.2 fun literal _ => returns_requestAlone literal
  have hencode : (∀ o ∈ (s.encode.map fun _ => s.encodeAlone).toList, o.Returns c) ↔
      ∃ report, s.EncodedAs report := by
    cases hs : s.encode with
    | none => exact iff_of_true (List.forall_mem_nil _) ⟨none, .none hs⟩
    | some v =>
      rw [← returns_encodeAlone, Option.map_some, Option.toList_some, List.forall_mem_singleton]
  rw [operations, List.forall_mem_append, List.forall_mem_append, hcapabilities, hencode,
    and_iff_right hrequests, returns_iff]

/-- No leaf or attribute that is needed has a number too long to be read, and where a word is to be
encoded all attributes have a name. -/
structure Readable (s : Settings) : Prop where
  leaf : s.pdos ≠ [] → s.variant = none → ∀ leaf ∈ s.leaf, Leaf.Short leaf
  named : ∀ v ∈ s.encode, none ∉ s.attributes
  word : ∀ v ∈ s.encode, ∀ row ∈ v.rows s.first !s.sink, ¬s.texts.Overlong row.name
  summary : ∀ v ∈ s.encode, s.summary = true →
    ∀ f ∈ Summary.fields (!s.sink) v, ¬s.texts.Overlong f

theorem returns_iff_readable : s.Returns c ↔ s.Readable := by
  rw [returns_iff, context_ok_iff, exists_encodedAs_iff]
  simp only [exists_encoded_iff]
  constructor
  · rintro ⟨hleaf, hencode⟩
    exact ⟨hleaf, fun v hv => (hencode v hv).1, fun v hv => (hencode v hv).2.1,
      fun v hv => (hencode v hv).2.2⟩
  · intro h
    exact ⟨h.leaf, fun v hv => ⟨h.named v hv, h.word v hv, h.summary v hv⟩⟩

end Settings

/-- A run returns exactly if each of its operations returns when it is alone, and then its output
is made of their reports, whatever fails beside them. -/
theorem transcript_operations (s : Settings) (c : OutputConfig) :
    (s.Returns c ↔ s.Readable) ∧ (s.Returns c ↔ ∀ o ∈ s.operations, o.Returns c) ∧
    ∀ t, s.transcriptUnder c = .ok t →
      (t.exit = if s.operations.any fun o => o.fails c then 1 else 0) ∧
      t.stdout = Transcript.reportsText c.json (s.operations.flatMap fun o => o.reports c) := by
  refine ⟨Settings.returns_iff_readable, Settings.returns_iff_operations, fun t ht => ?_⟩
  obtain ⟨xs, report, h⟩ := Settings.returns_iff_yields.1 ⟨t, ht⟩
  obtain ⟨-, rfl⟩ := Settings.transcriptUnder_eq_ok_iff.1 ht
  rw [← h.madeOf_operations.reports_eq, ← h.madeOf_operations.failed_eq]
  exact ⟨rfl, rfl⟩

/-- Settings with a literal that is none, and with one that is. -/
def junkSettings : Settings :=
  { pdos := [some "junk", some "0x0001912c"], encode := some .fixed,
    attributes := [some ("voltage", "5000mV")] }

/-- The literal that is none is missed by nothing but the exit status. -/
theorem transcript_operations_junk :
    ∃ t, junkSettings.transcriptUnder ⟨0, true, .eprAvs⟩ = .ok t ∧ t.exit = 1 ∧
      t.stdout = Transcript.reportsText true
        [.object ((0x0001912c : Word).capability false true .fixed),
         .encoded 0x00019000 .fixed none] := by
  obtain ⟨hreadable, -, h⟩ := transcript_operations junkSettings ⟨0, true, .eprAvs⟩
  have hshort : junkSettings.texts.Short := Settings.texts_short (by decide +kernel)
  obtain ⟨t, ht⟩ := hreadable.2
    ⟨nofun, by decide, fun _ _ row _ => hshort.not_overlong row.name, nofun⟩
  obtain ⟨hexit, hstdout⟩ := h t ht
  refine ⟨t, ht, ?_, ?_⟩
  · rw [hexit]
    decide +kernel
  · rw [hstdout]
    exact congrArg (Transcript.reportsText true) (by decide +kernel)

/-- A word to decode, and a voltage to encode. -/
def voltageArguments (value : List Char) : List String :=
  ["--pdo", "0x0001912c", "--encode", "fixed", "--attr",
   String.ofList ("voltage".toList ++ '=' :: value)]

def voltageSettings (value : List Char) : Settings :=
  { pdos := [some "0x0001912c"], encode := some .fixed,
    attributes := [some ("voltage", String.ofList value)] }

def voltageTokens (text : String) : List Token :=
  [.switch ⟨.pdo, "--pdo", none, false⟩, .value "0x0001912c",
   .switch ⟨.encode, "--encode", none, false⟩, .value "fixed",
   .switch ⟨.attr, "--attr", none, false⟩, .value text]

theorem take_voltageTokens (dialect : Dialect) {text : String} {value : List Char}
    (hne : text ≠ "--") (h : Settings.attribute? text = some ("voltage", String.ofList value)) :
    Settings.take dialect {} [] (voltageTokens text) = .ok (voltageSettings value, []) := by
  rw [voltageTokens, Settings.take_valued _ _ _ rfl rfl (by decide)]
  change Settings.take dialect { pdos := [some "0x0001912c"] } [] _ = _
  rw [Settings.take_valued _ _ _ rfl rfl (by decide)]
  change Settings.take dialect { pdos := [some "0x0001912c"], encode := some .fixed } [] _ = _
  rw [Settings.take_valued _ _ _ rfl rfl hne, Settings.valued_attr _ h]
  rfl

theorem ofArguments_voltage (dialect : Dialect) {value : List Char}
    (h : ∀ c ∈ value, Text.isBlank c = false) :
    Settings.ofArguments dialect (voltageArguments value) = .ok (voltageSettings value) := by
  generalize ht : String.ofList ("voltage".toList ++ '=' :: value) = text
  have hpair : Settings.attribute? text = some ("voltage", String.ofList value) := by
    rw [← ht, Settings.attribute?_append (by decide) (by decide), Text.trim, Text.trim,
      Text.trimBy_eq_self h]
    rfl
  have hlist : text.toList = 'v' :: ("oltage".toList ++ '=' :: value) := by
    rw [← ht, String.toList_ofList]
    rfl
  have hne : text ≠ "--" := fun hd => by
    rw [hd] at hlist
    exact absurd (List.cons.inj hlist).1 (by decide)
  have htokens : tokens (voltageArguments value) = .ok (voltageTokens text) := by
    have hlast : tokens [text] = .ok [.value text] := by
      rw [tokens_cons hne (Token.ofArgument_of_head (by decide) hlist)]
      rfl
    rw [voltageArguments, ht]
    iterate 5 rw [tokens_cons (by decide) rfl]
    rw [hlast]
    rfl
  rw [Settings.ofArguments, htokens]
  change (Settings.take dialect {} [] _ >>= _) = _
  rw [take_voltageTokens dialect hne hpair]
  rfl

theorem not_returns_zeroVolts {n : Nat} (hn : Numeral.maxDigits < n) (c : OutputConfig) :
    ¬(voltageSettings (List.replicate n '0' ++ ['m', 'V'])).Returns c := by
  have htexts : (voltageSettings (List.replicate n '0' ++ ['m', 'V'])).texts = zeroVolts n := by
    change [("voltage", some (String.ofList (_ ++ _)))] = _
    rw [String.ofList_append]
    rfl
  obtain ⟨row, hrow, hname⟩ : ∃ row ∈ Variant.fixed.rows false true, row.name = .voltage := by
    decide +kernel
  rw [Settings.returns_iff_readable]
  intro h
  have hvoltage : ¬(zeroVolts n).Overlong .voltage := hname ▸ htexts ▸ h.word .fixed rfl row hrow
  rw [← Attributes.faultAt?_eq_none_iff, faultAt?_zeroVolts hn] at hvoltage
  cases hvoltage

theorem execute_voltageArguments (dialect : Dialect) {n : Nat} (hn : Numeral.maxDigits < n)
    (t : Transcript) :
    execute dialect (voltageArguments (List.replicate n '0' ++ ['m', 'V'])) ≠ .ok t := by
  intro ht
  have hunit : (['m', 'V'].all fun c => !Text.isBlank c) = true := by decide
  have hblank : ∀ c ∈ List.replicate n '0' ++ ['m', 'V'], Text.isBlank c = false := by
    intro c hc
    rcases List.mem_append.1 hc with hc | hc
    · rw [List.eq_of_mem_replicate hc]
      decide
    · simpa using List.all_eq_true.1 hunit c hc
  rw [execute, ofArguments_voltage dialect hblank] at ht
  change (voltageSettings _).transcript = .ok t at ht
  exact not_returns_zeroVolts hn _ ⟨t, Settings.transcript_eq _ ▸ ht⟩

/-- A voltage of zero that is written with a digit too many takes with it the word that can be
decoded. -/
theorem execute_zeroVolts :
    (∀ dialect t,
      execute dialect (voltageArguments (List.replicate 4301 '0' ++ ['m', 'V'])) ≠ .ok t) ∧
    ∀ dialect, ∃ t, execute dialect ["--pdo", "0x0001912c"] = .ok t ∧ t.exit = 0 := by
  refine ⟨fun dialect => execute_voltageArguments dialect (by decide), fun dialect => ?_⟩
  cases dialect <;> exact ⟨_, rfl, by decide +kernel⟩

end PowerDelivery.CommandLine
