import PowerDelivery.Query

/-! # Queries built from literals

Of the parts of a query only the word and the reference can be at fault. -/
namespace PowerDelivery

namespace Record
variable {α : Type} {r : Record} {name : String} {v : Value}

theorem required_of_lookup (h : r.lookup name = some v) (read : Value → Checked α) :
    r.required name read = Checked.within name (read v) := by
  rw [required, h]

end Record

namespace PdoQuery
variable {literal : Value} {r : Record} {first source : Bool} {variant : Option Variant}

/-- Where the other parts can be read, the word alone decides. -/
theorem ofLiteral_eq
    (hfirst : Record.withDefault (("word", literal) :: r) "first" false Value.readBool = .ok first)
    (hsource :
      Record.withDefault (("word", literal) :: r) "source" true Value.readBool = .ok source)
    (hvariant : Record.withDefault (("word", literal) :: r) "variant" none
      Value.readOptionalVariant = .ok variant)
    (hnames : Record.onlyNames (("word", literal) :: r) ["word", "first", "source", "variant"] =
      .ok ()) :
    ofLiteral literal r = match Checked.within "word" literal.readQueryWord with
      | .ok w => .ok ⟨w, first, source, variant⟩
      | .error issues => .error (.ofIssues literal "PDO decode" issues) := by
  have hword : List.lookup "word" (("word", literal) :: r) = some literal := rfl
  simp only [ofLiteral, ofRecord, Record.required_of_lookup hword, hfirst, hsource, hvariant,
    hnames]
  cases Checked.within "word" literal.readQueryWord with
  | ok w => rfl
  | error issues =>
    change Except.error (LiteralError.ofIssues literal "PDO decode" (issues ++ [])) = _
    rw [List.append_nil]

theorem ofLiteral_parts (literal : Value) (first source : Bool) (variant : Option Variant) :
    ofLiteral literal (parts first source variant) =
      match Checked.within "word" literal.readQueryWord with
      | .ok w => .ok ⟨w, first, source, variant⟩
      | .error issues => .error (.ofIssues literal "PDO decode" issues) := by
  cases variant <;> exact ofLiteral_eq rfl rfl rfl rfl

end PdoQuery

theorem RdoQuery.ofLiteral_eq (literal reference : Value) :
    ofLiteral literal reference =
      match Checked.within "word" literal.readQueryWord,
        Checked.within "reference" reference.readQueryReference with
      | .ok w, .ok r => .ok ⟨w, r⟩
      | x, y => .error (.ofIssues literal s!"RDO decode (reference {reference.plain})"
          (x.issues ++ y.issues)) := by
  have hword : List.lookup "word" [("word", literal), ("reference", reference)] =
      some literal := rfl
  have hreference : List.lookup "reference" [("word", literal), ("reference", reference)] =
      some reference := rfl
  have hnames : Record.onlyNames [("word", literal), ("reference", reference)]
      ["word", "reference"] = .ok () := rfl
  simp only [ofLiteral, ofRecord, Record.required_of_lookup hword,
    Record.required_of_lookup hreference, hnames]
  cases Checked.within "word" literal.readQueryWord <;>
    cases Checked.within "reference" reference.readQueryReference <;>
    simp only [Checked.both, Checked.issues, List.append_nil] <;> rfl

/-! ## Queries built from text -/

theorem Value.readQueryWord_text (literal : String) : (text literal).readQueryWord =
    match Literal.parseWord literal .none with
    | .ok w => .ok w
    | .error e => .refuse (.rejected e.message) := rfl

theorem PdoQuery.ofLiteral_text (literal : String) : ofLiteral (.text literal) [] =
    match Literal.parseWord literal none with
    | .ok w => .ok ⟨w, false, true, none⟩
    | .error e =>
      .error (.ofIssues (.text literal) "PDO decode" [⟨.rejected e.message, ["word"]⟩]) := by
  rw [ofLiteral_eq rfl rfl rfl rfl, Value.readQueryWord_text]
  cases Literal.parseWord literal none <;> rfl

/-- A text that strips to one character is a letter code of the reference, and any other is the
reference as it is written. -/
def Reference.WrittenAs (r : Reference) (s : String) : Prop :=
  if (Text.trim s.toList).length = 1 then (Value.text s).toReferenceByCode = .ok r
  else Vocabulary.text r = s

theorem Reference.ofText?_eq_some_iff {r : Reference} {s : String} :
    Vocabulary.ofText? s = some r ↔ Vocabulary.text r = s := by
  refine ⟨Vocabulary.ofText?_text, ?_⟩
  rintro rfl
  cases r <;> decide

namespace Value
variable {s : String}

theorem member?_reference (s : String) :
    (text s).member? Reference = Vocabulary.ofText? s := rfl

theorem readQueryReference_eq_ok_iff {r : Reference} :
    (text s).readQueryReference = .ok r ↔ r.WrittenAs s := by
  by_cases hone : (Text.trim s.toList).length = 1
  · simp only [readQueryReference, Reference.WrittenAs, if_pos hone]
    cases (text s).toReferenceByCode <;> simp [Checked.refuse]
  · simp only [readQueryReference, Reference.WrittenAs, if_neg hone, readReference, readMember,
      ← Reference.ofText?_eq_some_iff, member?_reference]
    cases (Vocabulary.ofText? s : Option Reference) <;> simp [Checked.refuse]

theorem exists_refuse_of_readQueryReference {issues : List Issue}
    (h : (text s).readQueryReference = .error issues) : ∃ kind, issues = [⟨kind, []⟩] := by
  by_cases hone : (Text.trim s.toList).length = 1
  · simp only [readQueryReference, if_pos hone] at h
    cases hr : (text s).toReferenceByCode with
    | ok r => simp [hr] at h
    | error e => exact ⟨_, by simpa [hr, Checked.refuse] using h.symm⟩
  · simp only [readQueryReference, if_neg hone, readReference, readMember, member?_reference] at h
    cases hr : (Vocabulary.ofText? s : Option Reference) with
    | some r => simp [hr] at h
    | none => exact ⟨_, by simpa [hr, Checked.refuse] using h.symm⟩

end Value

theorem RdoQuery.ofLiteral_text (literal reference : String) :
    ofLiteral (.text literal) (.text reference) =
      match Literal.parseWord literal none, (Value.text reference).readQueryReference with
      | .ok w, .ok r => .ok ⟨w, r⟩
      | .ok _, .error issues => .error (.ofIssues (.text literal)
          s!"RDO decode (reference {reference})" (issues.map (.within "reference")))
      | .error e, y => .error (.ofIssues (.text literal) s!"RDO decode (reference {reference})"
          (⟨.rejected e.message, ["word"]⟩ :: (Checked.within "reference" y).issues)) := by
  rw [ofLiteral_eq, Value.readQueryWord_text]
  cases Literal.parseWord literal none <;>
    cases (Value.text reference).readQueryReference <;> rfl

namespace LiteralReason

/-- The reason is told behind the name of the part that is at fault. -/
def Blames (reason : LiteralReason) (name : String) : Prop :=
  ∃ m : String, reason.message = s!"{name}: {m}"

theorem message_issue {kind : IssueKind} {name : String} (h : name ≠ "") :
    (issue ⟨kind, [name]⟩).message = s!"{name}: {kind.message}" := by
  have hpath : Issue.path ⟨kind, [name]⟩ = name := by simp [Issue.path]
  simp only [message, hpath, String.isEmpty_iff, h]
  rfl

theorem blames_issue {kind : IssueKind} {name : String} (h : name ≠ "") :
    (issue ⟨kind, [name]⟩).Blames name := ⟨kind.message, message_issue h⟩

theorem Blames.not_reference {reason : LiteralReason} (h : reason.Blames "word") :
    ¬reason.Blames "reference" := by
  rintro ⟨m', h'⟩
  obtain ⟨m, h⟩ := h
  have heq := congrArg String.toList (h.symm.trans h')
  simp [toString] at heq

end LiteralReason

section
variable {literal reference : String}

theorem PdoQuery.ofLiteral_text_eq_ok_iff {q : PdoQuery} :
    ofLiteral (.text literal) [] = .ok q ↔
      Literal.parseWord literal none = .ok q.word ∧ q = ⟨q.word, false, true, none⟩ := by
  rw [ofLiteral_text]
  cases Literal.parseWord literal none with
  | error e => exact iff_of_false nofun fun h => nomatch h.1
  | ok w =>
    constructor
    · intro h
      cases h
      exact ⟨rfl, rfl⟩
    · rintro ⟨hw, hq⟩
      rw [hq, Except.ok.inj hw]

theorem PdoQuery.error_of_ofLiteral_text {e : LiteralError}
    (h : ofLiteral (.text literal) [] = .error e) :
    e.literal = .text literal ∧ e.reason.Blames "word" := by
  rw [ofLiteral_text] at h
  cases hparse : Literal.parseWord literal none with
  | ok w =>
    rw [hparse] at h
    cases h
  | error why =>
    rw [hparse] at h
    cases h
    exact ⟨rfl, LiteralReason.blames_issue (by decide)⟩

theorem RdoQuery.ofLiteral_text_eq_ok_iff {q : RdoQuery} :
    ofLiteral (.text literal) (.text reference) = .ok q ↔
      Literal.parseWord literal none = .ok q.word ∧ q.reference.WrittenAs reference := by
  rw [ofLiteral_text, ← Value.readQueryReference_eq_ok_iff]
  cases Literal.parseWord literal none with
  | error e => exact iff_of_false nofun fun h => nomatch h.1
  | ok w =>
    cases (Value.text reference).readQueryReference with
    | error issues => exact iff_of_false nofun fun h => nomatch h.2
    | ok r =>
      constructor
      · intro h
        cases h
        exact ⟨rfl, rfl⟩
      · rintro ⟨hw, hr⟩
        rw [Except.ok.inj hw, Except.ok.inj hr]

example : (RdoQuery.ofLiteral (.text " 0x2A ") (.text " a ")).toOption = some ⟨42#32, .avs⟩ := by
  decide

example : (RdoQuery.ofLiteral (.text " 0x2A ") (.text " avs ")).toOption = none := by
  decide

theorem RdoQuery.error_of_ofLiteral_text {e : LiteralError}
    (h : ofLiteral (.text literal) (.text reference) = .error e) : e.literal = .text literal ∧
      match Literal.parseWord literal none with
      | .ok _ => e.reason.Blames "reference"
      | .error _ => e.reason.Blames "word" := by
  rw [ofLiteral_text] at h
  cases hparse : Literal.parseWord literal none with
  | error why =>
    rw [hparse] at h
    cases h
    exact ⟨rfl, LiteralReason.blames_issue (by decide)⟩
  | ok w =>
    cases hread : (Value.text reference).readQueryReference with
    | ok r =>
      rw [hparse, hread] at h
      cases h
    | error issues =>
      obtain ⟨kind, rfl⟩ := Value.exists_refuse_of_readQueryReference hread
      rw [hparse, hread] at h
      cases h
      exact ⟨rfl, LiteralReason.blames_issue (by decide)⟩

end

/-- A query is built from text exactly if the word can be parsed and the reference is written as
it has to be. Every other text is named in an error, which blames the word before the reference. -/
theorem query_ofLiteral_text (literal reference : String) :
    (∀ q, PdoQuery.ofLiteral (.text literal) [] = .ok q ↔
      Literal.parseWord literal none = .ok q.word ∧ q = ⟨q.word, false, true, none⟩) ∧
    (∀ q, RdoQuery.ofLiteral (.text literal) (.text reference) = .ok q ↔
      Literal.parseWord literal none = .ok q.word ∧ q.reference.WrittenAs reference) ∧
    ((∃ q, PdoQuery.ofLiteral (.text literal) [] = .ok q) ∨
      ∃ e, PdoQuery.ofLiteral (.text literal) [] = .error e ∧ e.literal = .text literal ∧
        e.reason.Blames "word") ∧
    ((∃ q, RdoQuery.ofLiteral (.text literal) (.text reference) = .ok q) ∨
      ∃ e, RdoQuery.ofLiteral (.text literal) (.text reference) = .error e ∧
        e.literal = .text literal ∧
        (e.reason.Blames "word" ↔ ∀ w, Literal.parseWord literal none ≠ .ok w) ∧
        (e.reason.Blames "reference" ↔ ∃ w, Literal.parseWord literal none = .ok w)) := by
  refine ⟨fun q => PdoQuery.ofLiteral_text_eq_ok_iff, fun q => RdoQuery.ofLiteral_text_eq_ok_iff,
    ?_, ?_⟩
  · cases h : PdoQuery.ofLiteral (.text literal) [] with
    | ok q => exact .inl ⟨q, rfl⟩
    | error e =>
      obtain ⟨hliteral, hword⟩ := PdoQuery.error_of_ofLiteral_text h
      exact .inr ⟨e, rfl, hliteral, hword⟩
  · cases h : RdoQuery.ofLiteral (.text literal) (.text reference) with
    | ok q => exact .inl ⟨q, rfl⟩
    | error e =>
      obtain ⟨hliteral, hreason⟩ := RdoQuery.error_of_ofLiteral_text h
      refine .inr ⟨e, rfl, hliteral, ?_⟩
      cases hparse : Literal.parseWord literal none with
      | ok w =>
        rw [hparse] at hreason
        exact ⟨iff_of_false (fun hword => hword.not_reference hreason) fun hw => hw w rfl,
          iff_of_true hreason ⟨w, rfl⟩⟩
      | error why =>
        rw [hparse] at hreason
        exact ⟨iff_of_true hreason nofun, iff_of_false hreason.not_reference nofun⟩

end PowerDelivery
