import PowerDelivery.Proofs.Encoding.Notes
import PowerDelivery.Proofs.Literal
import PowerDelivery.Proofs.Query
import PowerDelivery.Proofs.Text.Lines
import PowerDelivery.Summary

/-! # Messages on one line

What a message says of a text is quoted, so it stays on one line. The operation that a literal was
meant for is told as it is. -/
namespace PowerDelivery
open Text

theorem Variant.oneLine_text (v : Variant) : OneLine v.text := by cases v <;> decide

theorem Reference.oneLine_text (r : Reference) : OneLine r.text := by cases r <;> decide

theorem Word.oneLine_text (w : Word) : OneLine w.text := by
  have h := not_mem_padded (b := 16) (by decide) (by decide) 8 w.toNat
  have hsign : ¬(w.toNat : Int) < 0 := by omega
  simp [OneLine, text, Literal.wordText, if_neg hsign, h]

theorem FieldName.oneLine_unit? (f : FieldName) : ∀ u ∈ f.unit?, OneLine u := by
  intro u hu
  obtain ⟨q, -, rfl⟩ := Option.map_eq_some_iff.1 hu
  cases q <;> decide

namespace Note

def OneLine (n : Note) : Prop := Text.OneLine n.message

theorem whole_line (n : Note) : Whole n.line := .inr ⟨_, rfl⟩

theorem errorLines_line {n : Note} (h : n.OneLine) : errorLines n.line = [] := by
  have hsource : Text.OneLine n.source ∧ ∃ cs, n.source.toList = 'p' :: cs := by
    cases n <;> simp [source, Text.OneLine]
  obtain ⟨hsource, cs, hcs⟩ := hsource
  have hlevel : Text.OneLine n.level.text := by cases n.level <;> decide
  have hcolon : Text.OneLine ": " := by decide
  have hone : Text.OneLine (n.source ++ ": " ++ n.level.text ++ ": " ++ n.message) := by
    simp only [oneLine_append]
    exact ⟨⟨⟨⟨hsource, hcolon⟩, hlevel⟩, hcolon⟩, h⟩
  have hline : n.line = n.source ++ ": " ++ n.level.text ++ ": " ++ n.message ++ "\n" := rfl
  rw [hline, Text.errorLines_line]
  apply errorLines_of_head hone
  · simp only [String.toList_append, hcs]
    rfl
  · decide

theorem errorLines_join_line {ns : List Note} (h : ∀ n ∈ ns, n.OneLine) :
    errorLines (String.join (ns.map line)) = [] := by
  rw [errorLines_join (List.forall_mem_map.2 fun n _ => n.whole_line), List.flatMap_map]
  exact List.flatMap_eq_nil_iff.2 fun n hn => errorLines_line (h n hn)

theorem oneLine_notNumber (text : String) : (notNumber text).OneLine := by
  have hm : (notNumber text).message =
      "attribute value " ++ quoted text ++ " is not a number" := rfl
  rw [OneLine, hm, oneLine_append, oneLine_append]
  exact ⟨⟨by decide, oneLine_quoted text⟩, by decide⟩

theorem oneLine_otherUnit (text : String) {unit : Option String}
    (hu : ∀ u ∈ unit, Text.OneLine u) : (otherUnit text unit).OneLine := by
  obtain ⟨wanted, hwanted, hm⟩ : ∃ wanted, Text.OneLine wanted ∧ (otherUnit text unit).message =
      "attribute value " ++ quoted text ++ ": expected unit " ++ wanted := by
    refine ⟨_, ?_, rfl⟩
    split
    · decide
    · decide
    · exact hu _ rfl
  rw [OneLine, hm, oneLine_append, oneLine_append, oneLine_append]
  exact ⟨⟨⟨by decide, oneLine_quoted text⟩, by decide⟩, hwanted⟩

theorem oneLine_unknownAttribute (name : String) : (unknownAttribute name).OneLine := by
  have hm : (unknownAttribute name).message =
      "unknown attribute " ++ quoted name ++ " ignored" := rfl
  rw [OneLine, hm, oneLine_append, oneLine_append]
  exact ⟨⟨by decide, oneLine_quoted name⟩, by decide⟩

end Note

theorem Attribute.oneLine_read (text : Option String) {unit : Option String}
    (hu : ∀ u ∈ unit, OneLine u) : ∀ n ∈ (read text unit).events, n.OneLine := by
  unfold read
  split
  · exact List.forall_mem_nil _
  · split
    · exact List.forall_mem_singleton.2 (Note.oneLine_notNumber _)
    · split
      · exact List.forall_mem_singleton.2 (Note.oneLine_otherUnit _ hu)
      · exact List.forall_mem_nil _

theorem Row.oneLine_convert (row : Row) (text : Option String) :
    ∀ n ∈ (row.convert text).events, n.OneLine := by
  rw [row.events_convert]
  apply Attribute.oneLine_read
  unfold unit?
  split
  · nofun
  · exact row.name.oneLine_unit?

theorem oneLine_encodeRows (attrs : Attributes) (w : Word) (rows : List Row) :
    ∀ n ∈ (encodeRows attrs w rows).events, n.OneLine := by
  induction rows generalizing w with
  | nil => exact List.forall_mem_nil _
  | cons row rows ih =>
    exact Traced.forall_mem_events_bind (row.oneLine_convert _) fun n => ih _

theorem oneLine_encode (v : Variant) (side : Bool) (position : Int) (attrs : Attributes) :
    ∀ n ∈ (encode (.known v) (some side) position attrs).events, n.OneLine := by
  cases hv : v.selector? with
  | none =>
    obtain rfl : v = .null := by revert hv; cases v <;> decide
    have hnull : OneLine (Note.noEncoding (Choice.plain (.known Variant.null))).message := by
      decide +kernel
    exact List.forall_mem_singleton.2 hnull
  | some selector =>
    rw [encode_eq_encodeRows hv]
    exact oneLine_encodeRows attrs selector _

namespace Summary
variable (attrs : Attributes)

theorem oneLine_read_bind (f : FieldName) {next : Nat → Noted TooLong String}
    (h : ∀ k, ∀ n ∈ (next k).events, n.OneLine) :
    ∀ n ∈ (read attrs f >>= next).events, n.OneLine :=
  Traced.forall_mem_events_bind (Attribute.oneLine_read _ f.oneLine_unit?) h

theorem oneLine_pure (line : String) :
    ∀ n ∈ (pure line : Noted TooLong String).events, n.OneLine := List.forall_mem_nil _

theorem oneLine_ofVariant (source : Bool) (v : Variant) :
    ∀ n ∈ (ofVariant source attrs v).events, n.OneLine := by
  have two {f g : FieldName} {next : Nat → Nat → Noted TooLong String}
      (h : ∀ k l, ∀ n ∈ (next k l).events, n.OneLine) :
      ∀ n ∈ (read attrs f >>= fun k => read attrs g >>= next k).events, n.OneLine :=
    oneLine_read_bind attrs f fun k => oneLine_read_bind attrs g (h k)
  cases v with
  | null => exact oneLine_pure _
  | fixed => exact two fun _ _ => oneLine_pure _
  | battery => exact two fun _ _ => oneLine_read_bind attrs _ fun _ => oneLine_pure _
  | variableSupply => exact two fun _ _ => oneLine_read_bind attrs _ fun _ => oneLine_pure _
  | pps =>
    cases source with
    | false => exact two fun _ _ => oneLine_read_bind attrs _ fun _ => oneLine_pure _
    | true => exact two fun _ _ => two fun _ _ => oneLine_pure _
  | eprAvs => exact two fun _ _ => two fun _ _ => oneLine_pure _
  | sprAvs => exact two fun _ _ => oneLine_read_bind attrs _ fun _ => oneLine_pure _

end Summary

theorem oneLine_summarize (v : Variant) (source : Bool) (attrs : Attributes) :
    ∀ n ∈ (summarize (.known v) source attrs).events, n.OneLine := by
  cases attrs with
  | nil => exact List.forall_mem_nil _
  | cons p attrs => exact Summary.oneLine_ofVariant (p :: attrs) source v

namespace LiteralError
variable (literal : Value) (reason : LiteralReason)

theorem message_of_operation {operation : String} (h : operation ≠ "") :
    LiteralError.message ⟨literal, reason, some operation⟩ =
      "bad literal " ++ literal.shown ++ (" for " ++ operation) ++ ": " ++ reason.message := by
  unfold message
  split
  · next h' => cases h'
  · next h' => exact absurd (Option.some.inj h') h
  · next h' =>
    cases h'
    rfl

theorem oneLine_message {operation : Option String} (hs : OneLine literal.shown)
    (ho : ∀ o ∈ operation, OneLine o) (hr : OneLine reason.message) :
    OneLine (LiteralError.message ⟨literal, reason, operation⟩) := by
  obtain ⟨purpose, hpurpose, hm⟩ : ∃ purpose, OneLine purpose ∧
      LiteralError.message ⟨literal, reason, operation⟩ =
        "bad literal " ++ literal.shown ++ purpose ++ ": " ++ reason.message := by
    refine ⟨_, ?_, rfl⟩
    cases operation with
    | none => exact (by decide : OneLine "")
    | some operation =>
      split
      · decide
      · decide
      · next h => exact oneLine_append.2 ⟨by decide, ho _ h⟩
  simp only [hm, oneLine_append]
  exact ⟨⟨⟨⟨by decide, hs⟩, hpurpose⟩, by decide⟩, hr⟩

end LiteralError

theorem TooLong.oneLine_message (e : TooLong) : OneLine e.message := by
  have hm : e.message = "Exceeds the limit (" ++ toString Numeral.maxDigits ++
      " digits) for integer string conversion: " ++ ("value has " ++ toString e.digits ++
        " digits; use sys.set_int_max_str_digits() to increase the limit") := rfl
  simp only [hm, oneLine_append]
  exact ⟨⟨⟨by decide, oneLine_toString _⟩, by decide⟩, ⟨by decide, oneLine_toString _⟩, by decide⟩

theorem LiteralReason.oneLine_issue {kind : IssueKind} {name : String} (hn : name ≠ "")
    (hone : OneLine name) (hk : OneLine kind.message) : OneLine (issue ⟨kind, [name]⟩).message := by
  have hm : (issue ⟨kind, [name]⟩).message = name ++ ": " ++ kind.message := message_issue hn
  rw [hm, oneLine_append, oneLine_append]
  exact ⟨⟨hone, by decide⟩, hk⟩

theorem ReferenceCodeError.oneLine_message {s : String} {e : ReferenceCodeError}
    (h : (Value.text s).toReferenceByCode = .error e) : OneLine e.message := by
  obtain rfl : ⟨.text s⟩ = e := by
    unfold Value.toReferenceByCode at h
    dsimp only at h
    split at h <;> cases h
    rfl
  have hm : message ⟨.text s⟩ = "unknown RDO reference code " ++ quoted s ++ ", expected one of " ++
      ", ".intercalate (ReferenceCode.letters.map fun p => p.1.toString) := rfl
  simp only [hm, oneLine_append]
  exact ⟨⟨⟨by decide, oneLine_quoted s⟩, by decide⟩, by decide +kernel⟩

theorem Literal.oneLine_of_parseWord {text : String} {e : WordTextError}
    (h : parseWord text none = .error e) : OneLine e.message := by
  cases e with
  | tooLong e => exact e.oneLine_message
  | literal e =>
    obtain ⟨rfl, -⟩ | ⟨rfl, -⟩ := Literal.parseWord_eq_literal_iff.1 h
    · exact LiteralError.oneLine_message _ _ (oneLine_quoted text) nofun (by decide)
    · exact LiteralError.oneLine_message _ _ (oneLine_quoted text) nofun (by decide)

end PowerDelivery
