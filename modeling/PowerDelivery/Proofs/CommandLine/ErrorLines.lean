import PowerDelivery.Proofs.CommandLine.Run
import PowerDelivery.Proofs.Messages

/-! # Error lines of a run

Each failure begins one, and a note begins none. A message may begin more of them only with a
reference, which is told as it was given. -/
namespace PowerDelivery
open Text

namespace CommandLine

namespace Operand

theorem oneLine_shown (literal : Operand) : OneLine literal.value.shown := by
  cases literal with
  | none => decide
  | some text => exact oneLine_quoted text

theorem oneLine_of_word {literal : Operand} {issue : Issue} (h : literal.word = .error issue) :
    OneLine (LiteralReason.issue issue).message := by
  cases literal with
  | none =>
    cases h
    exact LiteralReason.oneLine_issue (by decide) (by decide) (by decide)
  | some text =>
    rw [word] at h
    cases hp : Literal.parseWord text none with
    | ok w =>
      rw [hp] at h
      cases h
    | error e =>
      rw [hp] at h
      cases h
      exact LiteralReason.oneLine_issue (by decide) (by decide)
        (oneLine_append.2 ⟨by decide, Literal.oneLine_of_parseWord hp⟩)

end Operand

theorem oneLine_notes {o : DataObject} (h : OneLine o.variant) : ∀ n ∈ notes o, n.OneLine := by
  have hword : OneLine o.word.text := o.word.oneLine_text
  have hkind : OneLine o.kind.text := by cases o.kind <;> decide
  unfold notes
  split
  · have hblock : (Note.noVariantBlock o.word o.variant).message =
        "PDO " ++ o.word.text ++ ": no field block for variant " ++ o.variant := rfl
    have hundecoded : (Note.undecoded o.kind o.word o.variant).message =
        "could not decode " ++ o.kind.text ++ " " ++ o.word.text ++ " as " ++ o.variant := rfl
    refine List.forall_mem_cons.2 ⟨?_, List.forall_mem_singleton.2 ?_⟩
    · simp only [Note.OneLine, hblock, oneLine_append]
      exact ⟨⟨⟨by decide, hword⟩, by decide⟩, h⟩
    · simp only [Note.OneLine, hundecoded, oneLine_append]
      exact ⟨⟨⟨⟨⟨by decide, hkind⟩, by decide⟩, hword⟩, by decide⟩, h⟩
  · exact List.forall_mem_nil _

namespace Reading

/-- The first line of the message of a failure. -/
def errorLine? : Reading → Option String
  | .error e => some (firstLine s!"Error: {e.message}")
  | .ok _ => none

variable {c : OutputConfig} {quiet : Prop}

theorem whole_errorText (c : OutputConfig) (x : Reading) : Whole (x.errorText c) := by
  cases x with
  | error e => exact .inr ⟨s!"Error: {e.message}", rfl⟩
  | ok o => exact whole_join (List.forall_mem_map.2 fun n _ => n.whole_line)

/-- A failure has the first line of its message among the error lines, and no other if all is
`quiet`. -/
def Marked (c : OutputConfig) (quiet : Prop) (x : Reading) : Prop :=
  ∃ rest, errorLines (x.errorText c) = x.errorLine?.toList ++ rest ∧
    (quiet ∨ x.isFailure = false → rest = [])

theorem marked_ok {o : DataObject} (h : OneLine o.variant) : Marked c quiet (.ok o) := by
  have hnotes : ∀ n ∈ (notes o).filter c.shows, n.OneLine := fun n hn =>
    oneLine_notes h n (List.mem_of_mem_filter hn)
  exact ⟨[], Note.errorLines_join_line hnotes, fun _ => rfl⟩

theorem marked_error {e : LiteralError} (h : quiet → Quiet s!"Error: {e.message}") :
    Marked c quiet (.error e) := by
  have hp : "Error:".toList <+: s!"Error: {e.message}".toList := by
    rw [String.toList_append]
    exact (List.prefix_append "Error:".toList [' ']).trans (List.prefix_append _ _)
  obtain ⟨rest, hrest, hquiet⟩ := errorLines_eq_cons hp
  refine ⟨rest, ?_, ?_⟩
  · exact (errorLines_line _).trans hrest
  · rintro (hq | hq)
    · exact hquiet (h hq)
    · cases hq

theorem Marked.ne_nil_iff {x : Reading} (h : x.Marked c quiet) :
    errorLines (x.errorText c) ≠ [] ↔ x.isFailure = true := by
  obtain ⟨rest, hrest, hnil⟩ := h
  rw [hrest]
  cases x with
  | error e => exact iff_of_true (List.cons_ne_nil _ _) rfl
  | ok o =>
    rw [hnil (.inr rfl)]
    exact iff_of_false (fun h => h rfl) nofun

theorem errorLines_join (c : OutputConfig) (xs : List Reading) :
    errorLines (String.join (xs.map (errorText c))) =
      xs.flatMap fun x => errorLines (x.errorText c) := by
  rw [Text.errorLines_join (List.forall_mem_map.2 fun x _ => whole_errorText c x), List.flatMap_map]

theorem errorLines_join_append (xs : List Reading) {ns : List Note} (h : ∀ n ∈ ns, n.OneLine) :
    errorLines (String.join (xs.map (errorText c)) ++ String.join (ns.map Note.line)) =
      errorLines (String.join (xs.map (errorText c))) := by
  rw [errorLines_append (whole_join (List.forall_mem_map.2 fun x _ => whole_errorText c x)),
    Note.errorLines_join_line h, List.append_nil]

variable {xs : List Reading} (h : ∀ x ∈ xs, x.Marked c quiet)
include h

theorem errorLines_ne_nil_iff :
    errorLines (String.join (xs.map (errorText c))) ≠ [] ↔ xs.any isFailure = true := by
  rw [errorLines_join, ne_eq, List.flatMap_eq_nil_iff, List.any_eq_true]
  push Not
  exact exists_congr fun x => and_congr_right fun hx => (h x hx).ne_nil_iff

theorem errorLines_eq_filterMap (hq : quiet) :
    errorLines (String.join (xs.map (errorText c))) = xs.filterMap errorLine? := by
  rw [errorLines_join, List.filterMap_eq_flatMap_toList]
  apply List.flatMap_congr
  intro x hx
  obtain ⟨rest, hrest, hnil⟩ := h x hx
  rw [hrest, hnil (.inl hq), List.append_nil]

end Reading

theorem Context.marked_read (x : Context) (c : OutputConfig) (quiet : Prop) (literal : Operand) :
    (x.read literal).Marked c quiet := by
  unfold read
  cases hw : literal.word with
  | ok w => exact Reading.marked_ok (Variant.oneLine_text _)
  | error issue =>
    have hone := LiteralError.oneLine_message literal.value (.issue issue) literal.oneLine_shown
      (by decide : ∀ o ∈ some "PDO decode", OneLine o) (Operand.oneLine_of_word hw)
    exact Reading.marked_error fun _ => (oneLine_append.2 ⟨by decide, hone⟩).quiet

section
variable {reference : Option String}

/-- What is wrong with a reference is told in one line. -/
theorem oneLine_of_readQueryReference {issues : List Issue}
    (h : (reference.elim Value.none .text).readQueryReference = .error issues) :
    ∃ kind, issues = [⟨kind, []⟩] ∧ OneLine kind.message := by
  have hmember : OneLine (IssueKind.notMember
      ((Vocabulary.members : List Reference).map Vocabulary.text)).message := by decide +kernel
  cases reference with
  | none =>
    cases h
    exact ⟨_, rfl, hmember⟩
  | some s =>
    rw [Option.elim_some, Value.readQueryReference] at h
    split at h
    · split at h
      · cases h
      · next e he =>
        cases h
        exact ⟨_, rfl, oneLine_append.2 ⟨by decide, ReferenceCodeError.oneLine_message he⟩⟩
    · rw [Value.readReference, Value.readMember] at h
      split at h
      · cases h
      · cases h
        exact ⟨_, rfl, hmember⟩

theorem quiet_plain (h : ∀ r ∈ reference, Quiet r) :
    Quiet (reference.elim Value.none .text).plain := by
  cases reference with
  | none => decide
  | some r => exact h r rfl

theorem quiet_message {literal : Value} {reason : LiteralReason} {plain : String}
    (hl : OneLine literal.shown) (hr : OneLine reason.message) (h : Quiet plain) :
    Quiet ("Error: " ++
      LiteralError.message ⟨literal, reason, some s!"RDO decode (reference {plain})"⟩) := by
  have hne : "RDO decode (reference " ++ plain ++ ")" ≠ "" := by
    intro he
    simpa using congrArg String.toList he
  have hm : "Error: " ++ LiteralError.message ⟨literal, reason,
      some ("RDO decode (reference " ++ plain ++ ")")⟩ =
        "Error: bad literal " ++ literal.shown ++ " for RDO decode (reference " ++ plain ++ ")" ++
          (": " ++ reason.message) := by
    rw [LiteralError.message_of_operation _ _ hne]
    simp [← String.toList_inj]
  have hbefore : OneLine ("Error: bad literal " ++ literal.shown ++
      " for RDO decode (reference ") := by
    simp only [oneLine_append]
    exact ⟨⟨by decide, hl⟩, by decide⟩
  have hafter : OneLine (": " ++ reason.message) := oneLine_append.2 ⟨by decide, hr⟩
  have hquiet := h.echo hbefore hafter
  rw [← hm] at hquiet
  exact hquiet

theorem marked_readRequest (c : OutputConfig) (literal : Operand) :
    (readRequest (reference.elim .none .text) literal).Marked c (∀ r ∈ reference, Quiet r) := by
  unfold readRequest
  cases hw : literal.word with
  | error issue =>
    exact Reading.marked_error fun h =>
      quiet_message literal.oneLine_shown (Operand.oneLine_of_word hw) (quiet_plain h)
  | ok w =>
    cases hr : (reference.elim Value.none .text).readQueryReference with
    | ok r => exact Reading.marked_ok r.oneLine_text
    | error issues =>
      obtain ⟨kind, rfl, hk⟩ := oneLine_of_readQueryReference hr
      exact Reading.marked_error fun h => quiet_message literal.oneLine_shown
        (LiteralReason.oneLine_issue (by decide) (by decide) hk) (quiet_plain h)

end

namespace Settings
variable {s : Settings} {c : OutputConfig}

theorem oneLine_notesOfEncode : ∀ n ∈ s.notesOfEncode, n.OneLine := by
  unfold notesOfEncode
  cases s.encode with
  | none => exact List.forall_mem_nil _
  | some v =>
    refine List.forall_mem_append.2 ⟨?_, List.forall_mem_append.2 ⟨?_, ?_⟩⟩
    · intro n hn
      obtain ⟨p, -, rfl⟩ := List.mem_map.1 hn
      exact Note.oneLine_unknownAttribute p.1
    · exact oneLine_encode v _ _ _
    · unfold line
      split
      · rw [← bind_pure_comp]
        exact Traced.forall_mem_events_bind (oneLine_summarize v _ _) fun _ => List.forall_mem_nil _
      · exact List.forall_mem_nil _

/-- Settings have no context only where their leaf is none. -/
theorem leaf_of_context {e : LiteralError} (h : s.context c = .ok (.error e)) :
    ∃ leaf, e = ⟨.text leaf, .notLeaf, some "capability leaf"⟩ := by
  unfold context at h
  split at h
  · cases h
  · cases h
  · cases h
  · next leaf _ _ _ =>
    cases hr : Leaf.read leaf id c.adjustable with
    | error e' =>
      rw [hr] at h
      cases h
    | ok r =>
      rw [hr] at h
      cases r with
      | none =>
        cases h
        exact ⟨leaf, rfl⟩
      | some p => cases h

theorem marked_readings {context : Except LiteralError Context} (h : s.context c = .ok context)
    (pdos rdos : List Operand) :
    ∀ x ∈ readCapabilities context pdos ++ rdos.map (readRequest s.referenceValue),
      x.Marked c (∀ r ∈ s.reference, Quiet r) := by
  refine List.forall_mem_append.2 ⟨?_, List.forall_mem_map.2 fun r _ => marked_readRequest c r⟩
  cases context with
  | ok x => exact List.forall_mem_map.2 fun literal _ => x.marked_read c _ literal
  | error e =>
    obtain ⟨leaf, rfl⟩ := leaf_of_context h
    have hone : OneLine (LiteralError.message
        ⟨.text leaf, .notLeaf, some "capability leaf"⟩) :=
      LiteralError.oneLine_message _ _ (oneLine_quoted leaf)
        (by decide : ∀ o ∈ some "capability leaf", OneLine o) (by decide)
    have hmarked : Reading.Marked c (∀ r ∈ s.reference, Quiet r)
        (.error ⟨.text leaf, .notLeaf, some "capability leaf"⟩) :=
      Reading.marked_error fun _ => (oneLine_append.2 ⟨by decide, hone⟩).quiet
    unfold readCapabilities
    split
    · next he => cases he
    · next he =>
      cases he
      split
      · exact List.forall_mem_nil _
      · exact List.forall_mem_singleton.2 hmarked

end Settings

end CommandLine
end PowerDelivery
