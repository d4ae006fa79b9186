import PowerDelivery.CommandLine.Run
import PowerDelivery.Proofs.Decoding.Total
import PowerDelivery.Proofs.Events
import PowerDelivery.Proofs.Leaf
import PowerDelivery.Proofs.Query

/-! # What the literals of a run come to

Every literal is read for itself, as a word that is decoded in the way that the settings have for
all words of its kind. -/
namespace PowerDelivery

namespace CommandLine

/-- The word that an operand writes, or what is wrong with it as the word of a query. -/
def Operand.word : Operand → Except Issue Word
  | none => .error ⟨.intType, ["word"]⟩
  | some text => (Literal.parseWord text none).mapError fun e => ⟨.rejected e.message, ["word"]⟩

theorem Operand.readQueryWord_value (literal : Operand) :
    Checked.within "word" literal.value.readQueryWord = literal.word.mapError ([·]) := by
  cases literal with
  | none => rfl
  | some text =>
    simp only [value, Value.readQueryWord, word]
    cases Literal.parseWord text none <;> rfl

namespace Event

theorem filterMap_notes (ns : List Note) : (ns.map note).filterMap report? = [] :=
  List.filterMap_eq_nil_iff.2 fun _ h => by
    obtain ⟨n, -, rfl⟩ := List.mem_map.1 h
    rfl

theorem any_notes (ns : List Note) : (ns.map note).any isFailure = false :=
  List.any_eq_false.2 fun _ h => by
    obtain ⟨n, -, rfl⟩ := List.mem_map.1 h
    exact Bool.false_ne_true

theorem join_notes (c : OutputConfig) (ns : List Note) :
    String.join ((ns.map note).map (errorText c)) =
      String.join ((ns.filter c.shows).map Note.line) := by
  induction ns with
  | nil => rfl
  | cons n ns ih =>
    rw [List.map_cons, List.map_cons, String.join_cons, ih, List.filter_cons, errorText]
    split
    · rw [List.map_cons, String.join_cons]
    · exact String.empty_append

end Event

/-- What a literal comes to: an object, or what is wrong with the literal. -/
abbrev Reading := Except LiteralError DataObject

/-- What is reported of an object that could not be decoded. -/
def notes (o : DataObject) : List Note :=
  if o.isEmpty then [.noVariantBlock o.word o.variant, .undecoded o.kind o.word o.variant] else []

namespace Reading

def events : Reading → List Event
  | .error e => [.failure e]
  | .ok o => (notes o).map .note ++ [.report (.object o)]

def report? : Reading → Option Report
  | .error _ => none
  | .ok o => some (.object o)

def isFailure : Reading → Bool
  | .error _ => true
  | .ok _ => false

def text (x : Reading) : String := (x.report?.map Report.text).getD ""

/-- The line of a failure, or those of the notes that are shown. -/
def errorText (c : OutputConfig) : Reading → String
  | .error e => s!"Error: {e.message}\n"
  | .ok o => String.join (((notes o).filter c.shows).map Note.line)

section
variable (xs : List Reading)

theorem filterMap_events :
    (xs.flatMap events).filterMap Event.report? = xs.filterMap report? := by
  have h (x : Reading) : x.events.filterMap Event.report? = x.report?.toList := by
    cases x with
    | error e => rfl
    | ok o => rw [events, List.filterMap_append, Event.filterMap_notes]; rfl
  rw [List.filterMap_flatMap, funext h, List.filterMap_eq_flatMap_toList]

theorem any_events : (xs.flatMap events).any Event.isFailure = xs.any isFailure := by
  have h (x : Reading) : x.events.any Event.isFailure = x.isFailure := by
    cases x with
    | error e => rfl
    | ok o => rw [events, List.any_append, Event.any_notes]; rfl
  rw [List.any_flatMap, funext h]

theorem join_events (c : OutputConfig) :
    String.join ((xs.flatMap events).map (Event.errorText c)) =
      String.join (xs.map (errorText c)) := by
  have h (x : Reading) : String.join (x.events.map (Event.errorText c)) = x.errorText c := by
    cases x with
    | error e => exact String.empty_append
    | ok o =>
      rw [events, List.map_append, String.join_append, Event.join_notes]
      exact String.append_empty
  induction xs with
  | nil => rfl
  | cons x xs ih =>
    rw [List.flatMap_cons, List.map_append, String.join_append, ih, h, List.map_cons,
      String.join_cons]

end

end Reading

/-- What the settings say of every word of a capability. -/
structure Context where
  first : Bool
  source : Bool
  variant : Option Variant

namespace Context

def parts (x : Context) : Record := PdoQuery.parts x.first x.source x.variant

def read (x : Context) (literal : Operand) : Reading :=
  match literal.word with
  | .ok w => .ok (w.capability x.first x.source (x.variant.getD w.classify))
  | .error issue => .error ⟨literal.value, .issue issue, some "PDO decode"⟩

end Context

/-- What the words of capabilities come to. Without a context there is one failure for all. -/
def readCapabilities (context : Except LiteralError Context) (literals : List Operand) :
    List Reading :=
  match context with
  | .ok x => literals.map x.read
  | .error e => if literals.isEmpty then [] else [.error e]

def readRequest (reference : Value) (literal : Operand) : Reading :=
  let operation := s!"RDO decode (reference {reference.plain})"
  match literal.word with
  | .error issue => .error ⟨literal.value, .issue issue, some operation⟩
  | .ok w =>
    match Checked.within "reference" reference.readQueryReference with
    | .ok r => .ok (w.request r)
    | .error issues => .error (.ofIssues literal.value operation issues)

namespace Settings

/-- How the words of capabilities are to be decoded. A leaf says the variant and may say that the
position is the first. -/
def context (s : Settings) (c : OutputConfig) : Except TooLong (Except LiteralError Context) :=
  match s.variant, s.leaf with
  | some v, _ => .ok (.ok ⟨s.first, !s.sink, some v⟩)
  | none, none | none, some "" => .ok (.ok ⟨s.first, !s.sink, none⟩)
  | none, some leaf => (Leaf.read leaf id c.adjustable).map fun
    | none => .error ⟨.text leaf, .notLeaf, some "capability leaf"⟩
    | some (position, v) => .ok ⟨s.first || position == 1, !s.sink, some v⟩

def referenceValue (s : Settings) : Value := s.reference.elim .none .text

def requestReadings (s : Settings) : List Reading := s.rdos.map (readRequest s.referenceValue)

/-- The context does not matter where there is no word to decode by it. -/
def capabilityReadings (s : Settings) (c : OutputConfig) : Except TooLong (List Reading) :=
  if s.pdos.isEmpty then .ok []
  else (s.context c).map fun context => readCapabilities context s.pdos

variable {s : Settings} {c : OutputConfig}

theorem context_ok_iff : (∃ context, s.context c = .ok context) ↔
    (s.variant = none → ∀ leaf ∈ s.leaf, Leaf.Short leaf) := by
  cases hv : s.variant with
  | some v =>
    refine iff_of_true ⟨.ok ⟨s.first, !s.sink, some v⟩, ?_⟩ fun h => (nomatch h)
    simp only [context, hv]
  | none =>
    cases hl : s.leaf with
    | none =>
      refine iff_of_true ⟨.ok ⟨s.first, !s.sink, none⟩, ?_⟩ fun _ _ h => (nomatch h)
      simp only [context, hv, hl]
    | some leaf =>
      have hshort : (none = (none : Option Variant) → ∀ leaf' ∈ some leaf, Leaf.Short leaf') ↔
          Leaf.Short leaf := ⟨fun h => h rfl leaf rfl, fun h _ leaf' hl' => Option.some.inj hl' ▸ h⟩
      rw [hshort, ← Leaf.read_ok_iff leaf id c.adjustable]
      by_cases he : leaf = ""
      · subst he
        refine iff_of_true ⟨.ok ⟨s.first, !s.sink, none⟩, ?_⟩ ⟨none, rfl⟩
        simp only [context, hv, hl]
      · have hc : s.context c = (Leaf.read leaf id c.adjustable).map fun
            | none => .error ⟨.text leaf, .notLeaf, some "capability leaf"⟩
            | some (position, v) => .ok ⟨s.first || position == 1, !s.sink, some v⟩ := by
          simp only [context, hv, hl]
        rw [hc]
        cases Leaf.read leaf id c.adjustable with
        | error e => exact iff_of_false (fun ⟨_, h⟩ => nomatch h) fun ⟨_, h⟩ => nomatch h
        | ok r => exact iff_of_true ⟨_, rfl⟩ ⟨r, rfl⟩

theorem capabilityReadings_of_context {context : Except LiteralError Context}
    (h : s.context c = .ok context) :
    s.capabilityReadings c = .ok (readCapabilities context s.pdos) := by
  unfold capabilityReadings
  rw [h]
  cases s.pdos with
  | nil => cases context <;> rfl
  | cons literal pdos => rfl

end Settings

namespace Session
open Traced

theorem emit_eq (o : DataObject) : emit o =
    tellAll ((if o.isEmpty then [.note (.undecoded o.kind o.word o.variant)] else []) ++
      [.report (.object o)]) := by
  unfold emit
  split <;> rfl

theorem capability_eq (x : Context) (literal : Operand) :
    capability x.parts literal = tellAll (x.read literal).events := by
  unfold capability
  rw [Context.parts, PdoQuery.ofLiteral_parts, literal.readQueryWord_value, Context.read]
  cases literal.word with
  | error issue => rfl
  | ok w =>
    change ((w.decodeCapability x.first x.source (x.variant.getD w.classify)).mapEvents .note
      >>= emit) = tellAll (Reading.events (.ok (w.capability _ _ (x.variant.getD w.classify))))
    generalize x.variant.getD w.classify = v
    rw [w.decodeCapability_eq, Traced.bind_of_ok rfl, emit_eq, Reading.events, notes,
      w.isEmpty_capability]
    by_cases hv : v = .null
    · subst hv
      rfl
    · rw [decide_eq_false hv, if_neg hv]
      rfl

theorem request_eq (reference : Value) (literal : Operand) :
    request reference literal = tellAll (readRequest reference literal).events := by
  unfold request
  rw [RdoQuery.ofLiteral_eq, literal.readQueryWord_value, readRequest]
  cases literal.word with
  | error issue => rfl
  | ok w =>
    cases Checked.within "reference" reference.readQueryReference with
    | error issues => rfl
    | ok r =>
      have he : (w.request r).isEmpty = false := w.isEmpty_request r
      change emit (w.request r) = _
      rw [emit_eq, Reading.events, notes, he]
      rfl

section
variable (s : Settings) (c : OutputConfig)

theorem capabilityParts_eq :
    capabilityParts s c = (s.context c).map (Except.map Context.parts) := by
  unfold capabilityParts Settings.context
  cases s.variant with
  | some v => rfl
  | none =>
    cases s.leaf with
    | none => rfl
    | some leaf =>
      by_cases he : leaf = ""
      · subst he
        rfl
      · simp only
        rcases Leaf.read leaf id c.adjustable with _ | _ | _ <;> rfl

theorem capabilities_eq : capabilities s c =
    Traced.ofExcept ((s.capabilityReadings c).mapError RunError.tooLong) >>= fun readings =>
      tellAll (readings.flatMap Reading.events) := by
  unfold capabilities Settings.capabilityReadings
  rw [capabilityParts_eq]
  by_cases hp : s.pdos.isEmpty = true
  · rw [if_pos hp, if_pos hp]
    rfl
  · rw [if_neg hp, if_neg hp]
    cases s.context c with
    | error e => rfl
    | ok context =>
      cases context with
      | error e =>
        have hone : readCapabilities (.error e) s.pdos = [.error e] := if_neg hp
        change tell (Event.failure e) = tellAll ((readCapabilities _ _).flatMap _)
        rw [hone]
        rfl
      | ok x =>
        change s.pdos.forM (capability x.parts) = tellAll ((s.pdos.map x.read).flatMap _)
        rw [forM_eq_tellAll (capability_eq x), List.flatMap_map]

theorem requests_eq : requests s = tellAll (s.requestReadings.flatMap Reading.events) := by
  unfold requests Settings.requestReadings
  rw [List.flatMap_map]
  exact forM_eq_tellAll (request_eq s.referenceValue) s.rdos

end

end Session
end CommandLine
end PowerDelivery
