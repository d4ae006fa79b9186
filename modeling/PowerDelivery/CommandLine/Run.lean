import PowerDelivery.CommandLine.Help
import PowerDelivery.CommandLine.Report
import PowerDelivery.CommandLine.Settings
import PowerDelivery.Encode
import PowerDelivery.Leaf
import PowerDelivery.Query
import PowerDelivery.Summary

/-! # Runs of the command line -/
namespace PowerDelivery.CommandLine

/-- What ends a run before its time. An attribute whose operand was dropped has no name. -/
inductive RunError
  | tooLong (error : TooLong)
  | encoding (error : EncodeError)
  | noName (index : Nat)
  deriving DecidableEq, Repr

def RunError.message : RunError → String
  | tooLong e => e.message
  | encoding e => e.message
  | noName i => s!"dictionary update sequence element #{i} has length 0; 2 is required"

abbrev Session := Traced Event RunError

/-- An operand as a value: nothing is an empty list. -/
def Operand.value : Operand → Value
  | some text => .text text
  | none => .list []

namespace Session

def emit (o : DataObject) : Session Unit := do
  if o.isEmpty then Traced.tell (.note (.undecoded o.kind o.word o.variant))
  Traced.tell (.report (.object o))

/-- The parts that all queries for capabilities share. A leaf says the variant and may say that the
position is the first. -/
def capabilityParts (s : Settings) (c : OutputConfig) :
    Except TooLong (Except LiteralError Record) :=
  match s.variant, s.leaf with
  | some v, _ => .ok (.ok (PdoQuery.parts s.first (!s.sink) (some v)))
  | none, none | none, some "" => .ok (.ok (PdoQuery.parts s.first (!s.sink) none))
  | none, some leaf => (Leaf.read leaf id c.adjustable).map fun
    | none => .error ⟨.text leaf, .notLeaf, some "capability leaf"⟩
    | some (position, v) => .ok (PdoQuery.parts (s.first || position == 1) (!s.sink) (some v))

def capability (parts : Record) (literal : Operand) : Session Unit :=
  match PdoQuery.ofLiteral literal.value parts with
  | .error e => Traced.tell (.failure e)
  | .ok q => do emit (← q.decode.mapEvents .note)

/-- A leaf that cannot be read fails once and takes all capability words with it. -/
def capabilities (s : Settings) (c : OutputConfig) : Session Unit :=
  if s.pdos.isEmpty then pure ()
  else do
    match ← Traced.ofExcept ((capabilityParts s c).mapError .tooLong) with
    | .error e => Traced.tell (.failure e)
    | .ok parts => s.pdos.forM (capability parts)

def request (reference : Value) (literal : Operand) : Session Unit :=
  match RdoQuery.ofLiteral literal.value reference with
  | .error e => Traced.tell (.failure e)
  | .ok q => emit q.decode

def requests (s : Settings) : Session Unit :=
  s.rdos.forM (request (s.reference.elim .none .text))

def pairs : Nat → List (Option (String × String)) → Except RunError (List (String × String))
  | _, [] => .ok []
  | i, none :: _ => .error (.noName i)
  | i, some pair :: rest => (pairs (i + 1) rest).map (pair :: ·)

/-- Any position but the first serves where the first one is not asked for. -/
def encoding (s : Settings) (v : Variant) : Session Unit := do
  let attrs := Keyed.ofList (← Traced.ofExcept (pairs 0 s.attributes))
  (attrs.filter fun p => (Vocabulary.ofText? p.1 : Option FieldName).isNone).forM fun p =>
    Traced.tell (.note (.unknownAttribute p.1))
  let attrs : Attributes := attrs.map fun p => (p.1, some p.2)
  let position := if s.first then 1 else 2
  let word ← ((encode (.known v) (some !s.sink) position attrs).mapEvents .note).mapError .encoding
  let summary ←
    if s.summary then do
      let line ← ((summarize (.known v) (!s.sink) attrs).mapEvents .note).mapError .tooLong
      pure (some line)
    else pure none
  Traced.tell (.report (.encoded word v summary))

/-- Every operation stands alone: what fails in one does not stop the next. -/
def run (s : Settings) (c : OutputConfig) : Session Unit := do
  capabilities s c
  requests s
  match s.encode with
  | none => pure ()
  | some v => encoding s v

end Session

def Settings.config (s : Settings) : OutputConfig :=
  ⟨s.verbosity, s.json, if s.spr then .sprAvs else .eprAvs⟩

def Stop.transcript : Stop → Transcript
  | help => ⟨0, CommandLine.help, ""⟩
  | version => ⟨0, CommandLine.version, ""⟩
  | usage e => ⟨2, "", e.text⟩

/-- A run that ends before its time leaves no transcript. -/
def Settings.transcript (s : Settings) : Except RunError Transcript :=
  let session := Session.run s s.config
  session.outcome.map fun () => .ofEvents s.config session.events

def execute (dialect : Dialect) (arguments : List String) : Except RunError Transcript :=
  match Settings.ofArguments dialect arguments with
  | .error stop => .ok stop.transcript
  | .ok s => if s.isIdle then .ok ⟨0, help, ""⟩ else s.transcript

end PowerDelivery.CommandLine
