import PowerDelivery.DataObject
import PowerDelivery.Json
import PowerDelivery.OutputConfig

/-! # Reports of results, as text and as JSON -/
namespace PowerDelivery.CommandLine

inductive Report
  | object (object : DataObject)
  | encoded (word : Word) (variant : Variant) (summary : Option String)
  deriving DecidableEq, Repr

namespace Report

/-- What an object is called in its heading: a described variant by its description. -/
def label (o : DataObject) : String :=
  match o.kind with
  | .pdo =>
    match (Vocabulary.ofText? o.variant : Option Variant) with
    | some v => if v.description = "" then o.variant else v.description
    | none => o.variant
  | .rdo => s!"request for {o.variant}"

def heading (o : DataObject) : String :=
  s!">> {o.kind.text.toUpper} {o.word.text}, type: {label o}\n"

def text : Report → String
  | object o => heading o ++ o.text
  | encoded word _ summary =>
    s!"raw_pdo: {word.text}\n" ++ (summary.map fun line => s!"summary: {line}\n").getD ""

def json : Report → Json
  | object o => .record
      [("kind", .text o.kind.text), ("raw", .text o.word.text), ("variant", .text o.variant),
       ("fields", .record (o.entries.map fun p => (p.1, .text p.2)))]
  | encoded word variant summary => .record
      ([("kind", .text "encoded"), ("raw", .text word.text), ("variant", .text variant.text)] ++
       (summary.map fun line => ("summary", Json.text line)).toList)

end Report

inductive Event
  | report (report : Report)
  | failure (error : LiteralError)
  | note (note : Note)

namespace Event

def report? : Event → Option Report
  | report r => some r
  | _ => none

def isFailure : Event → Bool
  | failure _ => true
  | _ => false

def errorText (c : OutputConfig) : Event → String
  | report _ => ""
  | failure e => s!"Error: {e.message}\n"
  | note n => if c.shows n then n.line else ""

end Event

structure Transcript where
  exit : Nat
  stdout : String
  stderr : String
  deriving DecidableEq, Repr

namespace Transcript

/-- Reports as one text after another, or as one JSON list if there are any. -/
def reportsText (json : Bool) (reports : List Report) : String :=
  if json then
    if reports.isEmpty then "" else Json.render 0 (.list (reports.map Report.json)) ++ "\n"
  else String.join (reports.map Report.text)

/-- The exit status tells whether anything failed. -/
def ofEvents (c : OutputConfig) (events : List Event) : Transcript :=
  ⟨if events.any Event.isFailure then 1 else 0, reportsText c.json (events.filterMap Event.report?),
   String.join (events.map (Event.errorText c))⟩

end Transcript
end PowerDelivery.CommandLine
