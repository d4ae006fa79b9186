import PowerDelivery.Word

/-! # Packing and unpacking a word step by step -/
namespace PowerDelivery

inductive PackStep
  | number (value offset width : Int)
  | flag (value : Bool) (offset : Int)
  deriving DecidableEq, Repr

inductive PackError
  | negative (value : Int)
  | span (error : SpanError)
  deriving DecidableEq, Repr

def PackError.message : PackError → String
  | negative n => s!"write_uint requires non-negative value, got {n}"
  | span e => e.message

namespace Word

def writeNumber (w : Word) (value offset width : Int) : Except PackError Word :=
  if value < 0 then .error (.negative value)
  else ((Span.ofInts offset width).map (w.write · value.toNat)).mapError .span

/-- A flag that is not set is not written, wherever it stands. -/
def step (w : Word) : PackStep → Except PackError Word
  | .number value offset width => w.writeNumber value offset width
  | .flag value offset => if value then w.writeNumber 1 offset 1 else .ok w

/-- The word after a step, which a refused step leaves as it was. -/
def stepOn (w : Word) (s : PackStep) : Word := (w.step s).toOption.getD w

/-- Each step's outcome with the word after it. -/
def packTrace (w : Word) : List PackStep → List (Except PackError Word × Word)
  | [] => []
  | s :: steps => (w.step s, w.stepOn s) :: packTrace (w.stepOn s) steps

def pack (w : Word) (steps : List PackStep) : Word := steps.foldl stepOn w

def readAt (w : Word) (offset width : Int) : Except SpanError Nat :=
  (Span.ofInts offset width).map w.read

def flagAt (w : Word) (offset : Int) : Except SpanError Bool :=
  (w.readAt offset 1).map (· == 1)

theorem step_eq_error_iff (w w' : Word) (s : PackStep) (e : PackError) :
    w.step s = .error e ↔ w'.step s = .error e := by
  have number (v o n : Int) : w.writeNumber v o n = .error e ↔ w'.writeNumber v o n = .error e := by
    unfold writeNumber
    split
    · rfl
    · cases Span.ofInts o n with
      | error _ => rfl
      | ok _ => constructor <;> (intro h; cases h)
  cases s with
  | number v o n => exact number v o n
  | flag b o => cases b <;> simp [step, number]

end Word
end PowerDelivery
