import PowerDelivery.Numeral
import PowerDelivery.Vocabulary

/-! # Scales: how raw bits are shown -/
namespace PowerDelivery

inductive ScaleKind | unitless | linear | halvedQuarterVolt
  deriving DecidableEq, Repr

def ScaleKind.text : ScaleKind → String
  | unitless => "unitless"
  | linear => "linear"
  | halvedQuarterVolt => "halved_quarter_volt"

instance : Vocabulary ScaleKind :=
  ⟨"ScaleKind", [.unitless, .linear, .halvedQuarterVolt], ScaleKind.text⟩

/-- A linear scale has a fixed number of hundredths to a step; the halved quarter volt has 25
hundredths to every two steps. -/
inductive Scale
  | unitless
  | linear (multiplier : Nat) (pos : 0 < multiplier)
  | halvedQuarterVolt
  deriving DecidableEq, Repr

inductive ScaleError
  | multiplier (multiplier : Int)
  | noStep (kind : ScaleKind)
  deriving DecidableEq, Repr

def ScaleError.message : ScaleError → String
  | multiplier m => s!"multiplier must be >= 1, got {m}"
  | noStep kind => s!"{kind.text} scale has no encoder step"

/-- Hundredths as a whole number, a point and two digits. The whole part is rounded down. -/
def hundredthsText (n : Int) : String :=
  s!"{n / 100}." ++ String.ofList (Numeral.padded 10 2 (n % 100).toNat)

namespace Scale

def linear? (multiplier : Int) : Except ScaleError Scale :=
  if h : multiplier < 1 then .error (.multiplier multiplier)
  else .ok (.linear multiplier.toNat (by omega))

def kind : Scale → ScaleKind
  | unitless => .unitless
  | linear .. => .linear
  | halvedQuarterVolt => .halvedQuarterVolt

/-- Hundredths to a raw step, which only a linear scale has. -/
def multiplier : Scale → Nat
  | linear m _ => m
  | _ => 1

/-- Thousandths to a raw step. -/
def step : Scale → Except ScaleError Nat
  | linear m _ => .ok (m * 10)
  | s => .error (.noStep s.kind)

def hundredths : Scale → Int → Option Int
  | unitless, _ => none
  | linear m _, raw => some (raw * m)
  | halvedQuarterVolt, raw => some (raw / 2 * 25)

def display (s : Scale) (raw : Int) : String :=
  match s.hundredths raw with
  | none => toString raw
  | some n => hundredthsText n

end Scale
end PowerDelivery
