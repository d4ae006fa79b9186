import PowerDelivery.Numeral

/-! # 32-bit words and the spans of bits in them -/
namespace PowerDelivery

abbrev Word := BitVec 32

/-- A run of bits, named by its least significant one. -/
@[ext] structure Span where
  offset : Nat
  width : Nat
  width_pos : 0 < width
  fits : offset + width ≤ 32
  deriving Repr

instance : DecidableEq Span := fun _ _ => decidable_of_iff _ Span.ext_iff.symm

inductive SpanError
  | width (width : Int)
  | range (offset width : Int)
  deriving DecidableEq, Repr

def SpanError.message : SpanError → String
  | width n => s!"num_bits must be 1-32, got {n}"
  | range o n => s!"field at offset {o} with {n} bits does not fit in 32 bits"

namespace Span

def ofInts (offset width : Int) : Except SpanError Span :=
  if hw : width < 1 ∨ 32 < width then .error (.width width)
  else if ho : offset < 0 ∨ 32 < offset + width then .error (.range offset width)
  else .ok ⟨offset.toNat, width.toNat, by omega, by omega⟩

def mask (s : Span) : Nat := 2 ^ s.width - 1

def covers (s : Span) (i : Nat) : Bool := s.offset ≤ i && i < s.offset + s.width

theorem ofInts_eq_ok {offset width : Nat} (hw : 0 < width) (h : offset + width ≤ 32) :
    ofInts offset width = .ok ⟨offset, width, hw, h⟩ := by
  have h₁ : ¬((width : Int) < 1 ∨ 32 < (width : Int)) := by omega
  have h₂ : ¬((offset : Int) < 0 ∨ 32 < (offset : Int) + width) := by omega
  rw [ofInts, dif_neg h₁, dif_neg h₂]
  rfl

end Span

namespace Word

def read (w : Word) (s : Span) : Nat := w.toNat / 2 ^ s.offset % 2 ^ s.width

/-- Sets the span's bits that `value` has; a value too large loses its high bits. -/
def write (w : Word) (s : Span) (value : Nat) : Word :=
  w ||| BitVec.ofNat 32 (value % 2 ^ s.width * 2 ^ s.offset)

theorem read_lt (w : Word) (s : Span) : w.read s < 2 ^ s.width :=
  Nat.mod_lt _ (Nat.two_pow_pos _)

theorem testBit_read (w : Word) (s : Span) (i : Nat) :
    (w.read s).testBit i = (decide (i < s.width) && w.getLsbD (s.offset + i)) := by
  simp [read, BitVec.getLsbD, Nat.testBit_mod_two_pow, Nat.testBit_div_two_pow, Nat.add_comm]

theorem getLsbD_write (w : Word) (s : Span) (v i : Nat) :
    (w.write s v).getLsbD i =
      (w.getLsbD i || s.covers i && v.testBit (i - s.offset)) := by
  have hs := s.fits
  simp only [write, BitVec.getLsbD_or, BitVec.getLsbD_ofNat, Nat.testBit_mul_two_pow,
    Nat.testBit_mod_two_pow, Span.covers]
  by_cases h : s.offset ≤ i <;> by_cases h' : i < s.offset + s.width
  · have : i - s.offset < s.width := by omega
    have : i < 32 := by omega
    simp [*]
  · have : ¬ i - s.offset < s.width := by omega
    simp [*]
  all_goals simp [*]

end Word
end PowerDelivery
