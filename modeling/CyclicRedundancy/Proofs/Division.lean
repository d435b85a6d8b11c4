import Mathlib.Algebra.BigOperators.Intervals
import Mathlib.Algebra.CharP.Two
import Mathlib.Algebra.Field.ZMod
import Mathlib.Algebra.Polynomial.Div
import Mathlib.Tactic.LinearCombination
import Mathlib.Tactic.Ring
import CyclicRedundancy.Proofs.Textbook

/-!
# Division of polynomials

Registers and messages as polynomials over the field of two elements. Feeding a bit multiplies the
register by `X`, adds the bit at the power of the width and subtracts the generator if the power of
the width occurs, so a message leaves the remainder of a division by the generator.
-/

namespace CyclicRedundancy

open Polynomial ShiftRegister

namespace ShiftRegister

variable {w : Nat}

/-- The polynomial of a register: bit `i` belongs to the power `i`. -/
noncomputable def polynomial (r : BitVec w) : (ZMod 2)[X] :=
  ∑ i ∈ Finset.range w, if r.getLsbD i then X ^ i else 0

/-- The polynomial of some bits, the first of which belongs to the highest power. -/
noncomputable def bitsPolynomial : List Bool → (ZMod 2)[X]
  | [] => 0
  | bit :: bits => (if bit then X ^ bits.length else 0) + bitsPolynomial bits

/-- The polynomial by which a register divides: its taps below the power of the width. -/
noncomputable def generator (taps : BitVec w) : (ZMod 2)[X] := X ^ w + polynomial taps

/-- A bit as an element of the field. -/
def scalar (bit : Bool) : ZMod 2 := if bit then 1 else 0

theorem scalar_true : scalar true = 1 := rfl

theorem scalar_false : scalar false = 0 := rfl

theorem scalar_xor (a b : Bool) : scalar (a ^^ b) = scalar a + scalar b := by
  cases a <;> cases b <;> rfl

theorem scalar_and (a b : Bool) : scalar (a && b) = scalar a * scalar b := by
  cases a <;> cases b <;> rfl

theorem ite_eq_C_mul (bit : Bool) (p : (ZMod 2)[X]) :
    (if bit then p else 0) = C (scalar bit) * p := by
  cases bit
  · simp [scalar]
  · simp [scalar]

/-! ## Coefficients -/

theorem coeff_polynomial (r : BitVec w) (k : Nat) :
    (polynomial r).coeff k = scalar (r.getLsbD k) := by
  simp only [polynomial, ite_eq_C_mul, finsetSum_coeff, coeff_C_mul_X_pow]
  rw [Finset.sum_ite_eq]
  by_cases hk : k < w
  · rw [if_pos (Finset.mem_range.mpr hk)]
  · rw [if_neg (by simpa using hk), BitVec.getLsbD_of_ge r k (by omega)]
    rfl

theorem degree_polynomial_lt (r : BitVec w) : (polynomial r).degree < w := by
  rw [degree_lt_iff_coeff_zero]
  intro k hk
  rw [coeff_polynomial, BitVec.getLsbD_of_ge r k hk]
  rfl

theorem generator_monic (taps : BitVec w) : (generator taps).Monic :=
  monic_X_pow_add (degree_polynomial_lt taps)

theorem degree_generator (taps : BitVec w) : (generator taps).degree = w := by
  have hlt : (polynomial taps).degree < (X ^ w : (ZMod 2)[X]).degree := by
    rw [degree_X_pow]
    exact degree_polynomial_lt taps
  rw [generator, degree_add_eq_left_of_degree_lt hlt, degree_X_pow]

/-! ## Feeding is division -/

/-- One bit is one step of the division: what has the power of the width is taken away by the
generator. -/
theorem polynomial_shift (taps r : BitVec w) (hw : 0 < w) (bit : Bool) :
    polynomial r * X + C (scalar bit) * X ^ w =
      C (scalar (r.msb ^^ bit)) * generator taps + polynomial (shift taps r bit) := by
  have htwice : ∀ z : ZMod 2, z + z = 0 := CharTwo.add_self_eq_zero
  generalize hout : (r.msb ^^ bit) = out
  have hbit : scalar r.msb + scalar bit = scalar out := by
    rw [← hout, scalar_xor]
  ext k
  simp only [generator, coeff_add, coeff_C_mul, coeff_X_pow, coeff_polynomial]
  cases k with
  | zero =>
    rw [mul_coeff_zero, coeff_X_zero, getLsbD_shift_zero, hout, scalar_and, if_neg (by omega)]
    linear_combination -htwice (scalar out * scalar (taps.getLsbD 0))
  | succ k =>
    rw [coeff_mul_X, coeff_polynomial, getLsbD_shift_succ, hout, scalar_xor, scalar_and, scalar_and]
    rcases Nat.lt_trichotomy (k + 1) w with hk | hk | hk
    · rw [if_neg (by omega), decide_eq_true hk, scalar_true]
      linear_combination -htwice (scalar out * scalar (taps.getLsbD (k + 1)))
    · have hmsb : r.getLsbD k = r.msb := by
        rw [BitVec.msb_eq_getLsbD_last, show w - 1 = k by omega]
      rw [if_pos hk, decide_eq_false (by omega), hmsb, BitVec.getLsbD_of_ge taps _ (by omega),
        scalar_false]
      linear_combination hbit
    · rw [if_neg (by omega), decide_eq_false (by omega), BitVec.getLsbD_of_ge r _ (by omega),
        BitVec.getLsbD_of_ge taps _ (by omega), scalar_false]
      ring

/-- The quotient of the division that some bits carry out, with the register as its remainder. -/
theorem exists_quotient (taps r : BitVec w) (hw : 0 < w) (bits : List Bool) :
    ∃ q, polynomial r * X ^ bits.length + bitsPolynomial bits * X ^ w =
      generator taps * q + polynomial (run taps r bits) := by
  induction bits generalizing r with
  | nil => exact ⟨0, by simp [bitsPolynomial]⟩
  | cons bit bits ih =>
    obtain ⟨q, hq⟩ := ih (shift taps r bit)
    have hstep := polynomial_shift taps r hw bit
    refine ⟨C (scalar (r.msb ^^ bit)) * X ^ bits.length + q, ?_⟩
    rw [List.length_cons, bitsPolynomial, ite_eq_C_mul, run_cons]
    linear_combination hq + X ^ bits.length * hstep

theorem polynomial_run (taps r : BitVec w) (hw : 0 < w) (bits : List Bool) :
    polynomial (run taps r bits) =
      (polynomial r * X ^ bits.length + bitsPolynomial bits * X ^ w) %ₘ generator taps := by
  obtain ⟨q, hq⟩ := exists_quotient taps r hw bits
  refine (div_modByMonic_unique q _ (generator_monic taps) ⟨?_, ?_⟩).2.symm
  · rw [hq, add_comm]
  · rw [degree_generator]
    exact degree_polynomial_lt _

end ShiftRegister

/-! ## Models -/

namespace Model

variable (m : Model)

/-- The polynomial of the register in a word: bit `i` belongs to the power `i`, or to the mirrored
power if the model takes bytes reflected. -/
noncomputable def polynomial (register : UInt64) : (ZMod 2)[X] :=
  ∑ i ∈ Finset.range m.width,
    if register.toBitVec.getLsbD i then X ^ (if m.refIn then m.width - 1 - i else i) else 0

/-- The generator polynomial with its highest term. -/
noncomputable def generator : (ZMod 2)[X] :=
  X ^ m.width + ∑ i ∈ Finset.range m.width, if m.poly.toBitVec.getLsbD i then X ^ i else 0

theorem generator_eq : m.generator = ShiftRegister.generator m.taps := by
  rw [generator, ShiftRegister.generator, ShiftRegister.polynomial]
  congr 1
  refine Finset.sum_congr rfl fun i hi => ?_
  rw [taps, Word.getLsbD_low, decide_eq_true (Finset.mem_range.mp hi), Bool.true_and]

theorem polynomial_eq (register : UInt64) :
    m.polynomial register = ShiftRegister.polynomial (m.view register) := by
  rw [polynomial, ShiftRegister.polynomial]
  cases hin : m.refIn
  · refine Finset.sum_congr rfl fun i hi => ?_
    rw [view, getLsbD_orient, hin, Word.getLsbD_low, decide_eq_true (Finset.mem_range.mp hi)]
    rfl
  · rw [← Finset.sum_range_reflect]
    refine Finset.sum_congr rfl fun i hi => ?_
    rw [Finset.mem_range] at hi
    rw [view, getLsbD_orient, hin, BitVec.getMsbD_eq_getLsbD, Word.getLsbD_low, decide_eq_true hi,
      decide_eq_true (show m.width - 1 - i < m.width by omega), if_pos rfl, if_pos rfl,
      show m.width - 1 - (m.width - 1 - i) = i by omega]
    rfl

/-- Feeding a message divides by the generator: what is left in the word is a register, and its
polynomial is the remainder. The message is moved up by the width, and the register that was there
before by the length of the message. -/
theorem polynomial_feedSerially {register : UInt64} (h : register ≤ m.mask) (data : List UInt8) :
    m.feedSerially m.reflectedPoly register data ≤ m.mask ∧
      m.polynomial (m.feedSerially m.reflectedPoly register data) =
        (m.polynomial register * X ^ (8 * data.length) +
          bitsPolynomial (messageBits m.refIn data) * X ^ m.width) %ₘ m.generator := by
  have hpack : m.pack (m.view register) = register := by
    rw [pack_view]
    exact Word.and_mask_eq_of_le m.width_pos m.width_le h
  have hfeed : m.feedSerially m.reflectedPoly register data =
      m.pack (run m.taps (m.view register) (messageBits m.refIn data)) := by
    rw [← feedSerially_pack, hpack]
  rw [hfeed]
  constructor
  · rw [← pack_and_mask]
    exact Word.and_mask_le _ _
  · rw [polynomial_eq, view_pack, polynomial_run _ _ m.width_pos, length_messageBits,
      ← polynomial_eq, ← generator_eq]

theorem polynomial_feedSerially_crc16Arc :
    0xB4D5 ≤ Catalogue.crc16Arc.model.mask ∧
      Catalogue.crc16Arc.model.polynomial (Catalogue.crc16Arc.model.feedSerially
          Catalogue.crc16Arc.model.reflectedPoly 0xB4D5 [0xB4, 0x67, 0x21]) =
        (Catalogue.crc16Arc.model.polynomial 0xB4D5 * X ^ 24 +
          bitsPolynomial (messageBits true [0xB4, 0x67, 0x21]) * X ^ 16) %ₘ
            Catalogue.crc16Arc.model.generator :=
  ⟨by decide, (polynomial_feedSerially Catalogue.crc16Arc.model (by decide) [0xB4, 0x67, 0x21]).2⟩

end Model

end CyclicRedundancy
