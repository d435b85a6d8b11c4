import CyclicRedundancy.Proofs.Division
import CyclicRedundancy.Proofs.Linearity

/-!
# Odd numbers of errors

The value of a polynomial at one tells whether the number of its terms is odd. A generator whose
taps are odd in number has an even number of terms, so that one is a root of it, and a division by
it changes no value at one: the register that is left has as many ones as the register before and
the message together, up to an even number. Hence an odd number of wrong bits, wherever they stand,
leaves a difference.
-/

namespace CyclicRedundancy

open Polynomial ShiftRegister

/-- The number of ones in a word. -/
def Word.ones (v : UInt64) : Nat := v.toBitVec.cpop.toNat

/-- The number of ones in a message. -/
def Message.ones (data : List UInt8) : Nat := (data.map fun byte => byte.toBitVec.cpop.toNat).sum

/-- The number of bits in which two messages of the same length differ. -/
def Message.distance (a b : List UInt8) : Nat := Message.ones (List.zipWith (· ^^^ ·) a b)

namespace ShiftRegister

variable {w : Nat}

/-! ## Counting ones -/

theorem cpopNatRec_eq_count (r : BitVec w) (n : Nat) :
    r.cpopNatRec n 0 = ((List.range n).map r.getLsbD).count true := by
  induction n with
  | zero => rfl
  | succ n ih =>
    rw [BitVec.cpopNatRec_succ, BitVec.cpopNatRec_eq, ih, List.range_succ, List.map_append,
      List.count_append]
    cases h : r.getLsbD n <;> simp [h]

/-- A group has the same ones in either order. -/
theorem count_inOrder (reflected : Bool) (g : BitVec w) :
    (inOrder reflected g).count true = g.cpop.toNat := by
  have hlow : ∀ r : BitVec w, (inOrder true r).count true = r.cpop.toNat := by
    intro r
    rw [BitVec.toNat_cpop, cpopNatRec_eq_count, inOrder_eq_map]
    rfl
  cases reflected with
  | false =>
    have hmirror : inOrder false g = inOrder true g.reverse :=
      congrArg (leading w) (orient_orient true g).symm
    rw [hmirror, hlow, BitVec.cpop_reverse]
  | true => exact hlow g

theorem count_messageBits (reflected : Bool) (data : List UInt8) :
    (messageBits reflected data).count true = Message.ones data := by
  induction data with
  | nil => rfl
  | cons byte data ih =>
    rw [messageBits_cons, List.count_append, count_inOrder, ih]
    rfl

/-! ## Values at one -/

theorem sum_scalar (f : Nat → Bool) (n : Nat) :
    ∑ i ∈ Finset.range n, scalar (f i) = (((List.range n).map f).count true : ZMod 2) := by
  induction n with
  | zero => rfl
  | succ n ih =>
    rw [Finset.sum_range_succ, ih, List.range_succ, List.map_append, List.count_append]
    cases h : f n <;> simp [scalar, h]

theorem eval_one_polynomial (r : BitVec w) : (polynomial r).eval 1 = (r.cpop.toNat : ZMod 2) := by
  simp only [polynomial, ite_eq_C_mul, eval_finsetSum, eval_C_mul, eval_pow, eval_X, one_pow,
    mul_one]
  rw [sum_scalar, ← cpopNatRec_eq_count, BitVec.toNat_cpop]

theorem eval_one_bitsPolynomial (bits : List Bool) :
    (bitsPolynomial bits).eval 1 = (bits.count true : ZMod 2) := by
  induction bits with
  | nil => simp [bitsPolynomial]
  | cons bit bits ih =>
    rw [bitsPolynomial, eval_add, ih]
    cases bit <;> simp [add_comm]

theorem eval_one_generator {taps : BitVec w} (odd : Odd taps.cpop.toNat) :
    (generator taps).eval 1 = 0 := by
  have hone : (taps.cpop.toNat : ZMod 2) = 1 := (ZMod.natCast_eq_one_iff_odd).mpr odd
  rw [generator, eval_add, eval_pow, eval_X, one_pow, eval_one_polynomial, hone]
  rfl

theorem X_add_one_dvd_generator {taps : BitVec w} (odd : Odd taps.cpop.toNat) :
    X + 1 ∣ generator taps := by
  have hroot : (X + 1 : (ZMod 2)[X]) = X - C 1 := by
    rw [CharTwo.sub_eq_add, C_1]
  rw [hroot, dvd_iff_isRoot]
  exact eval_one_generator odd

/-- Feeding bits keeps the parity of the ones in the register and in the bits that are to come. -/
theorem cpop_run {taps : BitVec w} (odd : Odd taps.cpop.toNat) (hw : 0 < w) (r : BitVec w)
    (bits : List Bool) :
    (run taps r bits).cpop.toNat ≡ r.cpop.toNat + bits.count true [MOD 2] := by
  obtain ⟨q, hq⟩ := exists_quotient taps r hw bits
  have hone := congrArg (eval 1) hq
  simp only [eval_add, eval_mul, eval_pow, eval_X, one_pow, mul_one, eval_one_generator odd,
    zero_mul, zero_add, eval_one_polynomial, eval_one_bitsPolynomial] at hone
  rw [← ZMod.natCast_eq_natCast_iff, Nat.cast_add, hone]

end ShiftRegister

namespace Model

variable (m : Model)

/-! ## Words -/

theorem ones_pack (r : BitVec m.width) : Word.ones (m.pack r) = r.cpop.toNat := by
  have horient : (orient m.refIn r).cpop = r.cpop := by
    cases m.refIn with
    | false => rfl
    | true => exact BitVec.cpop_reverse r
  rw [Word.ones, pack, Word.ofLow, BitVec.toNat_cpop_setWidth_eq_of_le m.width_le, horient]

theorem ones_poly : Word.ones m.poly = m.taps.cpop.toNat := by
  have hpoly : m.poly = Word.ofLow m.taps := by
    rw [taps, Word.ofLow_low m.width_pos m.width_le, m.poly_fits]
  rw [hpoly, Word.ones, Word.ofLow, BitVec.toNat_cpop_setWidth_eq_of_le m.width_le]

end Model

/-- If the polynomial has an odd number of ones, `X + 1` divides the generator. Then, under any
method, feeding a message keeps the parity of the ones in the register and in the message together,
and two messages of the same length that differ in an odd number of bits have different
checksums. -/
theorem Calculator.ones_feed_modEq (c : Calculator) (odd : Odd (Word.ones c.model.poly)) :
    X + 1 ∣ c.model.generator ∧
      (∀ raw ≤ c.model.mask, ∀ data,
        Word.ones (c.feed raw data) ≡ Word.ones raw + Message.ones data [MOD 2]) ∧
      ∀ a b, a.length = b.length → Odd (Message.distance a b) → c.checksum a ≠ c.checksum b := by
  have hw := c.model.width_pos
  rw [c.model.ones_poly] at odd
  refine ⟨?_, fun raw hle data => ?_, fun a b hlen hdistance heq => ?_⟩
  · rw [c.model.generator_eq]
    exact X_add_one_dvd_generator odd
  · have hpack : c.model.pack (c.model.view raw) = raw := by
      rw [Model.pack_view]
      exact Word.and_mask_eq_of_le hw c.model.width_le hle
    have hones : Word.ones raw = (c.model.view raw).cpop.toNat := by
      rw [← Model.ones_pack, hpack]
    rw [feed_eq, Model.ones_pack, hones, ← count_messageBits c.model.refIn]
    exact cpop_run odd hw _ _
  · rw [checksum_eq, checksum_eq] at heq
    -- What the messages differ in, fed to zero, leaves what the registers differ in: nothing.
    have hxor := run_messageBits_xor c.model.taps (Word.low c.model.width c.model.init)
      (Word.low c.model.width c.model.init) c.model.refIn hlen
    rw [c.model.publish_injective heq, BitVec.xor_self, BitVec.xor_self] at hxor
    have hparity : (0#c.model.width).cpop.toNat ≡
        (0#c.model.width).cpop.toNat + Message.distance a b [MOD 2] := by
      rw [Message.distance, ← count_messageBits c.model.refIn]
      nth_rewrite 1 [← hxor]
      exact cpop_run odd hw _ _
    have heven : 2 ∣ Message.distance a b := Nat.left_modEq_add_iff.mp hparity
    exact Nat.not_even_iff_odd.mpr hdistance (even_iff_two_dvd.mpr heven)

/-- A register of six bits, narrower than a byte, and messages that differ in three bits. -/
theorem Calculator.ones_feed_modEq_crc6Cdma2000B :
    let a := Catalogue.published "CRC-6/CDMA2000-B" 6 0x07 0x3F false false 0x00 0x3B
    let c := Calculator.ofAlgorithm a .byteTable
    Odd (Word.ones c.model.poly) ∧ 0x2A ≤ c.model.mask ∧
      [(0x31 : UInt8), 0x32].length = [(0x30 : UInt8), 0x31].length ∧
      Odd (Message.distance [0x31, 0x32] [0x30, 0x31]) ∧
      Word.ones (c.feed 0x2A [0x31, 0x07]) ≡ 3 + 6 [MOD 2] ∧
      c.checksum [0x31, 0x32] ≠ c.checksum [0x30, 0x31] := by
  intro a c
  have hodd : Odd (Word.ones c.model.poly) := by decide
  have hle : 0x2A ≤ c.model.mask := by decide
  have hdistance : Odd (Message.distance [0x31, 0x32] [0x30, 0x31]) := by decide
  obtain ⟨-, hfeed, hchecksum⟩ := c.ones_feed_modEq hodd
  exact ⟨hodd, hle, rfl, hdistance, hfeed 0x2A hle [0x31, 0x07],
    hchecksum [0x31, 0x32] [0x30, 0x31] rfl hdistance⟩

end CyclicRedundancy
