import CyclicRedundancy.Proofs.View
import CyclicRedundancy.Register.Table

/-!
# What bytes contribute

What a byte contributes is the shift register that it leaves when it is fed to zero, in both of the
forms in which it is computed. The forward form lets bits pile up above the width, which the register
does not see. The reflected form starts with the byte itself in the word: at every shift the word
holds the mirrored register with the bits that are still to come added at its low end.
-/

namespace CyclicRedundancy

open ShiftRegister

namespace Register

/-! ## The forward form -/

/-- One bit that enters a word at its upper end enters the register that the word holds. -/
theorem low_feedForward {n : Nat} (h0 : 0 < n) (h1 : n ≤ 64) (poly v : UInt64) (bit : Bool) :
    Word.low n (feedForward n poly v bit) = shift (Word.low n poly) (Word.low n v) bit := by
  generalize hv : (if bit then v ^^^ Word.topBit n else v) = u
  have hu : ∀ i, u.toBitVec.getLsbD i = (v.toBitVec.getLsbD i ^^ (bit && decide (i = n - 1))) := by
    intro i
    have htop := Word.getLsbD_topBit n i
    rw [Word.clamp_eq_self h0 h1] at htop
    subst hv
    cases bit
    · simp
    · simp [htop]
  have hmsb : (Word.low n v).msb = v.toBitVec.getLsbD (n - 1) := by
    rw [BitVec.msb_eq_getLsbD_last, Word.getLsbD_low, decide_eq_true (by omega), Bool.true_and]
  have hout : u &&& Word.topBit n ≠ 0 ↔ (Word.low n v).msb ≠ bit := by
    rw [Word.and_topBit_ne_zero, Word.clamp_eq_self h0 h1, hu, hmsb]
    cases v.toBitVec.getLsbD (n - 1) <;> cases bit <;> simp
  -- The bit added at the upper end is the one that the shift drops.
  have hshift : Word.low n (u <<< 1) = Word.low n v <<< 1 := by
    have e : (u <<< 1).toBitVec = u.toBitVec <<< 1 := rfl
    apply BitVec.eq_of_getLsbD_eq
    intro i hi
    rw [Word.getLsbD_low, e, BitVec.getLsbD_shiftLeft, BitVec.getLsbD_shiftLeft, Word.getLsbD_low]
    cases i with
    | zero => simp
    | succ i =>
      have hdrop : u.toBitVec.getLsbD i = v.toBitVec.getLsbD i := by
        rw [hu, decide_eq_false (by omega), Bool.and_false, Bool.xor_false]
      simp [hi, hdrop, show i < n by omega, show i + 1 < 64 by omega]
  unfold feedForward shift
  simp only [hv]
  by_cases h : (Word.low n v).msb ≠ bit
  · rw [if_pos h, if_pos (hout.mpr h), Word.low_xor, hshift]
  · rw [if_neg h, if_neg (fun hn => h (hout.mp hn)), hshift]

theorem low_foldl_feedForward {n : Nat} (h0 : 0 < n) (h1 : n ≤ 64) (poly v : UInt64)
    (bits : List Bool) :
    Word.low n (bits.foldl (feedForward n poly) v) = run (Word.low n poly) (Word.low n v) bits := by
  induction bits generalizing v with
  | nil => rfl
  | cons bit bits ih => rw [List.foldl_cons, ih, low_feedForward h0 h1, run_cons]

theorem bitsFromTop_eq (byte : UInt8) : bitsFromTop byte = inOrder false byte.toBitVec := rfl

theorem forwardByte_eq {n : Nat} (h0 : 0 < n) (h1 : n ≤ 64) (poly : UInt64) (byte : UInt8) :
    forwardByte n poly byte =
      Word.ofLow (run (Word.low n poly) 0#n (inOrder false byte.toBitVec)) := by
  have hz : Word.low n 0 = 0#n := by
    simp [Word.low]
  rw [forwardByte, ← Word.ofLow_low h0 h1, low_foldl_feedForward h0 h1, bitsFromTop_eq, hz]

/-! ## The reflected form -/

variable {w : Nat}

/-- A word holds a mirrored register and, added at its low end, some bits that are still to come. -/
def Pending (v : UInt64) (r : BitVec w) (bits : List Bool) : Prop :=
  ∀ i, v.toBitVec.getLsbD i = (r.getMsbD i ^^ bits.getD i false)

theorem getLsbD_shiftReflected (poly v : UInt64) (i : Nat) :
    (shiftReflected poly v).toBitVec.getLsbD i =
      (v.toBitVec.getLsbD (i + 1) ^^ (v.toBitVec.getLsbD 0 && poly.toBitVec.getLsbD i)) := by
  have e : (v >>> 1).toBitVec = v.toBitVec >>> 1 := rfl
  unfold shiftReflected
  split
  next h =>
    rw [(Word.and_one_ne_zero v).mp h, UInt64.toBitVec_xor, BitVec.getLsbD_xor, e,
      BitVec.getLsbD_ushiftRight, Nat.add_comm, Bool.true_and]
  next h =>
    rw [Bool.eq_false_iff.mpr (fun hb => h ((Word.and_one_ne_zero v).mpr hb)), e,
      BitVec.getLsbD_ushiftRight, Nat.add_comm, Bool.false_and, Bool.xor_false]

/-- One shift feeds the first of the bits that are still to come. -/
theorem Pending.shiftReflected {taps r : BitVec w} {v poly : UInt64} {bit : Bool}
    {bits : List Bool} (hpoly : ∀ i, poly.toBitVec.getLsbD i = taps.getMsbD i)
    (h : Pending v r (bit :: bits)) :
    Pending (shiftReflected poly v) (shift taps r bit) bits := by
  intro i
  rw [getLsbD_shiftReflected, getMsbD_shift, h, h, hpoly, List.getD_cons_succ, List.getD_cons_zero]
  exact Bool.xor_right_comm _ _ _

theorem Pending.shiftsReflected {taps r : BitVec w} {v poly : UInt64} {bits : List Bool}
    (hpoly : ∀ i, poly.toBitVec.getLsbD i = taps.getMsbD i) (h : Pending v r bits) :
    Pending (shiftsReflected poly bits.length v) (run taps r bits) [] := by
  induction bits generalizing v r with
  | nil => exact h
  | cons bit bits ih => exact ih (h.shiftReflected hpoly)

theorem reflectedByte_eq (h : w ≤ 64) (taps : BitVec w) (byte : UInt8) :
    reflectedByte (Word.ofLow taps.reverse) byte =
      Word.ofLow (run taps 0#w (inOrder true byte.toBitVec)).reverse := by
  have hpoly : ∀ i, (Word.ofLow taps.reverse).toBitVec.getLsbD i = taps.getMsbD i := by
    intro i
    rw [Word.getLsbD_ofLow h, BitVec.getLsbD_reverse]
  have hbyte : Pending byte.toUInt64 0#w (inOrder true byte.toBitVec) := by
    intro i
    rw [getD_inOrder, if_pos rfl, UInt8.toBitVec_toUInt64, BitVec.getLsbD_setWidth]
    by_cases hi : i < 8
    · simp [show i < 64 by omega]
    · simp [BitVec.getLsbD_of_ge byte.toBitVec i (by omega)]
  have hend := hbyte.shiftsReflected hpoly
  rw [length_inOrder] at hend
  apply Word.ext_getLsbD
  intro i
  rw [Word.getLsbD_ofLow h, BitVec.getLsbD_reverse, reflectedByte, hend i]
  exact Bool.xor_false _

end Register

namespace Model

/-- What a byte contributes to the register of a model, in either form. -/
theorem contribution_eq (m : Model) (byte : UInt8) :
    m.contribution m.reflectedPoly byte =
      m.pack (run m.taps 0#m.width (inOrder m.refIn byte.toBitVec)) := by
  unfold contribution pack
  cases m.refIn
  · exact Register.forwardByte_eq m.width_pos m.width_le m.poly byte
  · rw [if_pos rfl, reflectedPoly_eq]
    exact Register.reflectedByte_eq m.width_le m.taps byte

end Model

end CyclicRedundancy
