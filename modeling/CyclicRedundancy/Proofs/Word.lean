import Mathlib.Algebra.Group.Nat.Defs
import CyclicRedundancy.Word

/-!
# Bits of words

The constants of a width and the reflection of a word, bit by bit, and the passage between a word
and the register of `n` bits in its low end. Bits are numbered from the lowest.
-/

namespace CyclicRedundancy.Word

/-! ## Widths and shifts -/

theorem clamp_pos (n : Nat) : 0 < clamp n := by
  unfold clamp
  omega

theorem clamp_le (n : Nat) : clamp n ≤ 64 := by
  unfold clamp
  omega

theorem clamp_eq_self {n : Nat} (h0 : 0 < n) (h1 : n ≤ 64) : clamp n = n := by
  unfold clamp
  omega

theorem ext_getLsbD {v u : UInt64} (h : ∀ i, v.toBitVec.getLsbD i = u.toBitVec.getLsbD i) :
    v = u :=
  UInt64.toBitVec_inj.mp (BitVec.eq_of_getLsbD_eq fun i _ => h i)

/-- A word shifts by the number that is meant, because that number is below 64. -/
theorem toNat_ofNat_mod {k : Nat} (h : k < 64) : (BitVec.ofNat 64 k % 64#64).toNat = k := by
  have e : (64#64).toNat = 64 := rfl
  rw [BitVec.toNat_umod, BitVec.toNat_ofNat, e]
  omega

theorem toBitVec_shiftLeft (v : UInt64) {k : Nat} (h : k < 64) :
    (v <<< UInt64.ofNat k).toBitVec = v.toBitVec <<< k := by
  have e : (v <<< UInt64.ofNat k).toBitVec = v.toBitVec <<< (BitVec.ofNat 64 k % 64#64).toNat := rfl
  rw [e, toNat_ofNat_mod h]

theorem toBitVec_shiftRight (v : UInt64) {k : Nat} (h : k < 64) :
    (v >>> UInt64.ofNat k).toBitVec = v.toBitVec >>> k := by
  have e : (v >>> UInt64.ofNat k).toBitVec = v.toBitVec >>> (BitVec.ofNat 64 k % 64#64).toNat := rfl
  rw [e, toNat_ofNat_mod h]

/-! ## The constants of a width -/

theorem toBitVec_topBit (n : Nat) : (topBit n).toBitVec = BitVec.twoPow 64 (clamp n - 1) := by
  have hle := clamp_le n
  have hpos := clamp_pos n
  rw [topBit, toBitVec_shiftLeft _ (by omega)]
  rfl

theorem getLsbD_topBit (n i : Nat) :
    (topBit n).toBitVec.getLsbD i = decide (i = clamp n - 1) := by
  have hle := clamp_le n
  have hpos := clamp_pos n
  rw [toBitVec_topBit, BitVec.getLsbD_twoPow, decide_eq_true (show clamp n - 1 < 64 by omega),
    Bool.true_and]
  exact decide_eq_decide.mpr eq_comm

/-- The highest bit, less one, has all the bits below it; shifted up and filled in, these are all
the bits of the width, and nothing is lost at a width of 64. -/
theorem toBitVec_mask (n : Nat) : (mask n).toBitVec = (BitVec.allOnes (clamp n)).setWidth 64 := by
  have hle := clamp_le n
  obtain ⟨k, hk⟩ : ∃ k, clamp n = k + 1 := ⟨clamp n - 1, by have := clamp_pos n; omega⟩
  have hlt : 2 ^ k < 2 ^ 64 := Nat.pow_lt_pow_right (by omega) (by omega)
  have hpos : 0 < 2 ^ k := Nat.two_pow_pos k
  have hsub : ((topBit n).toBitVec - 1#64).toNat = 2 ^ k - 1 := by
    rw [toBitVec_topBit, hk, BitVec.toNat_sub, BitVec.toNat_twoPow, Nat.add_sub_cancel,
      Nat.mod_eq_of_lt hlt, show (1#64).toNat = 1 from rfl]
    omega
  have e : (mask n).toBitVec = ((topBit n).toBitVec - 1#64) <<< 1 ||| 1#64 := rfl
  apply BitVec.eq_of_getLsbD_eq
  intro i hi
  rw [e, BitVec.getLsbD_or, BitVec.getLsbD_shiftLeft, BitVec.getLsbD_setWidth,
    BitVec.getLsbD_allOnes, hk, BitVec.getLsbD, hsub, Nat.testBit_two_pow_sub_one]
  cases i with
  | zero => simp
  | succ i => simp [hi]

theorem getLsbD_mask {n : Nat} (h0 : 0 < n) (h1 : n ≤ 64) (i : Nat) :
    (mask n).toBitVec.getLsbD i = decide (i < n) := by
  rw [toBitVec_mask, clamp_eq_self h0 h1, BitVec.getLsbD_setWidth, BitVec.getLsbD_allOnes]
  by_cases hi : i < n
  · simp [hi]
    omega
  · simp [hi]

theorem and_topBit_ne_zero (v : UInt64) (n : Nat) :
    v &&& topBit n ≠ 0 ↔ v.toBitVec.getLsbD (clamp n - 1) = true := by
  have hle := clamp_le n
  have hpos := clamp_pos n
  have h : (v &&& topBit n).toBitVec = v.toBitVec &&& BitVec.twoPow 64 (clamp n - 1) := by
    rw [UInt64.toBitVec_and, toBitVec_topBit]
  rw [Ne, ← UInt64.toBitVec_inj, h, BitVec.and_twoPow]
  by_cases hb : v.toBitVec.getLsbD (clamp n - 1) = true
  · have hone : (BitVec.twoPow 64 (clamp n - 1)).getLsbD (clamp n - 1) = true := by
      rw [BitVec.getLsbD_twoPow]
      simp
      omega
    rw [if_pos hb]
    refine ⟨fun _ => hb, fun _ hz => ?_⟩
    rw [hz] at hone
    simp at hone
  · simp [hb]

theorem and_one_ne_zero (v : UInt64) : v &&& 1 ≠ 0 ↔ v.toBitVec.getLsbD 0 = true :=
  and_topBit_ne_zero v 1

/-! ## The register in the low end of a word -/

/-- The register of `n` bits in the low end of a word. -/
def low (n : Nat) (v : UInt64) : BitVec n := v.toBitVec.setWidth n

/-- The word with a given register in its low end and no bit above it. -/
def ofLow {n : Nat} (b : BitVec n) : UInt64 := ⟨b.setWidth 64⟩

theorem getLsbD_low (n : Nat) (v : UInt64) (i : Nat) :
    (low n v).getLsbD i = (decide (i < n) && v.toBitVec.getLsbD i) := by
  rw [low, BitVec.getLsbD_setWidth]

theorem getLsbD_ofLow {n : Nat} (h : n ≤ 64) (b : BitVec n) (i : Nat) :
    (ofLow b).toBitVec.getLsbD i = b.getLsbD i := by
  rw [ofLow, BitVec.getLsbD_setWidth]
  by_cases hi : i < 64
  · simp [hi]
  · rw [BitVec.getLsbD_of_ge b i (by omega), Bool.and_false]

theorem low_xor (n : Nat) (v u : UInt64) : low n (v ^^^ u) = low n v ^^^ low n u := by
  rw [low, UInt64.toBitVec_xor, BitVec.setWidth_xor]
  rfl

theorem ofLow_xor {n : Nat} (b c : BitVec n) : ofLow (b ^^^ c) = ofLow b ^^^ ofLow c := by
  apply UInt64.toBitVec_inj.mp
  rw [UInt64.toBitVec_xor, ofLow, ofLow, ofLow, BitVec.setWidth_xor]

theorem low_ofLow {n : Nat} (h : n ≤ 64) (b : BitVec n) : low n (ofLow b) = b := by
  apply BitVec.eq_of_getLsbD_eq
  intro i hi
  rw [getLsbD_low, getLsbD_ofLow h]
  simp [hi]

theorem ofLow_low {n : Nat} (h0 : 0 < n) (h1 : n ≤ 64) (v : UInt64) :
    ofLow (low n v) = v &&& mask n := by
  apply ext_getLsbD
  intro i
  rw [getLsbD_ofLow h1, getLsbD_low, UInt64.toBitVec_and, BitVec.getLsbD_and, getLsbD_mask h0 h1,
    Bool.and_comm]

theorem low_and_mask {n : Nat} (h0 : 0 < n) (h1 : n ≤ 64) (v : UInt64) :
    low n (v &&& mask n) = low n v := by
  rw [← ofLow_low h0 h1, low_ofLow h1]

theorem low_eq_low_iff (n : Nat) (v u : UInt64) :
    low n v = low n u ↔ v.toNat % 2 ^ n = u.toNat % 2 ^ n := by
  rw [← BitVec.toNat_inj, low, low, BitVec.toNat_setWidth, BitVec.toNat_setWidth,
    UInt64.toNat_toBitVec, UInt64.toNat_toBitVec]

theorem and_mask_le (v : UInt64) (n : Nat) : v &&& mask n ≤ mask n := by
  rw [UInt64.le_iff_toNat_le, UInt64.toNat_and]
  exact Nat.and_le_right

theorem toNat_mask {n : Nat} (h0 : 0 < n) (h1 : n ≤ 64) : (mask n).toNat = 2 ^ n - 1 := by
  have hlt : 2 ^ n - 1 < 2 ^ 64 := by
    have hpow := Nat.pow_le_pow_right (show 0 < 2 by omega) h1
    omega
  rw [← UInt64.toNat_toBitVec, toBitVec_mask, clamp_eq_self h0 h1, BitVec.toNat_setWidth,
    BitVec.toNat_allOnes, Nat.mod_eq_of_lt hlt]

theorem le_mask_iff {n : Nat} (h0 : 0 < n) (h1 : n ≤ 64) {v : UInt64} :
    v ≤ mask n ↔ v.toNat < 2 ^ n := by
  have hpos := Nat.two_pow_pos n
  rw [UInt64.le_iff_toNat_le, toNat_mask h0 h1]
  omega

/-- Masking a word leaves what is left of it by the power of two of the width. -/
theorem toNat_and_mask {n : Nat} (h0 : 0 < n) (h1 : n ≤ 64) (v : UInt64) :
    (v &&& mask n).toNat = v.toNat % 2 ^ n := by
  rw [UInt64.toNat_and, toNat_mask h0 h1, Nat.and_two_pow_sub_one_eq_mod]

theorem and_mask_eq_and_mask_iff {n : Nat} (h0 : 0 < n) (h1 : n ≤ 64) (v u : UInt64) :
    v &&& mask n = u &&& mask n ↔ v.toNat % 2 ^ n = u.toNat % 2 ^ n := by
  rw [← UInt64.toNat_inj, toNat_and_mask h0 h1, toNat_and_mask h0 h1]

/-- A word within the mask of a width has no bit above the width. -/
theorem and_mask_eq_of_le {n : Nat} (h0 : 0 < n) (h1 : n ≤ 64) {v : UInt64} (h : v ≤ mask n) :
    v &&& mask n = v := by
  apply UInt64.toNat_inj.mp
  rw [toNat_and_mask h0 h1, Nat.mod_eq_of_lt ((le_mask_iff h0 h1).mp h)]

/-- Reflecting a word over a width reverses the register of that width. -/
theorem reflect_eq_ofLow {n : Nat} (h0 : 0 < n) (h1 : n ≤ 64) (v : UInt64) :
    reflect v n = ofLow (low n v).reverse := by
  have e : (reverse v).toBitVec = v.toBitVec.reverse := rfl
  apply ext_getLsbD
  intro i
  rw [getLsbD_ofLow h1, BitVec.getLsbD_reverse, BitVec.getMsbD_eq_getLsbD, getLsbD_low, reflect,
    if_neg (by omega), toBitVec_shiftRight _ (by omega), BitVec.getLsbD_ushiftRight, e,
    BitVec.getLsbD_reverse, BitVec.getMsbD_eq_getLsbD, Nat.min_eq_left h1]
  by_cases hi : i < n
  · rw [decide_eq_true hi, decide_eq_true (show 64 - n + i < 64 by omega),
      decide_eq_true (show n - 1 - i < n by omega), show 64 - 1 - (64 - n + i) = n - 1 - i by omega]
    rfl
  · rw [decide_eq_false hi, decide_eq_false (show ¬ 64 - n + i < 64 by omega)]
    rfl

theorem low_reflect {n : Nat} (h0 : 0 < n) (h1 : n ≤ 64) (v : UInt64) :
    low n (reflect v n) = (low n v).reverse := by
  rw [reflect_eq_ofLow h0 h1, low_ofLow h1]

theorem reflect_ofLow {n : Nat} (h0 : 0 < n) (h1 : n ≤ 64) (b : BitVec n) :
    reflect (ofLow b) n = ofLow b.reverse := by
  rw [reflect_eq_ofLow h0 h1, low_ofLow h1]

end CyclicRedundancy.Word
