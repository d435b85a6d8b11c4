import Mathlib.Data.Set.Function
import CyclicRedundancy.Proofs.Word

/-!
# Reflection

What reflecting does to each bit of a word, over any width and whatever stands above the width, and
what follows from it: within the width reflecting is additive and its own inverse, so that it
permutes the words that have no bit above the width.
-/

namespace CyclicRedundancy.Word

variable {n : Nat}

/-! ## Any width

A width above sixty-four stands for sixty-four, so what holds of the widths of registers holds of
all widths, with the width that is meant in place of the one that is given. -/

theorem clamp_eq_min (h : 0 < n) : clamp n = min n 64 := by
  unfold clamp
  omega

theorem mask_clamp (n : Nat) : mask (clamp n) = mask n := by
  have hclamp : clamp (clamp n) = clamp n := clamp_eq_self (clamp_pos n) (clamp_le n)
  rw [mask, topBit, hclamp]
  rfl

theorem toNat_mask_of_pos (h : 0 < n) : (mask n).toNat = 2 ^ min n 64 - 1 := by
  rw [← mask_clamp, toNat_mask (clamp_pos n) (clamp_le n), clamp_eq_min h]

theorem and_mask_eq_ofLow (v : UInt64) (n : Nat) : v &&& mask n = ofLow (low (clamp n) v) := by
  rw [ofLow_low (clamp_pos n) (clamp_le n), mask_clamp]

theorem reflect_eq_ofLow_clamp (h : 0 < n) (v : UInt64) :
    reflect v n = ofLow (low (clamp n) v).reverse := by
  have hpos := clamp_pos n
  have hclamp : reflect v n = reflect v (clamp n) := by
    rw [reflect, reflect, if_neg (by omega), if_neg (by omega), Nat.min_eq_left (clamp_le n),
      clamp_eq_min h]
  rw [hclamp, reflect_eq_ofLow hpos (clamp_le n)]

/-! ## Bits -/

/-- A word reflected over a width has the bits of the width in the opposite order, and no others. -/
theorem getLsbD_reflect (v : UInt64) (n i : Nat) :
    (reflect v n).toBitVec.getLsbD i =
      if i < min n 64 then v.toBitVec.getLsbD (min n 64 - 1 - i) else false := by
  rcases Nat.eq_zero_or_pos n with h | h
  · subst h
    have hzero : reflect v 0 = 0 := rfl
    rw [hzero, if_neg (by omega)]
    exact BitVec.getLsbD_zero
  · rw [reflect_eq_ofLow_clamp h, getLsbD_ofLow (clamp_le n), BitVec.getLsbD_reverse,
      BitVec.getMsbD_eq_getLsbD, getLsbD_low, ← clamp_eq_min h]
    by_cases hi : i < clamp n
    · have hrev : clamp n - 1 - i < clamp n := by omega
      rw [if_pos hi, decide_eq_true hi, decide_eq_true hrev, Bool.true_and, Bool.true_and]
    · rw [if_neg hi, decide_eq_false hi, Bool.false_and]

/-! ## Laws -/

theorem reflect_reflect (h : 0 < n) (v : UInt64) : reflect (reflect v n) n = v &&& mask n := by
  rw [reflect_eq_ofLow_clamp h, reflect_eq_ofLow_clamp h, low_ofLow (clamp_le n),
    BitVec.reverse_reverse_eq, ← and_mask_eq_ofLow]

theorem reflect_xor (v u : UInt64) (n : Nat) :
    reflect (v ^^^ u) n = reflect v n ^^^ reflect u n := by
  apply ext_getLsbD
  intro i
  rw [UInt64.toBitVec_xor, BitVec.getLsbD_xor, getLsbD_reflect, getLsbD_reflect, getLsbD_reflect,
    UInt64.toBitVec_xor, BitVec.getLsbD_xor]
  split
  · rfl
  · rfl

/-- What stands above the width does not matter. -/
theorem reflect_and_mask (h : 0 < n) (v : UInt64) : reflect (v &&& mask n) n = reflect v n := by
  rw [reflect_eq_ofLow_clamp h, and_mask_eq_ofLow, low_ofLow (clamp_le n),
    ← reflect_eq_ofLow_clamp h]

theorem reflect_le_mask (h : 0 < n) (v : UInt64) : reflect v n ≤ mask n := by
  have hfits : reflect v n &&& mask n = reflect v n := by
    rw [and_mask_eq_ofLow, reflect_eq_ofLow_clamp h, low_ofLow (clamp_le n)]
  rw [← hfits]
  exact and_mask_le _ _

theorem reflect_reflect_of_le (h : 0 < n) {v : UInt64} (hv : v ≤ mask n) :
    reflect (reflect v n) n = v := by
  rw [reflect_reflect h]
  rw [← mask_clamp] at hv ⊢
  exact and_mask_eq_of_le (clamp_pos n) (clamp_le n) hv

theorem bijOn_reflect (h : 0 < n) :
    Set.BijOn (fun v => reflect v n) {v | v ≤ mask n} {v | v ≤ mask n} := by
  have hinverse : Set.InvOn (fun v => reflect v n) (fun v => reflect v n) {v | v ≤ mask n}
      {v | v ≤ mask n} :=
    ⟨fun _ hv => reflect_reflect_of_le h hv, fun _ hv => reflect_reflect_of_le h hv⟩
  have hwithin : Set.MapsTo (fun v => reflect v n) {v | v ≤ mask n} {v | v ≤ mask n} :=
    fun v _ => reflect_le_mask h v
  exact hinverse.bijOn hwithin hwithin

/-- Reflecting a word over `n` bits moves bit `i` to the place of bit `w - 1 - i`, where `w` is the
width that is meant, and leaves no bit above. So over any positive width it undoes itself up to the
bits above the width, which it does not see; it is additive; and it permutes the words within the
mask, which has the `w` lowest bits. -/
theorem reflect_reverses_bits :
    (∀ (v : UInt64) (n i : Nat), (reflect v n).toBitVec.getLsbD i =
        if i < min n 64 then v.toBitVec.getLsbD (min n 64 - 1 - i) else false) ∧
      ∀ n, 0 < n →
        (mask n).toNat = 2 ^ min n 64 - 1 ∧
          (∀ v, reflect (reflect v n) n = v &&& mask n) ∧
          (∀ v u, reflect (v ^^^ u) n = reflect v n ^^^ reflect u n) ∧
          (∀ v, reflect v n = reflect (v &&& mask n) n) ∧
          Set.BijOn (fun v => reflect v n) {v | v ≤ mask n} {v | v ≤ mask n} := by
  refine ⟨getLsbD_reflect, fun n h => ⟨toNat_mask_of_pos h, reflect_reflect h, fun v u => ?_,
    fun v => ?_, bijOn_reflect h⟩⟩
  · exact reflect_xor v u n
  · exact (reflect_and_mask h v).symm

/-- Twelve bits in words that have bits above them, and a width for which sixty-four is meant. -/
theorem reflect_reverses_bits_twelve :
    0 < 12 ∧ 0 < 200 ∧ reflect 0xF123 12 = 0xC48 ∧ (reflect 0xF123 12).toBitVec.getLsbD 3 = true ∧
      reflect (reflect 0xF123 12) 12 = 0x123 ∧
      reflect (0xF123 ^^^ 0x456) 12 = reflect 0xF123 12 ^^^ reflect 0x456 12 ∧
      Set.BijOn (fun v => reflect v 12) {v | v ≤ 0xFFF} {v | v ≤ 0xFFF} ∧
      reflect (reflect 0xF123 200) 200 = 0xF123 := by
  obtain ⟨hbits, hlaws⟩ := reflect_reverses_bits
  have hbit := hbits 0xF123 12 3
  obtain ⟨-, htwice, hxor, -, hbij⟩ := hlaws 12 (by decide)
  obtain ⟨-, htwice', -⟩ := hlaws 200 (by decide)
  have hmask : mask 12 = 0xFFF := by decide
  rw [hmask] at htwice hbij
  exact ⟨by decide, by decide, by decide +kernel, hbit, htwice 0xF123, hxor 0xF123 0x456, hbij,
    htwice' 0xF123⟩

end CyclicRedundancy.Word
