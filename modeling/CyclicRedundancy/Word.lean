/-!
# Registers in 64-bit words

A register of up to sixty-four bits lives in the low bits of a `UInt64`. This module derives the
constants of a width (its highest bit and its mask) and reverses bit patterns over a width.

Widths are plain numbers here, and every function is total: a width outside `1..64` stands for the
nearest one inside, except that reflecting over no bits at all gives zero.
-/

namespace CyclicRedundancy.Word

/-- The width that is meant by `n`: at least one bit and at most sixty-four. -/
def clamp (n : Nat) : Nat := max 1 (min n 64)

/-- The highest bit of a register `n` bits wide. -/
def topBit (n : Nat) : UInt64 := 1 <<< UInt64.ofNat (clamp n - 1)

/-- All the bits of a register `n` bits wide. The highest bit is counted in after the shift, so that
a full word does not overflow. -/
def mask (n : Nat) : UInt64 := ((topBit n - 1) <<< 1) ||| 1

/-- All sixty-four bits of a word in the opposite order. -/
def reverse (v : UInt64) : UInt64 := ⟨v.toBitVec.reverse⟩

/-- The low `n` bits of a word in the opposite order: bit `i` moves to `n - 1 - i`, and bits from
`n` on are ignored. -/
def reflect (v : UInt64) (n : Nat) : UInt64 :=
  if n = 0 then 0 else reverse v >>> UInt64.ofNat (64 - min n 64)

/-- Masking twice is masking once. -/
theorem and_mask_idem (v : UInt64) (n : Nat) : v &&& mask n &&& mask n = v &&& mask n := by
  rw [UInt64.and_assoc, UInt64.and_self]

end CyclicRedundancy.Word
