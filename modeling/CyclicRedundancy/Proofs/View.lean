import CyclicRedundancy.Model
import CyclicRedundancy.Proofs.ShiftRegister
import CyclicRedundancy.Proofs.Word

/-!
# What a word holds

A model keeps its register in the low end of a word, mirrored if bytes are taken reflected. `view`
reads the shift register that a word holds, whatever stands above the width, and `pack` is the word
that holds a given one. What the model does to words at the beginning and at the end of a message is
described here by what it does to registers.
-/

namespace CyclicRedundancy

open ShiftRegister

namespace Model

variable (m : Model)

/-- The coefficients of the generator polynomial below the highest one. -/
def taps : BitVec m.width := Word.low m.width m.poly

/-- The shift register that a word holds. -/
def view (register : UInt64) : BitVec m.width := orient m.refIn (Word.low m.width register)

/-- The word that holds a shift register. -/
def pack (r : BitVec m.width) : UInt64 := Word.ofLow (orient m.refIn r)

/-- The checksum that a shift register stands for. -/
def publish (r : BitVec m.width) : UInt64 :=
  Word.ofLow (orient m.refOut r ^^^ Word.low m.width m.xorOut)

/-! ## Words and registers -/

theorem view_pack (r : BitVec m.width) : m.view (m.pack r) = r := by
  rw [view, pack, Word.low_ofLow m.width_le, orient_orient]

theorem pack_view (register : UInt64) : m.pack (m.view register) = register &&& m.mask := by
  rw [view, pack, orient_orient, Word.ofLow_low m.width_pos m.width_le]
  rfl

theorem view_and_mask (register : UInt64) : m.view (register &&& m.mask) = m.view register := by
  rw [← pack_view, view_pack]

theorem view_xor (register other : UInt64) :
    m.view (register ^^^ other) = m.view register ^^^ m.view other := by
  rw [view, Word.low_xor, orient_xor]
  rfl

theorem view_zero : m.view 0 = 0#m.width := by
  have h := m.view_xor 0 0
  rwa [UInt64.xor_self, BitVec.xor_self] at h

theorem pack_zero : m.pack 0#m.width = 0 := by
  rw [← view_zero, pack_view]
  exact UInt64.zero_and

theorem pack_xor (r s : BitVec m.width) : m.pack (r ^^^ s) = m.pack r ^^^ m.pack s := by
  rw [pack, orient_xor, Word.ofLow_xor]
  rfl

/-- Packed registers have no bit above the width. -/
theorem pack_and_mask (r : BitVec m.width) : m.pack r &&& m.mask = m.pack r := by
  rw [← pack_view, view_pack]

theorem pack_le_mask (r : BitVec m.width) : m.pack r ≤ m.mask := by
  rw [← pack_and_mask]
  exact Word.and_mask_le _ _

theorem getLsbD_pack (r : BitVec m.width) (i : Nat) :
    (m.pack r).toBitVec.getLsbD i = if m.refIn then r.getMsbD i else r.getLsbD i := by
  rw [pack, Word.getLsbD_ofLow m.width_le, getLsbD_orient]

/-! ## The beginning and the end of a message -/

theorem start_eq : m.start = m.pack (Word.low m.width m.init) := by
  unfold start pack orient
  split
  · rw [Word.reflect_eq_ofLow m.width_pos m.width_le]
  · rw [Word.ofLow_low m.width_pos m.width_le, m.init_fits]

theorem start_and_mask : m.start &&& m.mask = m.start := by
  rw [start_eq, pack_and_mask]

theorem reflectedPoly_eq : m.reflectedPoly = Word.ofLow m.taps.reverse :=
  Word.reflect_eq_ofLow m.width_pos m.width_le m.poly

/-- A checksum is the register, mirrored if results are, with the final value added. -/
theorem checksumOf_eq (register : UInt64) :
    m.checksumOf register = m.publish (m.view register) := by
  -- With `refIn` the word holds the mirrored register, so it is mirrored only if the flags differ.
  have hout : (if m.refIn ≠ m.refOut then Word.reflect (register &&& m.mask) m.width
      else register &&& m.mask) = Word.ofLow (orient m.refOut (m.view register)) := by
    rw [Word.reflect_eq_ofLow m.width_pos m.width_le, mask,
      Word.low_and_mask m.width_pos m.width_le, ← Word.ofLow_low m.width_pos m.width_le, view]
    cases m.refIn <;> cases m.refOut
    · rfl
    · rfl
    · simp [orient]
    · simp [orient]
  unfold checksumOf publish
  simp only [hout]
  rw [mask, ← Word.ofLow_low m.width_pos m.width_le, Word.low_xor, Word.low_ofLow m.width_le]

/-- The register that a checksum stands for: the final value has to be taken off before the register
is mirrored back. -/
theorem registerOf_eq (checksum : UInt64) : m.registerOf checksum =
    m.pack (orient m.refOut (Word.low m.width checksum ^^^ Word.low m.width m.xorOut)) := by
  have hout : (checksum ^^^ m.xorOut) &&& m.mask =
      Word.ofLow (Word.low m.width checksum ^^^ Word.low m.width m.xorOut) := by
    rw [mask, ← Word.ofLow_low m.width_pos m.width_le, Word.low_xor]
  unfold registerOf pack
  simp only [hout]
  rw [Word.reflect_ofLow m.width_pos m.width_le]
  cases m.refIn <;> cases m.refOut
  · rfl
  · rfl
  · rfl
  · simp [orient]

theorem registerOf_publish (r : BitVec m.width) : m.registerOf (m.publish r) = m.pack r := by
  rw [registerOf_eq, publish, Word.low_ofLow m.width_le, BitVec.xor_assoc, BitVec.xor_self,
    BitVec.xor_zero, orient_orient]

/-- Only the bits within the width of a checksum count. -/
theorem registerOf_and_mask (checksum : UInt64) :
    m.registerOf (checksum &&& m.mask) = m.registerOf checksum := by
  rw [registerOf_eq, registerOf_eq, mask, Word.low_and_mask m.width_pos m.width_le]

theorem checksumOf_and_mask (register : UInt64) :
    m.checksumOf register &&& m.mask = m.checksumOf register :=
  Word.and_mask_idem ..

/-- A checksum leads back to the register that it was taken of. -/
theorem registerOf_checksumOf (register : UInt64) :
    m.registerOf (m.checksumOf register) = register &&& m.mask := by
  rw [checksumOf_eq, registerOf_publish, pack_view]

/-- A register leads back to the checksum that it was recovered from. -/
theorem checksumOf_registerOf (checksum : UInt64) :
    m.checksumOf (m.registerOf checksum) = checksum &&& m.mask := by
  rw [registerOf_eq, checksumOf_eq, view_pack, publish, orient_orient, BitVec.xor_assoc,
    BitVec.xor_self, BitVec.xor_zero, Word.ofLow_low m.width_pos m.width_le]
  rfl

theorem and_mask_registerOf (checksum : UInt64) :
    m.registerOf checksum &&& m.mask = m.registerOf checksum := by
  rw [registerOf_eq, pack_and_mask]

theorem registerOf_le_mask (checksum : UInt64) : m.registerOf checksum ≤ m.mask := by
  rw [← and_mask_registerOf]
  exact Word.and_mask_le _ _

theorem publish_injective {r s : BitVec m.width} (h : m.publish r = m.publish s) : r = s := by
  have hlow : orient m.refOut r = orient m.refOut s := by
    have e := congrArg (Word.low m.width) h
    rw [publish, publish, Word.low_ofLow m.width_le, Word.low_ofLow m.width_le] at e
    exact (BitVec.xor_left_inj _).mp e
  rw [← orient_orient m.refOut r, hlow, orient_orient]

end Model

end CyclicRedundancy
