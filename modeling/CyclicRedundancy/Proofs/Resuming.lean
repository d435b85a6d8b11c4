import Mathlib.Logic.ExistsUnique
import CyclicRedundancy.Proofs.Textbook

/-!
# Registers and checksums

Every register within the width has a checksum of its own, and every checksum within the width
belongs to a register, whichever way results are mirrored and whatever is added at the end. So
nothing is lost between a register and its checksum, and a calculation that resumes from a checksum
goes on from the very register that the checksum was taken of.
-/

namespace CyclicRedundancy

theorem Model.existsUnique_register (m : Model) {checksum : UInt64}
    (h : checksum.toNat < 2 ^ m.width) :
    ∃! register, register ≤ m.mask ∧ m.checksumOf register = checksum := by
  have hle : checksum ≤ Word.mask m.width := (Word.le_mask_iff m.width_pos m.width_le).mpr h
  refine ⟨m.registerOf checksum, ⟨m.registerOf_le_mask checksum, ?_⟩, ?_⟩
  · rw [checksumOf_registerOf]
    exact Word.and_mask_eq_of_le m.width_pos m.width_le hle
  · rintro register ⟨hregister, rfl⟩
    rw [registerOf_checksumOf]
    exact (Word.and_mask_eq_of_le m.width_pos m.width_le hregister).symm

namespace Calculator

variable (e : Calculator)

theorem register_resume (checksum : UInt64) :
    (e.resume checksum).register = e.model.registerOf checksum :=
  e.model.and_mask_registerOf checksum

theorem value_resume (checksum : UInt64) :
    Running.value (e.resume checksum) = checksum &&& e.model.mask := by
  have hvalue : Running.value (e.resume checksum) =
      e.model.checksumOf (e.resume checksum).register := rfl
  rw [hvalue, register_resume, Model.checksumOf_registerOf]

theorem resume_checksumOf (register : UInt64) :
    e.resume (e.checksumOf register) = .ofRegister e register := by
  have hregister : (e.resume (e.checksumOf register)).register = register &&& e.model.mask := by
    rw [register_resume, checksumOf, Model.registerOf_checksumOf]
  exact congrArg (Calculation.mk e) hregister

end Calculator

/-- In any model the way from a register to its checksum and the way back undo each other within the
width, on words with any bits above it, and every word of the width is the checksum of exactly one
register. A calculation that resumes from a word has this word as its checksum, and one that resumes
from the checksum of a register is the calculation with that register. -/
theorem Calculator.registerOf_inverse_checksumOf (e : Calculator) :
    (∀ register, e.model.registerOf (e.model.checksumOf register) = register &&& e.model.mask) ∧
      (∀ checksum, e.model.checksumOf (e.model.registerOf checksum) = checksum &&& e.model.mask) ∧
      (∀ checksum : UInt64, checksum.toNat < 2 ^ e.model.width →
        ∃! register, register ≤ e.model.mask ∧ e.model.checksumOf register = checksum) ∧
      (∀ checksum, Running.value (e.resume checksum) = checksum &&& e.model.mask) ∧
      ∀ register, e.resume (e.checksumOf register) = .ofRegister e register :=
  ⟨e.model.registerOf_checksumOf, e.model.checksumOf_registerOf,
    fun _ h => e.model.existsUnique_register h, e.value_resume, e.resume_checksumOf⟩

/-- Only one of the two flags is set, and the final value is not its own mirror image. -/
theorem Calculator.registerOf_inverse_checksumOf_of_flags_ne :
    let m := Model.cut
      { width := 12, poly := 0x80F, init := 0, refIn := false, refOut := true, xorOut := 0x123 } 0
      (by decide) (by decide)
    let e := ofModel m .nibbleTable
    (0xABC : UInt64).toNat < 2 ^ e.model.width ∧
      (∃! register, register ≤ 0xFFF ∧ e.model.checksumOf register = 0xABC) ∧
      e.model.registerOf (e.model.checksumOf 0xF0123) = 0x123 := by
  intro m e
  have hmask : e.model.mask = 0xFFF := by decide
  have hlt : (0xABC : UInt64).toNat < 2 ^ e.model.width := by decide
  obtain ⟨hregister, -, hunique, -, -⟩ := e.registerOf_inverse_checksumOf
  rw [hmask] at hregister hunique
  exact ⟨hlt, hunique 0xABC hlt, hregister 0xF0123⟩

end CyclicRedundancy
