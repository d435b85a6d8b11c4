import CyclicRedundancy.Proofs.History
import CyclicRedundancy.Proofs.Preset

/-!
# The width of registers

Words have room for more bits than most registers. The bits above the width never matter: those of a
word that comes from outside are not seen, whether the word is fed, taken as a register or resumed
from, and no register or checksum that is reached in a course of calculation has any.
-/

namespace CyclicRedundancy

namespace Model

variable (m : Model)

theorem checksumOf_le_mask (register : UInt64) : m.checksumOf register ≤ m.mask :=
  Word.and_mask_le ..

theorem view_congr {v u : UInt64} (h : v.toNat % 2 ^ m.width = u.toNat % 2 ^ m.width) :
    m.view v = m.view u := by
  rw [view, (Word.low_eq_low_iff m.width v u).mpr h]
  rfl

theorem registerOf_congr {v u : UInt64} (h : v.toNat % 2 ^ m.width = u.toNat % 2 ^ m.width) :
    m.registerOf v = m.registerOf u := by
  rw [registerOf_eq, registerOf_eq, (Word.low_eq_low_iff m.width v u).mpr h]

end Model

namespace Calculation

variable {c : Calculation}

theorem Fits.register_le_mask (h : c.Fits) : c.register ≤ c.calculator.model.mask := by
  have hle := Word.and_mask_le c.register c.calculator.model.width
  have hfits : c.register &&& Word.mask c.calculator.model.width = c.register := h
  rw [hfits] at hle
  exact hle

/-- The register that a history leads to was fed or has just been masked. -/
theorem Has.le_mask {m : Model} {h : History} (hc : Has m c h) :
    c.register ≤ m.mask ∧ Running.value c ≤ m.mask := by
  obtain ⟨rfl, hregister⟩ := hc
  have hfits : c.Fits := by
    rw [Fits, hregister, Calculator.and_mask_feed]
  exact ⟨hfits.register_le_mask, c.calculator.model.checksumOf_le_mask c.register⟩

end Calculation

/-- Steps with the same calculator are a course. -/
theorem Calculator.course_map_step (e : Calculator) (steps : List Running.Step) :
    e.course (steps.map .step) = Running.run e.calculation steps := by
  rw [course, List.foldl_map]
  rfl

/-- In every course of feeding, resetting, resuming from any word and handing over, and in every
course of the states of a preset, the register and the checksum stay within the mask of the width.
Words that agree within the width are fed to the same register, stand for the same checksum, and are
resumed from alike. -/
theorem Calculator.course_le_mask (e : Calculator) :
    (∀ legs : List (Leg e.model),
        (e.course legs).register ≤ e.model.mask ∧ Running.value (e.course legs) ≤ e.model.mask) ∧
      (∀ (p : Preset) (steps : List Running.Step),
        (Running.run (Preset.State.new : Preset.State p) steps).register ≤ p.algorithm.model.mask ∧
          Running.value (Running.run (Preset.State.new : Preset.State p) steps) ≤
            p.algorithm.model.mask) ∧
      ∀ v u : UInt64, v.toNat % 2 ^ e.model.width = u.toNat % 2 ^ e.model.width →
        (∀ data, e.feed v data = e.feed u data) ∧
          e.checksumOf v = e.checksumOf u ∧ e.resume v = e.resume u := by
  refine ⟨fun legs => (e.has_course legs).le_mask, fun p steps => ?_, fun v u h => ?_⟩
  · have hend := Preset.State.simulation_mirrors.run
      (Preset.State.mirrors_new (p := p) p.calculator.method) steps
    have hcourse := p.calculator.has_course (steps.map .step)
    rw [course_map_step] at hcourse
    obtain ⟨hregister, hvalue⟩ := hcourse.le_mask
    rw [hend.2, hend.value_eq]
    exact ⟨hregister, hvalue⟩
  · refine ⟨fun data => ?_, ?_, ?_⟩
    · rw [feed_eq, feed_eq, e.model.view_congr h]
    · rw [checksumOf, checksumOf, Model.checksumOf_eq, Model.checksumOf_eq, e.model.view_congr h]
    · rw [resume, resume, e.model.registerOf_congr h]

/-- A word with bits above the sixteen of the register, and the one without them. -/
theorem Calculator.course_le_mask_crc16Arc :
    let e := Calculator.ofAlgorithm Catalogue.crc16Arc .nibbleTable
    (0xFFFF0001BEEF : UInt64).toNat % 2 ^ e.model.width =
        (0xBEEF : UInt64).toNat % 2 ^ e.model.width ∧
      e.feed 0xFFFF0001BEEF [0x61] = e.feed 0xBEEF [0x61] ∧
      e.checksumOf 0xFFFF0001BEEF = e.checksumOf 0xBEEF ∧
      (e.resume 0xFFFF0001BEEF).register = (e.resume 0xBEEF).register := by
  intro e
  have hagree : (0xFFFF0001BEEF : UInt64).toNat % 2 ^ e.model.width =
      (0xBEEF : UInt64).toNat % 2 ^ e.model.width := by decide +kernel
  obtain ⟨hfeed, hchecksum, hresume⟩ := e.course_le_mask.2.2 _ _ hagree
  exact ⟨hagree, hfeed [0x61], hchecksum, congrArg Calculation.register hresume⟩

end CyclicRedundancy
