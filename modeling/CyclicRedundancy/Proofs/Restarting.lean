import CyclicRedundancy.Proofs.Preset
import CyclicRedundancy.Proofs.Resuming

/-!
# Starting again

To start again is to begin a new message. No step exchanges the calculator, so that the state after
a reset is always that of a new calculation, whatever was done before. This is where a state that was
made for a new message comes from. A state that was made to go on from a checksum does not come back
to where it was made, unless the checksum is that of the empty message: what it was resumed from is
nowhere kept.
-/

namespace CyclicRedundancy

namespace Running

variable {γ δ : Type} [Running γ] [Running δ]

/-- Some steps and a reset lead from a state to one that gives every message the same checksum. -/
def RestoredAfter (state : γ) (steps : List Step) : Prop :=
  ∀ message, value (feed (reset (run state steps)) message) = value (feed state message)

theorem Simulation.restoredAfter_iff {R : γ → δ → Prop} (sim : Simulation R)
    (hvalue : ∀ s t, R s t → value s = value t) {s : γ} {t : δ} (h : R s t) (steps : List Step) :
    RestoredAfter s steps ↔ RestoredAfter t steps := by
  have hreset : R (Running.reset (Running.run s steps)) (Running.reset (Running.run t steps)) :=
    sim.reset (sim.run h steps)
  refine forall_congr' fun message => ?_
  rw [hvalue _ _ (sim.feed hreset message), hvalue _ _ (sim.feed h message)]

end Running

namespace Calculation

theorem calculator_feedAll (c : Calculation) (buffers : List (List UInt8)) :
    (Running.feedAll c buffers).calculator = c.calculator := by
  induction buffers generalizing c with
  | nil => rfl
  | cons data buffers ih => exact ih (c.feed data)

theorem calculator_apply (c : Calculation) (step : Running.Step) :
    (Running.apply c step).calculator = c.calculator := by
  cases step with
  | feed data => rfl
  | feedAll buffers => exact c.calculator_feedAll buffers
  | eachByte data => exact c.calculator_feedAll _
  | reset => rfl
  | fresh => rfl
  | resume checksum => rfl

theorem calculator_run (c : Calculation) (steps : List Running.Step) :
    (Running.run c steps).calculator = c.calculator := by
  induction steps generalizing c with
  | nil => rfl
  | cons step steps ih => exact (ih (Running.apply c step)).trans (c.calculator_apply step)

theorem reset_run (c : Calculation) (steps : List Running.Step) :
    Running.reset (Running.run c steps) = c.calculator.calculation := by
  have hstart : c.calculator.calculation = ⟨c.calculator, c.calculator.start⟩ :=
    congrArg (mk c.calculator) c.calculator.model.start_and_mask
  rw [hstart, ← c.calculator_run steps]
  rfl

end Calculation

namespace Calculator

variable (e : Calculator)

/-! ## Where a calculation was resumed -/

theorem calculation_eq_resume : e.calculation = e.resume (e.checksum []) := by
  rw [checksum, checksumOf_feed_nil, resume_checksumOf]
  rfl

/-- Only the checksum of the empty message leads to the start of a message. -/
theorem calculation_eq_resume_iff (checksum : UInt64) :
    e.calculation = e.resume checksum ↔ checksum &&& e.model.mask = e.checksum [] := by
  constructor
  · intro h
    rw [← value_resume, ← h, Calculation.value_calculation]
  · intro h
    rw [calculation_eq_resume, ← h, resume, resume, Model.registerOf_and_mask]

theorem register_calculation_eq_iff (checksum : UInt64) :
    e.calculation.register = (e.resume checksum).register ↔
      checksum &&& e.model.mask = e.checksum [] := by
  rw [← calculation_eq_resume_iff]
  exact ⟨congrArg (Calculation.mk e), congrArg Calculation.register⟩

/-- The empty message alone shows whether a calculation was brought back. -/
theorem restoredAfter_resume_iff (checksum : UInt64) (steps : List Running.Step) :
    Running.RestoredAfter (e.resume checksum) steps ↔
      checksum &&& e.model.mask = e.checksum [] := by
  have hreset : Running.reset (Running.run (e.resume checksum) steps) = e.calculation :=
    (e.resume checksum).reset_run steps
  rw [Running.RestoredAfter, hreset]
  constructor
  · intro h
    have hfits : (e.resume checksum).Fits := Word.and_mask_idem _ _
    have hempty : Running.value (e.calculation.feed []) =
        Running.value ((e.resume checksum).feed []) := h []
    rw [Calculation.value_feed_calculation, hfits.feed_nil, value_resume] at hempty
    exact hempty.symm
  · intro h message
    rw [(e.calculation_eq_resume_iff checksum).mpr h]

end Calculator

namespace Preset

variable {p : Preset}

/-! ## Where a state was resumed -/

theorem widen_and_mask (result : p.Output) :
    p.widen result &&& p.algorithm.model.mask = p.widen result := by
  rw [← widen_narrow, narrow_widen]

/-- The result of the empty message stands for its checksum, and no other result does. -/
theorem widen_eq_checksum_nil_iff (result : p.Output) :
    p.widen result &&& p.algorithm.model.mask = p.calculator.checksum [] ↔
      result = p.checksum [] := by
  have hresult : p.checksum [] = p.narrow (p.calculator.checksum []) := rfl
  rw [widen_and_mask, hresult]
  constructor
  · intro h
    rw [← h, narrow_widen]
  · rintro rfl
    rw [widen_narrow]
    exact Model.checksumOf_and_mask _ _

namespace State

theorem mirrors_resume (result : p.Output) :
    Mirrors (resume result) (p.calculator.resume (p.widen result)) :=
  ⟨rfl, (p.calculator.register_resume (p.widen result)).symm⟩

theorem register_new_eq_iff (result : p.Output) :
    (new : State p).register = (resume result).register ↔ result = p.checksum [] := by
  have hnew : (new : State p).register = p.calculator.calculation.register :=
    (mirrors_new .byteTable).2
  rw [hnew, (mirrors_resume result).2, Calculator.register_calculation_eq_iff]
  exact widen_eq_checksum_nil_iff result

theorem restoredAfter_resume_iff (result : p.Output) (steps : List Running.Step) :
    Running.RestoredAfter (resume result) steps ↔ result = p.checksum [] := by
  have hmirrors := mirrors_resume result
  rw [simulation_mirrors.restoredAfter_iff (fun _ _ => Mirrors.value_eq) hmirrors,
    Calculator.restoredAfter_resume_iff]
  exact widen_eq_checksum_nil_iff result

end State

end Preset

/-- After any steps a reset leads to the state of a new message. So it brings back a calculation that
was made for a new message, and one that was resumed from a checksum if and only if this is, within
the width, the checksum of the empty message: else neither the register nor the checksums of the
messages are those that they were where the calculation was made. The same holds of the states of
every preset and their results. -/
theorem Calculator.reset_run_restores_iff (e : Calculator) (p : Preset)
    (steps : List Running.Step) :
    (Running.reset (Running.run e.calculation steps) = e.calculation ∧
      ∀ checksum,
        Running.reset (Running.run (e.resume checksum) steps) = e.calculation ∧
          (e.calculation.register = (e.resume checksum).register ↔
            checksum &&& e.model.mask = e.checksum []) ∧
          (Running.RestoredAfter (e.resume checksum) steps ↔
            checksum &&& e.model.mask = e.checksum [])) ∧
      Running.reset (Running.run (Preset.State.new : Preset.State p) steps) = Preset.State.new ∧
        ∀ result : p.Output,
          Running.reset (Running.run (Preset.State.resume result) steps) = Preset.State.new ∧
            ((Preset.State.new : Preset.State p).register = (Preset.State.resume result).register ↔
              result = p.checksum []) ∧
            (Running.RestoredAfter (Preset.State.resume result) steps ↔
              result = p.checksum []) := by
  refine ⟨⟨e.calculation.reset_run steps, fun checksum => ?_⟩, rfl, fun result => ?_⟩
  · exact ⟨(e.resume checksum).reset_run steps, e.register_calculation_eq_iff checksum,
      e.restoredAfter_resume_iff checksum steps⟩
  · exact ⟨rfl, Preset.State.register_new_eq_iff result,
      Preset.State.restoredAfter_resume_iff result steps⟩

/-- A calculation and a state of a preset that go on after the standard message are fed one byte and
reset. Neither has the register that it had, and another byte has another checksum than where they
were made. -/
theorem Calculator.value_reset_ne_value_resume :
    let e := Calculator.ofAlgorithm Catalogue.crc16Arc .byteTable
    let c := e.resume 0xBB3D
    let d := Running.reset (c.feed [0x61])
    let s : Preset.State .crc16Arc := .resume 0xBB3D
    let t := Running.reset (s.feed [0x61])
    d.register ≠ c.register ∧ Running.value (d.feed [0x78]) ≠ Running.value (c.feed [0x78]) ∧
      t.register ≠ s.register ∧ (t.feed [0x78]).checksumOf ≠ (s.feed [0x78]).checksumOf := by
  decide +kernel

end CyclicRedundancy
