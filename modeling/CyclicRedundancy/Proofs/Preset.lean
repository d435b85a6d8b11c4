import CyclicRedundancy.Preset
import CyclicRedundancy.Proofs.Calculator
import CyclicRedundancy.Proofs.Running

/-!
# Presets

The states of a preset hold a register and nothing else, and are fed by the table of bytes whatever
the method of the settings. They go through the registers of a calculation under the same algorithm,
and their results, which have no bit more than the register, are its checksums: narrowing a checksum
loses nothing, and narrowing a word to resume from loses only what a calculation drops as well.
-/

namespace CyclicRedundancy.Preset

variable {p : Preset}

/-! ## Results -/

/-- A result has room for the register and for nothing else. -/
theorem width_algorithm (p : Preset) : p.algorithm.model.width = 8 * p.outputSize := by
  cases p <;> rfl

theorem widen_narrow (p : Preset) (v : UInt64) :
    p.widen (p.narrow v) = v &&& p.algorithm.model.mask := by
  have hpos := p.algorithm.model.width_pos
  have hle := p.algorithm.model.width_le
  rw [width_algorithm] at hpos hle
  rw [Model.mask, width_algorithm]
  exact Word.ofLow_low hpos hle v

theorem narrow_widen (p : Preset) (result : p.Output) : p.narrow (p.widen result) = result := by
  have hle := p.algorithm.model.width_le
  rw [width_algorithm] at hle
  exact Word.low_ofLow hle result

namespace State

/-! ## Feeding a state -/

theorem feed_feed (s : State p) (data more : List UInt8) :
    (s.feed data).feed more = s.feed (data ++ more) := by
  rw [feed, feed, feed, Calculator.feed_append]

/-- Buffers are fed as the bytes in them are, if the register has no bit above the width: without a
buffer nothing would drop such a bit. -/
theorem feedAll_eq {s : State p} (hs : s.register &&& p.algorithm.model.mask = s.register)
    (buffers : List (List UInt8)) : Running.feedAll s buffers = s.feed buffers.flatten := by
  induction buffers generalizing s with
  | nil =>
    have hregister : p.calculator.feed s.register [] = s.register :=
      (p.calculator.feed_nil s.register).trans hs
    rw [List.flatten_nil, feed, hregister]
    rfl
  | cons data buffers ih =>
    have hnext := ih (s := s.feed data) (p.calculator.and_mask_feed s.register data)
    rw [List.flatten_cons, ← feed_feed]
    exact hnext

/-! ## States and calculations -/

/-- A state holds the register of a calculation under the same algorithm. -/
def Mirrors (s : State p) (c : Calculation) : Prop :=
  c.calculator.model = p.algorithm.model ∧ s.register = c.register

theorem mirrors_new (method : Method) :
    Mirrors (new : State p) (Calculator.ofAlgorithm p.algorithm method).calculation :=
  ⟨rfl, p.algorithm.model.start_and_mask.symm⟩

/-- What is done to a state and to the calculation that it mirrors leads to such again. -/
theorem simulation_mirrors : Running.Simulation (Mirrors (p := p)) where
  feed {s c} h data := by
    obtain ⟨hmodel, hregister⟩ := h
    refine ⟨hmodel, ?_⟩
    show p.calculator.feed s.register data = c.calculator.feed c.register data
    rw [Calculator.feed_congr (d := p.calculator) hmodel, hregister]
  reset h := ⟨h.1, congrArg Model.start h.1.symm⟩
  fresh {s c} h := by
    refine ⟨h.1, ?_⟩
    show p.algorithm.model.start = c.calculator.model.start &&& c.calculator.model.mask
    rw [h.1, Model.start_and_mask]
  resume {s c} h checksum := by
    refine ⟨h.1, ?_⟩
    show p.algorithm.model.registerOf (p.widen (p.narrow checksum)) =
      c.calculator.model.registerOf checksum &&& c.calculator.model.mask
    rw [h.1, widen_narrow, Model.registerOf_and_mask, Model.and_mask_registerOf]

/-- The result of a state is the checksum of the calculation: no bit of it is lost. -/
theorem Mirrors.value_eq {s : State p} {c : Calculation} (h : Mirrors s c) :
    Running.value s = Running.value c := by
  show p.widen (p.narrow (p.algorithm.model.checksumOf s.register)) =
    c.calculator.model.checksumOf c.register
  rw [widen_narrow, Model.checksumOf_and_mask, h.1, h.2]

end State

/-- In every course of feeding, starting again and resuming from any result, the states of a preset
have the registers and the checksums of calculations under the same algorithm and any method. A word
holds every result, so that there is no result from which only one of the two could resume. And the
bytes of some buffers have the checksum of the bytes in a row. -/
theorem run_eq_run_calculation (p : Preset) (method : Method) :
    (∀ steps : List Running.Step,
        (Running.run (State.new : State p) steps).register =
            (Running.run (Calculator.ofAlgorithm p.algorithm method).calculation steps).register ∧
          Running.value (Running.run (State.new : State p) steps) =
            Running.value
              (Running.run (Calculator.ofAlgorithm p.algorithm method).calculation steps)) ∧
      (∀ result : p.Output, p.narrow (p.widen result) = result) ∧
      ∀ buffers, p.checksumAll buffers = p.checksum buffers.flatten := by
  refine ⟨fun steps => ?_, p.narrow_widen, fun buffers => ?_⟩
  · have hend := State.simulation_mirrors.run (State.mirrors_new (p := p) method) steps
    exact ⟨hend.2, hend.value_eq⟩
  · have hnew : (State.new : State p).register &&& p.algorithm.model.mask =
        (State.new : State p).register := p.algorithm.model.start_and_mask
    rw [checksumAll, State.feedAll_eq hnew]
    rfl

example :
    (crc16IbmSdlc.checksumAll [[0x31, 0x32, 0x33], [], [0x34, 0x35, 0x36, 0x37, 0x38, 0x39]]).toNat =
      0x906E := by
  decide +kernel

end CyclicRedundancy.Preset
