import CyclicRedundancy.Calculation
import CyclicRedundancy.Proofs.Feeding
import CyclicRedundancy.Proofs.Running

/-!
# Calculators

Every calculator computes with the shift register of its model, under any method and from any word:
what stands above the width of the register is never seen. So methods can be exchanged, before a
message and in the middle of one.
-/

namespace CyclicRedundancy

open ShiftRegister

theorem Prepared.feed_build (m : Model) (method : Method) (r : BitVec m.width)
    (data : List UInt8) :
    (Prepared.build m method).feed m (m.pack r) data =
      m.pack (run m.taps r (messageBits m.refIn data)) := by
  cases method with
  | byteTable => exact m.feedByBytes_pack r data
  | nibbleTable => exact m.feedByNibbles_pack r data
  | bitSerial => exact m.feedSerially_pack r data

namespace Calculator

theorem feed_eq (c : Calculator) (register : UInt64) (data : List UInt8) :
    c.feed register data =
      c.model.pack (run c.model.taps (c.model.view register) (messageBits c.model.refIn data)) := by
  rw [feed, c.prepared_eq, ← Model.pack_view, Prepared.feed_build]

/-- Only the bits within the width of a register count. -/
theorem feed_and_mask (c : Calculator) (register : UInt64) (data : List UInt8) :
    c.feed (register &&& c.model.mask) data = c.feed register data := by
  rw [feed_eq, feed_eq, Model.view_and_mask]

/-- A register that was fed has no bit above the width. -/
theorem and_mask_feed (c : Calculator) (register : UInt64) (data : List UInt8) :
    c.feed register data &&& c.model.mask = c.feed register data := by
  rw [feed_eq, Model.pack_and_mask]

theorem feed_nil (c : Calculator) (register : UInt64) :
    c.feed register [] = register &&& c.model.mask := by
  rw [feed_eq, ← Model.pack_view]
  rfl

theorem checksumOf_feed_nil (c : Calculator) (register : UInt64) :
    c.checksumOf (c.feed register []) = c.checksumOf register := by
  rw [feed_nil, checksumOf, checksumOf, Model.checksumOf_eq, Model.checksumOf_eq,
    Model.view_and_mask]

/-- How a message is split is never seen. -/
theorem feed_append (c : Calculator) (register : UInt64) (data more : List UInt8) :
    c.feed (c.feed register data) more = c.feed register (data ++ more) := by
  rw [feed_eq, feed_eq, feed_eq, Model.view_pack, messageBits_append, run_append]

theorem checksum_eq (c : Calculator) (data : List UInt8) :
    c.checksum data = c.model.publish
      (run c.model.taps (Word.low c.model.width c.model.init) (messageBits c.model.refIn data)) := by
  rw [checksum, checksumOf, start, feed_eq, Model.checksumOf_eq, Model.start_eq, Model.view_pack,
    Model.view_pack]

theorem checksum_append (c : Calculator) (data more : List UInt8) :
    c.checksum (data ++ more) = c.model.publish (run c.model.taps
      (run c.model.taps (Word.low c.model.width c.model.init) (messageBits c.model.refIn data))
      (messageBits c.model.refIn more)) := by
  rw [checksum_eq, messageBits_append, run_append]

/-- What feeding does depends on the model only. -/
theorem feed_congr {c d : Calculator} (h : c.model = d.model) : c.feed = d.feed := by
  funext register data
  obtain ⟨_, m, _, _, _⟩ := c
  obtain ⟨_, _, _, _, _⟩ := d
  cases h
  rw [feed_eq, feed_eq]

end Calculator

namespace Calculation

/-! ## Feeding a calculation -/

/-- The register of a calculation has no bit above the width. -/
def Fits (c : Calculation) : Prop := c.register &&& c.calculator.model.mask = c.register

theorem fits_feed (c : Calculation) (data : List UInt8) : (c.feed data).Fits :=
  c.calculator.and_mask_feed c.register data

theorem fits_calculation (e : Calculator) : e.calculation.Fits :=
  Word.and_mask_idem e.start e.model.width

theorem Fits.feed_nil {c : Calculation} (h : c.Fits) : c.feed [] = c := by
  have hregister : c.calculator.feed c.register [] = c.register :=
    (c.calculator.feed_nil c.register).trans h
  rw [feed, hregister]

theorem feed_feed (c : Calculation) (data more : List UInt8) :
    (c.feed data).feed more = c.feed (data ++ more) := by
  rw [feed, feed, feed, Calculator.feed_append]

/-- The checksum of a message is that of a new calculation which is fed the message. -/
theorem value_feed_calculation (e : Calculator) (data : List UInt8) :
    Running.value (e.calculation.feed data) = e.checksum data := by
  show e.model.checksumOf (e.feed (e.start &&& e.model.mask) data) = e.checksum data
  rw [Calculator.feed_and_mask]
  rfl

theorem value_calculation (e : Calculator) : Running.value e.calculation = e.checksum [] := by
  rw [← value_feed_calculation, (fits_calculation e).feed_nil]

/-! ## Exchanging the method -/

/-- Two calculations of the same model have the same register; their methods may differ. -/
def Alike (c d : Calculation) : Prop :=
  c.calculator.model = d.calculator.model ∧ c.register = d.register

theorem Alike.checksumOf_eq {c d : Calculation} (h : Alike c d) : c.checksumOf = d.checksumOf := by
  rw [checksumOf, checksumOf, Calculator.checksumOf, Calculator.checksumOf, h.1, h.2]

/-- If two calculators feed, start and resume alike, what is done to two calculations with the same
register leads to two with the same register. -/
theorem simulation_of_calculators {R : Calculator → Calculator → Prop}
    (feed : ∀ {c d}, R c d → c.feed = d.feed) (start : ∀ {c d}, R c d → c.start = d.start)
    (resume : ∀ {c d}, R c d → ∀ checksum, (c.resume checksum).register =
      (d.resume checksum).register) :
    Running.Simulation fun c d : Calculation =>
      R c.calculator d.calculator ∧ c.register = d.register where
  feed {c d} h data := by
    obtain ⟨hcalculator, hregister⟩ := h
    refine ⟨hcalculator, ?_⟩
    show c.calculator.feed c.register data = d.calculator.feed d.register data
    rw [feed hcalculator, hregister]
  reset {c d} h := ⟨h.1, start h.1⟩
  fresh {c d} h := by
    refine ⟨h.1, ?_⟩
    show c.calculator.model.start &&& c.calculator.model.mask =
      d.calculator.model.start &&& d.calculator.model.mask
    rw [Model.start_and_mask, Model.start_and_mask]
    exact start h.1
  resume {c d} h checksum := ⟨h.1, resume h.1 checksum⟩

/-- What is done to two calculations that are alike leads to two that are alike. -/
theorem simulation_alike : Running.Simulation Alike := by
  refine simulation_of_calculators (R := fun c d => c.model = d.model) Calculator.feed_congr
    (congrArg Model.start) (fun {c d} hmodel checksum => ?_)
  show c.model.registerOf checksum &&& c.model.mask = d.model.registerOf checksum &&& d.model.mask
  rw [hmodel]

end Calculation

/-- The method is never seen: under any two methods a model leads from the same word to the same
register, gives every message the same checksum, and goes through the same registers and checksums
in every course of feeding, resetting and resuming. -/
theorem Calculator.independent_of_method (m : Model) (s t : Method) :
    (∀ raw data, (ofModel m s).feed raw data = (ofModel m t).feed raw data) ∧
      (∀ data, (ofModel m s).checksum data = (ofModel m t).checksum data) ∧
      ∀ steps : List Running.Step,
        (Running.run (ofModel m s).calculation steps).register =
            (Running.run (ofModel m t).calculation steps).register ∧
          Running.value (Running.run (ofModel m s).calculation steps) =
            Running.value (Running.run (ofModel m t).calculation steps) := by
  have hfeed : (ofModel m s).feed = (ofModel m t).feed := feed_congr rfl
  refine ⟨fun raw data => by rw [hfeed], fun data => ?_, fun steps => ?_⟩
  · rw [checksum_eq, checksum_eq]
    rfl
  · have halike : Calculation.Alike (ofModel m s).calculation (ofModel m t).calculation := ⟨rfl, rfl⟩
    have hend := Calculation.simulation_alike.run halike steps
    exact ⟨hend.2, hend.checksumOf_eq⟩

end CyclicRedundancy
