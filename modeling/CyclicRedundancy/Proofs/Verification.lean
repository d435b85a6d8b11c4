import CyclicRedundancy.Proofs.Draining
import CyclicRedundancy.Proofs.Textbook

/-!
# Check values

A model carries the checksum that the standard message should have, and a calculator tells whether
it computes the same. The check value has no part in what is computed. So a model that was built
with its own check value is never reported, by no method, and a check value that was put in its
place is reported unless it is the same within the width.
-/

namespace CyclicRedundancy

open ShiftRegister

namespace Model

/-- The checksum by definition has no bit above the width. -/
theorem textbook_and_mask (m : Model) (data : List UInt8) :
    m.textbook data &&& m.mask = m.textbook data := by
  rw [← serialChecksum_eq_textbook, serialChecksum, checksumOf_and_mask]

/-- Parameters from outside are given the check value that they have by definition. -/
theorem check_of_ofParameters {p : Parameters} {m : Model} (h : ofParameters p = .ok m) :
    m.check = m.textbook checkMessage := by
  unfold ofParameters at h
  split at h
  next hwidth =>
    rw [Except.ok.injEq] at h
    rw [← h, serialChecksum_eq_textbook]
    exact textbook_and_mask _ _
  next => exact absurd h (by simp)

end Model

namespace Calculator

/-! ## Another check value -/

section WithCheck

variable {c d : Calculator} {check : UInt64} (h : c.model = d.model.withCheck check)
include h

theorem feed_of_withCheck : c.feed = d.feed := by
  funext register data
  obtain ⟨_, m, _, _, _⟩ := c
  subst h
  rw [feed_eq, feed_eq]
  rfl

theorem checksumOf_of_withCheck : c.checksumOf = d.checksumOf := by
  funext register
  rw [checksumOf, checksumOf, h]
  rfl

theorem checksum_of_withCheck : c.checksum = d.checksum := by
  funext data
  rw [checksum_eq_textbook, checksum_eq_textbook, h]
  rfl

theorem register_resume_of_withCheck (checksum : UInt64) :
    (c.resume checksum).register = (d.resume checksum).register := by
  have hregister : (c.resume checksum).register = c.model.registerOf checksum &&& c.model.mask := rfl
  rw [hregister, h]
  rfl

theorem result_drain_of_withCheck {σ : Type} [Reader σ] (reader : σ) (b : Buffer) :
    (c.drain reader b).result = (d.drain reader b).result := by
  by_cases hb : b.size = 0
  · rw [drain, drain, if_pos hb, if_pos hb]
  · obtain ⟨bytes, last, hdecided⟩ := Reader.exists_decided reader b
    rw [(c.drain_of_decided hb hdecided).1, (d.drain_of_decided hb hdecided).1,
      checksum_of_withCheck h]

end WithCheck

end Calculator

namespace Calculation

/-- Two calculations have the same register, and their models differ in the check value at most. -/
def AlikeButCheck (c d : Calculation) : Prop :=
  (∃ check, c.calculator.model = d.calculator.model.withCheck check) ∧ c.register = d.register

theorem AlikeButCheck.value_eq {c d : Calculation} (h : AlikeButCheck c d) :
    Running.value c = Running.value d := by
  obtain ⟨⟨check, hmodel⟩, hregister⟩ := h
  show c.calculator.checksumOf c.register = d.calculator.checksumOf d.register
  rw [Calculator.checksumOf_of_withCheck hmodel, hregister]

/-- What is done to both of two such calculations leads to two such again. -/
theorem simulation_alikeButCheck : Running.Simulation AlikeButCheck := by
  refine simulation_of_calculators (R := fun c d => ∃ check, c.model = d.model.withCheck check)
    ?feed ?start ?resume
  case feed =>
    rintro c d ⟨check, hmodel⟩
    exact Calculator.feed_of_withCheck hmodel
  case start =>
    rintro c d ⟨check, hmodel⟩
    have hstart : c.model.start = (d.model.withCheck check).start := congrArg Model.start hmodel
    exact hstart
  case resume =>
    rintro c d ⟨check, hmodel⟩
    exact Calculator.register_resume_of_withCheck hmodel

end Calculation

namespace Calculator

/-! ## Reports -/

/-- Whether the check value is reproduced is a question about the model. -/
theorem verify_eq_ok_iff (c : Calculator) :
    c.verify = .ok () ↔ c.model.check = c.model.textbook Model.checkMessage := by
  rw [verify, checkValue, checksum_eq_textbook]
  split
  next h => simp [h]
  next h => simpa using Ne.symm h

/-- A check value that is not reproduced is reported together with what is computed. -/
theorem verify_eq_error {c : Calculator}
    (h : c.model.check ≠ c.model.textbook Model.checkMessage) :
    c.verify = .error (.checkMismatch c.title c.method c.model.check
      (c.model.textbook Model.checkMessage)) := by
  rw [verify, checkValue, checksum_eq_textbook, if_neg (Ne.symm h)]

end Calculator

/-- A model that is built of parameters from outside reproduces its check value under every method.
With another check value it does so if and only if that value is the same within the width;
otherwise the method, the value that was put in, cut to the width, and the right one are reported.
In any model and under any method, another check value changes no register and no checksum, be it
of a word, of a message, of what a reader delivers, after resuming or in a course of steps. -/
theorem Calculator.verify_withCheck :
    (∀ (p : Parameters) (m : Model), Model.ofParameters p = .ok m →
        ∀ (s : Method) (check : UInt64),
          (ofModel m s).verify = .ok () ∧
            ((ofModel (m.withCheck check) s).verify = .ok () ↔ check &&& m.mask = m.check) ∧
            (check &&& m.mask ≠ m.check →
              (ofModel (m.withCheck check) s).verify =
                .error (.checkMismatch "custom" s (check &&& m.mask) m.check))) ∧
      ∀ (m : Model) (s : Method) (check : UInt64),
        (∀ register data, (ofModel (m.withCheck check) s).feed register data =
            (ofModel m s).feed register data) ∧
          (∀ register, (ofModel (m.withCheck check) s).checksumOf register =
            (ofModel m s).checksumOf register) ∧
          (∀ data, (ofModel (m.withCheck check) s).checksum data = (ofModel m s).checksum data) ∧
          (∀ (σ : Type) [Reader σ] (reader : σ) (b : Buffer),
            ((ofModel (m.withCheck check) s).drain reader b).result =
              ((ofModel m s).drain reader b).result) ∧
          (∀ checksum, ((ofModel (m.withCheck check) s).resume checksum).register =
            ((ofModel m s).resume checksum).register) ∧
          ∀ steps : List Running.Step,
            (Running.run (ofModel (m.withCheck check) s).calculation steps).register =
                (Running.run (ofModel m s).calculation steps).register ∧
              Running.value (Running.run (ofModel (m.withCheck check) s).calculation steps) =
                Running.value (Running.run (ofModel m s).calculation steps) := by
  constructor
  · intro p m hm s check
    have hown := Model.check_of_ofParameters hm
    -- Neither the checksum by definition nor the mask depends on the check value.
    have htextbook : (m.withCheck check).textbook Model.checkMessage = m.check := hown.symm
    have hcheck : (m.withCheck check).check = check &&& m.mask := rfl
    refine ⟨(verify_eq_ok_iff (ofModel m s)).mpr hown, ?_, fun hne => ?_⟩
    · have hiff := verify_eq_ok_iff (ofModel (m.withCheck check) s)
      rwa [show (ofModel (m.withCheck check) s).model = m.withCheck check from rfl, htextbook,
        hcheck] at hiff
    · have herror := verify_eq_error (c := ofModel (m.withCheck check) s)
      rw [show (ofModel (m.withCheck check) s).model = m.withCheck check from rfl, htextbook,
        hcheck] at herror
      exact herror hne
  · intro m s check
    have hmodel : (ofModel (m.withCheck check) s).model = (ofModel m s).model.withCheck check := rfl
    have halike : Calculation.AlikeButCheck (ofModel (m.withCheck check) s).calculation
        (ofModel m s).calculation := ⟨⟨check, hmodel⟩, rfl⟩
    refine ⟨fun register data => by rw [feed_of_withCheck hmodel],
      fun register => by rw [checksumOf_of_withCheck hmodel],
      fun data => by rw [checksum_of_withCheck hmodel],
      fun _ _ reader b => result_drain_of_withCheck hmodel reader b,
      register_resume_of_withCheck hmodel, fun steps => ?_⟩
    have hend := Calculation.simulation_alikeButCheck.run halike steps
    exact ⟨hend.2, hend.value_eq⟩

/-- Seven bits, with parameters that have bits above them, and the check values `0x75`, which is the
right one, `0x1F5`, which is the right one within the width, and `0x74`. -/
theorem Calculator.verify_withCheck_crc7Mmc :
    let p : Parameters :=
      { width := 7, poly := 0xF09, init := 0x80, refIn := false, refOut := false, xorOut := 0x100 }
    let m := (Catalogue.published "CRC-7/MMC" 7 0x09 0x00 false false 0x00 0x75).model
    Model.ofParameters p = .ok m ∧ (0x74 : UInt64) &&& m.mask ≠ m.check ∧
      (ofModel m .nibbleTable).verify = .ok () ∧
      (ofModel (m.withCheck 0x1F5) .bitSerial).verify = .ok () ∧
      (ofModel (m.withCheck 0x74) .nibbleTable).verify =
        .error (.checkMismatch "custom" .nibbleTable 0x74 0x75) := by
  intro p m
  have hm : Model.ofParameters p = .ok m := by
    rw [Model.ofParameters, dif_pos (by decide)]
    exact congrArg Except.ok (by decide +kernel)
  have hne : (0x74 : UInt64) &&& m.mask ≠ m.check := by decide
  have hverify := verify_withCheck.1 p m hm
  have hreport := (hverify .nibbleTable 0x74).2.2 hne
  have hcut : (0x74 : UInt64) &&& m.mask = 0x74 := by decide
  have hcheck : m.check = 0x75 := by decide
  rw [hcut, hcheck] at hreport
  exact ⟨hm, hne, (hverify .nibbleTable 0).1, (hverify .bitSerial 0x1F5).2.1.mpr (by decide),
    hreport⟩

end CyclicRedundancy
