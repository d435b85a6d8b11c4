import CyclicRedundancy.Catalogue.Published
import CyclicRedundancy.Proofs.Calculator

/-!
# Checksums by definition

The checksum of a message as catalogues define it, by the shift register alone: no word, no
mirrored polynomial and no table. The check values of models are computed in this way, too.
-/

namespace CyclicRedundancy

open ShiftRegister

/-- The checksum of a message by definition. The register starts with the initial value as
published, takes the bits of the message one by one, is mirrored if the model says so, and has the
final value added. -/
def Model.textbook (m : Model) (data : List UInt8) : UInt64 :=
  let register := run m.taps (Word.low m.width m.init) (messageBits m.refIn data)
  let out := if m.refOut then register.reverse else register
  Word.ofLow (out ^^^ Word.low m.width m.xorOut)

theorem Calculator.checksum_eq_textbook (c : Calculator) (data : List UInt8) :
    c.checksum data = c.model.textbook data :=
  c.checksum_eq data

/-- The checksum by eight shifts per byte is the one by definition. -/
theorem Model.serialChecksum_eq_textbook (m : Model) (data : List UInt8) :
    m.serialChecksum data = m.textbook data := by
  have hregister : m.feedSerially m.reflectedPoly m.start data =
      m.pack (run m.taps (Word.low m.width m.init) (messageBits m.refIn data)) := by
    rw [start_eq, feedSerially_pack]
  rw [serialChecksum, checksumOf_eq, hregister, view_pack]
  rfl

example : Catalogue.crc16Arc.model.textbook Model.checkMessage = 0xBB3D := by
  decide +kernel

end CyclicRedundancy
