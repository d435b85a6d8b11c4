import CyclicRedundancy.Proofs.Textbook

/-!
# Mirrored models

A model that takes bytes from the lowest bit and one that takes them from the highest, of the same
width and polynomial, carry out the same division. One keeps the mirror image of the register that
the other keeps, if it is fed the bytes with their bits in the opposite order.
-/

namespace CyclicRedundancy

namespace ShiftRegister

/-- A byte with its bits in the opposite order. -/
def mirrored (byte : UInt8) : UInt8 := ⟨byte.toBitVec.reverse⟩

/-- Taking bytes from the lowest bit is taking mirrored bytes from the highest. -/
theorem messageBits_false_map_mirrored (data : List UInt8) :
    messageBits false (data.map mirrored) = messageBits true data := by
  rw [messageBits, messageBits, List.flatMap_map]
  rfl

end ShiftRegister

open ShiftRegister

/-- Feeding, over a width that is only equal to that of the model, so that two models can be
compared. -/
theorem Calculator.feed_eq_ofLow (c : Calculator) {w : Nat} (hw : c.model.width = w)
    (register : UInt64) (data : List UInt8) :
    c.feed register data = Word.ofLow (orient c.model.refIn
      (run (Word.low w c.model.poly) (orient c.model.refIn (Word.low w register))
        (messageBits c.model.refIn data))) := by
  subst hw
  exact c.feed_eq register data

/-- Of two models of the same width and polynomial, under any methods, the one that takes bytes
reflected leads from the mirror image of a word to the mirror image of what the other one leads to
from the word with mirrored bytes. -/
theorem Calculator.feed_reflect {c d : Calculator} (hwidth : c.model.width = d.model.width)
    (hpoly : c.model.poly = d.model.poly) (hc : c.model.refIn = true) (hd : d.model.refIn = false)
    (raw : UInt64) (data : List UInt8) :
    c.feed (Word.reflect raw d.model.width) data =
      Word.reflect (d.feed raw (data.map mirrored)) d.model.width := by
  have h0 := d.model.width_pos
  have h1 := d.model.width_le
  have hback : orient true (Word.low d.model.width (Word.reflect raw d.model.width)) =
      Word.low d.model.width raw := by
    rw [Word.low_reflect h0 h1]
    exact orient_orient true _
  rw [c.feed_eq_ofLow hwidth, d.feed_eq_ofLow rfl, hc, hd, hpoly, hback, Word.reflect_ofLow h0 h1,
    messageBits_false_map_mirrored]
  rfl

/-- The two published models of thirty-two bits with the same polynomial. -/
theorem Calculator.feed_reflect_crc32IsoHdlc :
    let c := Calculator.ofAlgorithm Catalogue.crc32IsoHdlc .byteTable
    let d := Calculator.ofAlgorithm Catalogue.crc32Bzip2 .nibbleTable
    c.model.width = d.model.width ∧ c.model.poly = d.model.poly ∧ c.model.refIn = true ∧
      d.model.refIn = false ∧
      c.feed (Word.reflect 0xFFFF0001 32) [0x31, 0xC5] =
        Word.reflect (d.feed 0xFFFF0001 [0x8C, 0xA3]) 32 := by
  intro c d
  exact ⟨rfl, rfl, rfl, rfl,
    feed_reflect (c := c) (d := d) rfl rfl rfl rfl 0xFFFF0001 [0x31, 0xC5]⟩

end CyclicRedundancy
