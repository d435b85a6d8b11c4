import Mathlib.Data.BitVec
import Mathlib.Data.Fintype.Card
import CyclicRedundancy.Proofs.Burst

/-!
# Common suffixes

Under an odd generator every message permutes the registers: none is lost, and none is reached from
two others. So what follows two messages alike neither hides a difference between their checksums nor
makes one.
-/

namespace CyclicRedundancy

namespace ShiftRegister

variable {w : Nat} {taps : BitVec w}

/-- There are as many registers after some bits as before. -/
theorem run_bijective (odd : taps.getLsbD 0 = true) (bits : List Bool) :
    Function.Bijective fun r => run taps r bits := by
  have hfinite : Finite (BitVec w) := Finite.of_injective BitVec.toFin BitVec.toFin_injective
  have hinjective : Function.Injective fun r => run taps r bits := by
    intro r s h
    exact run_injective odd h
  exact ⟨hinjective, Finite.surjective_of_injective hinjective⟩

end ShiftRegister

open ShiftRegister

namespace Model

variable (m : Model)

/-- The words within the mask. -/
def registers : Set UInt64 := {v | v ≤ m.mask}

/-- On words within the mask, viewing and packing are inverse to each other. -/
theorem invOn_pack_view : Set.InvOn m.pack m.view m.registers Set.univ := by
  constructor
  · intro v hv
    rw [pack_view]
    exact Word.and_mask_eq_of_le m.width_pos m.width_le hv
  · intro r _
    exact m.view_pack r

theorem bijOn_view : Set.BijOn m.view m.registers Set.univ :=
  m.invOn_pack_view.bijOn (Set.mapsTo_univ _ _) fun r _ => m.pack_le_mask r

theorem bijOn_pack : Set.BijOn m.pack Set.univ m.registers :=
  m.invOn_pack_view.symm.bijOn (fun r _ => m.pack_le_mask r) (Set.mapsTo_univ _ _)

end Model

/-- Under an odd generator, as every published one is, and under any method, feeding a message
permutes the words within the mask, and two messages, of any lengths, that are followed by the same
bytes have the same checksum if and only if they had before. -/
theorem Calculator.bijOn_feed_and_checksum_append :
    (∀ c : Calculator, c.model.poly &&& 1 = 1 →
        (∀ data, Set.BijOn (fun register => c.feed register data) c.model.registers
          c.model.registers) ∧
        ∀ a b suffix, c.checksum (a ++ suffix) = c.checksum (b ++ suffix) ↔
          c.checksum a = c.checksum b) ∧
      ∀ a ∈ Catalogue.algorithms, a.model.poly &&& 1 = 1 := by
  refine ⟨fun c odd => ⟨fun data => ?_, fun a b suffix => ?_⟩,
    fun a h => Catalogue.odd_of_mem_algorithms h⟩
  · have hrun := run_bijective (Model.getLsbD_taps_zero odd) (messageBits c.model.refIn data)
    have hfeed : (fun register => c.feed register data) =
        c.model.pack ∘ (fun r => run c.model.taps r (messageBits c.model.refIn data)) ∘
          c.model.view := by
      funext register
      exact c.feed_eq register data
    rw [hfeed]
    exact c.model.bijOn_pack.comp ((Set.bijOn_univ.mpr hrun).comp c.model.bijOn_view)
  · rw [checksum_append, checksum_append, checksum_eq, checksum_eq]
    constructor
    · intro h
      rw [run_injective (Model.getLsbD_taps_zero odd) (c.model.publish_injective h)]
    · intro h
      rw [c.model.publish_injective h]

/-- The register has five bits, fewer than a byte, and one of the messages is empty. -/
theorem Calculator.bijOn_feed_and_checksum_append_crc5Usb :
    let a := Catalogue.published "CRC-5/USB" 5 0x05 0x1F true true 0x1F 0x19
    let c := Calculator.ofAlgorithm a .byteTable
    a ∈ Catalogue.algorithms ∧ c.model.poly &&& 1 = 1 ∧
      Set.BijOn (fun register => c.feed register [0x9C, 0x01]) {v | v ≤ 0x1F} {v | v ≤ 0x1F} ∧
      (c.checksum ([] ++ [0x9C]) = c.checksum ([0x31, 0x32] ++ [0x9C]) ↔
        c.checksum [] = c.checksum [0x31, 0x32]) := by
  intro a c
  have hmem : a ∈ Catalogue.algorithms := by decide +kernel
  have hodd : c.model.poly &&& 1 = 1 := bijOn_feed_and_checksum_append.2 a hmem
  have hmask : c.model.mask = 0x1F := by decide
  obtain ⟨hbij, happend⟩ := bijOn_feed_and_checksum_append.1 c hodd
  rw [Model.registers, hmask] at hbij
  exact ⟨hmem, hodd, hbij [0x9C, 0x01], happend [] [0x31, 0x32] [0x9C]⟩

end CyclicRedundancy
