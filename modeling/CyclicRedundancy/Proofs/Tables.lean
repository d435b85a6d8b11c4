import CyclicRedundancy.Proofs.Linearity

/-!
# Tables

An entry of the table of bytes is the register that the byte leaves when it is fed to zero. As
feeding is linear, the entries of two bytes add up to the entry of their sum, and as a byte can be
fed in two halves, the table of nibbles holds all that is needed to make up the table of bytes.
-/

namespace CyclicRedundancy

open ShiftRegister

namespace Model

variable (m : Model)

theorem byteTable_eq_pack (byte : UInt8) :
    m.byteTable[byte.toFin] = m.pack (run m.taps 0#m.width (inOrder m.refIn byte.toBitVec)) := by
  rw [getElem_byteTable, contribution_eq]

theorem byteTable_xor (a b : UInt8) :
    m.byteTable[(a ^^^ b).toFin] = m.byteTable[a.toFin] ^^^ m.byteTable[b.toFin] := by
  have hlength : (inOrder m.refIn a.toBitVec).length = (inOrder m.refIn b.toBitVec).length := by
    rw [length_inOrder, length_inOrder]
  have hrun := run_xor m.taps 0#m.width 0#m.width hlength
  rw [BitVec.xor_self] at hrun
  rw [byteTable_eq_pack, byteTable_eq_pack, byteTable_eq_pack, UInt8.toBitVec_xor, inOrder_xor,
    hrun, pack_xor]

theorem byteTable_le_mask (byte : UInt8) : m.byteTable[byte.toFin] ≤ m.mask := by
  rw [byteTable_eq_pack]
  exact m.pack_le_mask _

/-- The entries for nibbles are found among those for bytes, sixteen apart if bytes are taken
reflected. -/
theorem nibbleTable_eq_byteTable (k : Fin 16) :
    m.nibbleTable.get k = if m.refIn then m.byteTable[(UInt8.ofNat (16 * k)).toFin]
      else m.byteTable[(UInt8.ofNat k).toFin] := by
  have hget : m.nibbleTable.get k = m.nibbleTable[k] := rfl
  rw [hget, getElem_nibbleTable_eq_contribution, getElem_byteTable, getElem_byteTable]
  split
  · rfl
  · rfl

/-- Fed to zero in two halves, a byte leaves its entry. -/
theorem nibblesStep_zero (byte : UInt8) :
    m.nibblesStep m.nibbleTable 0 byte = m.byteTable[byte.toFin] := by
  rw [← pack_zero, nibblesStep_pack, byteTable_eq_pack]

/-- The tables of any model agree with the shift register and with each other. The entry of a byte
is the register that the shift register reaches from zero by the bits of the byte, which lies within
the mask; the entry of a sum is the sum of the entries; the entries for nibbles are those of the
bytes whose other half is zero; and two steps by nibbles, from zero, lead to the entry of the byte,
the lower half first if bytes are taken reflected. -/
theorem tables_agree :
    (∀ byte : UInt8, m.byteTable[byte.toFin] =
        m.pack (run m.taps 0#m.width (inOrder m.refIn byte.toBitVec))) ∧
      (∀ a b : UInt8,
        m.byteTable[(a ^^^ b).toFin] = m.byteTable[a.toFin] ^^^ m.byteTable[b.toFin]) ∧
      (∀ byte : UInt8, m.byteTable[byte.toFin] ≤ m.mask) ∧
      (∀ k : Fin 16, m.nibbleTable.get k =
        if m.refIn then m.byteTable[(UInt8.ofNat (16 * k)).toFin]
        else m.byteTable[(UInt8.ofNat k).toFin]) ∧
      ∀ byte : UInt8, m.byteTable[byte.toFin] =
        if m.refIn then m.nibbleStep m.nibbleTable (m.nibbleStep m.nibbleTable 0 byte) (byte >>> 4)
        else m.nibbleStep m.nibbleTable (m.nibbleStep m.nibbleTable 0 (byte >>> 4)) byte := by
  refine ⟨m.byteTable_eq_pack, m.byteTable_xor, m.byteTable_le_mask, m.nibbleTable_eq_byteTable,
    fun byte => ?_⟩
  have hsteps := m.nibblesStep_zero byte
  exact hsteps.symm

end Model

end CyclicRedundancy
