import CyclicRedundancy.Proofs.Contribution
import CyclicRedundancy.Register.Serial

/-!
# Feeding bytes

Every way of feeding takes some bits at a time: it adds them to the bits of the register that they
meet, looks up or computes what the sum contributes, and moves the rest of the register out of the
way. `index` and `advance` say this once for all of the layouts and for any number of bits up to
eight, and `advance_index` shows that the register that is left is the one that the shift register
reaches bit by bit.
-/

namespace CyclicRedundancy

open ShiftRegister

namespace Model

variable (m : Model)

/-- The bits of a register that meet the next input of `count` bits, with the input added. -/
def index (count : Nat) (register : UInt64) (input : UInt8) : UInt8 :=
  match m.layout count with
  | .reflected => register.toUInt8 ^^^ input
  | .wide => (register >>> UInt64.ofNat (m.width - count)).toUInt8 ^^^ input
  | .narrow => (register <<< UInt64.ofNat (count - m.width)).toUInt8 ^^^ input

/-- A register after input of `count` bits, of which the contribution is known. -/
def advance (count : Nat) (register contribution : UInt64) : UInt64 :=
  match m.layout count with
  | .reflected => (register >>> UInt64.ofNat count) ^^^ contribution
  | .wide => ((register <<< UInt64.ofNat count) ^^^ contribution) &&& m.mask
  | .narrow => contribution

/-! ## The steps of the three ways -/

theorem serialStep_eq (reflectedPoly register : UInt64) (byte : UInt8) :
    m.serialStep reflectedPoly register byte =
      m.advance 8 register (m.contribution reflectedPoly (m.index 8 register byte)) := by
  unfold serialStep advance index contribution layout
  by_cases hin : m.refIn = true
  · simp only [if_pos hin]
    rfl
  · simp only [if_neg hin]
    by_cases hw : 8 < m.width
    · simp only [if_pos hw]
      rfl
    · simp only [if_neg hw]

theorem byteStep_eq (table : ByteTable) (register : UInt64) (byte : UInt8) :
    m.byteStep table register byte =
      m.advance 8 register table[(m.index 8 register byte).toFin] := by
  cases h : m.layout 8 <;> simp only [byteStep, advance, index, h] <;> rfl

theorem nibbleStep_eq (table : NibbleTable) (register : UInt64) (half : UInt8) :
    m.nibbleStep table register half =
      m.advance 4 register table[lowNibble (m.index 4 register half)] := by
  cases h : m.layout 4 with
  | reflected =>
    simp only [nibbleStep, advance, index, h]
    exact UInt64.xor_comm _ _
  | wide =>
    simp only [nibbleStep, advance, index, h]
    exact congrArg (· &&& m.mask) (UInt64.xor_comm _ _)
  | narrow => simp only [nibbleStep, advance, index, h]

/-! ## One step of the shift register -/

/-- Moving the rest of a register out of the way shifts it. -/
theorem advance_pack {count : Nat} (hc : count ≤ 8) (r s : BitVec m.width) :
    m.advance count (m.pack r) (m.pack s) = m.pack ((r <<< count) ^^^ s) := by
  have hle := m.width_le
  apply Word.ext_getLsbD
  intro i
  rw [getLsbD_pack, BitVec.getMsbD_xor, BitVec.getLsbD_xor, BitVec.getMsbD_shiftLeft,
    BitVec.getLsbD_shiftLeft]
  unfold advance layout
  by_cases hin : m.refIn = true
  · simp only [if_pos hin]
    rw [UInt64.toBitVec_xor, BitVec.getLsbD_xor, Word.toBitVec_shiftRight _ (by omega),
      BitVec.getLsbD_ushiftRight, getLsbD_pack, getLsbD_pack, if_pos hin, if_pos hin, Nat.add_comm]
  · simp only [if_neg hin]
    by_cases hw : count < m.width
    · simp only [if_pos hw]
      rw [UInt64.toBitVec_and, BitVec.getLsbD_and, UInt64.toBitVec_xor, BitVec.getLsbD_xor,
        Word.toBitVec_shiftLeft _ (by omega), BitVec.getLsbD_shiftLeft, getLsbD_pack, getLsbD_pack,
        if_neg hin, if_neg hin, mask, Word.getLsbD_mask m.width_pos m.width_le]
      by_cases hi : i < m.width
      · simp [hi, show i < 64 by omega]
      · simp [hi, BitVec.getLsbD_of_ge s i (by omega)]
    · -- Nothing of the register is left, as it is shifted by its width at least.
      simp only [if_neg hw]
      rw [getLsbD_pack, if_neg hin]
      by_cases hi : i < m.width
      · simp [show i < count by omega]
      · simp [hi]

/-- The sum that is looked up has the upper bits of the register added to the bits that come. -/
theorem getLsbD_index {count : Nat} (hc : count ≤ 8) (r : BitVec m.width) (input : UInt8) {j : Nat}
    (hj : j < count) : (m.index count (m.pack r) input).toBitVec.getLsbD j =
      (r.getMsbD (if m.refIn then j else count - 1 - j) ^^ input.toBitVec.getLsbD j) := by
  have hle := m.width_le
  have hpos := m.width_pos
  unfold index layout
  by_cases hin : m.refIn = true
  · simp only [if_pos hin]
    rw [UInt8.toBitVec_xor, BitVec.getLsbD_xor, UInt64.toBitVec_toUInt8, BitVec.getLsbD_setWidth,
      getLsbD_pack, if_pos hin, decide_eq_true (by omega), Bool.true_and]
  · simp only [if_neg hin]
    by_cases hw : count < m.width
    · simp only [if_pos hw]
      rw [UInt8.toBitVec_xor, BitVec.getLsbD_xor, UInt64.toBitVec_toUInt8, BitVec.getLsbD_setWidth,
        Word.toBitVec_shiftRight _ (by omega), BitVec.getLsbD_ushiftRight, getLsbD_pack, if_neg hin,
        BitVec.getMsbD_eq_getLsbD, decide_eq_true (show j < 8 by omega),
        decide_eq_true (show count - 1 - j < m.width by omega),
        show m.width - 1 - (count - 1 - j) = m.width - count + j by omega]
    · -- The register is moved up to the bits that come first; the others meet zeros.
      simp only [if_neg hw]
      rw [UInt8.toBitVec_xor, BitVec.getLsbD_xor, UInt64.toBitVec_toUInt8, BitVec.getLsbD_setWidth,
        Word.toBitVec_shiftLeft _ (by omega), BitVec.getLsbD_shiftLeft, getLsbD_pack, if_neg hin,
        BitVec.getMsbD_eq_getLsbD, decide_eq_true (show j < 8 by omega),
        decide_eq_true (show j < 64 by omega)]
      by_cases hlow : j < count - m.width
      · rw [decide_eq_true hlow, decide_eq_false (show ¬ count - 1 - j < m.width by omega)]
        rfl
      · rw [decide_eq_false hlow, decide_eq_true (show count - 1 - j < m.width by omega),
          show m.width - 1 - (count - 1 - j) = j - (count - m.width) by omega]
        rfl

theorem inOrder_index {count : Nat} (hc : count ≤ 8) (r : BitVec m.width) (input : UInt8) :
    inOrder m.refIn ((m.index count (m.pack r) input).toBitVec.setWidth count) =
      List.zipWith Bool.xor (leading count r)
        (inOrder m.refIn (input.toBitVec.setWidth count)) := by
  rw [inOrder_eq_map, inOrder_eq_map, leading, List.zipWith_map, List.zipWith_self]
  apply List.map_congr_left
  intro i hi
  rw [List.mem_range] at hi
  have hrev : count - 1 - (count - 1 - i) = i := by omega
  cases hin : m.refIn
  · simp only [Bool.false_eq_true, if_false]
    rw [BitVec.getMsbD_eq_getLsbD (BitVec.setWidth count _), BitVec.getLsbD_setWidth,
      getLsbD_index m hc r input (by omega), hin, if_neg Bool.false_ne_true, hrev,
      BitVec.getMsbD_eq_getLsbD (BitVec.setWidth count _), BitVec.getLsbD_setWidth]
    simp [hi, show count - 1 - i < count by omega]
  · simp only [if_true, BitVec.getLsbD_setWidth]
    rw [getLsbD_index m hc r input hi, hin, if_pos rfl]
    simp [hi]

/-- A step of any way, if the contribution is that of the sum that is looked up. -/
theorem advance_index {count : Nat} (hc : count ≤ 8) (r : BitVec m.width) (input : UInt8)
    {contribution : UInt64}
    (h : contribution = m.pack (run m.taps 0#m.width
      (inOrder m.refIn ((m.index count (m.pack r) input).toBitVec.setWidth count)))) :
    m.advance count (m.pack r) contribution =
      m.pack (run m.taps r (inOrder m.refIn (input.toBitVec.setWidth count))) := by
  rw [h, advance_pack m hc, inOrder_index m hc, run_eq m.taps r, length_inOrder]

/-! ## Tables -/

/-- The lower half of a byte, as bits. -/
def nibble (byte : UInt8) : BitVec 4 := byte.toBitVec.setWidth 4

theorem toBitVec_eq_append (byte : UInt8) : byte.toBitVec = nibble (byte >>> 4) ++ nibble byte := by
  have e : (byte >>> 4).toBitVec = byte.toBitVec >>> 4 := rfl
  apply BitVec.eq_of_getLsbD_eq
  intro i hi
  rw [nibble, nibble, e, BitVec.getLsbD_append]
  by_cases h : i < 4
  · simp [h]
  · rw [if_neg h, BitVec.getLsbD_setWidth, BitVec.getLsbD_ushiftRight,
      decide_eq_true (show i - 4 < 4 by omega), Bool.true_and, show 4 + (i - 4) = i by omega]

theorem toBitVec_ofNat_lowNibble (byte : UInt8) :
    (UInt8.ofNat (lowNibble byte)).toBitVec = 0#4 ++ nibble byte := by
  apply BitVec.eq_of_toNat_eq
  rw [BitVec.toNat_append]
  simp [lowNibble, nibble]
  omega

theorem toBitVec_ofNat_mul_lowNibble (byte : UInt8) :
    (UInt8.ofNat (16 * lowNibble byte)).toBitVec = nibble byte ++ 0#4 := by
  apply BitVec.eq_of_toNat_eq
  rw [BitVec.toNat_append]
  simp [lowNibble, nibble]
  omega

theorem getElem_byteTable (byte : UInt8) :
    m.byteTable[byte.toFin] = m.contribution m.reflectedPoly byte := by
  rw [byteTable]
  simp

theorem getElem_nibbleTable_eq_contribution (k : Fin 16) :
    m.nibbleTable[k] = m.contribution m.reflectedPoly
      (if m.refIn then UInt8.ofNat (16 * k) else UInt8.ofNat k) := by
  rw [nibbleTable]
  simp

/-- An entry of the table of nibbles is what the nibble leaves when it is fed to zero: the byte whose
contribution it is begins with four zeros, in either order. -/
theorem getElem_nibbleTable (byte : UInt8) :
    m.nibbleTable[lowNibble byte] =
      m.pack (run m.taps 0#m.width (inOrder m.refIn (nibble byte))) := by
  have hzeros : inOrder m.refIn (if m.refIn then UInt8.ofNat (16 * lowNibble byte)
      else UInt8.ofNat (lowNibble byte)).toBitVec =
      List.replicate 4 false ++ inOrder m.refIn (nibble byte) := by
    cases m.refIn
    · rw [if_neg Bool.false_ne_true, toBitVec_ofNat_lowNibble, inOrder_false_append, inOrder_zero]
    · rw [if_pos rfl, toBitVec_ofNat_mul_lowNibble, inOrder_true_append, inOrder_zero]
  rw [getElem_nibbleTable_eq_contribution, contribution_eq, hzeros, run_append,
    run_zero_replicate]

/-! ## Bytes -/

theorem serialStep_pack (r : BitVec m.width) (byte : UInt8) :
    m.serialStep m.reflectedPoly (m.pack r) byte =
      m.pack (run m.taps r (inOrder m.refIn byte.toBitVec)) := by
  have hc := m.contribution_eq (m.index 8 (m.pack r) byte)
  rw [← BitVec.setWidth_eq (m.index 8 (m.pack r) byte).toBitVec] at hc
  rw [serialStep_eq, m.advance_index (Nat.le_refl 8) r byte hc, BitVec.setWidth_eq]

theorem byteStep_pack (r : BitVec m.width) (byte : UInt8) :
    m.byteStep m.byteTable (m.pack r) byte =
      m.pack (run m.taps r (inOrder m.refIn byte.toBitVec)) := by
  rw [byteStep_eq, getElem_byteTable, ← serialStep_eq, serialStep_pack]

theorem nibbleStep_pack (r : BitVec m.width) (half : UInt8) :
    m.nibbleStep m.nibbleTable (m.pack r) half =
      m.pack (run m.taps r (inOrder m.refIn (nibble half))) := by
  rw [nibbleStep_eq]
  exact m.advance_index (by omega) r half (m.getElem_nibbleTable _)

theorem nibblesStep_pack (r : BitVec m.width) (byte : UInt8) :
    m.nibblesStep m.nibbleTable (m.pack r) byte =
      m.pack (run m.taps r (inOrder m.refIn byte.toBitVec)) := by
  rw [nibblesStep, nibbleStep_pack, nibbleStep_pack, nibbleStep_pack, nibbleStep_pack,
    toBitVec_eq_append byte, ← run_append, ← run_append]
  cases m.refIn
  · rw [if_neg Bool.false_ne_true, inOrder_false_append]
  · rw [if_pos rfl, inOrder_true_append]

/-! ## Messages -/

/-- A way of feeding bytes that does to every packed register what the shift register does leads to
the register that the shift register reaches. -/
theorem foldl_pack {step : UInt64 → UInt8 → UInt64}
    (hstep : ∀ r byte, step (m.pack r) byte =
      m.pack (run m.taps r (inOrder m.refIn byte.toBitVec)))
    (r : BitVec m.width) (data : List UInt8) :
    data.foldl step (m.pack r) = m.pack (run m.taps r (messageBits m.refIn data)) := by
  induction data generalizing r with
  | nil => rfl
  | cons byte data ih => rw [List.foldl_cons, hstep, ih, messageBits_cons, run_append]

theorem feedSerially_pack (r : BitVec m.width) (data : List UInt8) :
    m.feedSerially m.reflectedPoly (m.pack r) data =
      m.pack (run m.taps r (messageBits m.refIn data)) :=
  m.foldl_pack m.serialStep_pack r data

theorem feedByBytes_pack (r : BitVec m.width) (data : List UInt8) :
    m.feedByBytes m.byteTable (m.pack r) data =
      m.pack (run m.taps r (messageBits m.refIn data)) :=
  m.foldl_pack m.byteStep_pack r data

theorem feedByNibbles_pack (r : BitVec m.width) (data : List UInt8) :
    m.feedByNibbles m.nibbleTable (m.pack r) data =
      m.pack (run m.taps r (messageBits m.refIn data)) :=
  m.foldl_pack m.nibblesStep_pack r data

end Model

end CyclicRedundancy
