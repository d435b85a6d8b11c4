import CyclicRedundancy.Proofs.Burst
import CyclicRedundancy.Proofs.Linearity

/-!
# Frames

A frame is a message and a trailer of as many bits as the register has. If the checksum is written
into the trailer in the order in which bytes are taken, these bits meet the register that they were
made from, and what is left does not depend on the message. Under an odd generator no other trailer
leaves the same, so that a receiver may feed the whole frame and compare with one constant.
-/

namespace CyclicRedundancy

/-- The lowest bytes of a word, the lowest first. -/
def Word.lowBytes (count : Nat) (v : UInt64) : List UInt8 :=
  (List.range count).map fun i => (v >>> UInt64.ofNat (8 * i)).toUInt8

/-- A checksum as the bytes that follow a message: the lowest byte first if bytes are taken
reflected, the highest first otherwise. -/
def Model.trailer (m : Model) (checksum : UInt64) : List UInt8 :=
  let bytes := Word.lowBytes (m.width / 8) checksum
  if m.refIn then bytes else bytes.reverse

/-- The checksum of every frame that has the right trailer. -/
def Calculator.intact (c : Calculator) : UInt64 :=
  c.checksumOf (c.feed 0 (c.model.trailer c.model.xorOut))

namespace ShiftRegister

variable {w : Nat}

/-! ## The bits of a trailer -/

theorem reverse_inOrder_true (g : BitVec w) : (inOrder true g).reverse = inOrder false g := by
  rw [inOrder_eq_map, inOrder_eq_map]
  apply List.ext_getElem
  · rw [List.length_reverse, List.length_map, List.length_map]
  · intro i _ hi
    rw [List.length_map, List.length_range] at hi
    rw [List.getElem_reverse, List.getElem_map, List.getElem_map, List.getElem_range,
      List.getElem_range, List.length_map, List.length_range, if_pos rfl,
      if_neg Bool.false_ne_true, BitVec.getMsbD_eq_getLsbD, decide_eq_true hi, Bool.true_and]

theorem messageBits_false_reverse (data : List UInt8) :
    messageBits false data.reverse = (messageBits true data).reverse := by
  rw [messageBits, messageBits, List.reverse_flatMap]
  congr 1
  funext byte
  exact (reverse_inOrder_true byte.toBitVec).symm

/-- The lowest bytes of a word have its lowest bits, in the same order. -/
theorem messageBits_lowBytes {count : Nat} (h : count ≤ 8) (v : UInt64) :
    messageBits true (Word.lowBytes count v) =
      (List.range (8 * count)).map v.toBitVec.getLsbD := by
  induction count with
  | zero => rfl
  | succ count ih =>
    -- The byte that comes last has the eight bits above those of the others.
    have hlast : inOrder true (v >>> UInt64.ofNat (8 * count)).toUInt8.toBitVec =
        (List.range 8).map fun i => v.toBitVec.getLsbD (8 * count + i) := by
      rw [inOrder_eq_map]
      apply List.map_congr_left
      intro i hi
      rw [if_pos rfl, UInt64.toBitVec_toUInt8, BitVec.getLsbD_setWidth,
        Word.toBitVec_shiftRight _ (by omega), BitVec.getLsbD_ushiftRight,
        decide_eq_true (List.mem_range.mp hi), Bool.true_and]
    have hbytes : Word.lowBytes (count + 1) v =
        Word.lowBytes count v ++ [(v >>> UInt64.ofNat (8 * count)).toUInt8] := by
      rw [Word.lowBytes, List.range_succ, List.map_append]
      rfl
    rw [hbytes, messageBits_append, ih (by omega), messageBits_cons, hlast, Nat.mul_succ,
      List.range_add, List.map_append, List.map_map]
    exact congrArg _ (List.append_nil _)

theorem inOrder_true_low (v : UInt64) :
    inOrder true (Word.low w v) = (List.range w).map v.toBitVec.getLsbD := by
  rw [inOrder_eq_map]
  apply List.map_congr_left
  intro i hi
  rw [if_pos rfl, Word.getLsbD_low, decide_eq_true (List.mem_range.mp hi), Bool.true_and]

/-! ## Registers that are fed as many bits as they have -/

/-- Bits that have the register added to them leave what they would leave in zero without it. -/
theorem run_leading_xor (taps r x : BitVec w) :
    run taps r (leading w (r ^^^ x)) = run taps 0#w (leading w x) := by
  have hsum : leading w (r ^^^ x) = List.zipWith Bool.xor (leading w r) (leading w x) :=
    inOrder_xor false r x
  have hlen : (leading w r).length = (leading w x).length := by
    rw [length_leading, length_leading]
  have hrun := run_xor taps r 0#w hlen
  -- After `w` of its own bits nothing is left of the register.
  rwa [← hsum, BitVec.xor_zero, run_leading, BitVec.shiftLeft_eq_zero (Nat.le_refl w),
    BitVec.zero_xor] at hrun

/-- Under an odd generator no other bits do. -/
theorem run_eq_run_zero_iff {taps : BitVec w} (odd : taps.getLsbD 0 = true) (r x : BitVec w)
    {bits : List Bool} (hlen : bits.length = w) :
    run taps r bits = run taps 0#w (leading w x) ↔ bits = leading w (r ^^^ x) := by
  rw [← run_leading_xor taps r x]
  constructor
  · intro h
    by_cases heq : bits = leading w (r ^^^ x)
    · exact heq
    · exact absurd h (run_ne_run odd r (by rw [hlen, length_leading]) (Nat.le_of_eq hlen) heq)
  · intro h
    rw [h]

end ShiftRegister

open ShiftRegister

namespace Model

variable {m : Model}

/-- The bits of a trailer enter the register as those of the checksum stand in it. -/
theorem messageBits_trailer (h8 : 8 ∣ m.width) (checksum : UInt64) :
    messageBits m.refIn (m.trailer checksum) = inOrder m.refIn (Word.low m.width checksum) := by
  have hcount : m.width / 8 ≤ 8 := by
    have hle := m.width_le
    omega
  have hbits : messageBits true (Word.lowBytes (m.width / 8) checksum) =
      inOrder true (Word.low m.width checksum) := by
    rw [messageBits_lowBytes hcount, Nat.mul_div_cancel' h8, inOrder_true_low]
  unfold trailer
  cases m.refIn with
  | false =>
    rw [if_neg Bool.false_ne_true, messageBits_false_reverse, hbits, reverse_inOrder_true]
  | true => exact hbits

/-- A trailer has the bits of the register, with the final value added. -/
theorem messageBits_trailer_publish (h8 : 8 ∣ m.width) (hflags : m.refIn = m.refOut)
    (r : BitVec m.width) :
    messageBits m.refIn (m.trailer (m.publish r)) =
      leading m.width (r ^^^ orient m.refIn (Word.low m.width m.xorOut)) := by
  rw [messageBits_trailer h8, publish, Word.low_ofLow m.width_le, inOrder, orient_xor, ← hflags,
    orient_orient]

/-- A trailer leads from a register to where the bits of the final value lead from zero if and only
if it is the trailer of the checksum of that register. -/
theorem publish_run_trailer_iff (h8 : 8 ∣ m.width) (hflags : m.refIn = m.refOut)
    (odd : m.poly &&& 1 = 1) (r : BitVec m.width) {trailer : List UInt8}
    (hlen : trailer.length = m.width / 8) :
    m.publish (run m.taps r (messageBits m.refIn trailer)) =
        m.publish (run m.taps 0#m.width
          (leading m.width (orient m.refIn (Word.low m.width m.xorOut)))) ↔
      trailer = m.trailer (m.publish r) := by
  have hbits : (messageBits m.refIn trailer).length = m.width := by
    rw [length_messageBits, hlen, Nat.mul_div_cancel' h8]
  have hright := messageBits_trailer_publish h8 hflags r
  have hiff := run_eq_run_zero_iff (getLsbD_taps_zero odd) r
    (orient m.refIn (Word.low m.width m.xorOut)) hbits
  constructor
  · intro h
    have hsame := hiff.mp (m.publish_injective h)
    exact messageBits_injective (hsame.trans hright.symm)
  · intro h
    rw [hiff.mpr (by rw [h, hright])]

end Model

namespace Calculator

theorem intact_eq (c : Calculator) (h8 : 8 ∣ c.model.width) :
    c.intact = c.model.publish (run c.model.taps 0#c.model.width
      (leading c.model.width (orient c.model.refIn (Word.low c.model.width c.model.xorOut)))) := by
  rw [intact, checksumOf, Model.checksumOf_eq, feed_eq, Model.view_pack, Model.view_zero,
    Model.messageBits_trailer h8]
  rfl

/-- The initial register has no part in the constant. -/
theorem intact_congr {c d : Calculator}
    (h : d.model.parameters = { c.model.parameters with init := d.model.init }) :
    d.intact = c.intact := by
  obtain ⟨_, m, _, _, _⟩ := c
  obtain ⟨_, n, _, _, _⟩ := d
  obtain ⟨width, poly, init, refIn, refOut, xorOut, _, _, _, _, _, _, _⟩ := m
  obtain ⟨width', poly', init', refIn', refOut', xorOut', _, _, _, _, _, _, _⟩ := n
  simp only [Model.parameters, Parameters.mk.injEq] at h
  obtain ⟨rfl, rfl, -, rfl, rfl, rfl⟩ := h
  rw [intact, intact, feed_eq, feed_eq]
  rfl

end Calculator

/-- If the width is a number of bytes, both reflection flags are the same and the generator is odd,
the checksum of a message and a trailer of that width is the constant of intact frames if and only if
the trailer is the checksum of the message. Models that differ in the initial register only have the
same constant. -/
theorem Calculator.checksum_append_eq_intact_iff :
    (∀ (c : Calculator) (message trailer : List UInt8), 8 ∣ c.model.width →
        c.model.refIn = c.model.refOut → c.model.poly &&& 1 = 1 →
        trailer.length = c.model.width / 8 →
        (c.checksum (message ++ trailer) = c.intact ↔
          trailer = c.model.trailer (c.checksum message))) ∧
      ∀ c d : Calculator, d.model.parameters = { c.model.parameters with init := d.model.init } →
        d.intact = c.intact := by
  refine ⟨fun c message trailer h8 hflags odd hlen => ?_, fun c d h => intact_congr h⟩
  rw [checksum_append, checksum_eq, c.intact_eq h8]
  exact Model.publish_run_trailer_iff h8 hflags odd _ hlen

/-- The standard message with its checksum, lowest byte first, and two published models of which one
has an initial register of zero and the other one of ones. -/
theorem Calculator.checksum_append_eq_intact_iff_crc16IbmSdlc :
    let c := Calculator.ofAlgorithm Catalogue.crc16IbmSdlc .nibbleTable
    let genibus := Catalogue.published "CRC-16/GENIBUS" 16 0x1021 0xFFFF false false 0xFFFF 0xD64E
    let gsm := Catalogue.published "CRC-16/GSM" 16 0x1021 0x0000 false false 0xFFFF 0xCE3C
    8 ∣ c.model.width ∧ c.model.refIn = c.model.refOut ∧ c.model.poly &&& 1 = 1 ∧
      [(0x6E : UInt8), 0x90].length = c.model.width / 8 ∧
      (c.checksum (Model.checkMessage ++ [0x6E, 0x90]) = c.intact ↔
        [0x6E, 0x90] = c.model.trailer (c.checksum Model.checkMessage)) ∧
      gsm.model.parameters = { genibus.model.parameters with init := gsm.model.init } ∧
      (Calculator.ofAlgorithm gsm .byteTable).intact =
        (Calculator.ofAlgorithm genibus .bitSerial).intact := by
  intro c genibus gsm
  obtain ⟨hframe, hinit⟩ := checksum_append_eq_intact_iff
  have h8 : 8 ∣ c.model.width := by decide
  have hodd : c.model.poly &&& 1 = 1 := by decide
  have hlen : [(0x6E : UInt8), 0x90].length = c.model.width / 8 := by decide
  have hparameters :
      gsm.model.parameters = { genibus.model.parameters with init := gsm.model.init } := by decide
  exact ⟨h8, rfl, hodd, hlen, hframe c Model.checkMessage [0x6E, 0x90] h8 rfl hodd hlen, hparameters,
    hinit (.ofAlgorithm genibus .bitSerial) (.ofAlgorithm gsm .byteTable) hparameters⟩

example : (Calculator.ofAlgorithm Catalogue.crc16IbmSdlc .nibbleTable).intact = 0x0F47 := by
  decide +kernel

end CyclicRedundancy
