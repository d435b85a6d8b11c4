import CyclicRedundancy.Model

/-!
# Bit-serial feeding

The way of feeding without a table, with which the others have to agree, and the checksum that it
gives. The reflected polynomial is handed in, so that it is computed once for many bytes.

What one byte adds to a register is computed by dividing bit by bit. There are two forms. In the
forward form a byte enters a zero register at its upper end, highest bit first; bits that leave the
register may pile up above the width until they are cut off at the end. In the reflected form the
byte is the register, and eight shifts toward the low end divide it away.

The layout of a register says where the bits that meet the next input stand. If the input is taken
some bits at a time, a reflected register meets it with its low bits, a forward register with its
upper bits, and a forward register no wider than the input with all its bits, moved up to the
input's upper end.
-/

namespace CyclicRedundancy

namespace Register

/-- One bit enters at the upper end of a register `width` bits wide. -/
def feedForward (width : Nat) (poly : UInt64) (register : UInt64) (bit : Bool) : UInt64 :=
  let register := if bit then register ^^^ Word.topBit width else register
  if register &&& Word.topBit width ≠ 0 then (register <<< 1) ^^^ poly else register <<< 1

/-- The bits of a byte, the highest first. -/
def bitsFromTop (byte : UInt8) : List Bool :=
  [byte.toBitVec.getLsbD 7, byte.toBitVec.getLsbD 6, byte.toBitVec.getLsbD 5,
    byte.toBitVec.getLsbD 4, byte.toBitVec.getLsbD 3, byte.toBitVec.getLsbD 2,
    byte.toBitVec.getLsbD 1, byte.toBitVec.getLsbD 0]

/-- What a byte contributes to a register whose upper end is its input. -/
def forwardByte (width : Nat) (poly : UInt64) (byte : UInt8) : UInt64 :=
  (bitsFromTop byte).foldl (feedForward width poly) 0 &&& Word.mask width

/-- One shift of a reflected register: the lowest bit leaves, and if it is set the reflected
polynomial is subtracted. -/
def shiftReflected (reflectedPoly : UInt64) (register : UInt64) : UInt64 :=
  if register &&& 1 ≠ 0 then (register >>> 1) ^^^ reflectedPoly else register >>> 1

/-- Some shifts of a reflected register. -/
def shiftsReflected (reflectedPoly : UInt64) : Nat → UInt64 → UInt64
  | 0, register => register
  | count + 1, register =>
    shiftsReflected reflectedPoly count (shiftReflected reflectedPoly register)

/-- What a byte contributes to a register that is kept reflected. -/
def reflectedByte (reflectedPoly : UInt64) (byte : UInt8) : UInt64 :=
  shiftsReflected reflectedPoly 8 byte.toUInt64

end Register

/-- How a register meets its input. -/
inductive Layout where
  /-- With its low bits. -/
  | reflected
  /-- With its upper bits, of which it has more than the input. -/
  | wide
  /-- With all its bits. -/
  | narrow
  deriving DecidableEq, Repr

/-- The layout of a model's register for input taken `count` bits at a time. -/
def Model.layout (m : Model) (count : Nat) : Layout :=
  if m.refIn then .reflected else if count < m.width then .wide else .narrow

namespace Model

/-- A register after one more byte, by eight shifts. -/
def serialStep (m : Model) (reflectedPoly : UInt64) (register : UInt64) (byte : UInt8) : UInt64 :=
  match m.layout 8 with
  | .reflected =>
    (register >>> 8) ^^^ Register.reflectedByte reflectedPoly (register.toUInt8 ^^^ byte)
  | .wide =>
    let index := (register >>> UInt64.ofNat (m.width - 8)).toUInt8 ^^^ byte
    ((register <<< 8) ^^^ Register.forwardByte m.width m.poly index) &&& m.mask
  | .narrow =>
    let index := (register <<< UInt64.ofNat (8 - m.width)).toUInt8 ^^^ byte
    Register.forwardByte m.width m.poly index

/-- A register after some more bytes, by eight shifts each. -/
def feedSerially (m : Model) (reflectedPoly : UInt64) (register : UInt64) (data : List UInt8) :
    UInt64 :=
  data.foldl (m.serialStep reflectedPoly) register

/-- The checksum of a message, by eight shifts per byte. -/
def serialChecksum (m : Model) (data : List UInt8) : UInt64 :=
  m.checksumOf (m.feedSerially m.reflectedPoly m.start data)

end Model

end CyclicRedundancy
