import CyclicRedundancy.Register.Serial

/-!
# Feeding from tables

Two ways of feeding that look contributions up instead of computing them. The table of bytes has an
entry for every byte. The table of nibbles has sixteen: a reflected register takes the low nibble of
a byte first, so its entries are the contributions of the bytes with a zero low nibble; a forward
register takes the high nibble first, and its entries are the contributions of the bytes below
sixteen.
-/

namespace CyclicRedundancy

/-- A table of the contributions of bytes. -/
abbrev ByteTable := Vector UInt64 256

/-- A table of the contributions of nibbles. -/
abbrev NibbleTable := Vector UInt64 16

/-- The lower half of a byte. -/
def lowNibble (byte : UInt8) : Fin 16 := Fin.ofNat 16 byte.toNat

namespace Model

/-- What a byte contributes to the register of a model. -/
def contribution (m : Model) (reflectedPoly : UInt64) (byte : UInt8) : UInt64 :=
  if m.refIn then Register.reflectedByte reflectedPoly byte
  else Register.forwardByte m.width m.poly byte

/-- The contributions of all bytes. -/
def byteTable (m : Model) : ByteTable :=
  let reflectedPoly := m.reflectedPoly
  Vector.ofFn fun k : Fin 256 => m.contribution reflectedPoly (UInt8.ofNat k)

/-- The contributions of all nibbles. -/
def nibbleTable (m : Model) : NibbleTable :=
  let reflectedPoly := m.reflectedPoly
  Vector.ofFn fun k : Fin 16 =>
    m.contribution reflectedPoly (if m.refIn then UInt8.ofNat (16 * k) else UInt8.ofNat k)

/-- A register after one more byte, by one look-up. -/
def byteStep (m : Model) (table : ByteTable) (register : UInt64) (byte : UInt8) : UInt64 :=
  match m.layout 8 with
  | .reflected => (register >>> 8) ^^^ table[(register.toUInt8 ^^^ byte).toFin]
  | .wide =>
    let index := (register >>> UInt64.ofNat (m.width - 8)).toUInt8 ^^^ byte
    ((register <<< 8) ^^^ table[index.toFin]) &&& m.mask
  | .narrow =>
    let index := (register <<< UInt64.ofNat (8 - m.width)).toUInt8 ^^^ byte
    table[index.toFin]

/-- A register after some more bytes, by one look-up each. -/
def feedByBytes (m : Model) (table : ByteTable) (register : UInt64) (data : List UInt8) : UInt64 :=
  data.foldl (m.byteStep table) register

/-- A register after one more nibble, which is the lower half of `half`. -/
def nibbleStep (m : Model) (table : NibbleTable) (register : UInt64) (half : UInt8) : UInt64 :=
  match m.layout 4 with
  | .reflected => table[lowNibble (register.toUInt8 ^^^ half)] ^^^ (register >>> 4)
  | .wide =>
    let index := lowNibble ((register >>> UInt64.ofNat (m.width - 4)).toUInt8 ^^^ half)
    (table[index] ^^^ (register <<< 4)) &&& m.mask
  | .narrow =>
    let index := lowNibble ((register <<< UInt64.ofNat (4 - m.width)).toUInt8 ^^^ half)
    table[index]

/-- A register after one more byte, by two look-ups in the order of the model's bits. -/
def nibblesStep (m : Model) (table : NibbleTable) (register : UInt64) (byte : UInt8) : UInt64 :=
  if m.refIn then m.nibbleStep table (m.nibbleStep table register byte) (byte >>> 4)
  else m.nibbleStep table (m.nibbleStep table register (byte >>> 4)) byte

/-- A register after some more bytes, by two look-ups each. -/
def feedByNibbles (m : Model) (table : NibbleTable) (register : UInt64) (data : List UInt8) :
    UInt64 :=
  data.foldl (m.nibblesStep table) register

end Model

end CyclicRedundancy
