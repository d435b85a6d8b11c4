import CyclicRedundancy.Text.Numeral
import CyclicRedundancy.Text.Inspect
import CyclicRedundancy.Word

/-!
# Parametrised models

A cyclic redundancy check is described by the parameters under which catalogues publish it: the
width of its register, the generator polynomial, the initial register, two reflection flags, a value
added at the end, and the checksum of a standard message. A `Model` holds such a description with
every word cut to the width.

The register of a model that reads bytes from their lowest bit is kept reflected, so that its
initial value and its polynomial are reflected too. `checksumOf` turns a register into the published
checksum and `registerOf` leads back.
-/

namespace CyclicRedundancy

/-- The parameters of a model as a caller states them; words may have bits above the width. -/
structure Parameters where
  /-- The width of the register in bits. -/
  width : Nat
  /-- The generator polynomial, without its highest term; bit `i` belongs to the power `i`. -/
  poly : UInt64
  /-- The initial register, as published. -/
  init : UInt64
  /-- Whether the bits of a byte are taken from the lowest. -/
  refIn : Bool
  /-- Whether the register is reflected at the end. -/
  refOut : Bool
  /-- The value added to the register at the end. -/
  xorOut : UInt64
  deriving DecidableEq, Repr, Inhabited

/-- A parametrised cyclic redundancy check. -/
structure Model where
  /-- The width of the register in bits. -/
  width : Nat
  /-- The generator polynomial, without its highest term; bit `i` belongs to the power `i`. -/
  poly : UInt64
  /-- The initial register, as published. -/
  init : UInt64
  /-- Whether the bits of a byte are taken from the lowest. -/
  refIn : Bool
  /-- Whether the register is reflected at the end. -/
  refOut : Bool
  /-- The value added to the register at the end. -/
  xorOut : UInt64
  /-- The checksum that the standard message should have. -/
  check : UInt64
  /-- A register has at least one bit. -/
  width_pos : 0 < width
  /-- A register fits in a word. -/
  width_le : width ≤ 64
  /-- The polynomial has no bit above the width. -/
  poly_fits : poly &&& Word.mask width = poly
  /-- The initial register has no bit above the width. -/
  init_fits : init &&& Word.mask width = init
  /-- The value added at the end has no bit above the width. -/
  xorOut_fits : xorOut &&& Word.mask width = xorOut
  /-- The check value has no bit above the width. -/
  check_fits : check &&& Word.mask width = check
  deriving DecidableEq

namespace Model

/-- The message whose checksum is published with every model: the digits one to nine. -/
def checkMessage : List UInt8 := [0x31, 0x32, 0x33, 0x34, 0x35, 0x36, 0x37, 0x38, 0x39]

/-- The model of some parameters and a check value, every word cut to the width. -/
def cut (p : Parameters) (check : UInt64) (width_pos : 0 < p.width) (width_le : p.width ≤ 64) :
    Model where
  width := p.width
  poly := p.poly &&& Word.mask p.width
  init := p.init &&& Word.mask p.width
  refIn := p.refIn
  refOut := p.refOut
  xorOut := p.xorOut &&& Word.mask p.width
  check := check &&& Word.mask p.width
  width_pos := width_pos
  width_le := width_le
  poly_fits := Word.and_mask_idem ..
  init_fits := Word.and_mask_idem ..
  xorOut_fits := Word.and_mask_idem ..
  check_fits := Word.and_mask_idem ..

/-- The parameters of a model. -/
def parameters (m : Model) : Parameters where
  width := m.width
  poly := m.poly
  init := m.init
  refIn := m.refIn
  refOut := m.refOut
  xorOut := m.xorOut

/-- The same model with another check value. -/
def withCheck (m : Model) (check : UInt64) : Model :=
  { m with check := check &&& Word.mask m.width, check_fits := Word.and_mask_idem .. }

/-- All the bits of the register. -/
def mask (m : Model) : UInt64 := Word.mask m.width

/-- The highest bit of the register. -/
def topBit (m : Model) : UInt64 := Word.topBit m.width

/-- The register with which a message starts. -/
def start (m : Model) : UInt64 := if m.refIn then Word.reflect m.init m.width else m.init

/-- The polynomial with its bits in the opposite order, for registers that are kept reflected. -/
def reflectedPoly (m : Model) : UInt64 := Word.reflect m.poly m.width

/-- The checksum that a register stands for. The register is reflected exactly if the two flags
differ, because one kept reflected already has the order of a reflected result. -/
def checksumOf (m : Model) (register : UInt64) : UInt64 :=
  let register := register &&& m.mask
  let out := if m.refIn ≠ m.refOut then Word.reflect register m.width else register
  (out ^^^ m.xorOut) &&& m.mask

/-- The register that a checksum stands for. -/
def registerOf (m : Model) (checksum : UInt64) : UInt64 :=
  let register := (checksum ^^^ m.xorOut) &&& m.mask
  if m.refIn ≠ m.refOut then Word.reflect register m.width else register

/-- A word of the model with all the digits of its width. -/
def digits (m : Model) (v : UInt64) : List Char := Text.Hex.fixed (Text.Hex.digits m.width) v.toNat

/-- A model in one line. -/
def display (m : Model) : String :=
  "width=" ++ toString m.width ++
    " poly=0x" ++ String.ofList (m.digits m.poly) ++
    " init=0x" ++ String.ofList (m.digits m.init) ++
    " refin=" ++ toString m.refIn ++
    " refout=" ++ toString m.refOut ++
    " xorout=0x" ++ String.ofList (m.digits m.xorOut) ++
    " check=0x" ++ String.ofList (m.digits m.check)

/-- A model as shown to a developer. -/
def inspect (m : Model) : String :=
  Text.record "Definition"
    [("bits", toString m.width), ("poly", toString m.poly), ("init", toString m.init),
      ("ref_in", toString m.refIn), ("ref_out", toString m.refOut),
      ("xor_out", toString m.xorOut), ("check", toString m.check)]

end Model

end CyclicRedundancy
