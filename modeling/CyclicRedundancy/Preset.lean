import CyclicRedundancy.Catalogue.Published
import CyclicRedundancy.Running

/-!
# Presets

Nine algorithms that are chosen when a program is written, each with the narrowest result that holds
its checksum: one, two, four or eight bytes. Their states hold a register alone, and every one is
fed by the table of bytes.
-/

namespace CyclicRedundancy

/-- The algorithms with a preset. -/
inductive Preset where
  | crc8Smbus | crc16Arc | crc16IbmSdlc | crc32IsoHdlc | crc32Iscsi | crc32Bzip2 | crc64Xz
  | crc64Ecma182 | crc64We
  deriving DecidableEq, Repr, Inhabited

namespace Preset

/-- Every preset. -/
def all : List Preset :=
  [crc8Smbus, crc16Arc, crc16IbmSdlc, crc32IsoHdlc, crc32Iscsi, crc32Bzip2, crc64Xz, crc64Ecma182,
    crc64We]

/-- The name of a preset. -/
def name : Preset → String
  | crc8Smbus => "Crc8Smbus"
  | crc16Arc => "Crc16Arc"
  | crc16IbmSdlc => "Crc16IbmSdlc"
  | crc32IsoHdlc => "Crc32IsoHdlc"
  | crc32Iscsi => "Crc32Iscsi"
  | crc32Bzip2 => "Crc32Bzip2"
  | crc64Xz => "Crc64Xz"
  | crc64Ecma182 => "Crc64Ecma182"
  | crc64We => "Crc64We"

/-- The short name of the preset that is usual for its width. -/
def alias? : Preset → Option String
  | crc8Smbus => some "Crc8"
  | crc16Arc => some "Crc16"
  | crc32IsoHdlc => some "Crc32"
  | crc64Xz => some "Crc64"
  | _ => none

/-- The preset of a given name or short name. -/
def ofName? (text : String) : Option Preset :=
  all.find? fun p => p.name == text || p.alias? == some text

/-- The algorithm of a preset. -/
def algorithm : Preset → Algorithm
  | crc8Smbus => Catalogue.crc8Smbus
  | crc16Arc => Catalogue.crc16Arc
  | crc16IbmSdlc => Catalogue.crc16IbmSdlc
  | crc32IsoHdlc => Catalogue.crc32IsoHdlc
  | crc32Iscsi => Catalogue.crc32Iscsi
  | crc32Bzip2 => Catalogue.crc32Bzip2
  | crc64Xz => Catalogue.crc64Xz
  | crc64Ecma182 => Catalogue.crc64Ecma182
  | crc64We => Catalogue.crc64We

/-- The number of bytes of the result. -/
def outputSize : Preset → Nat
  | crc8Smbus => 1
  | crc16Arc | crc16IbmSdlc => 2
  | crc32IsoHdlc | crc32Iscsi | crc32Bzip2 => 4
  | crc64Xz | crc64Ecma182 | crc64We => 8

/-- The results of a preset. -/
abbrev Output (p : Preset) : Type := BitVec (8 * p.outputSize)

/-- The part of a word that a result of the preset holds. -/
def narrow (p : Preset) (v : UInt64) : p.Output := v.toBitVec.setWidth _

/-- A result as a word. -/
def widen (p : Preset) (v : p.Output) : UInt64 := ⟨v.setWidth 64⟩

/-- The calculator of a preset. -/
def calculator (p : Preset) : Calculator := .ofAlgorithm p.algorithm .byteTable

/-- A running checksum of a preset. -/
structure State (p : Preset) where
  /-- The register so far. -/
  register : UInt64
  deriving DecidableEq, Repr

namespace State

variable {p : Preset}

/-- The state before the first byte of a message. -/
def new : State p := ⟨p.algorithm.model.start⟩

/-- The state that goes on after bytes with the given checksum. -/
def resume (checksum : p.Output) : State p := ⟨p.algorithm.model.registerOf (p.widen checksum)⟩

/-- The state after some more bytes. -/
def feed (s : State p) (data : List UInt8) : State p := ⟨p.calculator.feed s.register data⟩

/-- The checksum of the bytes so far. -/
def checksumOf (s : State p) : p.Output := p.narrow (p.calculator.checksumOf s.register)

/-- The state before the first byte of a message, whatever was fed before. -/
def reset (_ : State p) : State p := new

instance : Running (State p) where
  feed := feed
  value s := p.widen s.checksumOf
  reset := reset
  fresh _ := new
  resume _ checksum := resume (p.narrow checksum)

/-- A state as shown to a developer. -/
def inspect (s : State p) : String := Text.record p.name [("state", toString s.register)]

end State

/-- The checksum of a message. -/
def checksum (p : Preset) (data : List UInt8) : p.Output := (State.new.feed data).checksumOf

/-- The checksum of the bytes of some buffers, in order. -/
def checksumAll (p : Preset) (buffers : List (List UInt8)) : p.Output :=
  (Running.feedAll State.new buffers : State p).checksumOf

end Preset

end CyclicRedundancy
