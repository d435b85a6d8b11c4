import CyclicRedundancy.Calculator
import CyclicRedundancy.Running

/-!
# Calculations

The running checksum of a calculator: the calculator and a register. A calculation starts with a
message, or resumes from the checksum of the bytes before it.
-/

namespace CyclicRedundancy

/-- A running checksum. -/
structure Calculation where
  /-- The calculator that is fed. -/
  calculator : Calculator
  /-- The register so far. -/
  register : UInt64

/-- A calculation with a given register; bits above the width are dropped. -/
def Calculation.ofRegister (calculator : Calculator) (register : UInt64) : Calculation where
  calculator := calculator
  register := register &&& calculator.model.mask

namespace Calculator

/-- The calculation of a new message. -/
def calculation (c : Calculator) : Calculation := .ofRegister c c.start

/-- The calculation that goes on after bytes with the given checksum. -/
def resume (c : Calculator) (checksum : UInt64) : Calculation :=
  .ofRegister c (c.model.registerOf checksum)

end Calculator

namespace Calculation

/-- The calculation after some more bytes. -/
def feed (c : Calculation) (data : List UInt8) : Calculation :=
  { c with register := c.calculator.feed c.register data }

/-- The checksum of the bytes so far. -/
def checksumOf (c : Calculation) : UInt64 := c.calculator.checksumOf c.register

/-- The calculation before the first byte of a message, whatever it was resumed from. -/
def reset (c : Calculation) : Calculation := { c with register := c.calculator.start }

instance : Running Calculation where
  feed := feed
  value := checksumOf
  reset := reset
  fresh c := c.calculator.calculation
  resume c checksum := c.calculator.resume checksum

/-- A calculation as shown to a developer. -/
def inspect (c : Calculation) : String :=
  Text.record "Digest" [("engine", c.calculator.inspect), ("register", toString c.register)]

end Calculation

end CyclicRedundancy
