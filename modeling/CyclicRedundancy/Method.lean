import CyclicRedundancy.Text.Label

/-!
# Methods

The three ways of feeding bytes to a register. They give the same registers and differ in the size
of their tables and in the work per byte.
-/

namespace CyclicRedundancy

/-- A way of feeding bytes to a register. -/
inductive Method where
  /-- One look-up per byte, in a table of 256 entries. -/
  | byteTable
  /-- Two look-ups per byte, in a table of 16 entries. -/
  | nibbleTable
  /-- Eight shifts per byte and no table. -/
  | bitSerial
  deriving DecidableEq, Repr, Inhabited

namespace Method

/-- Every method, in the order in which they are listed. -/
def all : List Method := [byteTable, nibbleTable, bitSerial]

/-- The method for callers who do not choose one. -/
def standard : Method := byteTable

/-- The name shown in messages. -/
def label : Method → String
  | byteTable => "Table8"
  | nibbleTable => "Table4"
  | bitSerial => "Bits"

/-- The name by which a method is chosen. -/
def identifier : Method → String
  | byteTable => "table8"
  | nibbleTable => "table4"
  | bitSerial => "bits"

/-- Every name by which a method may be chosen, the identifier first. -/
def spellings : Method → List String
  | byteTable => ["table8", "table", "auto"]
  | nibbleTable => ["table4", "nibble"]
  | bitSerial => ["bits", "bitwise", "reference"]

/-- The method that a text chooses, if it spells one of their names. -/
def parse? (typed : String) : Option Method :=
  all.find? fun method => method.spellings.any (Text.spells typed)

/-- The place of a method in the list of all. -/
def index (method : Method) : Nat := all.idxOf method

end Method

end CyclicRedundancy
