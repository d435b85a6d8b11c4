import CyclicRedundancy.Model.Build
import CyclicRedundancy.Register.Table

/-!
# Calculators

A model bound to one method, with what the method precomputes. A calculator never changes: the state
of a computation is a register, which callers keep.
-/

namespace CyclicRedundancy

/-- What a method precomputes. -/
inductive Prepared where
  /-- The contributions of all bytes. -/
  | byteTable (table : ByteTable)
  /-- The contributions of all nibbles. -/
  | nibbleTable (table : NibbleTable)
  /-- The reflected polynomial. -/
  | bitSerial (reflectedPoly : UInt64)

namespace Prepared

/-- What a method precomputes for a model. -/
def build (m : Model) : Method → Prepared
  | .byteTable => byteTable m.byteTable
  | .nibbleTable => nibbleTable m.nibbleTable
  | .bitSerial => bitSerial m.reflectedPoly

/-- A register of the model after some more bytes. -/
def feed (m : Model) (register : UInt64) (data : List UInt8) : Prepared → UInt64
  | byteTable table => m.feedByBytes table register data
  | nibbleTable table => m.feedByNibbles table register data
  | bitSerial reflectedPoly => m.feedSerially reflectedPoly register data

/-- What a method precomputes, as shown to a developer: tables are not spelled out. -/
def inspect : Prepared → String
  | byteTable _ => "Table8"
  | nibbleTable _ => "Table4"
  | bitSerial reflectedPoly =>
    Text.record "Bits" [("poly_reflected", Text.Hex.marked reflectedPoly)]

end Prepared

/-- A named model. -/
structure Algorithm where
  /-- The name under which the model is published. -/
  name : String
  /-- The model. -/
  model : Model
  deriving DecidableEq

namespace Algorithm

/-- A named model in one line. -/
def display (a : Algorithm) : String := a.name ++ ": " ++ a.model.display

/-- A named model as shown to a developer. -/
def inspect (a : Algorithm) : String :=
  Text.record "Algorithm" [("name", Text.quoted a.name), ("definition", a.model.inspect)]

end Algorithm

/-- A model bound to a method. -/
structure Calculator where
  /-- The name of the algorithm, if the calculator was built from one. -/
  name : Option String
  /-- The model. -/
  model : Model
  /-- The method. -/
  method : Method
  /-- What the method precomputed. -/
  prepared : Prepared
  /-- It was precomputed for this model. -/
  prepared_eq : prepared = Prepared.build model method

namespace Calculator

/-- The calculator of a model without a name. -/
def ofModel (model : Model) (method : Method) : Calculator where
  name := none
  model := model
  method := method
  prepared := Prepared.build model method
  prepared_eq := rfl

/-- The calculator of a named model. -/
def ofAlgorithm (a : Algorithm) (method : Method) : Calculator :=
  { ofModel a.model method with name := some a.name }

/-- The name of the algorithm, or a stand-in. -/
def title (c : Calculator) : String := c.name.getD "custom"

/-- The register with which a message starts. -/
def start (c : Calculator) : UInt64 := c.model.start

/-- A register after some more bytes; bits above the width are dropped first. -/
def feed (c : Calculator) (register : UInt64) (data : List UInt8) : UInt64 :=
  c.prepared.feed c.model (register &&& c.model.mask) data

/-- The checksum that a register stands for. -/
def checksumOf (c : Calculator) (register : UInt64) : UInt64 := c.model.checksumOf register

/-- The checksum of a message. -/
def checksum (c : Calculator) (data : List UInt8) : UInt64 := c.checksumOf (c.feed c.start data)

/-- The checksum that the calculator computes for the standard message. -/
def checkValue (c : Calculator) : UInt64 := c.checksum Model.checkMessage

/-- Whether the calculator reproduces the check value of its model. -/
def verify (c : Calculator) : Except Error Unit :=
  if c.checkValue = c.model.check then .ok ()
  else .error (.checkMismatch c.title c.method c.model.check c.checkValue)

/-- A calculator as shown to a developer. -/
def inspect (c : Calculator) : String :=
  Text.record "Engine"
    [("name", Text.optional (c.name.map Text.quoted)), ("definition", c.model.inspect),
      ("strategy", c.method.label), ("kernel", c.prepared.inspect)]

end Calculator

end CyclicRedundancy
