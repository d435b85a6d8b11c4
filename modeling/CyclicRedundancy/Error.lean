import CyclicRedundancy.Failure
import CyclicRedundancy.Method
import CyclicRedundancy.Text.Numeral

/-!
# Errors

What can go wrong when parameters are built, names are looked up, check values are compared and
streams are read.
-/

namespace CyclicRedundancy

/-- The errors of this library. -/
inductive Error where
  /-- Parameters with a width outside `1..64`. -/
  | invalidWidth (bits : Nat)
  /-- A scratch buffer that holds no byte. -/
  | emptyBuffer
  /-- A name that no algorithm of the catalogue has. -/
  | unknownAlgorithm
  /-- A name that no method has. -/
  | unknownMethod
  /-- An algorithm that does not reproduce its check value. -/
  | checkMismatch (algorithm : String) (method : Method) (expected actual : UInt64)
  /-- A stream that refused. -/
  | stream (failure : Failure)
  deriving DecidableEq, Repr, Inhabited

namespace Error

/-- The short name of an error. -/
def name : Error → String
  | invalidWidth _ => "InvalidWidth"
  | emptyBuffer => "EmptyParameters"
  | unknownAlgorithm => "UnknownAlgorithm"
  | unknownMethod => "UnknownStrategy"
  | checkMismatch .. => "CheckMismatch"
  | stream _ => "Io"

/-- The wording of an error. -/
def message : Error → String
  | invalidWidth bits => "invalid CRC width " ++ toString bits ++ ": expected 1..=64 bits"
  | emptyBuffer => "empty scratch buffer"
  | unknownAlgorithm => "unknown CRC algorithm"
  | unknownMethod => "unknown strategy (expected table8, table4 or bits)"
  | checkMismatch algorithm method expected actual =>
    Text.wrapped algorithm method.label ++ ": check mismatch, expected " ++
      Text.Hex.marked expected ++ ", got " ++ Text.Hex.marked actual
  | stream failure => "i/o error: " ++ failure.message

/-- The wording of what lies behind an error, where something else does. -/
def cause? : Error → Option String
  | stream failure => some failure.message
  | _ => none

/-- An error as shown to a developer. -/
def inspect : Error → String
  | invalidWidth bits => Text.record "InvalidWidth" [("bits", toString bits)]
  | checkMismatch algorithm method expected actual =>
    Text.record "CheckMismatch"
      [("algorithm", Text.quoted algorithm), ("strategy", method.label),
        ("expected", toString expected), ("actual", toString actual)]
  | stream failure => Text.wrapped "Io" failure.inspect
  | error => error.name

end Error

/-- The method that a text chooses, or the error that none has such a name. -/
def Method.parse (typed : String) : Except Error Method :=
  match Method.parse? typed with
  | some method => .ok method
  | none => .error .unknownMethod

end CyclicRedundancy
