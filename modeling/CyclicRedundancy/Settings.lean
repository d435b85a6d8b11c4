import CyclicRedundancy.Method
import CyclicRedundancy.Text.Numeral
import CyclicRedundancy.Text.Inspect
import CyclicRedundancy.Text.Utf8

/-!
# Settings

Two variables of the environment change what is used when a caller makes no choice: the method and
the size of the scratch buffer for files. A variable that cannot be read changes nothing, and
neither affects the other's setting.
-/

namespace CyclicRedundancy

/-- The bytes of each variable that is set. -/
abbrev Environment := String → Option (List UInt8)

/-- No variable is set. -/
def Environment.empty : Environment := fun _ => none

/-- What is used when a caller makes no choice. -/
structure Settings where
  /-- The method. -/
  method : Method
  /-- The size of the scratch buffer for files. -/
  fileBuffer : Nat
  deriving DecidableEq, Repr, Inhabited

namespace Settings

/-- The variable that names a method. -/
def methodVariable : String := "CRC_ENGINE_STRATEGY"

/-- The variable that gives the size of the scratch buffer. -/
def fileBufferVariable : String := "CRC_ENGINE_FILE_BUFFER"

/-- The settings when no variable is set. -/
def standard : Settings where
  method := .standard
  fileBuffer := 4096

/-- What the environment asks for. -/
structure Requested where
  /-- The method, if one is named. -/
  method : Option Method
  /-- The size of the scratch buffer, if one is given. -/
  fileBuffer : Option Nat
  deriving DecidableEq, Repr, Inhabited

namespace Requested

/-- Nothing is asked for. -/
def none : Requested where
  method := .none
  fileBuffer := .none

/-- The text of a variable, if it is set to well-formed bytes. -/
def text? (environment : Environment) (key : String) : Option String :=
  environment key >>= Text.Utf8.decode?

/-- What an environment asks for. -/
def ofEnvironment (environment : Environment) : Requested where
  method := text? environment methodVariable >>= Method.parse?
  fileBuffer := text? environment fileBufferVariable >>= fun text =>
    Text.Decimal.read? Text.Decimal.wordLimit (Text.trim text.toList)

/-- The settings that result; a buffer has room for one byte at least. -/
def apply (o : Requested) : Settings where
  method := o.method.getD standard.method
  fileBuffer := (o.fileBuffer.map (max 1)).getD standard.fileBuffer

/-- What is asked for, as shown to a developer. -/
def inspect (o : Requested) : String :=
  Text.record "Overrides"
    [("strategy", Text.optional (o.method.map Method.label)),
      ("file_buffer", Text.optional (o.fileBuffer.map toString))]

end Requested

/-- The settings in an environment. -/
def ofEnvironment (environment : Environment) : Settings :=
  (Requested.ofEnvironment environment).apply

theorem fileBuffer_ofEnvironment_ne_zero (environment : Environment) :
    (ofEnvironment environment).fileBuffer ≠ 0 := by
  unfold ofEnvironment Requested.apply
  cases (Requested.ofEnvironment environment).fileBuffer with
  | none => exact (by decide : standard.fileBuffer ≠ 0)
  | some size =>
    have hle := Nat.le_max_left 1 size
    exact Nat.ne_of_gt hle

end Settings

end CyclicRedundancy
