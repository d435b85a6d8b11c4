import CyclicRedundancy.Command.Options
import CyclicRedundancy.Command.Report

/-!
# The command

The checksums of files under an algorithm of the catalogue, one line per input on standard output.
An input that cannot be read gets a line on standard error instead and does not stop the others. One
scratch buffer serves all inputs, and standard input, which may be named more than once and by a
path too, is used up by the first time. The report says which inputs were touched.
-/

namespace CyclicRedundancy.Command

/-- What is shown when help is asked for. -/
def help : List String :=
  ["crcsum: compute CRC checksums with any catalogue algorithm",
    "",
    "USAGE:",
    "  crcsum [OPTIONS] [FILE]...",
    "",
    "OPTIONS:",
    "  -a, --algorithm <name>  Catalogue algorithm (default CRC-32/ISO-HDLC)",
    "  -s, --strategy <label>  table8, table4 or bits (default from CRC_ENGINE_STRATEGY)",
    "  -b, --buffer <bytes>    Read buffer size (default from CRC_ENGINE_FILE_BUFFER)",
    "  -l, --list              List catalogue algorithms and exit",
    "      --self-test         Verify every algorithm under every strategy and exit",
    "",
    "With no FILE, or when FILE is -, read standard input.",
    ""]

/-- The line for an input: the checksum with all the digits of its width, and the name. -/
def line (checksum : UInt64) (bits : Nat) (name : String) : String :=
  String.ofList (Text.Hex.fixed (Text.Hex.digits bits) checksum.toNat) ++ "  " ++ name

/-- The line for an input that could not be read. -/
def complaint (name : String) (error : Error) : String :=
  "crcsum: " ++ name ++ ": " ++ error.message

/-- What the inputs share: standard input and the scratch buffer. -/
structure Shared where
  /-- What is left of standard input. -/
  input : Cursor
  /-- The scratch buffer. -/
  buffer : Buffer

/-- An input and what became of it. -/
structure Visited where
  /-- The name of the input. -/
  name : String
  /-- Its checksum, or the error that kept it from being read. -/
  result : Except Error UInt64
  /-- Whether it was read from, or there was an attempt to open it. -/
  touched : Bool

/-- What becomes of one input, and what is shared with the inputs after it. -/
def visit (c : Calculator) (opener : Cursor → Calculator.Opener) (s : Shared) (name : String) :
    Visited × Shared :=
  if name = "-" then
    let drained := c.drain s.input s.buffer
    ({ name, result := drained.result, touched := drained.touched },
      { input := drained.rest, buffer := drained.buffer })
  else
    let filed := c.drainFile (opener s.input) name s.buffer
    ({ name, result := filed.result, touched := filed.touched },
      { input := filed.inputLeft s.input, buffer := filed.buffer })

/-- What becomes of the inputs, in order. -/
def visitAll (c : Calculator) (opener : Cursor → Calculator.Opener) (s : Shared) :
    List String → List Visited
  | [] => []
  | name :: names =>
    let (visited, s) := visit c opener s name
    visited :: visitAll c opener s names

/-- The line on standard output for an input, if it was read. -/
def Visited.line? (bits : Nat) (v : Visited) : Option String :=
  match v.result with
  | .ok checksum => some (line checksum bits v.name)
  | .error _ => none

/-- The line on standard error for an input, if it was not read. -/
def Visited.complaint? (v : Visited) : Option String :=
  match v.result with
  | .ok _ => none
  | .error error => some (complaint v.name error)

/-- The report on inputs: success means that all were read. -/
def summary (bits : Nat) (visited : List Visited) : Report where
  output := visited.filterMap (Visited.line? bits)
  complaints := visited.filterMap Visited.complaint?
  touched := (visited.filter (·.touched)).map (·.name)
  ending := if visited.all (·.complaint?.isNone) then .success else .failure

/-- The size of the scratch buffer, which the environment settles if the options leave it open. -/
def Options.room (o : Options) (environment : Environment) : Nat :=
  o.buffer.getD (Settings.ofEnvironment environment).fileBuffer

/-- What becomes of the inputs that are named, under an algorithm. No input is visited if no scratch
buffer can be so large. -/
def visits? (w : World) (o : Options) (a : Algorithm) : Option (List Visited) :=
  (Buffer.blank? (o.room w.environment)).map fun buffer =>
    let method := o.method.getD (Settings.ofEnvironment w.environment).method
    visitAll (.ofAlgorithm a method) w.opener { input := .ofList w.input, buffer } o.inputs

/-- The checksums of the inputs. -/
def sum (w : World) (o : Options) : Report :=
  match Catalogue.find o.algorithm with
  | .error error => { complaints := [complaint o.algorithm error], ending := .failure }
  | .ok a =>
    match visits? w o a with
    | none => { ending := .panic Buffer.tooLarge }
    | some visited => summary a.model.width visited

/-- The list of the algorithms. -/
def listing : Report where
  output :=
    Catalogue.algorithms.map Algorithm.display ++
      [toString Catalogue.algorithms.length ++ " algorithms, " ++
        toString Method.all.length ++ " strategies each"]
  ending := .success

/-- The report on a test: the number of entries that passed it, or the first error. -/
def testReport (tested : Except Error Nat) : Report :=
  match tested with
  | .ok entries =>
    { output := ["self-test passed: " ++ toString entries ++ " entries"], ending := .success }
  | .error error =>
    { complaints := ["crcsum self-test failed: " ++ error.message], ending := .failure }

/-- The test of every algorithm under every method. -/
def selfTest : Report := testReport Catalogue.selfTest.1

/-- What the command does with its arguments. -/
def run (w : World) (arguments : List String) : Report :=
  match Options.ofArguments arguments with
  | .error .help => { complaints := help, ending := .success }
  | .error refusal => { complaints := [refusal.message], ending := .failure }
  | .ok o => if o.list then listing else if o.selfTest then selfTest else sum w o

end CyclicRedundancy.Command
