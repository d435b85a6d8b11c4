import CyclicRedundancy.Command.Run
import CyclicRedundancy.Files

/-!
# The program

The command line program: it collects what the command needs to know, and writes its report.
-/

namespace CyclicRedundancy.Command

/-- The failure that an error of input or output stands for. The system's number may be negated. -/
def failureOf : IO.Error → Failure
  | .noFileOrDirectory .. => .system .notFound
  | .inappropriateType _ code _ => .system (if code = 21 then .isADirectory else .notADirectory)
  | .invalidArgument _ code _ =>
    if code = 36 ∨ code = -36 then .system .nameTooLong
    else .reported .invalidInput "Invalid argument (os error 22)"
  | .permissionDenied .. => .reported .permissionDenied "Permission denied (os error 13)"
  | error => .reported .other error.toString

/-- Opens a path by reading all of it. -/
def openPath (path : String) : IO (Except Failure Handle) := do
  try
    let bytes ← IO.FS.readBinFile path
    return .ok (.file ⟨bytes.data, 0⟩)
  catch error => return .error (failureOf error)

/-- The variables that the settings depend on. -/
def readEnvironment : IO Environment := do
  let method ← IO.getEnv Settings.methodVariable
  let fileBuffer ← IO.getEnv Settings.fileBufferVariable
  return fun key =>
    if key = Settings.methodVariable then method.map Text.Utf8.encode
    else if key = Settings.fileBufferVariable then fileBuffer.map Text.Utf8.encode
    else none

/-- Whether a path leads to standard input itself. If that is redirected from a file, its names lead
to the file instead, which has a path without them. -/
def sharesInput (path : String) : IO Bool := do
  if Files.namesInput path then
    try
      let _ ← IO.FS.realPath path
      return false
    catch _ => return true
  else return false

/-- What the program finds, as far as its arguments need it. Which inputs it touches does not depend
on what there is to find, so it is learnt from a run that finds nothing. -/
def readWorld (arguments : List String) : IO World := do
  let environment ← readEnvironment
  let absent : Calculator.Opener := fun _ => .error (.system .notFound)
  let nothing : World := { environment, opener := fun _ => absent, input := [] }
  let names := (run nothing arguments).touched
  let files ← names.filterMapM fun name => do
    if name = "-" ∨ (← sharesInput name) then return none
    else return some (name, ← openPath name)
  let input ←
    if files.length = names.length then pure ByteArray.empty
    else (← IO.getStdin).readBinToEnd
  return {
    environment
    opener := fun input path => (files.lookup path).getD (.ok (.input input))
    input := input.data.toList }

end CyclicRedundancy.Command

open CyclicRedundancy.Command in
def main (arguments : List String) : IO UInt32 := do
  let report := run (← readWorld arguments) arguments
  IO.print (Report.text report.output)
  IO.eprint (Report.text report.complaints)
  if let .panic message := report.ending then IO.eprintln message
  return UInt32.ofNat report.code
