import CyclicRedundancy.Catalogue
import CyclicRedundancy.Command.Report
import CyclicRedundancy.Preset

/-!
# The demonstration

A program that computes a few checksums in different ways: by a preset, by an algorithm of the
catalogue, and by a model of its own that is fed word by word. If it is given the path of a file it
adds the checksum of the file.
-/

namespace CyclicRedundancy.Command

/-- The message of the demonstration, word by word. -/
def pangram : List String :=
  ["The", "quick", "brown", "fox", "jumps", "over", "the", "lazy", "dog"]

/-- The parameters of the model of its own. -/
def demonstrationParameters : Parameters where
  width := 21
  poly := 0x102899
  init := 0
  refIn := false
  refOut := false
  xorOut := 0

/-- A word, with zeros in front up to a given number of digits. -/
def padded (count : Nat) (v : UInt64) : String := String.ofList (Text.Hex.fixed count v.toNat)

/-- The lines that do not depend on the arguments. -/
def showcase : Except Error (List String) := do
  let message := Text.Utf8.encode (" ".intercalate pangram)
  let preset := Preset.crc32IsoHdlc
  let named := Calculator.ofAlgorithm Catalogue.crc64Xz .nibbleTable
  let model ← Model.ofParameters demonstrationParameters
  let calculation := Running.feedAll (Calculator.ofModel model .bitSerial).calculation
    (pangram.map Text.Utf8.encode)
  return ["Crc32 preset:       " ++ padded 8 (preset.widen (preset.checksum message)),
    named.name.getD "?" ++ ": " ++ padded 16 (named.checksum message),
    Text.wrapped "custom " model.display ++ ": " ++ padded 6 calculation.checksumOf]

/-- What is reported on a file, under the algorithm that is usual. -/
def fileReport (w : World) (path : String) : Report :=
  let (calculator, _, surroundings) := Catalogue.calculator (.start w.environment) "CRC-32/ISO-HDLC"
  match calculator with
  | .error error => { complaints := ["Error: " ++ error.inspect], ending := .failure }
  | .ok calculator =>
    match (calculator.drainPath surroundings (w.opener (.ofList w.input)) path).1 with
    | none => { ending := .panic Buffer.tooLarge }
    | some filed =>
      let touched := if filed.touched then [path] else []
      match filed.result with
      | .ok checksum =>
        { output := [padded 8 checksum ++ "  " ++ path], touched, ending := .success }
      | .error error => { complaints := ["Error: " ++ error.inspect], touched, ending := .failure }

/-- What the demonstration does with its arguments, of which only the first counts. -/
def demonstrate (w : World) (arguments : List String) : Report :=
  match showcase with
  | .error error => { complaints := ["Error: " ++ error.inspect], ending := .failure }
  | .ok lines =>
    match arguments.head?.map (fileReport w) with
    | none => { output := lines, ending := .success }
    | some report => { report with output := lines ++ report.output }

end CyclicRedundancy.Command
