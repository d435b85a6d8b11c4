import CyclicRedundancy.Catalogue
import CyclicRedundancy.Text.Numeral

/-!
# Options of the command

The arguments of the command, read from the left. A mark may be followed by a value, which is taken
whatever it looks like; two dashes end the marks, and all that follows names inputs. Reading stops
at the first argument that cannot be accepted.
-/

namespace CyclicRedundancy.Command

/-- What the command is asked to do. -/
structure Options where
  /-- List the algorithms. -/
  list : Bool := false
  /-- Test every algorithm under every method. -/
  selfTest : Bool := false
  /-- The name of the algorithm. -/
  algorithm : String := Catalogue.crc32IsoHdlc.name
  /-- The method, if one is chosen. -/
  method : Option Method := none
  /-- The size of the scratch buffer, if one is chosen. -/
  buffer : Option Nat := none
  /-- The inputs, as far as any are named. -/
  files : List String := []
  deriving DecidableEq, Repr

/-- Why arguments are not accepted. -/
inductive Refusal where
  /-- Help is asked for. -/
  | help
  /-- The value of a mark is missing. -/
  | missingValue (mark : String)
  /-- The value names no method. -/
  | unknownMethod (value : String)
  /-- The buffer would have no room. -/
  | emptyBuffer
  /-- The value is no count. -/
  | invalidBuffer (value : String)
  /-- The argument is no mark. -/
  | unknownArgument (argument : String)
  deriving DecidableEq, Repr

/-- The wording of a refusal; help is no complaint and has none. -/
def Refusal.message : Refusal → String
  | help => ""
  | missingValue mark => mark ++ " requires a value"
  | unknownMethod value => Error.unknownMethod.message ++ ": " ++ value
  | emptyBuffer => "--buffer must be at least 1"
  | invalidBuffer value => "Invalid value for --buffer: " ++ value
  | unknownArgument argument => "Unknown arg: " ++ argument

/-- What an argument is, taken by itself. -/
inductive Mark where
  | ending | list | selfTest | algorithm | method | buffer | help | unknown | file
  deriving DecidableEq, Repr

/-- What an argument is. One dash alone is an input; anything else that starts with a dash has to be
a known mark. -/
def Mark.of (argument : String) : Mark :=
  if argument = "--" then ending
  else if argument = "--list" ∨ argument = "-l" then list
  else if argument = "--self-test" then selfTest
  else if argument = "--algorithm" ∨ argument = "-a" then algorithm
  else if argument = "--strategy" ∨ argument = "-s" then method
  else if argument = "--buffer" ∨ argument = "-b" then buffer
  else if argument = "--help" ∨ argument = "-h" then help
  else if argument.toList.head? = some '-' ∧ argument ≠ "-" then unknown
  else file

/-- The size of a buffer that a text gives. -/
def bufferSize (value : String) : Except Refusal Nat :=
  match Text.Decimal.read? Text.Decimal.wordLimit value.toList with
  | some 0 => .error .emptyBuffer
  | some (n + 1) => .ok (n + 1)
  | none => .error (.invalidBuffer value)

theorem bufferSize_ne_zero {value : String} {size : Nat} (h : bufferSize value = .ok size) :
    size ≠ 0 := by
  unfold bufferSize at h
  split at h
  · cases h
  · cases h
    exact Nat.succ_ne_zero _
  · cases h

/-- The options after some more arguments. -/
def Options.extend (o : Options) : List String → Except Refusal Options
  | [] => .ok o
  | argument :: rest =>
    match Mark.of argument with
    | .ending => .ok { o with files := o.files ++ rest }
    | .list => { o with list := true }.extend rest
    | .selfTest => { o with selfTest := true }.extend rest
    | .algorithm =>
      match rest with
      | [] => .error (.missingValue "--algorithm")
      | value :: rest => { o with algorithm := value }.extend rest
    | .method =>
      match rest with
      | [] => .error (.missingValue "--strategy")
      | value :: rest =>
        match Method.parse? value with
        | none => .error (.unknownMethod value)
        | some method => { o with method := some method }.extend rest
    | .buffer =>
      match rest with
      | [] => .error (.missingValue "--buffer")
      | value :: rest =>
        match bufferSize value with
        | .error refusal => .error refusal
        | .ok size => { o with buffer := some size }.extend rest
    | .help => .error .help
    | .unknown => .error (.unknownArgument argument)
    | .file => { o with files := o.files ++ [argument] }.extend rest

/-- The options that arguments state. -/
def Options.ofArguments (arguments : List String) : Except Refusal Options :=
  ({} : Options).extend arguments

theorem Options.buffer_extend_ne_zero {o o' : Options} (ho : o.buffer ≠ some 0)
    {arguments : List String} (h : o.extend arguments = .ok o') : o'.buffer ≠ some 0 := by
  fun_induction Options.extend o arguments with
  | case1 | case2 =>
    cases h
    exact ho
  | case12 _ _ _ _ _ size hsize ih =>
    have hne : some size ≠ some 0 := mt Option.some.inj (bufferSize_ne_zero hsize)
    exact ih hne h
  | case3 _ _ _ _ ih | case4 _ _ _ _ ih | case6 _ _ _ _ _ ih | case9 _ _ _ _ _ _ _ ih
  | case15 _ _ _ _ ih => exact ih ho h
  | case5 | case7 | case8 | case10 | case11 | case13 | case14 => cases h

theorem Options.buffer_ofArguments_ne_zero {arguments : List String} {o : Options}
    (h : ofArguments arguments = .ok o) : o.buffer ≠ some 0 :=
  buffer_extend_ne_zero (by decide) h

/-- The inputs to read: standard input if none is named. -/
def Options.inputs (o : Options) : List String := if o.files = [] then ["-"] else o.files

end CyclicRedundancy.Command
