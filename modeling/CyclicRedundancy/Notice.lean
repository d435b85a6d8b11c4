import CyclicRedundancy.Error
import CyclicRedundancy.Settings

/-!
# Notices

What the library reports about its work, apart from its results. A notice is recorded as the event
that it reports; its level and its wording follow from that.
-/

namespace CyclicRedundancy

/-- An event that is reported. -/
inductive Notice where
  /-- The environment asks for something. -/
  | overridden (requested : Settings.Requested)
  /-- A named algorithm gets the method of the settings. -/
  | resolved (algorithm : String) (method : Method)
  /-- Every entry of the catalogue reproduces its check value. -/
  | selfTestPassed (entries : Nat)
  /-- An entry of the catalogue does not reproduce its check value. -/
  | selfTestFailed (error : Error)
  /-- A file is about to be read. -/
  | opening (path title : String) (method : Method) (buffer : Nat)
  /-- Some bytes were read. -/
  | received (count total : Nat)
  deriving DecidableEq, Repr

namespace Notice

/-- The level of a notice. -/
def level : Notice → String
  | selfTestFailed _ => "ERROR"
  | received .. => "TRACE"
  | _ => "DEBUG"

/-- The wording of a notice. -/
def message : Notice → String
  | overridden requested => "crc-engine env overrides: " ++ requested.inspect
  | resolved algorithm method => "resolved " ++ algorithm ++ " with strategy " ++ method.label
  | selfTestPassed entries => "self-test passed for " ++ toString entries ++ " entries"
  | selfTestFailed error => "self-test failed: " ++ error.message
  | opening path title method buffer =>
    "checksumming " ++ path ++ " with " ++ Text.wrapped title method.label ++ ", " ++
      toString buffer ++ "-byte buffer"
  | received count total =>
    "read " ++ toString count ++ " bytes (" ++ toString total ++ " total)"

/-- A notice in one line. -/
def line (n : Notice) : String := n.level ++ " " ++ n.message

end Notice

/-- What a running program knows of its environment. -/
structure Surroundings where
  /-- The variables. -/
  environment : Environment
  /-- Whether the settings have been asked for before. -/
  consulted : Bool := false

namespace Surroundings

/-- A program in an environment, before it asks for the settings. -/
def start (environment : Environment) : Surroundings where
  environment := environment

/-- The settings. What the environment asks for is reported when they are first asked for, unless it
asks for nothing. -/
def settings (p : Surroundings) : Settings × List Notice × Surroundings :=
  let requested := Settings.Requested.ofEnvironment p.environment
  let notices :=
    if p.consulted ∨ requested = Settings.Requested.none then [] else [.overridden requested]
  (requested.apply, notices, { p with consulted := true })

end Surroundings

end CyclicRedundancy
