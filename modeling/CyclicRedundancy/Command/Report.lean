import CyclicRedundancy.Calculator.Drain

/-!
# Worlds and reports

What a command line program finds when it starts, and what it leaves behind when it ends.
-/

namespace CyclicRedundancy.Command

/-- What a program finds. -/
structure World where
  /-- The variables of the environment. -/
  environment : Environment
  /-- What opens paths, given what is left of standard input. -/
  opener : Cursor → Calculator.Opener
  /-- All that standard input delivers. -/
  input : List UInt8

/-- How a program ends. -/
inductive Ending where
  | success
  | failure
  /-- It is broken off, with a message from the runtime of its language. -/
  | panic (message : String)
  deriving DecidableEq, Repr

/-- What a program leaves behind. -/
structure Report where
  /-- The lines on standard output. -/
  output : List String := []
  /-- The lines on standard error, apart from the message of a panic. -/
  complaints : List String := []
  /-- The inputs that were touched, in order: those that were read from, and those that there was an
  attempt to open. -/
  touched : List String := []
  /-- How it ended. -/
  ending : Ending
  deriving DecidableEq, Repr

namespace Report

/-- Lines as a text, each with its end. -/
def text (lines : List String) : String := String.join (lines.map (· ++ "\n"))

/-- The exit code. -/
def code (r : Report) : Nat :=
  match r.ending with
  | .success => 0
  | .failure => 1
  | .panic _ => 101

theorem code_eq_zero_iff (r : Report) : r.code = 0 ↔ r.ending = .success := by
  unfold code
  cases r.ending <;> simp

end Report

end CyclicRedundancy.Command
