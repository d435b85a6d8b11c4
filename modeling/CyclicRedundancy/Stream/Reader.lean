import CyclicRedundancy.Failure
import CyclicRedundancy.Stream.Buffer

/-!
# Readers

A reader stores bytes into a buffer and says how many, or fails. The count is the reader's claim:
nothing keeps it from claiming more than the buffer has room for.

A loop that reads again and again makes the same call again after an interruption. A reader
therefore has a budget, which every read that such a loop goes on after reduces; so the loops end.
-/

namespace CyclicRedundancy

/-- Whether a failure is an interruption, after which the same call is made again. -/
def Failure.isInterruption (f : Failure) : Bool := f.kind == .interrupted

/-- What one attempt to transfer bytes leads to. -/
structure Transfer (σ β : Type) where
  /-- The claimed count, or the failure. -/
  outcome : Except Failure Nat
  /-- The buffer or buffers afterwards. -/
  buffer : β
  /-- The stream afterwards. -/
  rest : σ

/-- Whether a loop goes on after an outcome: some bytes came, or there was an interruption. -/
def goesOn : Except Failure Nat → Bool
  | .ok n => n ≠ 0
  | .error f => f.isInterruption

/-- What keeps a loop over a stream from coming to its end. -/
inductive Halt where
  /-- A failure of the stream. -/
  | failure (failure : Failure)
  /-- A claim of more bytes than there was room for, or than were offered. -/
  | overrun
  deriving DecidableEq, Repr

/-- Streams that bytes are read from. -/
class Reader (σ : Type) where
  /-- Read into a buffer. -/
  read : σ → Buffer → Transfer σ Buffer
  /-- Read into several buffers at once. -/
  scatter : σ → List Buffer → Transfer σ (List Buffer)
  /-- A bound on the reads after which a loop goes on. -/
  budget : σ → Nat
  /-- Such a read reduces the bound. -/
  budget_read (s : σ) (b : Buffer) : goesOn (read s b).outcome → budget (read s b).rest < budget s

end CyclicRedundancy
