import CyclicRedundancy.Stream.Reader

/-!
# Writers

A writer takes some of the bytes that it is offered and says how many, or fails. The count is the
writer's claim, as with readers. The loop that writes all of some bytes makes the same call again
after an interruption, so a writer has a budget that an interruption reduces and nothing else
raises.
-/

namespace CyclicRedundancy

/-- Streams that bytes are written to. -/
class Writer (τ : Type) where
  /-- Offer bytes. -/
  write : τ → List UInt8 → Except Failure Nat × τ
  /-- Ask that what was taken reaches its destination. -/
  flush : τ → Except Failure Unit × τ
  /-- A bound on the interruptions. -/
  budget : τ → Nat
  /-- No offer raises the bound. -/
  budget_write (t : τ) (bytes : List UInt8) : budget (write t bytes).2 ≤ budget t
  /-- A failure reduces the bound. -/
  budget_failure (t : τ) (bytes : List UInt8) (f : Failure) :
    (write t bytes).1 = .error f → f.isInterruption → budget (write t bytes).2 < budget t

namespace Writer

variable {τ : Type} [Writer τ]

/-- The failure of a writer that takes nothing. -/
def tookNothing : Failure := .reported .writeZero "failed to write whole buffer"

/-- Offers bytes until all are taken. A claim of more than were offered ends the loop. -/
def writeAll (t : τ) (bytes : List UInt8) : Except Halt Unit × τ :=
  if bytes = [] then (.ok (), t)
  else
    match _h : write t bytes with
    | (.error f, rest) =>
      if f.isInterruption then writeAll rest bytes else (.error (.failure f), rest)
    | (.ok 0, rest) => (.error (.failure tookNothing), rest)
    | (.ok (n + 1), rest) =>
      if n < bytes.length then writeAll rest (bytes.drop (n + 1)) else (.error .overrun, rest)
termination_by bytes.length + budget t
decreasing_by
  · have := budget_failure t bytes f (by simp_all) (by assumption)
    simp_all
  · have := budget_write t bytes
    have := List.length_pos_iff.mpr ‹bytes ≠ []›
    simp_all
    omega

/-- Offers the first buffer that is not empty, or nothing if there is none. -/
def writeFirst (t : τ) (buffers : List (List UInt8)) : Except Failure Nat × τ :=
  write t ((buffers.find? fun b => !b.isEmpty).getD [])

end Writer

end CyclicRedundancy
