import CyclicRedundancy.Calculation
import CyclicRedundancy.Stream.Writer

/-!
# Checksumming streams

A stream together with a running checksum of the bytes that pass through it. The wrapped stream
behaves as it did before: the checksum follows what a reader says it stored and what a writer says
it took, and a claim that goes beyond the buffer is not followed.
-/

namespace CyclicRedundancy

/-- A stream and the running checksum of what passed through it. -/
structure Checksumming (σ γ : Type) where
  /-- The stream. -/
  inner : σ
  /-- The running checksum. -/
  running : γ
  deriving DecidableEq, Repr

namespace Checksumming

variable {σ γ : Type}

/-! ## Readers -/

section Reading

variable [Reader σ] [Running γ]

/-- The checksum after a claim of `count` bytes in a buffer. -/
def follow (running : γ) (count : Nat) (b : Buffer) : γ :=
  match b.take? count with
  | some bytes => Running.feed running bytes
  | none => running

/-- The checksum after a claim of `count` bytes in several buffers. They are followed in order up to
the first that has no part in the claim, be it that the count is used up or that it has no room. -/
def followAll (running : γ) (count : Nat) : List Buffer → γ
  | [] => running
  | b :: bs =>
    let part := min count b.size
    if part = 0 then running
    else followAll (Running.feed running (b.take part)) (count - part) bs

/-- Reads from the stream and follows its claim. -/
def read (c : Checksumming σ γ) (b : Buffer) : Transfer (Checksumming σ γ) Buffer :=
  let attempt := Reader.read c.inner b
  { outcome := attempt.outcome
    buffer := attempt.buffer
    rest :=
      { inner := attempt.rest
        running :=
          match attempt.outcome with
          | .ok count => follow c.running count attempt.buffer
          | .error _ => c.running } }

/-- Reads into several buffers from the stream and follows its claim. -/
def scatter (c : Checksumming σ γ) (bs : List Buffer) :
    Transfer (Checksumming σ γ) (List Buffer) :=
  let attempt := Reader.scatter c.inner bs
  { outcome := attempt.outcome
    buffer := attempt.buffer
    rest :=
      { inner := attempt.rest
        running :=
          match attempt.outcome with
          | .ok count => followAll c.running count attempt.buffer
          | .error _ => c.running } }

instance : Reader (Checksumming σ γ) where
  read := read
  scatter := scatter
  budget c := Reader.budget c.inner
  budget_read c b := Reader.budget_read c.inner b

end Reading

/-! ## Writers -/

section Writing

variable [Writer σ] [Running γ]

/-- Offers bytes to the stream and follows its claim. -/
def write (c : Checksumming σ γ) (bytes : List UInt8) : Except Failure Nat × Checksumming σ γ :=
  match Writer.write c.inner bytes with
  | (.ok count, rest) =>
    (.ok count,
      { inner := rest
        running :=
          if count ≤ bytes.length then Running.feed c.running (bytes.take count) else c.running })
  | (.error f, rest) => (.error f, { c with inner := rest })

/-- Flushes the stream. -/
def flush (c : Checksumming σ γ) : Except Failure Unit × Checksumming σ γ :=
  let (outcome, rest) := Writer.flush c.inner
  (outcome, { c with inner := rest })

theorem fst_write (c : Checksumming σ γ) (bytes : List UInt8) :
    (c.write bytes).1 = (Writer.write c.inner bytes).1 := by
  unfold write
  split <;> simp_all

theorem inner_write (c : Checksumming σ γ) (bytes : List UInt8) :
    (c.write bytes).2.inner = (Writer.write c.inner bytes).2 := by
  unfold write
  split <;> simp_all

instance : Writer (Checksumming σ γ) where
  write := write
  flush := flush
  budget c := Writer.budget c.inner
  budget_write c bytes := by
    rw [inner_write]
    exact Writer.budget_write c.inner bytes
  budget_failure c bytes f h hf := by
    rw [inner_write]
    exact Writer.budget_failure c.inner bytes f (fst_write c bytes ▸ h) hf

end Writing

/-- The checksum of what passed through so far. -/
def value [Running γ] (c : Checksumming σ γ) : UInt64 := Running.value c.running

end Checksumming

/-- A stream with a new calculation of a calculator. -/
def Calculator.wrap {σ : Type} (c : Calculator) (inner : σ) : Checksumming σ Calculation where
  inner := inner
  running := c.calculation

end CyclicRedundancy
