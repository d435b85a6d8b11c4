/-!
# Running checksums

What the states of a computation have in common, whether their model is chosen when the program runs
or fixed beforehand: they take bytes, tell the checksum of the bytes so far, and start again or go
on from a checksum that is known. `Step` lists what can be done to a state and `run` does it.
-/

namespace CyclicRedundancy

/-- The states of a running checksum. -/
class Running (γ : Type) where
  /-- The state after some more bytes. -/
  feed : γ → List UInt8 → γ
  /-- The checksum of the bytes so far, in the low bits of a word. -/
  value : γ → UInt64
  /-- The state before the first byte of a message. -/
  reset : γ → γ
  /-- A new state of the same computation. -/
  fresh : γ → γ
  /-- A state of the same computation that goes on after bytes with the given checksum. -/
  resume : γ → UInt64 → γ

namespace Running

/-- What can be done to a state. -/
inductive Step where
  /-- Feed bytes. -/
  | feed (data : List UInt8)
  /-- Feed the bytes of several buffers. -/
  | feedAll (buffers : List (List UInt8))
  /-- Feed bytes one at a time. -/
  | eachByte (data : List UInt8)
  /-- Go back to the start of a message. -/
  | reset
  /-- Take a new state instead. -/
  | fresh
  /-- Take a state instead that goes on from a checksum. -/
  | resume (checksum : UInt64)
  deriving DecidableEq, Repr

variable {γ : Type} [Running γ]

/-- The state after the bytes of some buffers, in order. -/
def feedAll (state : γ) (buffers : List (List UInt8)) : γ := buffers.foldl feed state

/-- A state after one step. -/
def apply (state : γ) : Step → γ
  | .feed data => feed state data
  | .feedAll buffers => feedAll state buffers
  | .eachByte data => feedAll state (data.map fun byte => [byte])
  | .reset => reset state
  | .fresh => fresh state
  | .resume checksum => resume state checksum

/-- A state after some steps. -/
def run (state : γ) (steps : List Step) : γ := steps.foldl apply state

end Running

end CyclicRedundancy
