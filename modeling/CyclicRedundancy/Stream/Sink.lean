import CyclicRedundancy.Stream.Writer

/-!
# Sinks

A writer that is a value: it keeps the bytes that it took and answers each offer by the next of the
events that it lists. It can take little, fail, or claim a count without taking anything.
-/

namespace CyclicRedundancy

/-- What a sink has in store for one offer. -/
inductive Sink.Event where
  /-- Take at most `count` bytes. -/
  | accept (count : Nat)
  /-- A failure. -/
  | fail (failure : Failure)
  /-- A claim of `count` bytes, while none is taken. -/
  | claim (count : Nat)
  deriving DecidableEq, Repr

/-- A sink that answers by listed events, and takes everything when there are none left. -/
structure Sink where
  /-- The events to come. -/
  events : List Sink.Event
  /-- The failure of every flush, if there is one. -/
  flushFailure : Option Failure := none
  /-- The bytes taken so far. -/
  bytes : List UInt8 := []
  /-- The number of flushes so far. -/
  flushes : Nat := 0
  deriving DecidableEq, Repr

namespace Sink

/-- The sink with some more bytes. -/
def append (s : Sink) (bytes : List UInt8) : Sink := { s with bytes := s.bytes ++ bytes }

/-- Takes the first event. -/
def write (s : Sink) (bytes : List UInt8) : Except Failure Nat × Sink :=
  match s.events with
  | [] => (.ok bytes.length, s.append bytes)
  | .accept count :: later =>
    (.ok (bytes.take count).length, { s.append (bytes.take count) with events := later })
  | .fail failure :: later => (.error failure, { s with events := later })
  | .claim count :: later => (.ok count, { s with events := later })

/-- Counts the flush, and fails if flushes fail. -/
def flush (s : Sink) : Except Failure Unit × Sink :=
  (match s.flushFailure with
    | none => .ok ()
    | some failure => .error failure,
    { s with flushes := s.flushes + 1 })

instance : Writer Sink where
  write := write
  flush := flush
  budget s := s.events.length
  budget_write s bytes := by
    unfold write
    split <;> simp_all [append]
  budget_failure s bytes f := by
    unfold write
    split <;> simp_all

end Sink

end CyclicRedundancy
