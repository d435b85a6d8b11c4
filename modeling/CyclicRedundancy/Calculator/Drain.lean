import CyclicRedundancy.Calculation
import CyclicRedundancy.Notice
import CyclicRedundancy.Stream.Source

/-!
# Checksums of streams

The checksum of all that a reader delivers, and of a file, read through a scratch buffer. Reads that
are interrupted are made again; any other failure, and a claim of more bytes than the buffer has
room for, end the computation without a checksum. Each read that brings bytes is reported.
-/

namespace CyclicRedundancy.Calculator

/-- What draining a reader leads to. -/
structure Drained (σ : Type) where
  /-- The checksum or the error. -/
  result : Except Error UInt64
  /-- What was reported. -/
  notices : List Notice
  /-- The scratch buffer afterwards. -/
  buffer : Buffer
  /-- The reader afterwards. -/
  rest : σ
  /-- Whether the reader was read from. -/
  touched : Bool := false

/-- The failure of a reader that claims more bytes than there is room for. -/
def overran : Failure := .reported .invalidData "reader overran its buffer"

section Reading

variable {σ : Type} [Reader σ]

/-- Reads to the end, going on from a register, a count of bytes and the notices so far. -/
def absorb (c : Calculator) (register : UInt64) (total : Nat) (notices : Array Notice)
    (buffer : Buffer) (s : σ) : Drained σ :=
  let attempt := Reader.read s buffer
  match _h : attempt.outcome with
  | .error f =>
    if f.isInterruption then c.absorb register total notices attempt.buffer attempt.rest
    else
      { result := .error (.stream f), notices := notices.toList
        buffer := attempt.buffer, rest := attempt.rest, touched := true }
  | .ok 0 =>
    { result := .ok (c.checksumOf register), notices := notices.toList
      buffer := attempt.buffer, rest := attempt.rest, touched := true }
  | .ok (n + 1) =>
    match attempt.buffer.take? (n + 1) with
    | none =>
      { result := .error (.stream overran), notices := notices.toList
        buffer := attempt.buffer, rest := attempt.rest, touched := true }
    | some bytes =>
      c.absorb (c.feed register bytes) (total + (n + 1))
        (notices.push (.received (n + 1) (total + (n + 1)))) attempt.buffer attempt.rest
termination_by Reader.budget s
decreasing_by
  · exact Reader.budget_read s _ (by simp_all [goesOn, attempt])
  · exact Reader.budget_read s _ (by simp_all [goesOn, attempt])

/-- The checksum of all that a reader delivers. A buffer without room is an error. -/
def drain (c : Calculator) (s : σ) (buffer : Buffer) : Drained σ :=
  if buffer.size = 0 then { result := .error .emptyBuffer, notices := [], buffer, rest := s }
  else c.absorb c.start 0 #[] buffer s

end Reading

/-- What opens paths. -/
abbrev Opener := String → Except Failure Handle

/-- What the checksum of a file leads to. -/
structure Filed where
  /-- The checksum or the error. -/
  result : Except Error UInt64
  /-- What was reported. -/
  notices : List Notice
  /-- The scratch buffer afterwards. -/
  buffer : Buffer
  /-- What the path led to, afterwards, if it was opened. -/
  handle : Option Handle
  /-- Whether there was an attempt to open the path. -/
  touched : Bool := false

/-- What is left of standard input, if `input` was left of it before. -/
def Filed.inputLeft (f : Filed) (input : Cursor) : Cursor :=
  match f.handle with
  | some (.input rest) => rest
  | _ => input

/-- The checksum of the file at a path. The buffer is examined before the path is. -/
def drainFile (c : Calculator) (opener : Opener) (path : String) (buffer : Buffer) : Filed :=
  if buffer.size = 0 then { result := .error .emptyBuffer, notices := [], buffer, handle := none }
  else
    let notice := Notice.opening path c.title c.method buffer.size
    match opener path with
    | .error f =>
      { result := .error (.stream f), notices := [notice], buffer, handle := none, touched := true }
    | .ok handle =>
      let drained := c.drain handle buffer
      { result := drained.result
        notices := notice :: drained.notices
        buffer := drained.buffer
        handle := some drained.rest
        touched := true }

/-- The checksum of the file at a path, through a buffer of the size that is set. There is none if
no buffer can be so large. -/
def drainPath (c : Calculator) (p : Surroundings) (opener : Opener) (path : String) :
    Option Filed × Surroundings :=
  let (settings, notices, p) := p.settings
  let filed := (Buffer.blank? settings.fileBuffer).map fun buffer =>
    let filed := c.drainFile opener path buffer
    { filed with notices := notices ++ filed.notices }
  (filed, p)

end CyclicRedundancy.Calculator
