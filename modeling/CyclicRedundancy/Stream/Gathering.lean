import CyclicRedundancy.Stream.Reader
import CyclicRedundancy.Text.Utf8

/-!
# Gathering

The loops that read until nothing is left, until a limit is reached, or until a buffer is full. They
make the same call again after an interruption. Any other failure ends them early, and so does a
claim of more bytes than there was room for.

What is read to the end is kept in a store that grows. Reads are made into one stretch of its room
after the other. The room that is offered to a read shows in the result if the reader makes claims
of its own: it decides which claims go too far, and bytes that were stored beyond a claim stay in
the stretch and belong to a later claim that reaches them.
-/

namespace CyclicRedundancy

/-- A store that grows. -/
structure Gathering where
  /-- The bytes in it. -/
  bytes : List UInt8
  /-- The stretch of room behind the bytes that reads are made into, with what was stored there
  beyond the claims so far. -/
  stretch : Buffer
  /-- The room behind the stretch. -/
  beyond : Nat
  /-- The most room that a stretch is given. -/
  most : Nat
  deriving DecidableEq

namespace Gathering

/-- The least room that there is for a read. -/
def leastRoom : Nat := 32

/-- The least size of a store that holds anything. -/
def leastSize : Nat := 8

/-- The most room that a stretch is given, as long as no read fills it. -/
def usualMost : Nat := 8192

/-- A store with nothing in it, and with room for a first read. -/
def start : Gathering where
  bytes := []
  stretch := .blank leastRoom
  beyond := 0
  most := usualMost

/-- A store of the size that the bytes of a first read need. -/
def ofFirst (bytes : List UInt8) : Gathering where
  bytes := bytes
  stretch := .blank 0
  beyond := leastSize - bytes.length
  most := usualMost

/-- The room that there is behind the bytes, if need be after the store has grown. Growing makes the
store twice as large, or as large as the least room needs. -/
def room (g : Gathering) : Nat :=
  let left := g.stretch.size + g.beyond
  if leastRoom ≤ left then left else max (g.bytes.length + 2 * left) leastRoom

/-- Makes sure of the least room. A stretch is used as long as more than that is left of it. Then
what is left becomes part of a new one, which is blank. -/
def makeRoom (g : Gathering) : Gathering :=
  if leastRoom < g.stretch.size then g
  else { g with stretch := .blank (min g.room g.most), beyond := g.room - g.most }

/-- What is offered to a read when no more than `limit` bytes are wanted. -/
def offer (g : Gathering) (limit : Option Nat) : Buffer :=
  g.stretch.first (limit.getD g.stretch.size)

/-- The store after what was offered to a read comes back without a claim. -/
def takeBack (g : Gathering) (offered : Buffer) : Gathering :=
  { g with stretch := offered ++ g.stretch.drop offered.size }

/-- The store after what was offered to a read comes back with `bytes` claimed in it. A read that
fills a stretch of the most room doubles it. -/
def accept (g : Gathering) (offered : Buffer) (bytes : List UInt8) : Gathering :=
  if g.bytes = [] then ofFirst bytes
  else
    { bytes := g.bytes ++ bytes
      stretch := offered.drop bytes.length ++ g.stretch.drop offered.size
      beyond := g.beyond
      most := if bytes.length = g.most then 2 * g.most else g.most }

@[simp] theorem bytes_makeRoom (g : Gathering) : g.makeRoom.bytes = g.bytes := by
  unfold makeRoom
  split <;> rfl

@[simp] theorem bytes_accept (g : Gathering) (offered : Buffer) (bytes : List UInt8) :
    (g.accept offered bytes).bytes = g.bytes ++ bytes := by
  unfold accept
  split
  · next h => rw [h, List.nil_append]; rfl
  · rfl

end Gathering

/-- What a loop over reads leads to. -/
structure Gathered (σ : Type) where
  /-- Whether the loop came to its end. -/
  outcome : Except Halt Unit
  /-- The bytes that were read, also if the loop did not come to its end. -/
  bytes : List UInt8
  /-- The stream afterwards. -/
  rest : σ

namespace Reader

variable {σ : Type} [Reader σ]

/-- Reads until there is nothing left or the limit is reached, and adds to a store. Once the limit
is reached no further read is made. -/
def gather (limit : Option Nat) (s : σ) (g : Gathering) : Gathered σ :=
  let store := g.makeRoom
  let offered := store.offer limit
  if offered.size = 0 then { outcome := .ok (), bytes := store.bytes, rest := s }
  else
    let attempt := read s offered
    match _h : attempt.outcome with
    | .error f =>
      if f.isInterruption then gather limit attempt.rest (store.takeBack attempt.buffer)
      else { outcome := .error (.failure f), bytes := store.bytes, rest := attempt.rest }
    | .ok 0 => { outcome := .ok (), bytes := store.bytes, rest := attempt.rest }
    | .ok (n + 1) =>
      match attempt.buffer.take? (n + 1) with
      | none => { outcome := .error .overrun, bytes := store.bytes, rest := attempt.rest }
      | some bytes =>
        gather (limit.map (· - (n + 1))) attempt.rest (store.accept attempt.buffer bytes)
termination_by budget s
decreasing_by
  · exact budget_read s offered (by rw [_h]; assumption)
  · exact budget_read s offered (by rw [_h]; simp [goesOn])

/-- All that is left. -/
def readToEnd (s : σ) : Gathered σ := gather none s .start

/-- What is left, up to a limit. -/
def readUpTo (limit : Nat) (s : σ) : Gathered σ := gather (some limit) s .start

/-- The failure of a stream that should be a text and is not. -/
def malformedText : Failure := .reported .invalidData "stream did not contain valid UTF-8"

/-- All that is left, as a text. If it is not well formed the text is empty and the stream counts as
malformed, unless the loop did not come to its end. -/
def readToString (s : σ) : Except Halt Unit × String × Gathered σ :=
  let gathered := readToEnd s
  match Text.Utf8.decode? gathered.bytes with
  | some text => (gathered.outcome, text, gathered)
  | none => (gathered.outcome.bind fun _ => .error (.failure malformedText), "", gathered)

/-- The failure of a stream that ends too early. -/
def endedEarly : Failure := .reported .unexpectedEof "failed to fill whole buffer"

/-- Reads until a buffer is full, in front of which stand `bytes` read before. Each read is offered
the rest of the buffer. -/
def fill (s : σ) (b : Buffer) (bytes : List UInt8) : Gathered σ :=
  if b.size = 0 then { outcome := .ok (), bytes, rest := s }
  else
    let attempt := read s b
    match _h : attempt.outcome with
    | .error f =>
      if f.isInterruption then fill attempt.rest attempt.buffer bytes
      else { outcome := .error (.failure f), bytes, rest := attempt.rest }
    | .ok 0 => { outcome := .error (.failure endedEarly), bytes, rest := attempt.rest }
    | .ok (n + 1) =>
      match attempt.buffer.take? (n + 1) with
      | none => { outcome := .error .overrun, bytes, rest := attempt.rest }
      | some chunk => fill attempt.rest (attempt.buffer.drop (n + 1)) (bytes ++ chunk)
termination_by budget s
decreasing_by
  · exact budget_read s b (by rw [_h]; assumption)
  · exact budget_read s b (by rw [_h]; simp [goesOn])

/-- Exactly `count` bytes. -/
def readExact (count : Nat) (s : σ) : Gathered σ := fill s (.blank count) []

end Reader

end CyclicRedundancy
