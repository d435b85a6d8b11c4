import CyclicRedundancy.Stream.Reader

/-!
# Sources

Readers that are values. A `Cursor` reads from bytes in memory and can be moved. A `Script` answers
each read by the next of the events that it lists; it can deliver little, fail, or claim a count
that has nothing to do with what it stores. A `Handle` is what an opened path leads to. That may be
a script without such claims: a stream that delivers little at a time, or fails half way.
-/

namespace CyclicRedundancy

/-- A position in bytes that are held in memory. -/
structure Cursor where
  /-- The bytes. -/
  bytes : Array UInt8
  /-- The place of the next byte, which may lie beyond the last. -/
  position : Nat
  deriving DecidableEq, Repr, Inhabited

namespace Cursor

/-- The first position in some bytes. -/
def ofList (bytes : List UInt8) : Cursor where
  bytes := bytes.toArray
  position := 0

/-- At most `count` bytes from the position on. -/
def peek (c : Cursor) (count : Nat) : List UInt8 :=
  (c.bytes.extract c.position (c.position + count)).toList

/-- The position after some more bytes. -/
def advance (c : Cursor) (count : Nat) : Cursor := { c with position := c.position + count }

/-- Another position in the same bytes. -/
def seek (c : Cursor) (position : Nat) : Cursor := { c with position }

/-- Reads what there is, up to the room of the buffer. -/
def read (c : Cursor) (b : Buffer) : Transfer Cursor Buffer where
  outcome := .ok (c.peek b.size).length
  buffer := b.store (c.peek b.size)
  rest := c.advance (c.peek b.size).length

/-- Fills the buffers in order until one is not filled; an empty buffer counts as filled. The count
so far is `count`. -/
def fill (c : Cursor) (count : Nat) : List Buffer → Transfer Cursor (List Buffer)
  | [] => { outcome := .ok count, buffer := [], rest := c }
  | b :: bs =>
    let chunk := c.peek b.size
    let rest := c.advance chunk.length
    if chunk.length < b.size then
      { outcome := .ok (count + chunk.length), buffer := b.store chunk :: bs, rest }
    else
      let later := rest.fill (count + chunk.length) bs
      { later with buffer := b.store chunk :: later.buffer }

instance : Reader Cursor where
  read := read
  scatter c bs := c.fill 0 bs
  budget c := c.bytes.size - c.position
  budget_read c b h := by
    simp only [read, goesOn, peek, Array.length_toList, Array.size_extract, advance] at h ⊢
    simp only [decide_eq_true_eq] at h
    omega

end Cursor

/-- What a script has in store for one read. -/
inductive Script.Event where
  /-- Bytes; those for which there is no room stay for the next read. -/
  | deliver (bytes : List UInt8)
  /-- A failure. -/
  | fail (failure : Failure)
  /-- A claim of `count` bytes, while those of `bytes` for which there is room are stored and the
  others are lost. -/
  | claim (count : Nat) (bytes : List UInt8)
  deriving DecidableEq, Repr

/-- A source that answers by listed events, and by nothing when there are none left. -/
structure Script where
  /-- The events to come. -/
  events : List Script.Event
  /-- The number of reads so far. -/
  calls : Nat := 0
  deriving DecidableEq, Repr

namespace Script

/-- Whether an event is a claim of its own. -/
def Event.isClaim : Event → Bool
  | claim .. => true
  | _ => false

/-- A script that claims nothing but what it delivers. -/
def Honest (s : Script) : Prop := ∀ e ∈ s.events, e.isClaim = false

instance (s : Script) : Decidable s.Honest :=
  inferInstanceAs (Decidable (∀ e ∈ s.events, e.isClaim = false))

/-- The number of reads that an event can answer by some bytes or by an interruption, at most. -/
def Event.weight : Event → Nat
  | deliver bytes => bytes.length + 1
  | _ => 1

/-- The number of reads that some events can answer by some bytes or by an interruption, at most. -/
def weight : List Event → Nat
  | [] => 0
  | e :: later => e.weight + weight later

/-- Takes the first event, unless the buffer has no room. -/
def read (s : Script) (b : Buffer) : Transfer Script Buffer :=
  if b.size = 0 then
    { outcome := .ok 0, buffer := b, rest := { s with calls := s.calls + 1 } }
  else
    match s.events with
    | [] => { outcome := .ok 0, buffer := b, rest := { s with calls := s.calls + 1 } }
    | .deliver bytes :: later =>
      { outcome := .ok (bytes.take b.size).length
        buffer := b.store bytes
        rest :=
          { events :=
              if b.size < bytes.length then .deliver (bytes.drop b.size) :: later else later
            calls := s.calls + 1 } }
    | .fail failure :: later =>
      { outcome := .error failure, buffer := b
        rest := { events := later, calls := s.calls + 1 } }
    | .claim count bytes :: later =>
      { outcome := .ok count, buffer := b.store bytes
        rest := { events := later, calls := s.calls + 1 } }

/-- Reads into the first buffer with room; without one, into a buffer without room. The buffers
before it are `before`, the last first. -/
def scatterFrom (s : Script) (before : List Buffer) :
    List Buffer → Transfer Script (List Buffer)
  | [] =>
    let attempt := s.read (.blank 0)
    { outcome := attempt.outcome, buffer := before.reverse, rest := attempt.rest }
  | b :: bs =>
    if b.size = 0 then s.scatterFrom (b :: before) bs
    else
      let attempt := s.read b
      { outcome := attempt.outcome, buffer := before.reverse ++ attempt.buffer :: bs
        rest := attempt.rest }

theorem weight_read (s : Script) (b : Buffer) :
    goesOn (s.read b).outcome → weight (s.read b).rest.events < weight s.events := by
  unfold read
  split
  · simp [goesOn]
  · next hb =>
    split
    · simp [goesOn]
    · next bytes later he =>
      intro _
      rw [he]
      split
      · next hlt => simp [weight, Event.weight]; omega
      · simp [weight, Event.weight]
    · next he => intro _; rw [he]; simp [weight, Event.weight]
    · next he => intro _; rw [he]; simp [weight, Event.weight]

theorem honest_read {s : Script} (h : s.Honest) (b : Buffer) : (s.read b).rest.Honest := by
  obtain ⟨events, calls⟩ := s
  unfold read
  split
  · exact h
  · cases events with
    | nil => exact h
    | cons event later =>
      have hlater : ∀ e ∈ later, e.isClaim = false := fun e he => h e (List.mem_cons_of_mem _ he)
      cases event with
      | deliver bytes =>
        -- What there is no room for stays in front of the later events, as a delivery.
        intro e he
        dsimp only at he
        split at he
        · rcases List.mem_cons.mp he with rfl | he
          · rfl
          · exact hlater e he
        · exact hlater e he
      | fail failure => exact hlater
      | claim count bytes => exact hlater

theorem honest_scatterFrom {s : Script} (h : s.Honest) (before bs : List Buffer) :
    (s.scatterFrom before bs).rest.Honest := by
  induction bs generalizing before with
  | nil => exact honest_read h _
  | cons b bs ih =>
    unfold scatterFrom
    split
    · exact ih _
    · exact honest_read h b

instance : Reader Script where
  read := read
  scatter s bs := s.scatterFrom [] bs
  budget s := weight s.events
  budget_read := weight_read

end Script

/-- What opening a path gives: a file at its first byte, the program's standard input with what is
left of it, a directory, which opens but refuses to be read, or any other stream, which may deliver
little at a time, be interrupted, and fail half way. -/
inductive Handle where
  | file (cursor : Cursor)
  | input (cursor : Cursor)
  | directory
  | stream (script : Script) (honest : script.Honest)
  deriving DecidableEq, Repr

namespace Handle

/-- Reads from what the handle stands for; a directory refuses. -/
def read : Handle → Buffer → Transfer Handle Buffer
  | file c, b =>
    let attempt := Reader.read c b
    { attempt with rest := file attempt.rest }
  | input c, b =>
    let attempt := Reader.read c b
    { attempt with rest := input attempt.rest }
  | directory, b =>
    { outcome := .error (.system .isADirectory), buffer := b, rest := directory }
  | stream s honest, b =>
    let attempt := Reader.read s b
    { attempt with rest := stream attempt.rest (Script.honest_read honest b) }

/-- Reads into several buffers from what the handle stands for; a directory refuses. -/
def scatter : Handle → List Buffer → Transfer Handle (List Buffer)
  | file c, bs =>
    let attempt := Reader.scatter c bs
    { attempt with rest := file attempt.rest }
  | input c, bs =>
    let attempt := Reader.scatter c bs
    { attempt with rest := input attempt.rest }
  | directory, bs =>
    { outcome := .error (.system .isADirectory), buffer := bs, rest := directory }
  | stream s honest, bs =>
    let attempt := Reader.scatter s bs
    { attempt with rest := stream attempt.rest (Script.honest_scatterFrom honest [] bs) }

/-- A bound on the reads after which a loop goes on. -/
def budget : Handle → Nat
  | file c => Reader.budget c
  | input c => Reader.budget c
  | directory => 0
  | stream s _ => Reader.budget s

theorem budget_read (h : Handle) (b : Buffer) :
    goesOn (h.read b).outcome → (h.read b).rest.budget < h.budget := by
  cases h with
  | file c => exact Reader.budget_read c b
  | input c => exact Reader.budget_read c b
  | directory =>
    intro h
    simp [read, goesOn, Failure.isInterruption, Failure.kind, Failure.System.kind] at h
  | stream s honest => exact Reader.budget_read s b

instance : Reader Handle where
  read := read
  scatter := scatter
  budget := budget
  budget_read := budget_read

end Handle

end CyclicRedundancy
