/-!
# Scratch buffers

The room into which a reader stores bytes. A buffer starts with zeros and keeps what was stored
before until it is overwritten, so a reader that claims more bytes than it stored shows older ones.
Only the part that was ever written is held, because the rest is zero.
-/

namespace CyclicRedundancy

/-- A buffer of a fixed size. -/
structure Buffer where
  /-- The number of bytes it has room for. -/
  size : Nat
  /-- The leading bytes, as far as any were stored; the others are zero. -/
  stored : List UInt8
  /-- What is stored fits. -/
  length_le : stored.length ≤ size
  deriving DecidableEq

namespace Buffer

/-- A buffer of zeros. -/
def blank (size : Nat) : Buffer where
  size := size
  stored := []
  length_le := Nat.zero_le size

/-- The most bytes that a buffer can have, because sizes have to fit into a word with a sign. -/
def largest : Nat := 0x7FFFFFFFFFFFFFFF

/-- A buffer of zeros, if a buffer can be so large. -/
def blank? (size : Nat) : Option Buffer := if size ≤ largest then some (.blank size) else none

/-- The message with which a program is broken off that asks for a larger buffer. -/
def tooLarge : String := "capacity overflow"

/-- The first `n` bytes, or all of them if there are fewer. -/
def take (b : Buffer) (n : Nat) : List UInt8 :=
  b.stored.take n ++ List.replicate (min n b.size - b.stored.length) 0

/-- The first `n` bytes, if there are so many. -/
def take? (b : Buffer) (n : Nat) : Option (List UInt8) :=
  if n ≤ b.size then some (b.take n) else none

/-- All the bytes. -/
def contents (b : Buffer) : List UInt8 := b.take b.size

/-- A buffer with bytes stored from its beginning, as far as there is room. -/
def store (b : Buffer) (bytes : List UInt8) : Buffer where
  size := b.size
  stored := bytes.take b.size ++ b.stored.drop (min bytes.length b.size)
  length_le := by
    have := b.length_le
    simp only [List.length_append, List.length_take, List.length_drop]
    omega

/-- The part of a buffer that follows its first `n` bytes. -/
def drop (b : Buffer) (n : Nat) : Buffer where
  size := b.size - n
  stored := b.stored.drop n
  length_le := by
    have := b.length_le
    rw [List.length_drop]
    omega

/-- The first `n` bytes of a buffer, or all of it if it is smaller, as a buffer. -/
def first (b : Buffer) (n : Nat) : Buffer where
  size := min n b.size
  stored := b.stored.take n
  length_le := by
    have := b.length_le
    rw [List.length_take]
    omega

/-- Two buffers, one behind the other. -/
def append (a b : Buffer) : Buffer where
  size := a.size + b.size
  stored := if b.stored = [] then a.stored else a.take a.size ++ b.stored
  length_le := by
    have := a.length_le
    have := b.length_le
    split
    · omega
    · simp only [take, List.length_append, List.length_take, List.length_replicate]
      omega

instance : Append Buffer := ⟨append⟩

@[simp] theorem size_store (b : Buffer) (bytes : List UInt8) : (b.store bytes).size = b.size := rfl

@[simp] theorem size_blank (size : Nat) : (blank size).size = size := rfl

theorem size_of_blank? {size : Nat} {b : Buffer} (h : blank? size = some b) : b.size = size := by
  unfold blank? at h
  split at h
  · cases h
    rfl
  · cases h

@[simp] theorem size_drop (b : Buffer) (n : Nat) : (b.drop n).size = b.size - n := rfl

@[simp] theorem size_first (b : Buffer) (n : Nat) : (b.first n).size = min n b.size := rfl

@[simp] theorem size_append (a b : Buffer) : (a ++ b).size = a.size + b.size := rfl

/-- All the bytes are those that were stored, and zeros up to the size. -/
theorem contents_eq (b : Buffer) :
    b.contents = b.stored ++ List.replicate (b.size - b.stored.length) 0 := by
  simp [contents, take, List.take_of_length_le b.length_le]

/-- A part of a buffer is a part of all of it. -/
theorem take_eq (b : Buffer) (n : Nat) : b.take n = b.contents.take n := by
  have : min n b.size - b.stored.length = min (n - b.stored.length) (b.size - b.stored.length) := by
    omega
  rw [contents_eq, List.take_append, List.take_replicate, take, this]

@[simp] theorem length_contents (b : Buffer) : b.contents.length = b.size := by
  have := b.length_le
  rw [contents_eq, List.length_append, List.length_replicate]
  omega

@[simp] theorem length_take (b : Buffer) (n : Nat) : (b.take n).length = min n b.size := by
  rw [take_eq, List.length_take, length_contents]

@[simp] theorem contents_blank (size : Nat) : (blank size).contents = List.replicate size 0 := by
  simp [contents_eq, blank]

@[simp] theorem contents_drop (b : Buffer) (n : Nat) :
    (b.drop n).contents = b.contents.drop n := by
  have : b.size - n - (b.stored.length - n) = b.size - b.stored.length - (n - b.stored.length) := by
    have := b.length_le
    omega
  rw [contents_eq, contents_eq, List.drop_append, List.drop_replicate]
  simp only [drop, List.length_drop, this]

@[simp] theorem contents_first (b : Buffer) (n : Nat) :
    (b.first n).contents = b.contents.take n := by
  rw [contents_eq, ← take_eq, take, size_first]
  congr 2
  simp only [first, List.length_take]
  omega

@[simp] theorem contents_append (a b : Buffer) :
    (a ++ b).contents = a.contents ++ b.contents := by
  have ha := a.length_le
  rw [contents_eq (a ++ b), contents_eq b, size_append]
  show (if b.stored = [] then a.stored else a.contents ++ b.stored) ++ _ = _
  split
  · next h =>
    rw [contents_eq a, h, List.append_assoc, List.nil_append, List.replicate_append_replicate]
    congr 2
    show a.size + b.size - (if b.stored = [] then a.stored else _).length = _
    rw [if_pos h, List.length_nil]
    omega
  · next h =>
    rw [List.append_assoc]
    congr 3
    show a.size + b.size - (if b.stored = [] then _ else a.contents ++ b.stored).length = _
    rw [if_neg h, List.length_append, length_contents]
    omega

/-- What is stored replaces the beginning, and the bytes after it stay. -/
theorem contents_store (b : Buffer) (bytes : List UInt8) :
    (b.store bytes).contents = bytes.take b.size ++ b.contents.drop (min bytes.length b.size) := by
  have := b.length_le
  rw [contents_eq, contents_eq, List.drop_append, List.drop_replicate]
  simp only [store, List.append_assoc, List.length_append, List.length_take, List.length_drop]
  congr 3
  omega

/-- What is stored, as far as there is room, can be taken out again. -/
theorem take_store (b : Buffer) (bytes : List UInt8) :
    (b.store bytes).take (bytes.take b.size).length = bytes.take b.size := by
  rw [take_eq, contents_store, List.take_left']
  rfl

end Buffer

end CyclicRedundancy
