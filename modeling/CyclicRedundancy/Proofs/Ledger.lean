import CyclicRedundancy.Stream.Sink
import CyclicRedundancy.Stream.Source

/-!
# Ledgers

What it takes for the bytes that pass a stream to be countable from outside. The ledger of a reader
is the bytes that are left to be delivered: a read takes its claim from the front of them, and a
failure takes nothing. The ledger of a writer is the bytes in its destination: an offer appends what
is claimed of it, and a failure or a flush appends nothing. Sources and sinks that make no claims of
their own have ledgers.
-/

namespace CyclicRedundancy

/-- A ledger of a reader, for those of its states that are sound. -/
structure Reader.Ledger (σ : Type) [Reader σ] where
  /-- The states that the ledger is about. -/
  sound : σ → Prop
  /-- The bytes to come. -/
  left : σ → List UInt8
  /-- A claim stays within the buffer, and what is claimed is taken from the bytes to come. -/
  read {s : σ} (b : Buffer) : sound s → sound (Reader.read s b).rest ∧
    match (Reader.read s b).outcome with
    | .ok n => n ≤ (Reader.read s b).buffer.size ∧
        left s = (Reader.read s b).buffer.take n ++ left (Reader.read s b).rest
    | .error _ => left s = left (Reader.read s b).rest

/-- A ledger of a writer, for those of its states that are sound. -/
structure Writer.Ledger (τ : Type) [Writer τ] where
  /-- The states that the ledger is about. -/
  sound : τ → Prop
  /-- The bytes that have arrived. -/
  arrived : τ → List UInt8
  /-- A claim stays within the offer, and what is claimed arrives. -/
  write {t : τ} (bytes : List UInt8) : sound t → sound (Writer.write t bytes).2 ∧
    match (Writer.write t bytes).1 with
    | .ok n => n ≤ bytes.length ∧ arrived (Writer.write t bytes).2 = arrived t ++ bytes.take n
    | .error _ => arrived (Writer.write t bytes).2 = arrived t
  /-- Nothing arrives by a flush. -/
  flush {t : τ} : sound t → sound (Writer.flush t).2 ∧ arrived (Writer.flush t).2 = arrived t

/-! ## Sources -/

namespace Script

/-- The bytes that an event delivers. -/
def Event.delivered : Event → List UInt8
  | deliver bytes => bytes
  | _ => []

/-- The bytes that a script is still going to deliver. -/
def left (s : Script) : List UInt8 := s.events.flatMap Event.delivered

/-- What a read of an honest script does: it takes a claim from the front of what is left, and
stores it, or it fails and takes nothing. -/
theorem read_of_honest {s : Script} (h : s.Honest) (b : Buffer) :
    (s.read b).rest.Honest ∧
      match (s.read b).outcome with
      | .ok n => n ≤ (s.read b).buffer.size ∧
          s.left = (s.read b).buffer.take n ++ (s.read b).rest.left
      | .error _ => s.left = (s.read b).rest.left := by
  refine ⟨honest_read h b, ?_⟩
  obtain ⟨events, calls⟩ := s
  have hnothing : ∀ c : Buffer, c.take 0 = [] := fun c => by rw [Buffer.take_eq, List.take_zero]
  unfold read
  by_cases hb : b.size = 0
  · rw [if_pos hb]
    exact ⟨Nat.zero_le _, by rw [hnothing]; rfl⟩
  · rw [if_neg hb]
    cases events with
    | nil => exact ⟨Nat.zero_le _, by rw [hnothing]; rfl⟩
    | cons event later =>
      cases event with
      | deliver bytes =>
        have hfits : (bytes.take b.size).length ≤ (b.store bytes).size := by
          rw [List.length_take]
          exact Nat.min_le_left _ _
        by_cases hlt : b.size < bytes.length
        · simp only [if_pos hlt]
          refine ⟨hfits, ?_⟩
          rw [b.take_store]
          show bytes ++ later.flatMap Event.delivered = bytes.take b.size ++
            (bytes.drop b.size ++ later.flatMap Event.delivered)
          rw [← List.append_assoc, List.take_append_drop]
        · simp only [if_neg hlt]
          refine ⟨hfits, ?_⟩
          rw [b.take_store, List.take_of_length_le (by omega)]
          rfl
      | fail failure => rfl
      | claim count bytes => exact absurd (h _ List.mem_cons_self) (by simp [Event.isClaim])

/-- The ledger of honest scripts. -/
def ledger : Reader.Ledger Script where
  sound := Honest
  left := left
  read b h := read_of_honest h b

end Script

/-! ## Sinks -/

namespace Sink

/-- Whether an event is a claim of its own. -/
def Event.isClaim : Event → Bool
  | claim .. => true
  | _ => false

/-- A sink that claims nothing but what it takes. -/
def Honest (s : Sink) : Prop := ∀ e ∈ s.events, e.isClaim = false

/-- What an offer to an honest sink does: what is claimed of it is appended, and a failure appends
nothing. -/
theorem write_of_honest {s : Sink} (h : s.Honest) (bytes : List UInt8) :
    (s.write bytes).2.Honest ∧
      match (s.write bytes).1 with
      | .ok n => n ≤ bytes.length ∧ (s.write bytes).2.bytes = s.bytes ++ bytes.take n
      | .error _ => (s.write bytes).2.bytes = s.bytes := by
  obtain ⟨events, flushFailure, taken, flushes⟩ := s
  cases events with
  | nil => exact ⟨h, Nat.le_refl _, by rw [List.take_length]; rfl⟩
  | cons event later =>
    have hlater : ∀ e ∈ later, e.isClaim = false := fun e he => h e (List.mem_cons_of_mem _ he)
    cases event with
    | accept count =>
      refine ⟨hlater, List.length_take_le' _ _, ?_⟩
      show taken ++ bytes.take count = taken ++ bytes.take (bytes.take count).length
      rw [List.length_take, ← List.take_take, List.take_length]
    | fail failure => exact ⟨hlater, rfl⟩
    | claim count => exact absurd (h _ List.mem_cons_self) (by simp [Event.isClaim])

/-- The ledger of honest sinks. -/
def ledger : Writer.Ledger Sink where
  sound := Honest
  arrived := bytes
  write bytes h := write_of_honest h bytes
  flush h := ⟨h, rfl⟩

end Sink

end CyclicRedundancy
