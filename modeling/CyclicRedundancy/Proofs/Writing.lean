import CyclicRedundancy.Catalogue.Published
import CyclicRedundancy.Proofs.Calculator
import CyclicRedundancy.Proofs.Calls
import CyclicRedundancy.Proofs.Ledger
import CyclicRedundancy.Stream.Checksumming

/-!
# Writing through a checksum

A writer that is wrapped with a checksum cannot be told from the writer itself, and the checksum is
always that of the bytes which arrived: a byte that was offered again after a short write counts
once, and one that was offered and not taken does not count, also if that ended the call. The
argument is that for readers: a relation that every offer and every flush keep is kept by the loops
over them.
-/

namespace CyclicRedundancy

namespace Writer

variable {ρ τ : Type} [Writer ρ] [Writer τ]

/-- A relation between two writers that offers and flushes keep: they have the same outcome and lead
to related writers. No claim is larger than the offer. -/
structure Simulation (R : ρ → τ → Prop) : Prop where
  write_outcome {r : ρ} {t : τ} (h : R r t) (bytes : List UInt8) :
    (write r bytes).1 = (write t bytes).1
  write_rest {r : ρ} {t : τ} (h : R r t) (bytes : List UInt8) :
    R (write r bytes).2 (write t bytes).2
  fits {r : ρ} {t : τ} (h : R r t) {bytes : List UInt8} {n : Nat}
    (hok : (write t bytes).1 = .ok n) : n ≤ bytes.length
  flush_outcome {r : ρ} {t : τ} (h : R r t) : (flush r).1 = (flush t).1
  flush_rest {r : ρ} {t : τ} (h : R r t) : R (flush r).2 (flush t).2

/-- One round of writing all. -/
theorem writeAll_eq (t : τ) (bytes : List UInt8) :
    writeAll t bytes =
      if bytes = [] then (.ok (), t)
      else
        match (write t bytes).1 with
        | .error f =>
          if f.isInterruption then writeAll (write t bytes).2 bytes
          else (.error (.failure f), (write t bytes).2)
        | .ok 0 => (.error (.failure tookNothing), (write t bytes).2)
        | .ok (n + 1) =>
          if n < bytes.length then writeAll (write t bytes).2 (bytes.drop (n + 1))
          else (.error .overrun, (write t bytes).2) := by
  rw [writeAll]
  by_cases hnil : bytes = []
  · simp only [if_pos hnil]
  · simp only [if_neg hnil]
    split
    next hout => simp only [hout]
    next hout => simp only [hout]
    next hout => simp only [hout]

/-! ## Calls -/

/-- What callers do with a writer. -/
inductive Call where
  /-- One offer. -/
  | write (bytes : List UInt8)
  /-- Offers until all is taken. -/
  | writeAll (bytes : List UInt8)
  /-- One offer of several buffers. -/
  | writeFirst (buffers : List (List UInt8))
  | flush

/-- What a call gives to its caller. -/
inductive Answer where
  | counted (outcome : Except Failure Nat)
  | finished (outcome : Except Halt Unit)
  | flushed (outcome : Except Failure Unit)

/-- Whether a call comes back to its caller: no claim was larger than the offer. -/
def Answer.Returns : Answer → Prop
  | .finished outcome => outcome ≠ .error .overrun
  | .counted _ | .flushed _ => True

/-- A call: its answer, and the writer afterwards. -/
def perform (t : τ) : Call → Answer × τ
  | .write bytes => (.counted (write t bytes).1, (write t bytes).2)
  | .writeAll bytes => (.finished (writeAll t bytes).1, (writeAll t bytes).2)
  | .writeFirst buffers => (.counted (writeFirst t buffers).1, (writeFirst t buffers).2)
  | .flush => (.flushed (flush t).1, (flush t).2)

namespace Simulation

variable {R : ρ → τ → Prop} (sim : Simulation R)
include sim

/-- Related writers are not told apart by writing all, by induction on the bytes and the
interruptions to come. -/
theorem writeAll {r : ρ} {t : τ} (h : R r t) (bytes : List UInt8) :
    Matches R (· ≠ .error .overrun) (Writer.writeAll r bytes) (Writer.writeAll t bytes) := by
  induction hk : bytes.length + budget t using Nat.strongRecOn generalizing r t bytes with
  | _ k ih =>
  subst hk
  rw [writeAll_eq r bytes, writeAll_eq t bytes, sim.write_outcome h]
  by_cases hnil : bytes = []
  · rw [if_pos hnil, if_pos hnil]
    exact ⟨rfl, h, by simp⟩
  · rw [if_neg hnil, if_neg hnil]
    have hrest := sim.write_rest h bytes
    have hpos := List.length_pos_iff.mpr hnil
    cases hout : (write t bytes).1 with
    | error f =>
      by_cases hf : f.isInterruption = true
      · -- The offer is repeated as it was: it is the interruptions to come that get fewer.
        have hless := budget_failure t bytes f hout hf
        simp only [if_pos hf]
        exact ih _ (by omega) hrest bytes rfl
      · dsimp only
        rw [if_neg hf, if_neg hf]
        exact ⟨rfl, hrest, by simp⟩
    | ok n =>
      cases n with
      | zero => exact ⟨rfl, hrest, by simp⟩
      | succ n =>
        have hbudget := budget_write t bytes
        have hlength : (bytes.drop (n + 1)).length = bytes.length - (n + 1) := List.length_drop
        simp only [if_pos (Nat.lt_of_succ_le (sim.fits h hout))]
        exact ih _ (by omega) hrest _ rfl

/-- A call does not tell related writers apart. -/
theorem perform {r : ρ} {t : τ} (h : R r t) (call : Call) :
    Matches R Answer.Returns (Writer.perform r call) (Writer.perform t call) := by
  cases call with
  | write bytes =>
    exact ⟨congrArg Answer.counted (sim.write_outcome h _), sim.write_rest h _, trivial⟩
  | writeAll bytes =>
    have hall := sim.writeAll h bytes
    exact ⟨congrArg Answer.finished hall.answer, hall.rest, hall.property⟩
  | writeFirst buffers =>
    exact ⟨congrArg Answer.counted (sim.write_outcome h _), sim.write_rest h _, trivial⟩
  | flush => exact ⟨congrArg Answer.flushed (sim.flush_outcome h), sim.flush_rest h, trivial⟩

end Simulation

end Writer

/-! ## Wrapped writers -/

namespace Checksumming

variable {τ : Type} [Writer τ]

theorem running_write (c : Checksumming τ Calculation) (bytes : List UInt8) :
    (c.write bytes).2.running =
      match (Writer.write c.inner bytes).1 with
      | .ok n => if n ≤ bytes.length then c.running.feed (bytes.take n) else c.running
      | .error _ => c.running := by
  unfold write
  split
  next hout =>
    simp only [hout]
    rfl
  next hout => simp only [hout]

/-- A wrapped writer stands where the bare one does, and its checksum is that of what arrived behind
`before`. -/
structure Follows (l : Writer.Ledger τ) (e : Calculator) (before : List UInt8)
    (c : Checksumming τ Calculation) (t : τ) : Prop where
  inner : c.inner = t
  sound : l.sound t
  running : ∃ taken, l.arrived t = before ++ taken ∧ c.running = e.calculation.feed taken

theorem follows_wrap (l : Writer.Ledger τ) (e : Calculator) {t : τ} (h : l.sound t) :
    Follows l e (l.arrived t) (e.wrap t) t :=
  ⟨rfl, h, [], (List.append_nil _).symm, (Calculation.fits_calculation e).feed_nil.symm⟩

/-- An offer is followed exactly: what is claimed of it arrives and is counted, and a failure or a
flush changes nothing of either. -/
theorem simulation_follows (l : Writer.Ledger τ) (e : Calculator) (before : List UInt8) :
    Writer.Simulation (Follows l e before) where
  write_outcome {c t} h bytes := by
    obtain ⟨rfl, -, -⟩ := h
    exact fst_write c bytes
  write_rest {c t} h bytes := by
    obtain ⟨rfl, hsound, taken, harrived, hrunning⟩ := h
    obtain ⟨hnext, hcount⟩ := l.write bytes hsound
    refine ⟨inner_write c bytes, hnext, ?_⟩
    show ∃ taken, l.arrived (Writer.write c.inner bytes).2 = before ++ taken ∧
      (c.write bytes).2.running = e.calculation.feed taken
    rw [running_write]
    cases hout : (Writer.write c.inner bytes).1 with
    | error f =>
      rw [hout] at hcount
      exact ⟨taken, hcount.trans harrived, hrunning⟩
    | ok n =>
      rw [hout] at hcount
      obtain ⟨hfits, hmore⟩ := hcount
      refine ⟨taken ++ bytes.take n, ?_, ?_⟩
      · rw [hmore, harrived, List.append_assoc]
      · simp only [if_pos hfits]
        rw [hrunning]
        exact Calculation.feed_feed _ _ _
  fits {c t} h bytes n hok := by
    have hcount := (l.write bytes h.sound).2
    rw [hok] at hcount
    exact hcount.1
  flush_outcome h := by
    obtain ⟨rfl, -, -⟩ := h
    rfl
  flush_rest {c t} h := by
    obtain ⟨rfl, hsound, taken, harrived, hrunning⟩ := h
    obtain ⟨hnext, hsame⟩ := l.flush hsound
    exact ⟨rfl, hnext, taken, hsame.trans harrived, hrunning⟩

end Checksumming

/-- A writer with a ledger that is wrapped with a checksum answers every course of calls as the
writer itself does, comes back from all of them, and is left in the same state; and the checksum is
that of all the bytes that arrived since it was wrapped, whether the calls that offered them
succeeded or not. -/
theorem Calculator.performAll_wrap_writer {τ : Type} [Writer τ] (l : Writer.Ledger τ)
    (e : Calculator) {t : τ} (sound : l.sound t) (calls : List Writer.Call) :
    (performAll Writer.perform (e.wrap t) calls).1 = (performAll Writer.perform t calls).1 ∧
      (∀ answer ∈ (performAll Writer.perform t calls).1, answer.Returns) ∧
      (performAll Writer.perform (e.wrap t) calls).2.inner =
        (performAll Writer.perform t calls).2 ∧
      ∃ taken, l.arrived (performAll Writer.perform t calls).2 = l.arrived t ++ taken ∧
        (performAll Writer.perform (e.wrap t) calls).2.value = e.checksum taken := by
  have hstart := Checksumming.follows_wrap l e sound
  have hsim := Checksumming.simulation_follows l e (l.arrived t)
  obtain ⟨hanswers, hfollows, hreturns⟩ := Matches.all hsim.perform hstart calls
  obtain ⟨hinner, -, taken, harrived, hrunning⟩ := hfollows
  refine ⟨hanswers, hreturns, hinner, taken, harrived, ?_⟩
  rw [Checksumming.value, hrunning]
  exact Calculation.value_feed_calculation e taken

/-- Of five bytes two are taken, and after an interruption one more before a failure; the flush
fails as well, and then two bytes are offered in several buffers. The five bytes in the sink are
counted, and no other. -/
theorem Calculator.performAll_wrap_writer_crc16Arc :
    let e := Calculator.ofAlgorithm Catalogue.crc16Arc .nibbleTable
    let s : Sink :=
      { events :=
          [.accept 2, .fail (.reported .interrupted "again"), .accept 1,
            .fail (.reported .timedOut "gone")]
        flushFailure := some (.reported .brokenPipe "closed") }
    let calls : List Writer.Call :=
      [.writeAll [1, 2, 3, 4, 5], .flush, .writeFirst [[], [6, 7], [8]]]
    s.Honest ∧ (performAll Writer.perform s calls).2.bytes = [1, 2, 3, 6, 7] ∧
      (performAll Writer.perform (e.wrap s) calls).2.value = e.checksum [1, 2, 3, 6, 7] := by
  intro e s calls
  have honest : s.Honest := by
    unfold Sink.Honest
    decide
  have hbytes : (performAll Writer.perform s calls).2.bytes = [1, 2, 3, 6, 7] := by decide +kernel
  obtain ⟨-, -, -, taken, harrived, hvalue⟩ := e.performAll_wrap_writer Sink.ledger honest calls
  have htaken : (performAll Writer.perform s calls).2.bytes = taken := harrived
  rw [← htaken, hbytes] at hvalue
  exact ⟨honest, hbytes, hvalue⟩

end CyclicRedundancy
