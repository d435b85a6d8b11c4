import CyclicRedundancy.Catalogue.Published
import CyclicRedundancy.Proofs.Calculator
import CyclicRedundancy.Proofs.Calls
import CyclicRedundancy.Proofs.Ledger
import CyclicRedundancy.Stream.Checksumming
import CyclicRedundancy.Stream.Gathering

/-!
# Reading through a checksum

A reader that is wrapped with a checksum cannot be told from the reader itself: whatever is called,
and however a call ends, both answer the same and stand at the same place afterwards. And the
checksum is always that of the bytes which the reader has handed out, also if the call that took
them failed.

Both follow from what one read does. A relation between two readers that every read keeps is kept by
every loop over reads, because such a loop knows a reader only by its reads; and the relation that
the wrapped reader has to the bare one and to its ledger is such a relation.
-/

namespace CyclicRedundancy

namespace Reader

variable {ρ σ : Type} [Reader ρ] [Reader σ]

/-- A relation between two readers that reads keep: they have the same outcome, store the same, and
lead to related readers. No claim is larger than the buffer. -/
structure Simulation (R : ρ → σ → Prop) : Prop where
  outcome {r : ρ} {s : σ} (h : R r s) (b : Buffer) : (read r b).outcome = (read s b).outcome
  buffer {r : ρ} {s : σ} (h : R r s) (b : Buffer) : (read r b).buffer = (read s b).buffer
  rest {r : ρ} {s : σ} (h : R r s) (b : Buffer) : R (read r b).rest (read s b).rest
  fits {r : ρ} {s : σ} (h : R r s) {b : Buffer} {n : Nat} (hok : (read s b).outcome = .ok n) :
    n ≤ (read s b).buffer.size

/-- Two loops that came to the same, over readers that are related afterwards. -/
structure Agree (R : ρ → σ → Prop) (x : Gathered ρ) (y : Gathered σ) : Prop where
  outcome : x.outcome = y.outcome
  bytes : x.bytes = y.bytes
  rest : R x.rest y.rest
  /-- No claim ended the loop. -/
  claims : y.outcome ≠ .error .overrun

/-! ## Loops -/

/-- What sets one loop over reads apart from another, whose state is of type `β`. -/
structure Loop (β : Type) where
  /-- The buffer that the next read is made into. -/
  offered : β → Buffer
  /-- The bytes that were read. -/
  bytes : β → List UInt8
  /-- The state after an interruption, with the buffer that came back. -/
  again : β → Buffer → β
  /-- The state after a claim, with the buffer that came back, the count and the bytes claimed. -/
  accept : β → Buffer → Nat → List UInt8 → β
  /-- The outcome if nothing is left. -/
  ended : Except Halt Unit
  ended_ne : ended ≠ .error .overrun

/-- One round of a loop, if `next` is the rest of it. -/
def Loop.round {β : Type} (l : Loop β) (next : σ → β → Gathered σ) (s : σ) (x : β) : Gathered σ :=
  if (l.offered x).size = 0 then { outcome := .ok (), bytes := l.bytes x, rest := s }
  else
    let attempt := read s (l.offered x)
    match attempt.outcome with
    | .error f =>
      if f.isInterruption then next attempt.rest (l.again x attempt.buffer)
      else { outcome := .error (.failure f), bytes := l.bytes x, rest := attempt.rest }
    | .ok 0 => { outcome := l.ended, bytes := l.bytes x, rest := attempt.rest }
    | .ok (n + 1) =>
      match attempt.buffer.take? (n + 1) with
      | none => { outcome := .error .overrun, bytes := l.bytes x, rest := attempt.rest }
      | some bytes => next attempt.rest (l.accept x attempt.buffer (n + 1) bytes)

/-- Gathering, with what is left of the limit and the store as state. -/
abbrev gathering : Loop (Option Nat × Gathering) where
  offered x := x.2.makeRoom.offer x.1
  bytes x := x.2.bytes
  again x b := (x.1, x.2.makeRoom.takeBack b)
  accept x b n bytes := (x.1.map (· - n), x.2.makeRoom.accept b bytes)
  ended := .ok ()
  ended_ne := by simp

/-- Filling, with the rest of the buffer and the bytes in front of it as state. -/
abbrev filling : Loop (Buffer × List UInt8) where
  offered x := x.1
  bytes x := x.2
  again x b := (b, x.2)
  accept x b n bytes := (b.drop n, x.2 ++ bytes)
  ended := .error (.failure endedEarly)
  ended_ne := by simp

theorem gather_eq_round (s : σ) (x : Option Nat × Gathering) :
    gather x.1 s x.2 = gathering.round (fun s x => gather x.1 s x.2) s x := by
  rw [gather, Loop.round]
  simp only [Gathering.bytes_makeRoom]
  by_cases hsize : (x.2.makeRoom.offer x.1).size = 0
  · simp only [if_pos hsize]
  · simp only [if_neg hsize]
    split
    all_goals next hout => exact hout ▸ rfl

theorem fill_eq_round (s : σ) (x : Buffer × List UInt8) :
    fill s x.1 x.2 = filling.round (fun s x => fill s x.1 x.2) s x := by
  rw [fill, Loop.round]
  by_cases hsize : x.1.size = 0
  · simp only [if_pos hsize]
  · simp only [if_neg hsize]
    split
    all_goals next hout => exact hout ▸ rfl

namespace Simulation

variable {R : ρ → σ → Prop} (sim : Simulation R)
include sim

/-- Related readers are not told apart by a loop, by induction on the reads that can still be made
after which it goes on. -/
theorem loop {β : Type} {l : Loop β} {nextρ : ρ → β → Gathered ρ} {nextσ : σ → β → Gathered σ}
    (hρ : ∀ r x, nextρ r x = l.round nextρ r x) (hσ : ∀ s x, nextσ s x = l.round nextσ s x)
    {r : ρ} {s : σ} (h : R r s) (x : β) : Agree R (nextρ r x) (nextσ s x) := by
  induction hk : budget s using Nat.strongRecOn generalizing r s x with
  | _ k ih =>
  subst hk
  rw [hρ, hσ, Loop.round, Loop.round]
  simp only [sim.outcome h, sim.buffer h]
  by_cases hsize : (l.offered x).size = 0
  · simp only [if_pos hsize]
    exact ⟨rfl, rfl, h, by simp⟩
  · simp only [if_neg hsize]
    have hrest := sim.rest h (l.offered x)
    have hless := budget_read s (l.offered x)
    cases hout : (read s (l.offered x)).outcome with
    | error f =>
      by_cases hf : f.isInterruption = true
      · simp only [if_pos hf]
        exact ih _ (hless (by rw [hout]; exact hf)) hrest _ rfl
      · simp only [if_neg hf]
        exact ⟨rfl, rfl, hrest, by simp⟩
    | ok n =>
      cases n with
      | zero => exact ⟨rfl, rfl, hrest, l.ended_ne⟩
      | succ n =>
        have htake : (read s (l.offered x)).buffer.take? (n + 1) = some _ :=
          if_pos (sim.fits h hout)
        simp only [htake]
        exact ih _ (hless (by rw [hout]; rfl)) hrest _ rfl

theorem gather {r : ρ} {s : σ} (h : R r s) (limit : Option Nat) (g : Gathering) :
    Agree R (Reader.gather limit r g) (Reader.gather limit s g) :=
  sim.loop gather_eq_round gather_eq_round h (limit, g)

theorem fill {r : ρ} {s : σ} (h : R r s) (b : Buffer) (bytes : List UInt8) :
    Agree R (Reader.fill r b bytes) (Reader.fill s b bytes) :=
  sim.loop fill_eq_round fill_eq_round h (b, bytes)

end Simulation

/-! ## Calls -/

/-- What callers do with a reader. -/
inductive Call where
  /-- One read into a buffer. -/
  | read (b : Buffer)
  /-- All that is left. -/
  | toEnd
  /-- What is left, up to a limit. -/
  | upTo (limit : Nat)
  /-- All that is left, as a text. -/
  | text
  /-- Exactly so many bytes. -/
  | exactly (count : Nat)

/-- What a call gives to its caller. -/
inductive Answer where
  /-- The outcome of one read and the buffer afterwards. -/
  | read (outcome : Except Failure Nat) (buffer : Buffer)
  /-- The outcome of a loop and the bytes that it read. -/
  | bytes (outcome : Except Halt Unit) (bytes : List UInt8)
  /-- The outcome of reading a text, and the text. -/
  | text (outcome : Except Halt Unit) (text : String)

/-- Whether a call comes back to its caller: no claim was larger than the buffer. -/
def Answer.Returns : Answer → Prop
  | .read .. => True
  | .bytes outcome _ | .text outcome _ => outcome ≠ .error .overrun

/-- A call: its answer, and the reader afterwards. -/
def perform (s : σ) : Call → Answer × σ
  | .read b =>
    let attempt := Reader.read s b
    (.read attempt.outcome attempt.buffer, attempt.rest)
  | .toEnd =>
    let gathered := readToEnd s
    (.bytes gathered.outcome gathered.bytes, gathered.rest)
  | .upTo limit =>
    let gathered := readUpTo limit s
    (.bytes gathered.outcome gathered.bytes, gathered.rest)
  | .text =>
    let (outcome, text, gathered) := readToString s
    (.text outcome text, gathered.rest)
  | .exactly count =>
    let gathered := readExact count s
    (.bytes gathered.outcome gathered.bytes, gathered.rest)

/-- Loops that came to the same give the same answer. -/
theorem Agree.matches_bytes {ρ σ : Type} {R : ρ → σ → Prop} {x : Gathered ρ} {y : Gathered σ}
    (h : Agree R x y) :
    Matches R Answer.Returns (.bytes x.outcome x.bytes, x.rest)
      (.bytes y.outcome y.bytes, y.rest) where
  answer := congr (congrArg Answer.bytes h.outcome) h.bytes
  rest := h.rest
  property := h.claims

namespace Simulation

variable {R : ρ → σ → Prop} (sim : Simulation R)
include sim

/-- Related readers give the same text. -/
theorem matches_text {r : ρ} {s : σ} (h : R r s) :
    Matches R Answer.Returns (Reader.perform r .text) (Reader.perform s .text) := by
  obtain ⟨houtcome, hbytes, hrest, hclaims⟩ := sim.gather h none .start
  unfold Reader.perform readToString readToEnd
  simp only [houtcome, hbytes]
  cases Text.Utf8.decode? (Reader.gather none s .start).bytes with
  | some text => exact ⟨rfl, hrest, hclaims⟩
  | none =>
    refine ⟨rfl, hrest, ?_⟩
    cases hout : (Reader.gather none s .start).outcome with
    | error halt =>
      rw [hout] at hclaims
      exact hclaims
    | ok _ =>
      intro hoverrun
      cases hoverrun

/-- A call does not tell related readers apart. -/
theorem perform {r : ρ} {s : σ} (h : R r s) (call : Call) :
    Matches R Answer.Returns (Reader.perform r call) (Reader.perform s call) := by
  cases call with
  | read b =>
    exact ⟨congr (congrArg Answer.read (sim.outcome h b)) (sim.buffer h b), sim.rest h b, trivial⟩
  | toEnd => exact (sim.gather h none .start).matches_bytes
  | upTo limit => exact (sim.gather h (some limit) .start).matches_bytes
  | text => exact sim.matches_text h
  | exactly count => exact (sim.fill h (.blank count) []).matches_bytes

end Simulation

end Reader

/-! ## Wrapped readers -/

namespace Checksumming

variable {σ : Type} [Reader σ]

/-- A wrapped reader stands where the bare one does, and its checksum is that of what was handed out
of `whole`. -/
structure Tracks (l : Reader.Ledger σ) (e : Calculator) (whole : List UInt8)
    (c : Checksumming σ Calculation) (s : σ) : Prop where
  inner : c.inner = s
  sound : l.sound s
  running : ∃ handed, whole = handed ++ l.left s ∧ c.running = e.calculation.feed handed

theorem tracks_wrap (l : Reader.Ledger σ) (e : Calculator) {s : σ} (h : l.sound s) :
    Tracks l e (l.left s) (e.wrap s) s :=
  ⟨rfl, h, [], rfl, (Calculation.fits_calculation e).feed_nil.symm⟩

/-- A read is followed exactly: what it claims is taken from the ledger and counted, and a failure
changes neither. -/
theorem simulation_tracks (l : Reader.Ledger σ) (e : Calculator) (whole : List UInt8) :
    Reader.Simulation (Tracks l e whole) where
  outcome h b := by
    obtain ⟨rfl, -, -⟩ := h
    rfl
  buffer h b := by
    obtain ⟨rfl, -, -⟩ := h
    rfl
  rest {c s} h b := by
    obtain ⟨rfl, hsound, handed, hwhole, hrunning⟩ := h
    obtain ⟨hnext, hcount⟩ := l.read b hsound
    refine ⟨rfl, hnext, ?_⟩
    show ∃ handed, whole = handed ++ l.left (Reader.read c.inner b).rest ∧
      (c.read b).rest.running = e.calculation.feed handed
    simp only [Checksumming.read]
    cases hout : (Reader.read c.inner b).outcome with
    | error f =>
      rw [hout] at hcount
      exact ⟨handed, by rw [hwhole, hcount], hrunning⟩
    | ok n =>
      rw [hout] at hcount
      obtain ⟨hfits, hleft⟩ := hcount
      refine ⟨handed ++ (Reader.read c.inner b).buffer.take n, ?_, ?_⟩
      · rw [hwhole, hleft, List.append_assoc]
      · have htake : (Reader.read c.inner b).buffer.take? n = some _ := if_pos hfits
        simp only [follow, htake]
        rw [hrunning]
        exact Calculation.feed_feed _ _ _
  fits {c s} h b n hok := by
    have hcount := (l.read b h.sound).2
    rw [hok] at hcount
    exact hcount.1

end Checksumming

/-- An honest script that is wrapped with a checksum answers every course of calls as the script
itself does, comes back from all of them, and stands at the same place afterwards; and the checksum
is that of all the bytes that the script has handed out until then, whether the calls that took them
failed or not. -/
theorem Calculator.performAll_wrap_reader (e : Calculator) {s : Script} (honest : s.Honest)
    (calls : List Reader.Call) :
    (performAll Reader.perform (e.wrap s) calls).1 = (performAll Reader.perform s calls).1 ∧
      (∀ answer ∈ (performAll Reader.perform s calls).1, answer.Returns) ∧
      (performAll Reader.perform (e.wrap s) calls).2.inner =
        (performAll Reader.perform s calls).2 ∧
      ∃ handed, s.left = handed ++ (performAll Reader.perform s calls).2.left ∧
        (performAll Reader.perform (e.wrap s) calls).2.value = e.checksum handed := by
  have hstart := Checksumming.tracks_wrap Script.ledger e honest
  have hsim := Checksumming.simulation_tracks Script.ledger e s.left
  obtain ⟨hanswers, htracks, hreturns⟩ := Matches.all hsim.perform hstart calls
  obtain ⟨hinner, -, handed, hwhole, hrunning⟩ := htracks
  refine ⟨hanswers, hreturns, hinner, handed, hwhole, ?_⟩
  rw [Checksumming.value, hrunning]
  exact Calculation.value_feed_calculation e handed

/-- Two bytes are read, and then four are asked for. Of these three come, by two reads with an
interruption in between, before a failure; all the five bytes are counted. -/
theorem Calculator.performAll_wrap_reader_crc16Arc :
    let e := Calculator.ofAlgorithm Catalogue.crc16Arc .nibbleTable
    let s : Script :=
      { events :=
          [.deliver [1, 2, 3], .fail (.reported .interrupted "again"), .deliver [4, 5],
            .fail (.reported .timedOut "gone"), .deliver [6]] }
    let calls : List Reader.Call := [.read (.blank 2), .exactly 4]
    s.Honest ∧
      (performAll Reader.perform (e.wrap s) calls).2.value = e.checksum [1, 2, 3, 4, 5] := by
  intro e s calls
  have honest : s.Honest := by
    unfold Script.Honest
    decide
  obtain ⟨-, -, -, handed, hwhole, hvalue⟩ := e.performAll_wrap_reader honest calls
  have hleft : (performAll Reader.perform s calls).2.left = [6] := by decide +kernel
  have hbytes : s.left = [1, 2, 3, 4, 5] ++ [6] := rfl
  rw [hbytes, hleft] at hwhole
  rw [List.append_cancel_right hwhole]
  exact ⟨honest, hvalue⟩

end CyclicRedundancy
