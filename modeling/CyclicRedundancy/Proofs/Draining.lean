import CyclicRedundancy.Calculator.Drain
import CyclicRedundancy.Proofs.Calculator
import CyclicRedundancy.Proofs.Ledger

/-!
# Draining readers

A drain passes over interruptions, takes the bytes that reads bring, and is decided by the first
other outcome: by an end, a failure, or a claim of more bytes than there is room for. So there is a
checksum exactly if the end comes first, it is that of all the bytes before the end, and nothing
after the decision is read.

Many readers have a course that is settled before they are read: which bytes they deliver and how
they end does not depend on the buffers. The result of draining such a reader can be told without
one, be it a script that makes no claims of its own, bytes in memory, or what a path leads to.
-/

namespace CyclicRedundancy

/-! ## Decisions -/

namespace Transfer

variable {σ : Type}

/-- Whether a drain goes on after an attempt: it was interrupted, or brought bytes for which there
was room. -/
def Passes (t : Transfer σ Buffer) : Prop :=
  match t.outcome with
  | .ok n => 0 < n ∧ n ≤ t.buffer.size
  | .error f => f.isInterruption = true

/-- The bytes that an attempt brought. -/
def brought (t : Transfer σ Buffer) : List UInt8 :=
  match t.outcome with
  | .ok n => t.buffer.take n
  | .error _ => []

theorem Passes.goesOn {t : Transfer σ Buffer} (h : t.Passes) : goesOn t.outcome = true := by
  unfold Passes at h
  cases hout : t.outcome with
  | ok n =>
    rw [hout] at h
    exact decide_eq_true (Nat.ne_of_gt h.1)
  | error f =>
    rw [hout] at h
    exact h

end Transfer

namespace Reader

variable {σ : Type} [Reader σ]

/-- The reads from a reader into a buffer, each with what the one before it left, are decided by
`last`: it is the first that does not pass, and the reads before it brought `bytes`. -/
inductive Decided : σ → Buffer → List UInt8 → Transfer σ Buffer → Prop
  | here {s : σ} {b : Buffer} : ¬ (read s b).Passes → Decided s b [] (read s b)
  | later {s : σ} {b : Buffer} {bytes : List UInt8} {last : Transfer σ Buffer} :
      (read s b).Passes → Decided (read s b).rest (read s b).buffer bytes last →
        Decided s b ((read s b).brought ++ bytes) last

/-- Reads come to a decision, by induction on how many of them may still pass. -/
theorem exists_decided (s : σ) (b : Buffer) : ∃ bytes last, Decided s b bytes last := by
  induction hk : budget s using Nat.strongRecOn generalizing s b with
  | _ k ih =>
  subst hk
  by_cases hpasses : (read s b).Passes
  · have hless := budget_read s b hpasses.goesOn
    obtain ⟨bytes, last, hlater⟩ := ih _ hless (read s b).rest (read s b).buffer rfl
    exact ⟨_, last, .later hpasses hlater⟩
  · exact ⟨[], _, .here hpasses⟩

end Reader

/-! ## Drains -/

namespace Calculator

section Reading

variable {σ : Type} [Reader σ] (c : Calculator)

/-- What an outcome that decides makes of the checksum of the bytes before it. -/
def verdict (checksum : UInt64) : Except Failure Nat → Except Error UInt64
  | .ok 0 => .ok checksum
  | .ok (_ + 1) => .error (.stream overran)
  | .error f => .error (.stream f)

/-- One read of a drain. -/
theorem absorb_eq (register : UInt64) (total : Nat) (notices : Array Notice) (b : Buffer) (s : σ) :
    c.absorb register total notices b s =
      match (Reader.read s b).outcome with
      | .error f =>
        if f.isInterruption then
          c.absorb register total notices (Reader.read s b).buffer (Reader.read s b).rest
        else
          { result := .error (.stream f), notices := notices.toList
            buffer := (Reader.read s b).buffer, rest := (Reader.read s b).rest, touched := true }
      | .ok 0 =>
        { result := .ok (c.checksumOf register), notices := notices.toList
          buffer := (Reader.read s b).buffer, rest := (Reader.read s b).rest, touched := true }
      | .ok (n + 1) =>
        match (Reader.read s b).buffer.take? (n + 1) with
        | none =>
          { result := .error (.stream overran), notices := notices.toList
            buffer := (Reader.read s b).buffer, rest := (Reader.read s b).rest, touched := true }
        | some bytes =>
          c.absorb (c.feed register bytes) (total + (n + 1))
            (notices.push (.received (n + 1) (total + (n + 1))))
            (Reader.read s b).buffer (Reader.read s b).rest := by
  rw [absorb]
  split
  all_goals next hout => exact hout ▸ rfl

/-- What has been reported and counted so far plays no part in the result. -/
theorem absorb_of_decided {s : σ} {b : Buffer} {bytes : List UInt8} {last : Transfer σ Buffer}
    (h : Reader.Decided s b bytes last) (register : UInt64) (total : Nat) (notices : Array Notice) :
    (c.absorb register total notices b s).result =
        verdict (c.checksumOf (c.feed register bytes)) last.outcome ∧
      (c.absorb register total notices b s).buffer = last.buffer ∧
      (c.absorb register total notices b s).rest = last.rest ∧
      (c.absorb register total notices b s).touched = true := by
  induction h generalizing register total notices with
  | @here s b hstop =>
    unfold Transfer.Passes at hstop
    rw [absorb_eq]
    cases hout : (Reader.read s b).outcome with
    | error f =>
      simp only [hout] at hstop
      dsimp only
      rw [if_neg hstop]
      exact ⟨rfl, rfl, rfl, rfl⟩
    | ok n =>
      simp only [hout] at hstop
      cases n with
      | zero => exact ⟨congrArg Except.ok (c.checksumOf_feed_nil register).symm, rfl, rfl, rfl⟩
      | succ n =>
        -- A count that does not pass is beyond the room, so that nothing can be taken.
        have htake : (Reader.read s b).buffer.take? (n + 1) = none := if_neg (by omega)
        dsimp only
        rw [htake]
        exact ⟨rfl, rfl, rfl, rfl⟩
  | @later s b bytes last hpasses _ ih =>
    unfold Transfer.Passes at hpasses
    rw [absorb_eq]
    unfold Transfer.brought
    cases hout : (Reader.read s b).outcome with
    | error f =>
      simp only [hout] at hpasses
      simp only [if_pos hpasses, List.nil_append]
      exact ih register total notices
    | ok n =>
      simp only [hout] at hpasses
      obtain ⟨n, rfl⟩ := Nat.exists_eq_succ_of_ne_zero (Nat.ne_of_gt hpasses.1)
      have htake : (Reader.read s b).buffer.take? (n + 1) = some _ := if_pos hpasses.2
      simp only [htake]
      have hlater := ih (c.feed register ((Reader.read s b).buffer.take (n + 1)))
        (total + (n + 1)) (notices.push (.received (n + 1) (total + (n + 1))))
      rw [feed_append] at hlater
      exact hlater

theorem drain_of_decided {s : σ} {b : Buffer} (hb : b.size ≠ 0) {bytes : List UInt8}
    {last : Transfer σ Buffer} (h : Reader.Decided s b bytes last) :
    (c.drain s b).result = verdict (c.checksum bytes) last.outcome ∧
      (c.drain s b).buffer = last.buffer ∧ (c.drain s b).rest = last.rest ∧
      (c.drain s b).touched = true := by
  rw [drain, if_neg hb]
  exact c.absorb_of_decided h c.start 0 #[]

end Reading

end Calculator

/-! ## Settled courses -/

/-- Readers whose course is settled, as far as they are `sound`: what they hold and what is left of
them after the decision is known without the buffers they are read into. -/
structure Reader.Settled (σ ω : Type) [Reader σ] where
  sound : σ → Prop
  /-- All the bytes up to the end, or the failure that comes first. -/
  holds : σ → Except Failure (List UInt8)
  /-- What there is to see of a reader. -/
  view : σ → ω
  /-- What there will be to see of a reader after the decision. -/
  final : σ → ω
  size {s : σ} (b : Buffer) : sound s → (read s b).buffer.size = b.size
  fits {s : σ} {b : Buffer} {n : Nat} : sound s → (read s b).outcome = .ok n →
    n ≤ (read s b).buffer.size
  passing {s : σ} {b : Buffer} : sound s → b.size ≠ 0 → (read s b).Passes →
    sound (read s b).rest ∧
      holds s = (holds (read s b).rest).map ((read s b).brought ++ ·) ∧
      final s = final (read s b).rest
  deciding {s : σ} {b : Buffer} : sound s → b.size ≠ 0 → ¬ (read s b).Passes →
    holds s = (read s b).outcome.map (fun _ => []) ∧ view (read s b).rest = final s

namespace Reader.Settled

variable {σ ω : Type} [Reader σ] (l : Settled σ ω)

/-- Every decision is the one that was settled. -/
theorem of_decided {s : σ} {b : Buffer} {bytes : List UInt8} {last : Transfer σ Buffer}
    (h : Decided s b bytes last) (hs : l.sound s) (hb : b.size ≠ 0) :
    l.holds s = last.outcome.map (fun _ => bytes) ∧ (∀ n, last.outcome = .ok n → n = 0) ∧
      last.buffer.size = b.size ∧ l.view last.rest = l.final s := by
  induction h with
  | @here s b hstop =>
    obtain ⟨hholds, hview⟩ := l.deciding hs hb hstop
    refine ⟨hholds, fun n hout => ?_, l.size b hs, hview⟩
    have hfits := l.fits hs hout
    unfold Transfer.Passes at hstop
    simp only [hout] at hstop
    omega
  | @later s b bytes last hpasses _ ih =>
    obtain ⟨hrest, hholds, hfinal⟩ := l.passing hs hb hpasses
    have hsize := l.size b hs
    obtain ⟨hlater, hzero, hlast, hview⟩ := ih hrest (by omega)
    refine ⟨?_, hzero, hlast.trans hsize, hview.trans hfinal.symm⟩
    rw [hholds, hlater]
    cases last.outcome <;> rfl

end Reader.Settled

/-- The result of draining a reader whose course is settled, and what is left. -/
theorem Calculator.drain_of_settled (c : Calculator) {σ ω : Type} [Reader σ]
    (l : Reader.Settled σ ω) {s : σ} (hs : l.sound s) {b : Buffer} (hb : b.size ≠ 0) :
    (c.drain s b).result = ((l.holds s).map c.checksum).mapError .stream ∧
      (c.drain s b).buffer.size = b.size ∧ l.view (c.drain s b).rest = l.final s ∧
      (c.drain s b).touched = true := by
  obtain ⟨bytes, last, hdecided⟩ := Reader.exists_decided s b
  obtain ⟨hresult, hbuffer, hrest, htouched⟩ := c.drain_of_decided hb hdecided
  obtain ⟨hholds, hzero, hsize, hview⟩ := l.of_decided hdecided hs hb
  rw [hresult, hbuffer, hrest, hholds]
  refine ⟨?_, hsize, hview, htouched⟩
  -- A settled reader makes no claim beyond the room, so only an end or a failure decides.
  cases hout : last.outcome with
  | error f => rfl
  | ok n =>
    rw [hzero n hout]
    rfl

end CyclicRedundancy
