import CyclicRedundancy.Catalogue.Published
import CyclicRedundancy.Proofs.Calculator
import CyclicRedundancy.Stream.Checksumming
import CyclicRedundancy.Stream.Source

/-!
# Reads into several buffers

A read into several buffers fills them in order, and passes over those without room. The checksum
follows the claim in the same order, but it stops at the first buffer without room. So it covers the
bytes read exactly if they all lie in front of that buffer; what lies behind it is handed to the
caller and never counted.
-/

namespace CyclicRedundancy.Checksumming

/-- What some buffers hold in front of the first one without room. -/
def reached (bs : List Buffer) : List UInt8 :=
  (bs.takeWhile fun b => b.size ≠ 0).flatMap Buffer.contents

theorem reached_cons_of_size_ne_zero {b : Buffer} (h : b.size ≠ 0) (bs : List Buffer) :
    reached (b :: bs) = b.contents ++ reached bs := by
  rw [reached, List.takeWhile_cons, if_pos (decide_eq_true h), List.flatMap_cons]
  rfl

theorem reached_cons_of_size_eq_zero {b : Buffer} (h : b.size = 0) (bs : List Buffer) :
    reached (b :: bs) = [] := by
  rw [reached, List.takeWhile_cons, if_neg (by simp [h])]
  rfl

theorem reached_isPrefix (bs : List Buffer) : reached bs <+: bs.flatMap Buffer.contents := by
  induction bs with
  | nil => exact List.prefix_refl []
  | cons b bs ih =>
    by_cases hsize : b.size = 0
    · rw [reached_cons_of_size_eq_zero hsize]
      exact List.nil_prefix
    · rw [reached_cons_of_size_ne_zero hsize, List.flatMap_cons]
      exact (List.prefix_append_right_inj b.contents).mpr ih

/-- A claim is covered by what is reached exactly if it ends there. -/
theorem take_reached_eq_iff {bs : List Buffer} {n : Nat}
    (hn : n ≤ (bs.flatMap Buffer.contents).length) :
    (reached bs).take n = (bs.flatMap Buffer.contents).take n ↔ n ≤ (reached bs).length := by
  constructor
  · intro heq
    have hlen := congrArg List.length heq
    rw [List.length_take, List.length_take] at hlen
    omega
  · intro hle
    obtain ⟨behind, hbehind⟩ := reached_isPrefix bs
    rw [← hbehind, List.take_append_of_le_length hle]

/-- A claim over several buffers is followed as far as buffers are reached. -/
theorem followAll_eq {c : Calculation} (hc : c.Fits) (n : Nat) (bs : List Buffer) :
    followAll c n bs = c.feed ((reached bs).take n) := by
  induction bs generalizing c n with
  | nil =>
    rw [reached, List.takeWhile_nil, List.flatMap_nil, List.take_nil, hc.feed_nil]
    rfl
  | cons b bs ih =>
    rw [followAll]
    by_cases hpart : min n b.size = 0
    · -- Either nothing is left of the claim, or this buffer has no room.
      simp only [if_pos hpart]
      rcases Nat.eq_zero_or_pos n with hn | hn
      · rw [hn, List.take_zero, hc.feed_nil]
      · rw [reached_cons_of_size_eq_zero (by omega), List.take_nil, hc.feed_nil]
    · simp only [if_neg hpart]
      have hsplit : (reached (b :: bs)).take n =
          b.take (min n b.size) ++ (reached bs).take (n - min n b.size) := by
        rw [reached_cons_of_size_ne_zero (by omega), List.take_append, Buffer.take_eq,
          Buffer.length_contents]
        rcases Nat.le_total n b.size with hle | hle
        · rw [Nat.min_eq_left hle, show n - b.size = 0 by omega, Nat.sub_self]
        · have hsize := b.length_contents
          rw [Nat.min_eq_right hle, List.take_of_length_le (by omega : b.contents.length ≤ n),
            List.take_of_length_le (by omega : b.contents.length ≤ b.size)]
      show followAll (c.feed (b.take (min n b.size))) (n - min n b.size) bs = _
      rw [ih (c.fits_feed _), Calculation.feed_feed, hsplit]

/-- A read into several buffers gives and leaves what it would without the checksum. The checksum
goes on with the bytes of the claim that lie in front of the first buffer without room, and these
are all the bytes read exactly if the claim ends in front of it. -/
theorem running_scatter {σ : Type} [Reader σ] (c : Checksumming σ Calculation)
    (hc : c.running.Fits) (bs : List Buffer) {n : Nat}
    (hok : (Reader.scatter c.inner bs).outcome = .ok n)
    (hn : n ≤ ((Reader.scatter c.inner bs).buffer.flatMap Buffer.contents).length) :
    (Reader.scatter c bs).outcome = .ok n ∧
      (Reader.scatter c bs).buffer = (Reader.scatter c.inner bs).buffer ∧
      (Reader.scatter c bs).rest.inner = (Reader.scatter c.inner bs).rest ∧
      (Reader.scatter c bs).rest.running =
        c.running.feed ((reached (Reader.scatter c.inner bs).buffer).take n) ∧
      ((reached (Reader.scatter c.inner bs).buffer).take n =
          ((Reader.scatter c.inner bs).buffer.flatMap Buffer.contents).take n ↔
        n ≤ (reached (Reader.scatter c.inner bs).buffer).length) := by
  refine ⟨hok, rfl, rfl, ?_, take_reached_eq_iff hn⟩
  show (c.scatter bs).rest.running = _
  simp only [scatter, hok]
  exact followAll_eq hc n _

/-- Six bytes are read into buffers with room for two, none and four: two of them count. -/
theorem running_scatter_crc16Arc :
    let e := Calculator.ofAlgorithm Catalogue.crc16Arc .bitSerial
    let s := Cursor.ofList [0x61, 0x62, 0x63, 0x64, 0x65, 0x66]
    let bs := [Buffer.blank 2, Buffer.blank 0, Buffer.blank 4]
    e.calculation.Fits ∧ (Reader.scatter s bs).outcome = .ok 6 ∧
      6 ≤ ((Reader.scatter s bs).buffer.flatMap Buffer.contents).length ∧
      (Reader.scatter (e.wrap s) bs).rest.running = e.calculation.feed [0x61, 0x62] := by
  intro e s bs
  have hfits : e.calculation.Fits := Calculation.fits_calculation e
  have hok : (Reader.scatter s bs).outcome = .ok 6 := by cbv
  have hn : 6 ≤ ((Reader.scatter s bs).buffer.flatMap Buffer.contents).length := by decide +kernel
  have htwo : (reached (Reader.scatter s bs).buffer).take 6 = [0x61, 0x62] := by decide +kernel
  have hrunning := (running_scatter (e.wrap s) hfits bs hok hn).2.2.2.1
  exact ⟨hfits, hok, hn, hrunning.trans (congrArg e.calculation.feed htwo)⟩

/-- A buffer without room in front hides all that is read behind it: three bytes are claimed and
handed over, and the checksum is still that of no bytes, which is another one. -/
theorem value_scatter_ne_checksum :
    let e := Calculator.ofAlgorithm Catalogue.crc16Arc .bitSerial
    let s := Cursor.ofList [0x61, 0x62, 0x63]
    let attempt := Reader.scatter (e.wrap s) [Buffer.blank 0, Buffer.blank 3]
    attempt.outcome = .ok 3 ∧
      attempt.buffer.map Buffer.contents = [[], [0x61, 0x62, 0x63]] ∧
      attempt.rest.value = e.checksum [] ∧ e.checksum [] ≠ e.checksum [0x61, 0x62, 0x63] := by
  intro e s attempt
  have hok : attempt.outcome = .ok 3 := by cbv
  have hbytes : attempt.buffer.map Buffer.contents = [[], [0x61, 0x62, 0x63]] := by decide +kernel
  have hvalue : attempt.rest.value = e.checksum [] := by decide +kernel
  have hother : e.checksum [] ≠ e.checksum [0x61, 0x62, 0x63] := by decide +kernel
  exact ⟨hok, hbytes, hvalue, hother⟩

end CyclicRedundancy.Checksumming
