/-!
# The shift register

The register by which cyclic redundancy checks are defined: `w` bits, which input bits enter one at
a time at the upper end. Its taps are the coefficients of the generator polynomial below the highest
one. The register knows nothing of words, tables or the order of bits in a byte.

Feeding is linear in the register and the input together (`run_xor`), and a register that is fed its
own upper bits only shifts (`run_leading`). Hence what some bits do to a register can be split into a
shift and what they, added to the upper bits of the register, do to zero (`run_eq`).
-/

namespace CyclicRedundancy.ShiftRegister

variable {w : Nat}

/-- The register after one more bit: it shifts up by one, and if the bit that is shifted out differs
from the input bit, the taps are added. -/
def shift (taps register : BitVec w) (bit : Bool) : BitVec w :=
  if register.msb ≠ bit then (register <<< 1) ^^^ taps else register <<< 1

/-- The register after some more bits. -/
def run (taps register : BitVec w) (bits : List Bool) : BitVec w := bits.foldl (shift taps) register

/-- The upper `count` bits of a register, the highest first. Below the register there are zeros. -/
def leading (count : Nat) (register : BitVec w) : List Bool :=
  (List.range count).map register.getMsbD

/-- A register, or its mirror image. -/
def orient (reflected : Bool) (register : BitVec w) : BitVec w :=
  if reflected then register.reverse else register

/-- All the bits of a group in the order in which they enter the register: from the highest, or
from the lowest if groups are taken reflected. -/
def inOrder (reflected : Bool) (group : BitVec w) : List Bool := leading w (orient reflected group)

/-- The bits of a message in the order in which they enter the register. -/
def messageBits (reflected : Bool) (data : List UInt8) : List Bool :=
  data.flatMap fun byte => inOrder reflected byte.toBitVec

/-! ## Mirror images -/

theorem getLsbD_orient (reflected : Bool) (r : BitVec w) (i : Nat) :
    (orient reflected r).getLsbD i = if reflected then r.getMsbD i else r.getLsbD i := by
  cases reflected with
  | false => rfl
  | true => exact BitVec.getLsbD_reverse

theorem getMsbD_orient (reflected : Bool) (r : BitVec w) (i : Nat) :
    (orient reflected r).getMsbD i = if reflected then r.getLsbD i else r.getMsbD i := by
  cases reflected with
  | false => rfl
  | true => exact BitVec.getMsbD_reverse

theorem orient_orient (reflected : Bool) (r : BitVec w) :
    orient reflected (orient reflected r) = r := by
  apply BitVec.eq_of_getLsbD_eq
  intro i _
  cases reflected with
  | false => rfl
  | true => rw [getLsbD_orient, if_pos rfl, getMsbD_orient, if_pos rfl]

theorem orient_xor (reflected : Bool) (r s : BitVec w) :
    orient reflected (r ^^^ s) = orient reflected r ^^^ orient reflected s := by
  apply BitVec.eq_of_getLsbD_eq
  intro i _
  cases reflected with
  | false => rfl
  | true => simp only [getLsbD_orient, BitVec.getLsbD_xor, if_pos, BitVec.getMsbD_xor]

/-! ## One bit -/

theorem shift_eq (taps r : BitVec w) (bit : Bool) :
    shift taps r bit = (r <<< 1) ^^^ if r.msb ≠ bit then taps else 0#w := by
  unfold shift
  split
  · rfl
  · exact (BitVec.xor_zero).symm

/-- Every bit moves up by one, and the taps are added where they stand. -/
theorem getMsbD_shift (taps r : BitVec w) (bit : Bool) (i : Nat) :
    (shift taps r bit).getMsbD i =
      (r.getMsbD (i + 1) ^^ ((r.getMsbD 0 ^^ bit) && taps.getMsbD i)) := by
  rw [shift_eq, BitVec.getMsbD_xor, BitVec.getMsbD_shiftLeft, BitVec.msb_eq_getMsbD_zero]
  cases r.getMsbD 0 <;> cases bit <;> simp

theorem getLsbD_shift_zero (taps r : BitVec w) (bit : Bool) :
    (shift taps r bit).getLsbD 0 = ((r.msb ^^ bit) && taps.getLsbD 0) := by
  rw [shift_eq, BitVec.getLsbD_xor, BitVec.getLsbD_shiftLeft]
  cases r.msb <;> cases bit <;> simp

theorem getLsbD_shift_succ (taps r : BitVec w) (bit : Bool) (i : Nat) :
    (shift taps r bit).getLsbD (i + 1) =
      ((decide (i + 1 < w) && r.getLsbD i) ^^ ((r.msb ^^ bit) && taps.getLsbD (i + 1))) := by
  rw [shift_eq, BitVec.getLsbD_xor, BitVec.getLsbD_shiftLeft]
  cases r.msb <;> cases bit <;> simp

theorem shift_xor (taps r s : BitVec w) (b c : Bool) :
    shift taps (r ^^^ s) (b ^^ c) = shift taps r b ^^^ shift taps s c := by
  apply BitVec.eq_of_getMsbD_eq
  intro i _
  simp only [BitVec.getMsbD_xor, getMsbD_shift]
  generalize taps.getMsbD i = t
  generalize r.getMsbD 0 = r0
  generalize s.getMsbD 0 = s0
  generalize r.getMsbD (i + 1) = r1
  generalize s.getMsbD (i + 1) = s1
  cases t <;> cases r0 <;> cases s0 <;> cases b <;> cases c <;> cases r1 <;> cases s1 <;> rfl

/-- A register that is fed its own highest bit only shifts. -/
theorem shift_msb (taps r : BitVec w) : shift taps r r.msb = r <<< 1 := by
  rw [shift, if_neg (fun h => h rfl)]

/-! ## Runs -/

@[simp] theorem run_nil (taps r : BitVec w) : run taps r [] = r := rfl

@[simp] theorem run_cons (taps r : BitVec w) (bit : Bool) (bits : List Bool) :
    run taps r (bit :: bits) = run taps (shift taps r bit) bits := rfl

theorem run_append (taps r : BitVec w) (bits more : List Bool) :
    run taps r (bits ++ more) = run taps (run taps r bits) more := by
  rw [run, List.foldl_append]
  rfl

/-- Feeding is linear in the register and the input together. -/
theorem run_xor (taps r s : BitVec w) {a b : List Bool} (h : a.length = b.length) :
    run taps (r ^^^ s) (List.zipWith Bool.xor a b) = run taps r a ^^^ run taps s b := by
  induction a generalizing b r s with
  | nil =>
    cases b with
    | nil => rfl
    | cons c b => exact absurd h (by simp)
  | cons x a ih =>
    cases b with
    | nil => exact absurd h (by simp)
    | cons y b =>
      have hlen : a.length = b.length := by simpa using h
      rw [List.zipWith_cons_cons, run_cons, run_cons, run_cons, ← ih _ _ hlen, shift_xor]

@[simp] theorem shift_zero_false (taps : BitVec w) : shift taps 0#w false = 0#w := by
  apply BitVec.eq_of_getMsbD_eq
  intro i _
  simp [getMsbD_shift]

@[simp] theorem shift_zero_true (taps : BitVec w) : shift taps 0#w true = taps := by
  apply BitVec.eq_of_getMsbD_eq
  intro i _
  simp [getMsbD_shift]

/-- Zeros leave a zero register as it is. -/
theorem run_zero_replicate (taps : BitVec w) (n : Nat) :
    run taps 0#w (List.replicate n false) = 0#w := by
  induction n with
  | zero => rfl
  | succ n ih => rw [List.replicate_succ, run_cons, shift_zero_false, ih]

/-! ## Taking the upper bits apart -/

theorem length_leading (n : Nat) (r : BitVec w) : (leading n r).length = n := by
  rw [leading, List.length_map, List.length_range]

theorem leading_succ (n : Nat) (r : BitVec w) :
    leading (n + 1) r = r.msb :: leading n (r <<< 1) := by
  have e : (r.getMsbD ∘ Nat.succ) = (r <<< 1).getMsbD := by
    funext i
    rw [BitVec.getMsbD_shiftLeft]
    rfl
  rw [leading, List.range_succ_eq_map, List.map_cons, List.map_map, e, BitVec.msb_eq_getMsbD_zero]
  rfl

theorem getD_leading (n : Nat) (r : BitVec w) (i : Nat) :
    (leading n r).getD i false = (decide (i < n) && r.getMsbD i) := by
  rw [leading, List.getD_eq_getElem?_getD, List.getElem?_map]
  by_cases hi : i < n
  · simp [hi]
  · simp [hi]

theorem length_inOrder (reflected : Bool) (g : BitVec w) : (inOrder reflected g).length = w :=
  length_leading w _

theorem getD_inOrder (reflected : Bool) (g : BitVec w) (i : Nat) :
    (inOrder reflected g).getD i false = if reflected then g.getLsbD i else g.getMsbD i := by
  rw [inOrder, getD_leading, ← getMsbD_orient]
  by_cases hi : i < w
  · rw [decide_eq_true hi, Bool.true_and]
  · rw [BitVec.getMsbD_of_ge _ i (by omega), Bool.and_false]

theorem inOrder_eq_map (reflected : Bool) (g : BitVec w) :
    inOrder reflected g =
      (List.range w).map fun i => if reflected then g.getLsbD i else g.getMsbD i := by
  rw [inOrder, leading]
  congr 1
  funext i
  rw [getMsbD_orient]

/-- A group that is taken from the highest bit begins with its upper part. -/
theorem inOrder_false_append {v : Nat} (high : BitVec v) (low : BitVec w) :
    inOrder false (high ++ low) = inOrder false high ++ inOrder false low := by
  simp only [inOrder_eq_map, Bool.false_eq_true, if_false]
  rw [List.range_add, List.map_append, List.map_map]
  congr 1
  · apply List.map_congr_left
    intro i hi
    rw [BitVec.getMsbD_append, if_neg (by have := List.mem_range.mp hi; omega)]
  · apply List.map_congr_left
    intro i _
    rw [Function.comp_apply, BitVec.getMsbD_append, if_pos (by omega), Nat.add_sub_cancel_left]

/-- A group that is taken from the lowest bit begins with its lower part. -/
theorem inOrder_true_append {v : Nat} (high : BitVec v) (low : BitVec w) :
    inOrder true (high ++ low) = inOrder true low ++ inOrder true high := by
  have e : List.range (v + w) = List.range w ++ (List.range v).map (w + ·) := by
    rw [Nat.add_comm, List.range_add]
  simp only [inOrder_eq_map, if_true]
  rw [e, List.map_append, List.map_map]
  congr 1
  · apply List.map_congr_left
    intro i hi
    rw [BitVec.getLsbD_append, if_pos (List.mem_range.mp hi)]
  · apply List.map_congr_left
    intro i _
    rw [Function.comp_apply, BitVec.getLsbD_append, if_neg (by omega), Nat.add_sub_cancel_left]

theorem inOrder_zero (reflected : Bool) (n : Nat) :
    inOrder reflected 0#n = List.replicate n false := by
  rw [inOrder_eq_map, List.eq_replicate_iff]
  refine ⟨by simp, fun b hb => ?_⟩
  obtain ⟨i, -, rfl⟩ := List.mem_map.mp hb
  simp

theorem messageBits_cons (reflected : Bool) (byte : UInt8) (data : List UInt8) :
    messageBits reflected (byte :: data) =
      inOrder reflected byte.toBitVec ++ messageBits reflected data :=
  List.flatMap_cons

theorem messageBits_append (reflected : Bool) (data more : List UInt8) :
    messageBits reflected (data ++ more) =
      messageBits reflected data ++ messageBits reflected more :=
  List.flatMap_append

theorem length_messageBits (reflected : Bool) (data : List UInt8) :
    (messageBits reflected data).length = 8 * data.length := by
  induction data with
  | nil => rfl
  | cons byte data ih =>
    rw [messageBits_cons, List.length_append, length_inOrder, ih, List.length_cons]
    omega

theorem inOrder_injective {reflected : Bool} {g h : BitVec w}
    (heq : inOrder reflected g = inOrder reflected h) : g = h := by
  have hbit : ∀ i, (if reflected then g.getLsbD i else g.getMsbD i) =
      if reflected then h.getLsbD i else h.getMsbD i := by
    intro i
    rw [← getD_inOrder, heq, getD_inOrder]
  cases reflected with
  | false => exact BitVec.eq_of_getMsbD_eq fun i _ => hbit i
  | true => exact BitVec.eq_of_getLsbD_eq fun i _ => hbit i

theorem messageBits_injective {reflected : Bool} {a b : List UInt8}
    (h : messageBits reflected a = messageBits reflected b) : a = b := by
  have hlen : a.length = b.length := by
    have e := congrArg List.length h
    rw [length_messageBits, length_messageBits] at e
    omega
  induction a generalizing b with
  | nil => exact (List.eq_nil_of_length_eq_zero hlen.symm).symm
  | cons x a ih =>
    cases b with
    | nil => exact absurd hlen (by simp)
    | cons y b =>
      rw [messageBits_cons, messageBits_cons] at h
      obtain ⟨hbyte, hrest⟩ := List.append_inj h (by rw [length_inOrder, length_inOrder])
      rw [UInt8.toBitVec_inj.mp (inOrder_injective hbyte), ih hrest (by simpa using hlen)]

/-- A register that is fed its own upper bits only shifts. -/
theorem run_leading (taps : BitVec w) (n : Nat) (r : BitVec w) :
    run taps r (leading n r) = r <<< n := by
  induction n generalizing r with
  | zero => exact (BitVec.shiftLeft_zero r).symm
  | succ n ih =>
    rw [leading_succ, run_cons, shift_msb, ih, ← BitVec.shiftLeft_add, Nat.add_comm]

theorem zipWith_xor_zipWith_xor {a b : List Bool} (h : a.length = b.length) :
    List.zipWith Bool.xor a (List.zipWith Bool.xor a b) = b := by
  induction a generalizing b with
  | nil =>
    cases b with
    | nil => rfl
    | cons y b => exact absurd h (by simp)
  | cons x a ih =>
    cases b with
    | nil => exact absurd h (by simp)
    | cons y b =>
      have hlen : a.length = b.length := by simpa using h
      rw [List.zipWith_cons_cons, List.zipWith_cons_cons, ih hlen]
      cases x <;> cases y <;> rfl

/-- What some bits do to a register: it shifts, and they, added to its upper bits, are fed to
zero. -/
theorem run_eq (taps r : BitVec w) (bits : List Bool) :
    run taps r bits = (r <<< bits.length) ^^^
      run taps 0#w (List.zipWith Bool.xor (leading bits.length r) bits) := by
  have hlen : (leading bits.length r).length = bits.length := length_leading bits.length r
  have h := run_xor taps r 0#w (a := leading bits.length r)
    (b := List.zipWith Bool.xor (leading bits.length r) bits) (by simp [hlen])
  rwa [zipWith_xor_zipWith_xor hlen, run_leading, BitVec.xor_zero] at h

/-! ## Odd generators -/

section Odd

variable {taps : BitVec w} (odd : taps.getLsbD 0 = true)
include odd

theorem width_pos_of_odd : 0 < w := by
  rcases Nat.eq_zero_or_pos w with h | h
  · subst h
    simp at odd
  · exact h

/-- The lowest bit tells which bit was shifted out, so no two registers lead to the same one. -/
theorem shift_injective {r s : BitVec w} {bit : Bool} (h : shift taps r bit = shift taps s bit) :
    r = s := by
  have hw := width_pos_of_odd odd
  have hbit : ∀ i, (r.getMsbD (i + 1) ^^ ((r.getMsbD 0 ^^ bit) && taps.getMsbD i)) =
      (s.getMsbD (i + 1) ^^ ((s.getMsbD 0 ^^ bit) && taps.getMsbD i)) := by
    intro i
    rw [← getMsbD_shift, h, getMsbD_shift]
  have h0 : r.getMsbD 0 = s.getMsbD 0 := by
    have htaps : taps.getMsbD (w - 1) = true := by
      rw [BitVec.getMsbD_eq_getLsbD, Nat.sub_self, odd, decide_eq_true (show w - 1 < w by omega)]
      rfl
    have hlast := hbit (w - 1)
    rw [htaps, BitVec.getMsbD_of_ge r _ (by omega), BitVec.getMsbD_of_ge s _ (by omega)] at hlast
    simpa using hlast
  apply BitVec.eq_of_getMsbD_eq
  intro i _
  cases i with
  | zero => exact h0
  | succ i =>
    have hi := hbit i
    rw [h0] at hi
    exact Bool.xor_left_inj.mp hi

theorem run_injective {r s : BitVec w} {bits : List Bool} (h : run taps r bits = run taps s bits) :
    r = s := by
  induction bits generalizing r s with
  | nil => exact h
  | cons bit bits ih => exact shift_injective odd (ih h)

/-- The lowest bit that is set moves up by at most one with every bit that is fed, so as long as it
has room a register does not become zero. -/
theorem run_ne_zero {r : BitVec w} {i : Nat} (hi : r.getLsbD i = true) {bits : List Bool}
    (hw : i + bits.length < w) : run taps r bits ≠ 0#w := by
  induction bits generalizing r i with
  | nil =>
    intro hz
    rw [run_nil] at hz
    rw [hz] at hi
    simp at hi
  | cons bit bits ih =>
    rw [List.length_cons] at hw
    rw [run_cons]
    by_cases hout : r.msb ≠ bit
    · have h0 : (shift taps r bit).getLsbD 0 = true := by
        rw [shift, if_pos hout]
        simp [odd]
      exact ih h0 (by omega)
    · have h1 : (shift taps r bit).getLsbD (i + 1) = true := by
        rw [shift, if_neg hout]
        simp [hi]
        omega
      exact ih h1 (by omega)

/-- Bits that fit into the register and are not all zero do not leave it zero. -/
theorem run_zero_ne_zero {bits : List Bool} (hw : bits.length ≤ w) (h : true ∈ bits) :
    run taps 0#w bits ≠ 0#w := by
  induction bits with
  | nil => exact absurd h (by simp)
  | cons bit bits ih =>
    rw [List.length_cons] at hw
    rw [run_cons]
    cases bit with
    | false =>
      rw [shift_zero_false]
      exact ih (by omega) (by simpa using h)
    | true =>
      rw [shift_zero_true]
      exact run_ne_zero odd odd (by omega)

end Odd

end CyclicRedundancy.ShiftRegister
