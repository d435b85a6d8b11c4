import CyclicRedundancy.Proofs.Textbook

/-!
# Bursts of errors

If the generator is odd, an error that touches no more bits in a row than the register has is always
detected. Up to the first wrong bit both messages lead to the same register, the wrong bits leave a
difference, because they fit into the register, and no later bit can undo a difference.
-/

namespace CyclicRedundancy

namespace ShiftRegister

variable {w : Nat} {taps : BitVec w}

theorem true_mem_zipWith_xor {a b : List Bool} (hlen : a.length = b.length) (hne : a ≠ b) :
    true ∈ List.zipWith Bool.xor a b := by
  induction a generalizing b with
  | nil => exact absurd (List.eq_nil_of_length_eq_zero hlen.symm).symm hne
  | cons x a ih =>
    cases b with
    | nil => exact absurd hlen (by simp)
    | cons y b =>
      rw [List.zipWith_cons_cons, List.mem_cons]
      by_cases hxy : x = y
      · refine Or.inr (ih (by simpa using hlen) fun hab => hne ?_)
        rw [hxy, hab]
      · left
        cases x <;> cases y <;> simp_all

/-- Two different groups of bits that fit into the register lead to different registers. -/
theorem run_ne_run (odd : taps.getLsbD 0 = true) (r : BitVec w) {a b : List Bool}
    (hlen : a.length = b.length) (hw : a.length ≤ w) (hne : a ≠ b) :
    run taps r a ≠ run taps r b := by
  intro heq
  have hxor := run_xor taps r r hlen
  rw [heq, BitVec.xor_self, BitVec.xor_self] at hxor
  have hshort : (List.zipWith Bool.xor a b).length ≤ w := by
    rw [List.length_zipWith]
    omega
  exact run_zero_ne_zero odd hshort (true_mem_zipWith_xor hlen hne) hxor

/-- Two messages that differ, but only within `w` bits in a row, lead to different registers. -/
theorem run_ne_run_of_burst (odd : taps.getLsbD 0 = true) (r : BitVec w) {a b : List Bool}
    (hlen : a.length = b.length) (hne : a ≠ b) {k : Nat}
    (hburst : ∀ i < a.length, a[i]? ≠ b[i]? → k ≤ i ∧ i < k + w) :
    run taps r a ≠ run taps r b := by
  have hsame : ∀ i, i < k ∨ k + w ≤ i → a[i]? = b[i]? := by
    intro i hi
    by_cases hdiff : a[i]? = b[i]?
    · exact hdiff
    · have hlt : i < a.length := by
        rcases Nat.lt_or_ge i a.length with h | h
        · exact h
        · rw [List.getElem?_eq_none h, List.getElem?_eq_none (by omega)] at hdiff
          exact absurd rfl hdiff
      have hwin := hburst i hlt hdiff
      omega
  have hpre : a.take k = b.take k := by
    apply List.ext_getElem?
    intro i
    rw [List.getElem?_take, List.getElem?_take]
    split
    next h => exact hsame i (Or.inl h)
    next => rfl
  have hpost : (a.drop k).drop w = (b.drop k).drop w := by
    apply List.ext_getElem?
    intro i
    rw [List.getElem?_drop, List.getElem?_drop, List.getElem?_drop, List.getElem?_drop]
    exact hsame _ (Or.inr (by omega))
  -- The messages are cut into what is before the burst, the burst and what is after it.
  have hmid : (a.drop k).take w ≠ (b.drop k).take w := by
    intro h
    apply hne
    rw [← List.take_append_drop k a, ← List.take_append_drop w (a.drop k), hpre, h, hpost,
      List.take_append_drop, List.take_append_drop]
  have hmidlen : ((a.drop k).take w).length = ((b.drop k).take w).length := by
    rw [List.length_take, List.length_take, List.length_drop, List.length_drop, hlen]
  intro heq
  rw [← List.take_append_drop k a, ← List.take_append_drop w (a.drop k),
    ← List.take_append_drop k b, ← List.take_append_drop w (b.drop k), hpre, hpost, run_append,
    run_append, run_append, run_append] at heq
  exact run_ne_run odd _ hmidlen (by rw [List.length_take]; omega) hmid (run_injective odd heq)

end ShiftRegister

open ShiftRegister

theorem Model.getLsbD_taps_zero {m : Model} (odd : m.poly &&& 1 = 1) : m.taps.getLsbD 0 = true := by
  have hbit : m.poly.toBitVec.getLsbD 0 = true := by
    rw [← Word.and_one_ne_zero, odd]
    decide
  rw [taps, Word.getLsbD_low, decide_eq_true m.width_pos, hbit]
  rfl

/-- Every published generator has a constant term. -/
theorem Catalogue.odd_of_mem_algorithms {a : Algorithm} (h : a ∈ algorithms) :
    a.model.poly &&& 1 = 1 := by
  have hall : ∀ a ∈ algorithms, a.model.poly &&& 1 = 1 := by decide +kernel
  exact hall a h

/-- Burst errors are detected: under an odd generator, as every published one is, and under any
method, two messages of the same length that differ, but only within as many bits in a row as the
register has, have different checksums. -/
theorem Calculator.checksum_ne_of_burst :
    (∀ (c : Calculator) (a b : List UInt8) (k : Nat), c.model.poly &&& 1 = 1 →
        a.length = b.length → a ≠ b →
        (∀ i < 8 * a.length,
          (messageBits c.model.refIn a)[i]? ≠ (messageBits c.model.refIn b)[i]? →
            k ≤ i ∧ i < k + c.model.width) →
        c.checksum a ≠ c.checksum b) ∧
      ∀ a ∈ Catalogue.algorithms, a.model.poly &&& 1 = 1 := by
  refine ⟨fun c a b k odd hlen hne hburst heq => ?_, fun a h => Catalogue.odd_of_mem_algorithms h⟩
  have hbits : (messageBits c.model.refIn a).length = (messageBits c.model.refIn b).length := by
    rw [length_messageBits, length_messageBits, hlen]
  have hwindow : ∀ i < (messageBits c.model.refIn a).length,
      (messageBits c.model.refIn a)[i]? ≠ (messageBits c.model.refIn b)[i]? →
        k ≤ i ∧ i < k + c.model.width := by
    rw [length_messageBits]
    exact hburst
  rw [checksum_eq, checksum_eq] at heq
  exact run_ne_run_of_burst (Model.getLsbD_taps_zero odd) _ hbits
    (fun h => hne (messageBits_injective h)) hwindow (c.model.publish_injective heq)

/-- A burst of sixteen bits that begins in the first byte and ends in the third. -/
theorem Calculator.checksum_ne_of_burst_crc16Arc :
    Catalogue.crc16Arc.model.poly &&& 1 = 1 ∧
      (∀ i < 24, (messageBits true [0x12, 0x34, 0x56])[i]? ≠
          (messageBits true [0xE2, 0xCB, 0x59])[i]? →
        4 ≤ i ∧ i < 4 + Catalogue.crc16Arc.model.width) ∧
      (Calculator.ofAlgorithm Catalogue.crc16Arc .nibbleTable).checksum [0x12, 0x34, 0x56] ≠
        (Calculator.ofAlgorithm Catalogue.crc16Arc .nibbleTable).checksum [0xE2, 0xCB, 0x59] :=
  ⟨by decide, by decide,
    checksum_ne_of_burst.1 (Calculator.ofAlgorithm Catalogue.crc16Arc .nibbleTable)
      [0x12, 0x34, 0x56] [0xE2, 0xCB, 0x59] 4 (by decide) (by decide) (by decide) (by decide)⟩

end CyclicRedundancy
