import CyclicRedundancy.Proofs.Textbook

/-!
# Linearity

Words and messages of the same length are added bit by bit, by exclusive or. Feeding a message is
linear in the word that is fed and the message together. A checksum is linear but for a constant that
comes from the initial register and the final value, and an odd number of checksums has this constant
an odd number of times: the checksums of three messages add up to the checksum of their sum.
-/

namespace CyclicRedundancy

namespace ShiftRegister

variable {w : Nat}

theorem inOrder_xor (reflected : Bool) (g h : BitVec w) :
    inOrder reflected (g ^^^ h) =
      List.zipWith Bool.xor (inOrder reflected g) (inOrder reflected h) := by
  rw [inOrder_eq_map, inOrder_eq_map, inOrder_eq_map, List.zipWith_map, List.zipWith_self]
  congr 1
  funext i
  cases reflected with
  | false => exact BitVec.getMsbD_xor
  | true => exact BitVec.getLsbD_xor

theorem messageBits_zipWith_xor (reflected : Bool) (a b : List UInt8) :
    messageBits reflected (List.zipWith (· ^^^ ·) a b) =
      List.zipWith Bool.xor (messageBits reflected a) (messageBits reflected b) := by
  -- Both sides end with the shorter message, so no length is assumed.
  induction a generalizing b with
  | nil => rfl
  | cons x a ih =>
    cases b with
    | nil => exact List.zipWith_nil_right.symm
    | cons y b =>
      have hbyte :
          (inOrder reflected x.toBitVec).length = (inOrder reflected y.toBitVec).length := by
        rw [length_inOrder, length_inOrder]
      rw [List.zipWith_cons_cons, messageBits_cons, messageBits_cons, messageBits_cons,
        List.zipWith_append hbyte, ih, UInt8.toBitVec_xor, inOrder_xor]

/-- Feeding bytes is linear in the register and the bytes together. -/
theorem run_messageBits_xor (taps r s : BitVec w) (reflected : Bool) {a b : List UInt8}
    (h : a.length = b.length) :
    run taps (r ^^^ s) (messageBits reflected (List.zipWith (· ^^^ ·) a b)) =
      run taps r (messageBits reflected a) ^^^ run taps s (messageBits reflected b) := by
  have hbits : (messageBits reflected a).length = (messageBits reflected b).length := by
    rw [length_messageBits, length_messageBits, h]
  rw [messageBits_zipWith_xor, run_xor taps r s hbits]

end ShiftRegister

open ShiftRegister

/-- The final value occurs in all three checksums and so once in their sum. -/
theorem Model.publish_xor_xor (m : Model) (r s t : BitVec m.width) :
    m.publish r ^^^ m.publish s ^^^ m.publish t = m.publish (r ^^^ s ^^^ t) := by
  rw [publish, publish, publish, publish, orient_xor, orient_xor, ← Word.ofLow_xor,
    ← Word.ofLow_xor]
  generalize orient m.refOut r = p
  generalize orient m.refOut s = q
  generalize orient m.refOut t = u
  generalize Word.low m.width m.xorOut = x
  congr 1
  calc p ^^^ x ^^^ (q ^^^ x) ^^^ (u ^^^ x)
      = p ^^^ q ^^^ u ^^^ x ^^^ (x ^^^ x) := by ac_rfl
    _ = p ^^^ q ^^^ u ^^^ x := by rw [BitVec.xor_self, BitVec.xor_zero]

/-- Under any model and method, feeding the sum of two messages of the same length to the sum of two
words gives the sum of what they give, and the checksums of three messages of the same length add up
to the checksum of their sum. -/
theorem Calculator.feed_xor_and_checksum_xor (c : Calculator) :
    (∀ (v u : UInt64) (a b : List UInt8), a.length = b.length →
        c.feed (v ^^^ u) (List.zipWith (· ^^^ ·) a b) = c.feed v a ^^^ c.feed u b) ∧
      ∀ a b d : List UInt8, a.length = b.length → b.length = d.length →
        c.checksum a ^^^ c.checksum b ^^^ c.checksum d =
          c.checksum (List.zipWith (· ^^^ ·) (List.zipWith (· ^^^ ·) a b) d) := by
  constructor
  · intro v u a b hab
    rw [feed_eq, feed_eq, feed_eq, Model.view_xor, run_messageBits_xor _ _ _ _ hab, Model.pack_xor]
  · intro a b d hab hbd
    have hlen : (List.zipWith (· ^^^ ·) a b).length = d.length := by
      rw [List.length_zipWith, hab, Nat.min_self, hbd]
    -- The initial register is the sum of three copies of itself, one for each message.
    have hthrice : Word.low c.model.width c.model.init =
        Word.low c.model.width c.model.init ^^^ Word.low c.model.width c.model.init ^^^
          Word.low c.model.width c.model.init := by
      rw [BitVec.xor_self, BitVec.zero_xor]
    rw [checksum_eq, checksum_eq, checksum_eq, checksum_eq, Model.publish_xor_xor,
      ← run_messageBits_xor _ _ _ _ hab, ← run_messageBits_xor _ _ _ _ hlen, ← hthrice]

/-- Words with bits above the sixteen of the register, and an initial register and a final value that
are not zero. -/
theorem Calculator.feed_xor_and_checksum_xor_crc16IbmSdlc :
    let c := Calculator.ofAlgorithm Catalogue.crc16IbmSdlc .nibbleTable
    [0x12, 0x34].length = [0xAB, 0xCD].length ∧ [0xAB, 0xCD].length = [0x00, 0xFF].length ∧
      c.feed (0xBEEF0001 ^^^ 0x1234) [0xB9, 0xF9] =
        c.feed 0xBEEF0001 [0x12, 0x34] ^^^ c.feed 0x1234 [0xAB, 0xCD] ∧
      c.checksum [0x12, 0x34] ^^^ c.checksum [0xAB, 0xCD] ^^^ c.checksum [0x00, 0xFF] =
        c.checksum [0xB9, 0x06] := by
  intro c
  obtain ⟨hfeed, hchecksum⟩ := c.feed_xor_and_checksum_xor
  exact ⟨rfl, rfl, hfeed 0xBEEF0001 0x1234 [0x12, 0x34] [0xAB, 0xCD] rfl,
    hchecksum [0x12, 0x34] [0xAB, 0xCD] [0x00, 0xFF] rfl rfl⟩

end CyclicRedundancy
