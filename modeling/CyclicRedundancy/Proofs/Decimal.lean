import Mathlib.Data.List.Induction
import CyclicRedundancy.Text.Numeral

/-!
# Written counts

The texts that are read as a count: the digits of a number, zeros in front of them, and a plus sign
in front of all. What is read is the number whose digits they are, as long as it lies below the
limit.
-/

namespace CyclicRedundancy.Text.Decimal

/-- A text writes a number: by its digits, with any number of zeros in front, and with a plus sign
or without. -/
def Writes (cs : List Char) (n : Nat) : Prop :=
  ∃ zeros, cs = List.replicate zeros '0' ++ Nat.toDigits 10 n ∨
    cs = '+' :: (List.replicate zeros '0' ++ Nat.toDigits 10 n)

/-! ## Digits -/

theorem value_append (digits more : List Char) :
    value (digits ++ more) =
      more.foldl (fun n c => 10 * n + (c.toNat - '0'.toNat)) (value digits) := by
  rw [value, List.foldl_append]
  rfl

theorem value_zeros_append (zeros n : Nat) :
    value (List.replicate zeros '0' ++ Nat.toDigits 10 n) = n := by
  have hzeros : value (List.replicate zeros '0') = 10 ^ zeros * 0 :=
    Nat.ofDigitChars_replicate_zero
  rw [value_append, hzeros]
  exact Nat.ofDigitChars_ten_toDigits

theorem isDigit_of_mem_zeros_append {zeros n : Nat} {c : Char}
    (h : c ∈ List.replicate zeros '0' ++ Nat.toDigits 10 n) : c.isDigit = true := by
  rcases List.mem_append.mp h with hzero | hdigit
  · rw [List.eq_of_mem_replicate hzero]
    rfl
  · exact Nat.isDigit_of_mem_toDigits (by decide) (by decide) hdigit

theorem digitChar_of_isDigit {c : Char} (h : c.isDigit = true) :
    c.toNat - '0'.toNat < 10 ∧ Nat.digitChar (c.toNat - '0'.toNat) = c := by
  have hbounds : 48 ≤ c.toNat ∧ c.toNat ≤ 57 := by
    simpa [Char.isDigit, UInt32.le_iff_toNat_le] using h
  have hlt : c.toNat - '0'.toNat < 10 := by
    show c.toNat - 48 < 10
    omega
  refine ⟨hlt, Char.toNat_inj.mp ?_⟩
  rw [Nat.toNat_digitChar_of_lt_ten hlt]
  show 48 + (c.toNat - 48) = c.toNat
  omega

/-- Digits are those of their value after zeros, by induction from the last. A digit more goes to
the end of them, or makes a zero of the value that was there. -/
theorem exists_zeros {digits : List Char} (hne : digits ≠ [])
    (hdigits : ∀ c ∈ digits, c.isDigit = true) :
    ∃ zeros, digits = List.replicate zeros '0' ++ Nat.toDigits 10 (value digits) := by
  induction digits using List.reverseRecOn with
  | nil => exact absurd rfl hne
  | append_singleton front c ih =>
    obtain ⟨hlt, hchar⟩ := digitChar_of_isDigit (hdigits c (by simp))
    have hvalue : value (front ++ [c]) = 10 * value front + (c.toNat - '0'.toNat) :=
      value_append front [c]
    by_cases hfront : front = []
    · subst hfront
      refine ⟨0, ?_⟩
      have hsingle : value ([] ++ [c]) = c.toNat - '0'.toNat := by
        rw [hvalue]
        exact Nat.zero_add _
      rw [hsingle, Nat.toDigits_of_lt_base hlt, hchar]
      rfl
    obtain ⟨zeros, hzeros⟩ := ih hfront fun d hd => hdigits d (by simp [hd])
    by_cases hzero : value front = 0
    · refine ⟨zeros + 1, ?_⟩
      rw [hvalue, hzero, Nat.mul_zero, Nat.zero_add, Nat.toDigits_of_lt_base hlt, hchar]
      rw [hzero, Nat.toDigits_zero] at hzeros
      rw [hzeros, List.replicate_succ']
    · refine ⟨zeros, ?_⟩
      rw [hvalue, ← Nat.toDigits_append_toDigits (by decide) (Nat.pos_of_ne_zero hzero) hlt,
        Nat.toDigits_of_lt_base hlt, hchar, ← List.append_assoc, ← hzeros]

/-! ## Signs -/

theorem unsigned_of_isDigit {digits : List Char} (hdigits : ∀ c ∈ digits, c.isDigit = true) :
    unsigned digits = digits := by
  unfold unsigned
  split
  · have hplus := hdigits '+' List.mem_cons_self
    cases hplus
  · rfl

theorem eq_or_eq_cons_unsigned (cs : List Char) : cs = unsigned cs ∨ cs = '+' :: unsigned cs := by
  unfold unsigned
  split
  · exact .inr rfl
  · exact .inl rfl

/-! ## Reading -/

/-- A number is read if and only if it is written and lies below the limit. -/
theorem read?_eq_some_iff {limit : Nat} {cs : List Char} {n : Nat} :
    read? limit cs = some n ↔ Writes cs n ∧ n < limit := by
  constructor
  · intro h
    unfold read? at h
    dsimp only at h
    split at h
    next hread =>
      obtain ⟨hne, hdigits, hlt⟩ := hread
      cases h
      obtain ⟨zeros, hzeros⟩ := exists_zeros hne (List.all_eq_true.mp hdigits)
      refine ⟨⟨zeros, ?_⟩, hlt⟩
      rw [← hzeros]
      exact eq_or_eq_cons_unsigned cs
    next => cases h
  · rintro ⟨⟨zeros, hwritten⟩, hlt⟩
    have hdigits : ∀ c ∈ List.replicate zeros '0' ++ Nat.toDigits 10 n, c.isDigit = true :=
      fun c hc => isDigit_of_mem_zeros_append hc
    have hunsigned : unsigned cs = List.replicate zeros '0' ++ Nat.toDigits 10 n := by
      rcases hwritten with rfl | rfl
      · exact unsigned_of_isDigit hdigits
      · rfl
    have hne : unsigned cs ≠ [] := by
      rw [hunsigned]
      exact List.append_ne_nil_of_right_ne_nil _ Nat.toDigits_ne_nil
    have hvalue : value (unsigned cs) = n := by
      rw [hunsigned, value_zeros_append]
    rw [← hunsigned] at hdigits
    unfold read?
    rw [if_pos ⟨hne, List.all_eq_true.mpr hdigits, by rw [hvalue]; exact hlt⟩, hvalue]

end CyclicRedundancy.Text.Decimal
