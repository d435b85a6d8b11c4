/-!
# Written numbers

Two written forms of a number in base sixteen, both with lower-case digits: `plain` uses as few
digits as it can, and `fixed` has zeros in front up to a stated number of digits.

A count is read from an optional plus sign, then one or more decimal digits of ASCII, which have to
stand for a number below a limit. Zeros in front are allowed; a minus sign, blanks and separators
are not.
-/

namespace CyclicRedundancy.Text

namespace Hex

/-- The digits of `v` with no zero in front; zero itself has one digit. -/
def plain (v : Nat) : List Char := Nat.toDigits 16 v

/-- The digits of `v` after zeros, `count` of them all together unless `v` has more digits. -/
def fixed (count v : Nat) : List Char := (plain v).leftpad count '0'

/-- How many digits a number of `bits` bits needs. -/
def digits (bits : Nat) : Nat := (bits + 3) / 4

/-- The marked form of a number, such as `0x1f`. -/
def marked (v : UInt64) : String := "0x" ++ String.ofList (plain v.toNat)

theorem length_fixed {count v : Nat} (h : (plain v).length ≤ count) :
    (fixed count v).length = count := by
  rw [fixed, List.length_leftpad, Nat.max_eq_left h]

end Hex

namespace Decimal

/-- The number that digits stand for, the most significant first. -/
def value (digits : List Char) : Nat :=
  digits.foldl (fun n c => 10 * n + (c.toNat - '0'.toNat)) 0

/-- What follows the optional plus sign. -/
def unsigned : List Char → List Char
  | '+' :: rest => rest
  | cs => cs

/-- The number written, if it is one and lies below `limit`. -/
def read? (limit : Nat) (cs : List Char) : Option Nat :=
  let digits := unsigned cs
  if digits ≠ [] ∧ digits.all Char.isDigit ∧ value digits < limit then some (value digits) else none

/-- The limit of a count that has to fit in a word. -/
def wordLimit : Nat := UInt64.size

end Decimal

end CyclicRedundancy.Text
