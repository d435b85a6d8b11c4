/-!
# Labels

How a name typed by a person is compared with a name that is known: blanks around it do not count,
and letters of ASCII are the same in either case. Other letters have no case here, so that a letter
which merely folds to one of ASCII is a different letter.

Blanks are the characters with the Unicode property `White_Space`. The zero-width characters and the
four information separators of ASCII do not have the property, so they are kept.
-/

namespace CyclicRedundancy.Text

/-- The first and last code point of each run of characters with the property `White_Space`. -/
def blankRanges : List (Nat × Nat) :=
  [(0x0009, 0x000D), (0x0020, 0x0020), (0x0085, 0x0085), (0x00A0, 0x00A0), (0x1680, 0x1680),
    (0x2000, 0x200A), (0x2028, 0x2029), (0x202F, 0x202F), (0x205F, 0x205F), (0x3000, 0x3000)]

/-- Whether a code point lies in one of the ranges. -/
def inRanges (ranges : List (Nat × Nat)) (code : Nat) : Bool :=
  ranges.any fun (first, last) => first ≤ code && code ≤ last

/-- Whether a character counts as white space. -/
def isBlank (c : Char) : Bool := inRanges blankRanges c.toNat

/-- A text without the blanks at its two ends. -/
def trim (cs : List Char) : List Char :=
  ((cs.dropWhile isBlank).reverse.dropWhile isBlank).reverse

/-- Whether two texts differ at most in the case of ASCII letters. -/
def sameLetters (a b : List Char) : Bool := a.map Char.toLower == b.map Char.toLower

/-- Whether `typed`, blanks around it apart, spells the label `label`. -/
def spells (typed label : String) : Bool := sameLetters (trim typed.toList) label.toList

end CyclicRedundancy.Text
