import Troupe.Text.Ranges

/-!
# Character classes

Which characters are blanks, letters and parts of names, over all of Unicode.
-/

namespace Troupe.Text

/-- Whether a code point lies in one of the given ranges. -/
def inRanges (ranges : List (Nat × Nat)) (code : Nat) : Bool :=
  ranges.any fun range => decide (range.1 ≤ code ∧ code ≤ range.2)

/-- The blanks: the property White_Space. -/
def isBlank (c : Char) : Bool :=
  inRanges [(0x9, 0xD), (0x20, 0x20), (0x85, 0x85), (0xA0, 0xA0), (0x1680, 0x1680),
    (0x2000, 0x200A), (0x2028, 0x2029), (0x202F, 0x202F), (0x205F, 0x205F), (0x3000, 0x3000)]
    c.toNat

/-- The letters: the property Alphabetic. -/
def isLetter (c : Char) : Bool := inRanges alphabeticRanges c.toNat

/-- Letters and numbers. -/
def isLetterOrNumber (c : Char) : Bool := isLetter c || inRanges numericRanges c.toNat

end Troupe.Text
