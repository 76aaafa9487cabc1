import Flowline.Character.Intervals

/-!
# Blank characters

The characters with the Unicode property `White_Space`. Zero-width spaces and byte order marks are
not among them.
-/

namespace Flowline.Character

/-- The code points of the property `White_Space`. -/
def blankIntervals : List (Nat × Nat) :=
  [(0x0009, 0x000D), (0x0020, 0x0020), (0x0085, 0x0085), (0x00A0, 0x00A0), (0x1680, 0x1680),
    (0x2000, 0x200A), (0x2028, 0x2029), (0x202F, 0x202F), (0x205F, 0x205F), (0x3000, 0x3000)]

/-- A character that separates words and counts for nothing at the ends of a text. -/
def isBlank (c : Char) : Bool :=
  inIntervals c.toNat blankIntervals

end Flowline.Character
