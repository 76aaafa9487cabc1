/-!
# Sets of code points

A character class of the Unicode standard is given by the closed intervals of code points it
consists of, in increasing order. Membership walks the list and stops at the first interval that
starts above the code point, so a class costs little for the low code points most text is made of.

* `inIntervals`: membership of a code point.
-/

namespace Flowline.Character

/-- Whether `n` lies in one of the intervals of an increasing list. -/
def inIntervals (n : Nat) : List (Nat × Nat) → Bool
  | [] => false
  | (low, high) :: rest =>
    if n < low then false
    else if n ≤ high then true
    else inIntervals n rest

end Flowline.Character
