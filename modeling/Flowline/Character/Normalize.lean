import Flowline.Character.CombiningClass
import Flowline.Character.Decomposition

/-!
# Normalization Form C

The form in which canonically equivalent texts are equal: every character is decomposed, marks are
brought into the order of their classes, and each mark that nothing of its class separates from its
base is composed with it.

* `orderMarks`: marks in the order of their classes;
* `normalize`: the normal form of a text.
-/

namespace Flowline.Character

/-- Puts a code point before an ordered text. A mark moves behind the marks of lower classes. -/
def insertMark (n : Nat) : List Nat → List Nat
  | [] => [n]
  | m :: rest =>
    if 0 < combiningClass m ∧ combiningClass m < combiningClass n then m :: insertMark n rest
    else n :: m :: rest

/-- Brings the marks after each character into the order of their classes. -/
def orderMarks (text : List Nat) : List Nat :=
  text.foldr insertMark []

/-- Whether a mark that was kept, the last of `kept`, separates `n` from the base. -/
def isSeparated (kept : List Nat) (n : Nat) : Bool :=
  match kept with
  | [] => false
  | last :: _ => combiningClass n ≤ combiningClass last

/-- Composes a base with what follows; `kept` are the marks that did not compose, the last one
first. -/
def composeFrom (base : Nat) (kept : List Nat) : List Nat → List Nat
  | [] => base :: kept.reverse
  | n :: rest =>
    match if isSeparated kept n then none else compose? base n with
    | some composite => composeFrom composite kept rest
    | none =>
      if combiningClass n = 0 then base :: (kept.reverse ++ composeFrom n [] rest)
      else composeFrom base (n :: kept) rest

def composeAll : List Nat → List Nat
  | [] => []
  | n :: rest => composeFrom n [] rest

/-- The normal form of a text. -/
def normalize (text : List Char) : List Char :=
  (composeAll (orderMarks (text.flatMap fun c => decompose c.toNat))).map Char.ofNat

end Flowline.Character
