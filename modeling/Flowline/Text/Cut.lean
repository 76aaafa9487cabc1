import Flowline.Character.Blank

/-!
# Cutting text

Operations on a text as a list of characters. Columns and lengths count characters.

* `slice`: the characters between two columns;
* `trim`: a text without the blanks at its ends;
* `pieces`: the parts of a text between the occurrences of a character;
* `cutFirst`, `cutLast`: a text around the first or the last occurrence of a character;
* `hasPart`: whether a text occurs in another one.
-/

namespace Flowline

open Character

/-- The characters from column `first` up to, not including, column `last`. -/
def slice (text : List Char) (first last : Nat) : List Char :=
  (text.drop first).take (last - first)

def trimStart (text : List Char) : List Char :=
  text.dropWhile isBlank

def trimEnd (text : List Char) : List Char :=
  (text.reverse.dropWhile isBlank).reverse

/-- A text without the blanks at both ends. -/
def trim (text : List Char) : List Char :=
  trimEnd (trimStart text)

/-- The number of blanks a text starts with. -/
def leadingBlanks (text : List Char) : Nat :=
  (text.takeWhile isBlank).length

/-- The parts of a text between the occurrences of `sep`; there is always at least one. -/
def pieces (sep : Char) : List Char → List (List Char)
  | [] => [[]]
  | c :: rest =>
    if c = sep then [] :: pieces sep rest
    else
      match pieces sep rest with
      | [] => [[c]]
      | part :: parts => (c :: part) :: parts

/-- What stands before and after the first occurrence of `sep`. -/
def cutFirst (sep : Char) : List Char → Option (List Char × List Char)
  | [] => none
  | c :: rest =>
    if c = sep then some ([], rest)
    else (cutFirst sep rest).map fun (before, after) => (c :: before, after)

/-- What stands before and after the last occurrence of `sep`. -/
def cutLast (sep : Char) (text : List Char) : Option (List Char × List Char) :=
  (cutFirst sep text.reverse).map fun (before, after) => (after.reverse, before.reverse)

/-- What follows `start` in a text that begins with it. -/
def after? (start text : List Char) : Option (List Char) :=
  if start.isPrefixOf text then some (text.drop start.length) else none

/-- Whether `part` occurs somewhere in a text. -/
def hasPart (part : List Char) : List Char → Bool
  | [] => part.isEmpty
  | c :: rest => part.isPrefixOf (c :: rest) || hasPart part rest

theorem pieces_ne_nil (sep : Char) (text : List Char) : pieces sep text ≠ [] := by
  cases text with
  | nil => simp [pieces]
  | cons c rest =>
    rw [pieces]
    split
    · simp
    · split <;> simp

end Flowline
