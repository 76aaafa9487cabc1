import Flowline.Character.Blank

/-!
# Input of the readers

What is left of a line, with the column at which it starts. A reader goes forward only, so its input
is always the end of the line, and the columns follow from what has been dropped.

* `Input.moveTo`: the input once only a given end of it is left;
* `Input.skipBlanks`, `Input.eat?`.
-/

namespace Flowline

/-- The rest of a line and the column of its first character. -/
structure Input where
  offset : Nat
  rest : List Char
  deriving DecidableEq, Repr, Inhabited

namespace Input

/-- A line from a column on; a column past the end stands for the end. -/
def ofText (text : List Char) (start : Nat) : Input :=
  ⟨min start text.length, text.drop start⟩

/-- The input once `rest`, an end of what was left, is what is left. -/
def moveTo (i : Input) (rest : List Char) : Input :=
  ⟨i.offset + (i.rest.length - rest.length), rest⟩

/-- Drops the characters of a class. -/
def skipWhile (p : Char → Bool) (i : Input) : Input :=
  i.moveTo (i.rest.dropWhile p)

def skipBlanks (i : Input) : Input :=
  i.skipWhile Character.isBlank

/-- The characters of a class that the input starts with. -/
def word (p : Char → Bool) (i : Input) : List Char :=
  i.rest.takeWhile p

/-- Whether the input starts with a token. -/
def startsWith (i : Input) (token : List Char) : Bool :=
  token.isPrefixOf i.rest

/-- Drops a number of characters. -/
def advance (i : Input) (count : Nat) : Input :=
  i.moveTo (i.rest.drop count)

/-- Drops a token, if the input starts with it. -/
def eat? (i : Input) (token : List Char) : Option Input :=
  if i.startsWith token then some (i.advance token.length) else none

@[simp] theorem rest_moveTo (i : Input) (rest : List Char) : (i.moveTo rest).rest = rest := rfl

theorem length_dropWhile_le (p : Char → Bool) (cs : List Char) :
    (cs.dropWhile p).length ≤ cs.length :=
  (List.dropWhile_suffix p).length_le

theorem length_rest_skipWhile_le (p : Char → Bool) (i : Input) :
    (i.skipWhile p).rest.length ≤ i.rest.length :=
  length_dropWhile_le p i.rest

theorem length_rest_skipBlanks_le (i : Input) : i.skipBlanks.rest.length ≤ i.rest.length :=
  length_rest_skipWhile_le _ i

theorem length_rest_skipWhile_lt {p : Char → Bool} {i : Input} (h : i.word p ≠ []) :
    (i.skipWhile p).rest.length < i.rest.length := by
  cases hr : i.rest with
  | nil => simp [word, hr] at h
  | cons c cs =>
    simp only [word, hr, List.takeWhile_cons] at h
    have hc : p c = true := by
      cases hp : p c with
      | true => rfl
      | false => simp [hp] at h
    simp only [skipWhile, rest_moveTo, hr, List.dropWhile_cons, hc, if_true, List.length_cons]
    have := length_dropWhile_le p cs
    omega

theorem length_rest_advance (i : Input) (count : Nat) :
    (i.advance count).rest.length = i.rest.length - count := by
  simp [advance]

theorem length_rest_of_eat? {i j : Input} {token : List Char} (h : i.eat? token = some j) :
    j.rest.length + token.length = i.rest.length := by
  simp only [eat?] at h
  split at h
  · next hs =>
    cases h
    have hle := (List.isPrefixOf_iff_prefix.1 hs).length_le
    rw [length_rest_advance]
    omega
  · cases h

end Input

end Flowline
