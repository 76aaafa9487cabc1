/-!
# Shifts of code points

A map of code points that moves runs of them by a constant is given by rows, in increasing order.
Rows with the step 2 stand for the runs in which capital and small letters take turns.

* `shift?`: the code point that a table sends another one to.
-/

namespace Flowline.Character

/-- A row of the table: every `step`-th code point from `low` to `high` is moved by `shift`. -/
structure ShiftRow where
  low : Nat
  high : Nat
  step : Nat
  shift : Int

/-- Whether a row moves `n`. -/
def ShiftRow.moves (row : ShiftRow) (n : Nat) : Bool :=
  row.low ≤ n && n ≤ row.high && (n - row.low) % row.step == 0

/-- The code point that `n` is sent to, if a row moves it. -/
def shift? (n : Nat) (rows : List ShiftRow) : Option Nat :=
  (rows.find? (·.moves n)).map fun row => ((n : Int) + row.shift).toNat

end Flowline.Character
