/-!
# Positions and ranges

A position is a zero-based line and a column that counts characters. Positions are ordered by line,
then by column. A range has two positions and contains both of them.

* `Position`, `Range`;
* `Range.onLine`: the columns of one line;
* `Position.clamp`, `Range.clamp`: what an editor receives, whose numbers have 32 bits.
-/

namespace Flowline

/-- A place in a document. -/
structure Position where
  line : Nat
  character : Nat
  deriving DecidableEq, Repr, Inhabited

namespace Position

instance : LT Position where
  lt p q := p.line < q.line ∨ p.line = q.line ∧ p.character < q.character

instance : LE Position where
  le p q := p.line < q.line ∨ p.line = q.line ∧ p.character ≤ q.character

theorem lt_iff {p q : Position} :
    p < q ↔ p.line < q.line ∨ p.line = q.line ∧ p.character < q.character :=
  Iff.rfl

theorem le_iff {p q : Position} :
    p ≤ q ↔ p.line < q.line ∨ p.line = q.line ∧ p.character ≤ q.character :=
  Iff.rfl

instance (p q : Position) : Decidable (p < q) :=
  decidable_of_iff _ lt_iff.symm

instance (p q : Position) : Decidable (p ≤ q) :=
  decidable_of_iff _ le_iff.symm

theorem not_lt {p q : Position} : ¬ p < q ↔ q ≤ p := by
  simp only [lt_iff, le_iff]
  omega

theorem le_refl (p : Position) : p ≤ p :=
  .inr ⟨rfl, Nat.le_refl _⟩

theorem le_trans {p q r : Position} (hpq : p ≤ q) (hqr : q ≤ r) : p ≤ r := by
  rw [le_iff] at *
  omega

theorem le_antisymm {p q : Position} (hpq : p ≤ q) (hqp : q ≤ p) : p = q := by
  obtain ⟨line, column⟩ := p
  obtain ⟨line', column'⟩ := q
  simp only [le_iff] at hpq hqp
  rw [mk.injEq]
  omega

/-- The position as `line:column`. -/
def render (p : Position) : String :=
  toString p.line ++ ":" ++ toString p.character

/-- The greatest number an editor can receive as a line or a column. -/
def maxNumber : Nat := 0xFFFFFFFF

/-- A position with numbers that an editor can receive. -/
def clamp (p : Position) : Position :=
  ⟨min p.line maxNumber, min p.character maxNumber⟩

end Position

/-- The text between two positions. -/
structure Range where
  start : Position
  stop : Position
  deriving DecidableEq, Repr, Inhabited

namespace Range

/-- The columns `first` to `last` of a line. -/
def onLine (line first last : Nat) : Range :=
  ⟨⟨line, first⟩, ⟨line, last⟩⟩

/-- The empty range at a position. -/
def point (p : Position) : Range :=
  ⟨p, p⟩

/-- Whether a position lies in a range; both ends belong to it. -/
def contains (r : Range) (p : Position) : Bool :=
  decide (r.start ≤ p) && decide (p ≤ r.stop)

/-- The range from the same start to another end. -/
def withStop (r : Range) (p : Position) : Range :=
  ⟨r.start, p⟩

/-- The range as `line:column-line:column`. -/
def render (r : Range) : String :=
  r.start.render ++ "-" ++ r.stop.render

/-- A range with numbers that an editor can receive. -/
def clamp (r : Range) : Range :=
  ⟨r.start.clamp, r.stop.clamp⟩

theorem contains_iff {r : Range} {p : Position} :
    r.contains p = true ↔ r.start ≤ p ∧ p ≤ r.stop := by
  simp [contains]

end Range

end Flowline
