import Flowline.Text.Cut
import Flowline.Text.Position

/-!
# Documents

A document is a text with an identity and a version. Its lines end at line feeds; one carriage
return before a line feed, or at the very end, is not part of a line. A trailing line feed yields a
last, empty line, so a document always has a line.

* `Document.lines`: the lines of a document;
* `Document.content`: the text of a range, its lines joined by line feeds.
-/

namespace Flowline

/-- A version of a text that is open in an editor. -/
structure Document where
  uri : String
  version : Int
  text : String
  deriving DecidableEq, Repr, Inhabited

/-- A line without the carriage return at its end. -/
def dropReturn (line : List Char) : List Char :=
  if line.getLast? = some '\r' then line.dropLast else line

/-- The lines of a text. -/
def linesOf (text : List Char) : List (List Char) :=
  (pieces '\n' text).map dropReturn

/-- The text of a range in the lines from number `index` on, `index` being at most the range's last
line. Columns past the end of a line stand for its end, and the text ends where the lines do. -/
def gather (r : Range) (index : Nat) : List (List Char) → List Char
  | [] => []
  | line :: rest =>
    let first := if index = r.start.line then r.start.character else 0
    if index = r.stop.line then slice line first r.stop.character
    else line.drop first ++ '\n' :: gather r (index + 1) rest

namespace Document

def lines (d : Document) : List (List Char) :=
  linesOf d.text.toList

def lineCount (d : Document) : Nat :=
  d.lines.length

/-- A line's text, without its end. -/
def lineText (d : Document) (line : Nat) : Option (List Char) :=
  d.lines[line]?

/-- The columns of a line. -/
def lineRange (d : Document) (line : Nat) : Option Range :=
  (d.lineText line).map fun text => Range.onLine line 0 text.length

/-- The text of a range, its lines joined by line feeds. It is empty when the range's end precedes
its start. -/
def content (d : Document) (r : Range) : List Char :=
  if r.stop < r.start then []
  else gather r r.start.line (d.lines.drop r.start.line)

/-- A line's text, read through its range. -/
def line (d : Document) (line : Nat) : Option (List Char) :=
  (d.lineRange line).map d.content

/-- The position after the last character. -/
def stop (d : Document) : Position :=
  match d.lineRange (d.lineCount - 1) with
  | some r => r.stop
  | none => ⟨0, 0⟩

theorem lines_ne_nil (d : Document) : d.lines ≠ [] := by
  simp [lines, linesOf, pieces_ne_nil]

end Document

end Flowline
