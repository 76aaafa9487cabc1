import Flowline.Item.Dialect

/-!
# Kinds of lines

A line of a document is a definition, a metadata line, a comment, or separates what stands before it
from what follows.

* `LineKind.classify`: the kind of a line;
* `contentStart`: the column at which the content of a metadata line starts.
-/

namespace Flowline

open Character

/-- What a line is. -/
inductive LineKind where
  /-- The first character that is not blank is a letter or a digit. -/
  | definition
  | metadata (tag : Tag)
  /-- Marked by `#` or `-`, without being metadata. -/
  | comment
  /-- Empty, too short for a comment, or anything else. -/
  | blank
  deriving DecidableEq, Repr, Inhabited

/-- The characters that mark a comment or a metadata line. -/
def isMarker (c : Char) : Bool :=
  c == '-' || c == '#'

/-- The column of the first `@`, letter or digit, when only blanks and markers stand before it. -/
def contentStart : List Char → Option Nat
  | [] => none
  | c :: rest =>
    if c = '@' ∨ isAlphanumeric c then some 0
    else if isBlank c || isMarker c then (contentStart rest).map (· + 1)
    else none

/-- Whether a text begins with a tag, as a whole word. -/
def beginsWith (a : Tag) (content : List Char) : Bool :=
  match after? a.token.toList content with
  | none => false
  | some [] => true
  | some (c :: _) => !isAlphanumeric c

/-- The tag that a text begins with. -/
def tagOf (content : List Char) : Option Tag :=
  Tag.all.find? fun a => beginsWith a content

/-- The kind of a line. A comment has at least three characters between the blanks at its ends, so
that a lone `#` or `--` separates. -/
def LineKind.classify (d : Dialect) (line : List Char) : LineKind :=
  match trim line with
  | [] => blank
  | first :: rest =>
    if isAlphanumeric first then definition
    else if !isMarker first || (first :: rest).length < 3 then blank
    else
      match (contentStart line).bind fun start => tagOf (line.drop start) with
      | none => comment
      | some a => if d.allows a then metadata a else comment

end Flowline
