import Flowline.Item.Basic
import Flowline.Json.Location

/-!
# Folds

Every item can be folded, and so can every comment. A comment that an item starts with is folded on
its own, so the item's fold starts below it.

* `folds`: the folds of a document, each item's before its comments'.
-/

namespace Flowline

/-- What a fold hides. -/
inductive FoldKind where
  | region
  | comment
  deriving DecidableEq, Repr, Inhabited

def FoldKind.name : FoldKind → String
  | region => "region"
  | comment => "comment"

/-- Lines that can be hidden. -/
structure Fold where
  start : Position
  stop : Position
  kind : FoldKind
  deriving DecidableEq, Repr, Inhabited

/-- A fold, unless it would end before it starts. -/
def Fold.between? (start stop : Position) (kind : FoldKind) : Option Fold :=
  if start.line ≤ stop.line then some ⟨start, stop, kind⟩ else none

/-- Where the fold of an item starts. -/
def foldStart (i : Item) : Position :=
  match i.comments.find? fun c => c.start.line == i.range.start.line with
  | none => i.range.start
  | some comment => ⟨comment.stop.line + 1, i.range.start.character⟩

/-- The folds of an item. -/
def itemFolds (i : Item) : List Fold :=
  (Fold.between? (foldStart i) i.range.stop .region).toList ++
    i.comments.filterMap fun c => Fold.between? c.start c.stop .comment

/-- The folds of a document. -/
def folds (items : List Item) : List Fold :=
  items.flatMap itemFolds

def Fold.toJson (f : Fold) : Json :=
  .obj [("startLine", .nat f.start.clamp.line), ("startCharacter", .nat f.start.clamp.character),
    ("endLine", .nat f.stop.clamp.line), ("endCharacter", .nat f.stop.clamp.character),
    ("kind", .str f.kind.name)]

end Flowline
