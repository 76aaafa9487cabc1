import Flowline.Json.Location
import Flowline.Symbol.Table

/-!
# Renaming

Renaming a symbol edits every symbol of the document with the same name, leaving out the bodies of
definitions.

* `renameTarget`: the symbol to be renamed;
* `renameEdits`: the edits.
-/

namespace Flowline

/-- Replaces the text of a range. -/
structure TextEdit where
  range : Range
  newText : String
  deriving DecidableEq, Repr, Inhabited

def TextEdit.toJson (e : TextEdit) : Json :=
  .obj [("range", e.range.toJson), ("newText", .str e.newText)]

/-- The range and the name of the symbol at a position. -/
structure RenameTarget where
  range : Range
  placeholder : String
  deriving DecidableEq, Repr, Inhabited

def RenameTarget.toJson (t : RenameTarget) : Json :=
  .obj [("range", t.range.toJson), ("placeholder", .str t.placeholder)]

/-- The symbol to be renamed at a position. -/
def renameTarget (t : SymbolTable) (p : Position) : Option RenameTarget :=
  (t.symbolAt p).map fun s => ⟨s.range, s.name⟩

/-- The edits that give the symbol at a position a new name. -/
def renameEdits (t : SymbolTable) (p : Position) (newName : String) : Option (List TextEdit) :=
  (t.symbolAt p).bind fun target =>
    let same := t.all.filter fun s => SymbolTable.isName s && s.name == target.name
    if same.isEmpty then none else some (same.map fun s => ⟨s.range, newName⟩)

/-- Edits of one document as JSON. -/
def editsToJson (uri : String) (edits : List TextEdit) : Json :=
  .obj [("changes", .obj [(uri, Json.ofList TextEdit.toJson edits)])]

end Flowline
