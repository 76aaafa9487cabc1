import Flowline.Editor.Completion
import Flowline.Editor.Diagnostic
import Flowline.Editor.Folding
import Flowline.Editor.Lens
import Flowline.Editor.Outline

/-!
# Replies to an editor

What an editor gets for a message: an answer, if it asked for one, and notices. With them goes what
was asked of dataflow servers meanwhile.

* `Answer`, `Notice`, `Reply`.
-/

namespace Flowline

/-- An answer to a request. -/
inductive Answer where
  | nothing
  | outline (nodes : List OutlineNode)
  | found (symbols : List FoundSymbol)
  | lenses (lenses : List Lens)
  | folds (folds : List Fold)
  | completions (items : List CompletionItem)
  | renameTarget (target : RenameTarget)
  /-- Edits of the document with a uri. -/
  | edits (uri : String) (edits : List TextEdit)
  deriving Repr, Inhabited

namespace Answer

/-- An answer, or nothing when there is no value. -/
def ofOption {α : Type} (answer : α → Answer) : Option α → Answer
  | none => nothing
  | some a => answer a

def toJson : Answer → Json
  | nothing => .null
  | outline nodes => .arr (OutlineNode.listToJson nodes)
  | found symbols => .ofList FoundSymbol.toJson symbols
  | lenses ls => .ofList Lens.toJson ls
  | folds fs => .ofList Fold.toJson fs
  | completions items => .ofList CompletionItem.toJson items
  | renameTarget target => target.toJson
  | edits uri es => editsToJson uri es

end Answer

/-- What an editor is told without having asked. -/
inductive Notice where
  /-- The diagnostics of a document, of a version if it is open. -/
  | diagnostics (uri : String) (diagnostics : List Diagnostic) (version : Option Int)
  | message (severity : Severity) (text : String)
  deriving DecidableEq, Repr, Inhabited

namespace Notice

def method : Notice → String
  | diagnostics _ _ _ => "textDocument/publishDiagnostics"
  | message _ _ => "window/showMessage"

def params : Notice → Json
  | diagnostics uri ds version =>
    .obj ([("uri", .str uri), ("diagnostics", .ofList Diagnostic.toJson ds)] ++
      Json.optional "version" (version.map Json.int))
  | message severity text => .obj [("type", .nat severity.number), ("message", .str text)]

def toJson (n : Notice) : Json :=
  .obj [("method", .str n.method), ("params", n.params)]

end Notice

/-- What comes of a message. -/
structure Reply where
  /-- None for a message that does not ask. -/
  answer : Option Answer
  notices : List Notice
  calls : List Call
  deriving Repr, Inhabited

namespace Reply

/-- Nothing comes of a message. -/
def silent : Reply :=
  ⟨none, [], []⟩

def ofAnswer (a : Answer) : Reply :=
  ⟨some a, [], []⟩

end Reply

end Flowline
