import Flowline.Text.Position

/-!
# Symbols

The named things of a document form trees: a definition holds its name, its apps and the references
of its destinations, and an app holds its options.

* `Role`, `Symbol`;
* `Symbol.postorder`: the symbols of a tree, the parts before the whole.
-/

namespace Flowline

/-- What a symbol stands for. -/
inductive Role where
  /-- The whole body of a definition. -/
  | definition
  /-- The name before an equals sign. -/
  | declaredName
  /-- The name of a metadata line. -/
  | metadataName
  | source
  | processor
  | sink
  | taskApp
  | argument
  /-- One half of a destination such as `:main.time`. -/
  | reference
  /-- An app to import. -/
  | app
  | appUri
  | appMetadata
  deriving DecidableEq, Repr, Inhabited

/-- The word an editor shows for a role. -/
def Role.detail : Role → String
  | definition => "dsl"
  | declaredName => "name"
  | metadataName => "@name"
  | source => "source"
  | processor => "processor"
  | sink => "sink"
  | taskApp => "task"
  | argument => "argument"
  | reference => "ref"
  | app => "app"
  | appUri => "uri"
  | appMetadata => "metadata"

/-- A named thing and its parts. -/
structure Symbol where
  name : String
  role : Role
  range : Range
  children : List Symbol
  deriving Repr, Inhabited

namespace Symbol

/-- A symbol without parts. -/
def leaf (name : String) (role : Role) (range : Range) : Symbol :=
  ⟨name, role, range, []⟩

mutual

/-- The symbols of a tree, the parts before the whole. -/
def postorder : Symbol → List Symbol
  | ⟨name, role, range, children⟩ => postorderList children ++ [⟨name, role, range, children⟩]

/-- The symbols of a row of trees. -/
def postorderList : List Symbol → List Symbol
  | [] => []
  | s :: rest => postorder s ++ postorderList rest

end

end Symbol

end Flowline
