import Flowline.Json.Location
import Flowline.Symbol.Table

/-!
# Outlines

An editor shows the symbols of a document as a tree, and those of all documents as a list that can
be searched.

* `outline`: the tree of a document;
* `findSymbols`: the symbols of a document that a query accepts, in a row.
-/

namespace Flowline

/-- The number under which editors know a kind of symbol. -/
def Role.kind : Role → Nat
  | definition => 5
  | app => 5
  | declaredName => 20
  | metadataName => 20
  | source => 6
  | processor => 6
  | sink => 6
  | taskApp => 6
  | argument => 8
  | reference => 7
  | appUri => 9
  | appMetadata => 24

/-- A node of the tree of a document. -/
structure OutlineNode where
  name : String
  detail : String
  kind : Nat
  range : Range
  selectionRange : Range
  children : List OutlineNode
  deriving Repr, Inhabited

/-- A symbol in the list of all documents. -/
structure FoundSymbol where
  name : String
  kind : Nat
  uri : String
  range : Range
  container : String
  deriving DecidableEq, Repr, Inhabited

mutual

/-- The node of a symbol. -/
def OutlineNode.ofSymbol : Symbol → OutlineNode
  | ⟨name, role, range, children⟩ =>
    ⟨name, role.detail, role.kind, range, range, OutlineNode.ofSymbols children⟩

/-- The nodes of a row of symbols. -/
def OutlineNode.ofSymbols : List Symbol → List OutlineNode
  | [] => []
  | s :: rest => OutlineNode.ofSymbol s :: OutlineNode.ofSymbols rest

end

/-- The tree of a document. -/
def outline (t : SymbolTable) : List OutlineNode :=
  OutlineNode.ofSymbols t.roots

def FoundSymbol.ofSymbol (uri : String) (s : Symbol) : FoundSymbol :=
  ⟨s.name, s.role.kind, uri, s.range, s.role.detail⟩

/-- The symbols of a document that a query accepts. -/
def findSymbols (t : SymbolTable) (uri : String) (q : Query) : List FoundSymbol :=
  (t.query q).map (FoundSymbol.ofSymbol uri)

mutual

/-- A node as JSON; an empty list of children is left out. -/
def OutlineNode.toJson : OutlineNode → Json
  | ⟨name, detail, kind, range, selectionRange, children⟩ =>
    let own : List (String × Json) :=
      [("name", .str name), ("detail", .str detail), ("kind", .nat kind), ("range", range.toJson),
        ("selectionRange", selectionRange.toJson)]
    match children with
    | [] => .obj own
    | child :: more => .obj (own ++ [("children", .arr (OutlineNode.listToJson (child :: more)))])

def OutlineNode.listToJson : List OutlineNode → List Json
  | [] => []
  | node :: rest => node.toJson :: OutlineNode.listToJson rest

end

def FoundSymbol.toJson (s : FoundSymbol) : Json :=
  .obj [("name", .str s.name), ("kind", .nat s.kind),
    ("location", .obj [("uri", .str s.uri), ("range", s.range.toJson)]),
    ("containerName", .str s.container)]

end Flowline
