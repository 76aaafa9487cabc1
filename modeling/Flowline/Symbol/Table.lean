import Flowline.Item.Body
import Flowline.Symbol.Query

/-!
# Symbol tables

The symbols of a document, built from its items.

* `SymbolTable.ofItems`: one scope for each item with a definition;
* `SymbolTable.all`, `SymbolTable.query`: the symbols in a row;
* `SymbolTable.symbolAt`: the symbol at a position.
-/

namespace Flowline

/-- The symbols of a document, grouped by what they come from. -/
structure SymbolTable where
  scopes : List (List Symbol)
  deriving Repr, Inhabited

/-- The name of a definition that has none. -/
def unnamed : String := "[unnamed]"

namespace Symbol

/-- The symbol of a metadata name. -/
def ofMetadataName (m : Metadata) : Option Symbol := do
  let value ← m.value
  let range ← m.valueRange
  pure (leaf value .metadataName range)

def ofArgument (line : Nat) (a : Argument) : Symbol :=
  leaf a.name .argument (a.span.onLine line)

def ofApp (line : Nat) (role : Role) (a : App) : Symbol :=
  ⟨a.name, role, a.span.onLine line, a.arguments.map (ofArgument line)⟩

/-- The role of the app number `index` of a stream with `count` apps. The first one is the source,
unless a destination is, and the last one is the sink. -/
def streamRole (hasSource : Bool) (count index : Nat) : Role :=
  if index = 0 ∧ hasSource = false then .source
  else if index = count - 1 then .sink
  else .processor

/-- The stream and the app that a destination of the form `stream.app` refers to. -/
def ofDestination (line : Nat) (d : Destination) : List Symbol :=
  match pieces '.' d.name.toList with
  | [head, tail] =>
    [leaf (String.ofList head) .reference
        (Range.onLine line d.span.start (d.span.start + head.length)),
      leaf (String.ofList tail) .reference
        (Range.onLine line (d.span.stop - tail.length) d.span.stop)]
  | _ => []

/-- The apps of a stream, then the references of its destinations. -/
def ofStream (line : Nat) (s : StreamDefinition) : List Symbol :=
  s.apps.zipIdx.map (fun (a, i) => ofApp line (streamRole s.source.isSome s.apps.length i) a) ++
    (s.source.toList ++ s.sink.toList).flatMap (ofDestination line)

def ofDefinition (line : Nat) : Definition → List Symbol
  | .stream s => ofStream line s
  | .task t => t.apps.map (ofApp line .taskApp)

/-- The name that stands on a definition line. -/
def ofDeclaredName (p : Parsed) : List Symbol :=
  match p.name, p.nameRange with
  | some name, some range => [leaf name .declaredName range]
  | _, _ => []

/-- The symbol of a definition, with all its parts. -/
def ofParsed (line : Nat) (p : Parsed) : Symbol :=
  ⟨p.name.getD unnamed, .definition, p.range, ofDeclaredName p ++ ofDefinition line p.definition⟩

end Symbol

namespace SymbolTable

/-- The symbols of an item: its metadata name and its definition. -/
def scopeOf (i : Item) : Option (List Symbol) := do
  let parsed ← i.parsed
  let line ← i.line
  pure ((i.name.bind Symbol.ofMetadataName).toList ++ [Symbol.ofParsed line parsed])

/-- The symbols of the items of a document. -/
def ofItems (items : List Item) : SymbolTable :=
  ⟨items.filterMap scopeOf⟩

/-- The symbols that are no part of another one. -/
def roots (t : SymbolTable) : List Symbol :=
  t.scopes.flatten

/-- All symbols, the parts before the whole. -/
def all (t : SymbolTable) : List Symbol :=
  Symbol.postorderList t.roots

def query (t : SymbolTable) (q : Query) : List Symbol :=
  t.all.filter q.accepts

/-- Whether a symbol can be renamed: all can, but the body of a definition. -/
def isName (s : Symbol) : Bool :=
  decide (s.role ≠ .definition)

/-- The first symbol at a position, leaving out the bodies of definitions. -/
def symbolAt (t : SymbolTable) (p : Position) : Option Symbol :=
  t.all.find? fun s => isName s && s.range.contains p

end SymbolTable

end Flowline
