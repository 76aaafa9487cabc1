import Flowline.Item.Segment
import Flowline.Language
import Flowline.Manifest.Symbols
import Flowline.Workspace.ItemCache

/-!
# Workspaces

The documents that are open in an editor, and what is kept about them. A document is known by the
text of its url. Its language is what the editor says or, failing that, what the extension of its
name says.

* `Workspace.update`, `Workspace.change`, `Workspace.remove`;
* `Workspace.items`, `Workspace.entries`, `Workspace.symbols`.
-/

namespace Flowline

/-- A document and its language, none for one that nothing is known about. -/
structure OpenDocument where
  document : Document
  language : Option Language
  deriving DecidableEq, Repr, Inhabited

/-- The language that the extension of a document's name says. -/
def languageOfUrl (url : Url) : Option Language := do
  let file ← url.file?
  let (_, extension) ← cutLast '.' file.toList
  Language.ofId? (String.ofList extension)

/-- A document as an editor opens it. -/
def OpenDocument.ofText (url : Url) (languageId text : String) (version : Int) : OpenDocument :=
  ⟨⟨url.render, version, text⟩, (Language.ofId? languageId).or (languageOfUrl url)⟩

/-- A document with another text. -/
def OpenDocument.withText (d : OpenDocument) (url : Url) (text : String) (version : Int) :
    OpenDocument :=
  ⟨⟨url.render, version, text⟩, d.language⟩

/-- The open documents by the text of their urls, in the order of these, and what is kept about
them. -/
structure Workspace where
  documents : List (String × OpenDocument)
  cache : ItemCache
  /-- The number of definition lines that have been handed to the grammar. -/
  linesRead : Nat
  deriving DecidableEq, Repr, Inhabited

/-- Puts a document in its place. -/
def insertDocument (uri : String) (d : OpenDocument) :
    List (String × OpenDocument) → List (String × OpenDocument)
  | [] => [(uri, d)]
  | (u, e) :: rest =>
    if uri < u then (uri, d) :: (u, e) :: rest
    else if uri = u then (uri, d) :: rest
    else (u, e) :: insertDocument uri d rest

namespace Workspace

def empty : Workspace :=
  ⟨[], ItemCache.empty, 0⟩

def find? (w : Workspace) (uri : String) : Option OpenDocument :=
  w.documents.lookup uri

def insert (w : Workspace) (uri : String) (d : OpenDocument) : Workspace :=
  { w with documents := insertDocument uri d w.documents }

/-- Opens a document. -/
def update (w : Workspace) (url : Url) (languageId text : String) (version : Int) : Workspace :=
  w.insert url.render (OpenDocument.ofText url languageId text version)

/-- Changes the text of a document; one that is not open is opened. -/
def change (w : Workspace) (url : Url) (text : String) (version : Int) : Workspace :=
  w.insert url.render
    (match w.find? url.render with
      | some d => d.withText url text version
      | none => OpenDocument.ofText url "" text version)

/-- Closes a document and drops what is kept about it. -/
def remove (w : Workspace) (url : Url) : Workspace :=
  { w with
    documents := w.documents.filter fun d => d.1 != url.render
    cache := w.cache.invalidate url.render }

def language (w : Workspace) (uri : String) : Option Language :=
  (w.find? uri).bind (·.language)

/-- The urls of the open documents, in order. -/
def uris (w : Workspace) : List String :=
  w.documents.map (·.1)

/-- Changes the time for which items are kept. -/
def setIdle (w : Workspace) (millis : Nat) : Workspace :=
  { w with cache := w.cache.setIdle millis }

/-- Drops what is not kept any more. -/
def evict (w : Workspace) (now : Nat) : Workspace :=
  { w with cache := w.cache.evict now }

/-- The document with a uri and its dialect. -/
def definitions? (w : Workspace) (uri : String) : Option (Document × Dialect) := do
  let d ← w.find? uri
  let language ← d.language
  let dialect ← language.dialect
  pure (d.document, dialect)

/-- The number of definition lines handed to the grammar to get some items. -/
def grammarUses (items : List Item) : Nat :=
  (items.filter fun i => i.body.usesGrammar).length

/-- The items of a document with definitions. -/
def items (w : Workspace) (clock : Clock) (uri : String) : Option (List Item) × Workspace :=
  match w.definitions? uri with
  | none => (none, w)
  | some (document, dialect) =>
    let (items, cache) := w.cache.get clock document.uri document.version fun _ =>
      segment .standard dialect document
    let isKept := (w.cache.find? clock.now (ItemCache.key document.uri document.version)).isSome
    let used := if isKept then 0 else grammarUses items
    (some items, { w with cache := cache, linesRead := w.linesRead + used })

/-- The apps of a document that lists them. -/
def entries (w : Workspace) (uri : String) : Option (List ManifestEntry) :=
  match w.find? uri with
  | some ⟨document, some .app⟩ => some (manifestOf document)
  | _ => none

/-- The symbols of a document. -/
def symbols (w : Workspace) (clock : Clock) (uri : String) : Option SymbolTable × Workspace :=
  match w.language uri with
  | none => (none, w)
  | some .app => ((w.entries uri).map SymbolTable.ofEntries, w)
  | some _ =>
    let (items, w) := w.items clock uri
    (items.map SymbolTable.ofItems, w)

end Workspace

end Flowline
