import Flowline.Item.Body
import Flowline.Item.LineKind
import Flowline.Text.Document

/-!
# Cutting a document into items

The lines of a document are read one after the other. What has been gathered since the last
definition line is kept in a `Scan`; a definition line turns it into an item. Metadata runs into
deployments: a separating line ends a run and hands it the environment seen so far, while a
definition line that ends a run keeps environment, name and description for itself. A run without
settings and arguments is no deployment and leaves everything as it was.

* `Scan.step`: one line;
* `Scan.finish`: the items, once all lines have been read;
* `segment`: the items of a document.
-/

namespace Flowline

/-- What has been gathered since the last definition line, and the items before it. -/
structure Scan where
  /-- The first line of the item under construction. -/
  itemStart : Nat
  env : Option Metadata
  name : Option Metadata
  desc : Option Metadata
  /-- The start of the first metadata line that no deployment or item has taken. -/
  metadataStart : Option Position
  properties : List Metadata
  arguments : List Metadata
  /-- The first metadata line of the run. -/
  blockStart : Option Range
  /-- The end of the last metadata line of the run. -/
  blockStop : Option Position
  deployments : List Deployment
  openComment : Option Range
  comments : List Range
  items : List Item
  deriving DecidableEq, Repr, Inhabited

/-- What ends a run of metadata lines. -/
inductive RunEnd where
  | definition
  | separator
  deriving DecidableEq, Repr, Inhabited

namespace Scan

/-- Nothing has been read. -/
def empty : Scan where
  itemStart := 0
  env := none
  name := none
  desc := none
  metadataStart := none
  properties := []
  arguments := []
  blockStart := none
  blockStop := none
  deployments := []
  openComment := none
  comments := []
  items := []

/-- Closes the comment that is being read. -/
def closeComment (s : Scan) : Scan :=
  match s.openComment with
  | none => s
  | some comment => { s with openComment := none, comments := s.comments ++ [comment] }

/-- Takes a line into the comment that is being read, or closes it before a line that is none. -/
def trackComment (s : Scan) (line : Range) (isComment : Bool) : Scan :=
  if isComment then
    { s with
      openComment :=
        some (match s.openComment with
          | some comment => comment.withStop line.stop
          | none => line) }
  else s.closeComment

/-- Notes that a metadata line belongs to the run. -/
def extendRun (s : Scan) (line : Range) : Scan :=
  { s with
    blockStart := s.blockStart.or (some line)
    metadataStart := s.metadataStart.or (some line.start)
    blockStop := some line.stop }

/-- Takes a metadata line: the last environment, name and description count, settings and arguments
are gathered. -/
def recordMetadata (s : Scan) (m : Metadata) (line : Range) : Scan :=
  let s := s.extendRun line
  match m.tag with
  | .env => { s with env := some m }
  | .name => { s with name := some m }
  | .desc => { s with desc := some m }
  | .prop => { s with properties := s.properties ++ [m] }
  | .arg => { s with arguments := s.arguments ++ [m] }

/-- Forgets the run of metadata lines. -/
def dropRun (s : Scan) : Scan :=
  { s with blockStart := none, blockStop := none, properties := [], arguments := [] }

/-- Ends the run of metadata lines. It becomes a deployment if it holds a setting or an argument. -/
def closeRun (s : Scan) (runEnd : RunEnd) : Scan :=
  match s.blockStart, s.blockStop with
  | some first, some stop =>
    if s.properties.isEmpty && s.arguments.isEmpty then s.dropRun
    else
      let deployment : Deployment :=
        { env := s.env
          properties := s.properties
          arguments := s.arguments
          range := ⟨first.start, stop⟩
          startLineRange := first }
      let t := { s.dropRun with deployments := s.deployments ++ [deployment] }
      match runEnd with
      | .definition => t
      | .separator => { t with env := none, name := none, desc := none, metadataStart := none }
  | _, _ => s.dropRun

/-- Turns what has been gathered into the item of a definition line. -/
def pushDefinition (s : Scan) (line : Range) (body : Body) : Scan :=
  { s with
    items := s.items ++
      [{ range := ⟨⟨s.itemStart, 0⟩, line.stop⟩
         definitionRange := some line
         env := s.env
         name := s.name
         desc := s.desc
         deployments := s.deployments
         comments := s.comments
         body := body }]
    itemStart := line.start.line + 1
    env := none
    name := none
    desc := none
    metadataStart := none
    deployments := []
    comments := [] }

/-- Whether a line of some kind belongs to a comment that can be folded. -/
def isCommentLine (kind : LineKind) (text : List Char) : Bool :=
  match kind with
  | .metadata _ => false
  | _ => (trimStart text).head? = some '#'

/-- Reads the line `text`, whose range is `line`. -/
def step (reader : DefinitionReader) (d : Dialect) (s : Scan) (text : List Char) (line : Range) :
    Scan :=
  let kind := LineKind.classify d text
  let s := s.trackComment line (isCommentLine kind text)
  match kind with
  | .definition =>
    let s := s.closeRun .definition
    s.pushDefinition line (Body.ofLine reader d line.start.line text s.name)
  | .metadata tag =>
    match contentStart text with
    | none => s
    | some start => s.recordMetadata ⟨tag, line.start.line, text, start⟩ line
  | .comment => s
  | .blank => s.closeRun .separator

/-- The item of metadata that no definition follows; the document ends at `stop`. -/
def danglingItem (s : Scan) (stop : Position) : Item where
  range := ⟨s.metadataStart.getD ⟨s.itemStart, 0⟩, stop⟩
  definitionRange := none
  env := s.env
  name := s.name
  desc := s.desc
  deployments := []
  comments := s.comments
  body := .dangling

/-- The items, for a document that ends at `stop`. Environment, name or description that no
definition follows make one more item. -/
def finish (s : Scan) (stop : Position) : List Item :=
  let s := s.closeComment.closeRun .definition
  if s.env.isSome || s.name.isSome || s.desc.isSome then s.items ++ [s.danglingItem stop]
  else s.items

/-- Reads lines that are numbered from `first` on. -/
def run (reader : DefinitionReader) (d : Dialect) (s : Scan) (first : Nat)
    (lines : List (List Char)) : Scan :=
  (lines.zipIdx first).foldl
    (fun s (text, number) => s.step reader d text (Range.onLine number 0 text.length)) s

end Scan

/-- The position after the last of some lines. -/
def stopOf (lines : List (List Char)) : Position :=
  match lines.getLast? with
  | none => ⟨0, 0⟩
  | some text => ⟨lines.length - 1, text.length⟩

/-- The items in the lines of a document. -/
def segmentLines (reader : DefinitionReader) (d : Dialect) (lines : List (List Char)) : List Item :=
  (Scan.empty.run reader d 0 lines).finish (stopOf lines)

/-- The items of a document. -/
def segment (reader : DefinitionReader) (d : Dialect) (document : Document) : List Item :=
  segmentLines reader d document.lines

end Flowline
