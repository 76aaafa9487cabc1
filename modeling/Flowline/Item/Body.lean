import Flowline.Definition.StreamReader
import Flowline.Definition.TaskReader
import Flowline.Item.Basic

/-!
# The body of a definition line

A definition line is handed to the grammar of its dialect, and what comes back is placed on the
line.

* `DefinitionReader`: a grammar for streams and one for tasks;
* `Body.ofLine`: what becomes of a definition line.
-/

namespace Flowline

/-- How definitions are read. The columns of definitions and errors are those of the text. -/
structure DefinitionReader where
  stream : List Char → Except SyntaxError StreamDefinition
  /-- Reads the body of a named task from a column on. -/
  task : String → List Char → Nat → Except SyntaxError TaskDefinition

def DefinitionReader.standard : DefinitionReader :=
  ⟨StreamDefinition.parse, TaskDefinition.parse⟩

/-- The columns of a span on a line. -/
def Span.onLine (s : Span) (line : Nat) : Range :=
  Range.onLine line s.start s.stop

namespace Body

/-- The body of a line with a syntax error. -/
def ofError (line : Nat) (e : SyntaxError) : Body :=
  .invalid ⟨.malformed e, Range.point ⟨line, e.position⟩⟩

/-- The body of a stream line. A name on the line wins over one of the metadata. -/
def ofStreamLine (reader : DefinitionReader) (line : Nat) (text : List Char)
    (name : Option Metadata) : Body :=
  match reader.stream text with
  | .error e => ofError line e
  | .ok s =>
    .parsed
      { definition := .stream s
        name := (s.name.map (·.text)).or (name.bind Metadata.value)
        nameRange := s.name.map (·.span.onLine line)
        range := s.span.onLine line }

/-- The body of a task line whose name and body start are known. -/
def ofNamedTask (reader : DefinitionReader) (line : Nat) (text : List Char) (name : String)
    (nameRange : Option Range) (bodyStart : Nat) : Body :=
  match reader.task name text bodyStart with
  | .error e => ofError line e
  | .ok t =>
    .parsed
      { definition := .task t
        name := some name
        nameRange := nameRange
        range := t.span.onLine line }

/-- The body of a task line. A task needs a name, on the line or of the metadata. -/
def ofTaskLine (reader : DefinitionReader) (line : Nat) (text : List Char)
    (name : Option Metadata) : Body :=
  match Dialect.task.inlineName text with
  | some inline =>
    ofNamedTask reader line text inline.name (some (Range.onLine line inline.start inline.stop))
      inline.bodyStart
  | none =>
    match name.bind Metadata.value with
    | some name => ofNamedTask reader line text name none 0
    | none => .invalid ⟨.unnamedTask, Range.point ⟨line, 0⟩⟩

/-- The body of a definition line, given the metadata name above it. -/
def ofLine (reader : DefinitionReader) (d : Dialect) (line : Nat) (text : List Char)
    (name : Option Metadata) : Body :=
  match d with
  | .stream => ofStreamLine reader line text name
  | .task => ofTaskLine reader line text name

/-- Whether a line with this body was handed to the grammar. -/
def usesGrammar : Body → Bool
  | .parsed _ => true
  | .invalid ⟨.malformed _, _⟩ => true
  | .invalid ⟨.unnamedTask, _⟩ => false
  | .dangling => false

end Body

end Flowline
