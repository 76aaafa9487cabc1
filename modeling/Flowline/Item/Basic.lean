import Flowline.Definition.SyntaxError
import Flowline.Definition.Tree
import Flowline.Item.Metadata
import Flowline.Properties

/-!
# Items

A document is a row of items: a definition line together with the metadata and the comments above
it. Settings and arguments above a definition are grouped into deployments, one for each place it is
to be deployed to.

* `Deployment`, `Body`, `Item`.
-/

namespace Flowline

/-- A run of settings and arguments, for one deployment of the definition that follows. -/
structure Deployment where
  env : Option Metadata
  properties : List Metadata
  arguments : List Metadata
  range : Range
  /-- The first metadata line of the run. -/
  startLineRange : Range
  deriving DecidableEq, Repr, Inhabited

namespace Deployment

def envName (d : Deployment) : Option String :=
  d.env.bind Metadata.value

def propertyMap (d : Deployment) : Properties :=
  Properties.ofList (d.properties.filterMap Metadata.property)

def argumentValues (d : Deployment) : List String :=
  d.arguments.filterMap Metadata.value

end Deployment

/-- Why a definition line has no definition. -/
inductive Problem.Cause where
  /-- A task without any name. -/
  | unnamedTask
  | malformed (error : SyntaxError)
  deriving DecidableEq, Repr, Inhabited

def Problem.Cause.message : Problem.Cause → String
  | unnamedTask => "Task Definition must have a name"
  | malformed e => e.message

/-- What is wrong with a definition line, and where. -/
structure Problem where
  cause : Problem.Cause
  range : Range
  deriving DecidableEq, Repr, Inhabited

def Problem.message (p : Problem) : String :=
  p.cause.message

/-- A stream or a task. -/
inductive Definition where
  | stream (definition : StreamDefinition)
  | task (definition : TaskDefinition)
  deriving DecidableEq, Repr, Inhabited

/-- The text of a definition without its name. -/
def Definition.body : Definition → String
  | stream s => s.body
  | task t => t.body

/-- A definition that could be read. Its name stands on the line, at `nameRange`, or comes from a
metadata line. The range leaves out the name. -/
structure Parsed where
  definition : Definition
  name : Option String
  nameRange : Option Range
  range : Range
  deriving DecidableEq, Repr, Inhabited

/-- What became of a definition line. -/
inductive Body where
  | parsed (parsed : Parsed)
  | invalid (problem : Problem)
  /-- Metadata at the end of a document, with no definition yet. -/
  | dangling
  deriving DecidableEq, Repr, Inhabited

/-- A definition with what stands above it. The range reaches from the line after the previous
definition to the end of the definition line. -/
structure Item where
  range : Range
  /-- The definition line. -/
  definitionRange : Option Range
  env : Option Metadata
  name : Option Metadata
  desc : Option Metadata
  deployments : List Deployment
  comments : List Range
  body : Body
  deriving DecidableEq, Repr, Inhabited

namespace Item

def parsed (i : Item) : Option Parsed :=
  match i.body with
  | .parsed p => some p
  | _ => none

def problem (i : Item) : Option Problem :=
  match i.body with
  | .invalid p => some p
  | _ => none

/-- The name that was read, else the one of the metadata. -/
def definitionName (i : Item) : Option String :=
  (i.parsed.bind (·.name)).or (i.name.bind Metadata.value)

def envName (i : Item) : Option String :=
  i.env.bind Metadata.value

def description (i : Item) : Option String :=
  i.desc.bind Metadata.value

/-- The number of the definition line. -/
def line (i : Item) : Option Nat :=
  i.definitionRange.map (·.start.line)

end Item

end Flowline
