/-!
# Definitions

What a definition line says. A stream sends data from a source through a row of apps to a sink; a
task runs apps one after the other or side by side. Every part keeps the columns it was read from.

* `Span`: columns of a line, the last one excluded;
* `App`, `Argument`: an app with its `--name=value` options;
* `StreamDefinition`, `TaskDefinition`.
-/

namespace Flowline

/-- The columns from `start` up to, not including, `stop`. -/
structure Span where
  start : Nat
  stop : Nat
  deriving DecidableEq, Repr, Inhabited

namespace Span

def length (s : Span) : Nat :=
  s.stop - s.start

def isEmpty (s : Span) : Bool :=
  s.length == 0

end Span

/-- An option `--name=value` of an app. Its span goes from the first dash to the end of the
value. -/
structure Argument where
  name : String
  value : String
  span : Span
  deriving DecidableEq, Repr, Inhabited

/-- An app, with a label when its name is used twice. Its span goes from the label, or the name, to
the end of the last argument. -/
structure App where
  label : Option String
  name : String
  nameSpan : Span
  arguments : List Argument
  span : Span
  deriving DecidableEq, Repr, Inhabited

/-- A named destination such as `:orders`, or `:main.time` for what the app `time` of the stream
`main` sends. The span leaves out the colon. -/
structure Destination where
  name : String
  span : Span
  deriving DecidableEq, Repr, Inhabited

/-- The name that stands before an equals sign. -/
structure DeclaredName where
  text : String
  span : Span
  deriving DecidableEq, Repr, Inhabited

/-- A stream. With a source and a sink and no apps it bridges two destinations. The span and the
body text leave out the name. -/
structure StreamDefinition where
  name : Option DeclaredName
  source : Option Destination
  sink : Option Destination
  apps : List App
  span : Span
  body : String
  deriving DecidableEq, Repr, Inhabited

/-- A task. The apps stand in the order of the text, those of splits included. -/
structure TaskDefinition where
  name : String
  apps : List App
  span : Span
  body : String
  deriving DecidableEq, Repr, Inhabited

end Flowline
