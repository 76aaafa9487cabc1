import Flowline.Client
import Flowline.Json.Location

/-!
# Diagnostics

What an editor marks in a document: definitions that cannot be read, streams without a name, and
tasks with apps that their environment does not know. The apps of an environment are asked for once;
an environment that cannot be asked is not checked.

* `problemDiagnostics`, `streamDiagnostics`, `taskDiagnostics`.
-/

namespace Flowline

/-- How bad something is. -/
inductive Severity where
  | error
  | warning
  deriving DecidableEq, Repr, Inhabited

/-- The number under which editors know a severity. -/
def Severity.number : Severity → Nat
  | error => 1
  | warning => 2

/-- A message about a range. -/
structure Diagnostic where
  range : Range
  severity : Severity
  message : String
  deriving DecidableEq, Repr, Inhabited

/-- The name under which diagnostics are shown. -/
def diagnosticSource : String := "scdf"

def Diagnostic.toJson (d : Diagnostic) : Json :=
  .obj [("range", d.range.toJson), ("severity", .nat d.severity.number),
    ("source", .str diagnosticSource), ("message", .str d.message)]

/-- The definitions that cannot be read. -/
def problemDiagnostics (items : List Item) : List Diagnostic :=
  (items.filterMap Item.problem).map fun p => ⟨p.range, .error, p.message⟩

/-- What is wrong with the streams of a document: problems, then streams without a name. -/
def streamDiagnostics (items : List Item) : List Diagnostic :=
  problemDiagnostics items ++
    (items.filter fun i => i.parsed.isSome && i.definitionName.isNone).map fun i =>
      ⟨i.range, .warning, "Stream name missing"⟩

/-! ## Apps of tasks -/

/-- The first app of a task that is not among those registered. -/
def firstUnregistered (t : TaskDefinition) (registered : List String) : Option App :=
  t.apps.find? fun app => !registered.contains app.name

def unregisteredDiagnostic (range : Range) (app : App) : Diagnostic :=
  ⟨range, .error, "Task app " ++ app.name ++ " is not registered"⟩

/-- The definition line of an item and its task. -/
def Item.task? (i : Item) : Option (Range × TaskDefinition) :=
  match i.parsed, i.definitionRange with
  | some ⟨.task t, _, _, _⟩, some range => some (range, t)
  | _, _ => none

/-- The apps of the environments asked so far, none for one that could not be asked, with the calls
that were made and what was found. -/
structure Lint where
  known : List (String × Option (List String))
  calls : List Call
  found : List Diagnostic
  deriving Repr, Inhabited

namespace Lint

def empty : Lint :=
  ⟨[], [], []⟩

/-- Asks for the apps of an environment, unless an environment of that name has been asked. -/
def ask (client : Client) (l : Lint) (e : Environment) : Lint :=
  match l.known.lookup e.name with
  | some _ => l
  | none =>
    { l with
      known := l.known ++ [(e.name, (client.registeredTaskApps e).toOption)]
      calls := l.calls ++ [⟨e, .registeredTaskApps⟩] }

/-- Checks a task against the apps of its environment, as far as they are known. -/
def check (l : Lint) (e : Environment) (range : Range) (t : TaskDefinition) : Lint :=
  match l.known.lookup e.name with
  | some (some registered) =>
    { l with
      found :=
        l.found ++ ((firstUnregistered t registered).map (unregisteredDiagnostic range)).toList }
  | _ => l

/-- Checks an item of a document. -/
def step (client : Client) (session : Environments) (items : List Item) (l : Lint) (i : Item) :
    Lint :=
  match i.task? with
  | none => l
  | some (range, t) =>
    match environmentAt items range.start session with
    | .error _ => l
    | .ok e => (l.ask client e).check e range t

end Lint

/-- What is wrong with the tasks of a document, and the calls made to find out. Without a client
only problems are found. -/
def taskDiagnostics (client : Option Client) (session : Environments) (items : List Item) :
    List Diagnostic × List Call :=
  match client with
  | none => (problemDiagnostics items, [])
  | some client =>
    let lint := items.foldl (Lint.step client session items) Lint.empty
    (problemDiagnostics items ++ lint.found, lint.calls)

end Flowline
