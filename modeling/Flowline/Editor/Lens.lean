import Flowline.Command.Parameters
import Flowline.Item.Basic
import Flowline.Json.Location
import Flowline.Manifest.Entry
import Flowline.ServiceError

/-!
# Lenses

A lens is a command that an editor offers above a line, with its arguments.

* `streamLenses`, `taskLenses`: the commands for definitions and their deployments;
* `appLenses`: the commands for apps;
* `runtimeLenses`: the commands for a stream that is deployed.
-/

namespace Flowline

/-- The commands of lenses. -/
inductive LensCommand where
  | createStream
  | deployStream
  | undeployStream
  | destroyStream
  | createTask
  | launchTask
  | destroyTask
  | registerApp
  | unregisterApp
  deriving DecidableEq, Repr, Inhabited

namespace LensCommand

/-- The name under which an editor knows a command. -/
def id : LensCommand → String
  | createStream => "vscode-spring-cloud-dataflow.streams.create"
  | deployStream => "vscode-spring-cloud-dataflow.streams.deploy"
  | undeployStream => "vscode-spring-cloud-dataflow.streams.undeploy"
  | destroyStream => "vscode-spring-cloud-dataflow.streams.destroy"
  | createTask => "vscode-spring-cloud-dataflow.tasks.create"
  | launchTask => "vscode-spring-cloud-dataflow.tasks.launch"
  | destroyTask => "vscode-spring-cloud-dataflow.tasks.destroy"
  | registerApp => "vscode-spring-cloud-dataflow.apps.register"
  | unregisterApp => "vscode-spring-cloud-dataflow.apps.unregister"

def title : LensCommand → String
  | createStream => "Create Stream"
  | deployStream => "Deploy Stream"
  | undeployStream => "Undeploy Stream"
  | destroyStream => "Destroy Stream"
  | createTask => "Create Task"
  | launchTask => "Launch Task"
  | destroyTask => "Destroy Task"
  | registerApp => "Register Application"
  | unregisterApp => "Unregister Application"

end LensCommand

/-- A command that is offered above a range. -/
structure Lens where
  range : Range
  command : LensCommand
  arguments : List Json
  deriving Repr, Inhabited

def Lens.toJson (l : Lens) : Json :=
  .obj [("range", l.range.toJson),
    ("command", .obj [("title", .str l.command.title), ("command", .str l.command.id),
      ("arguments", .arr l.arguments)])]

/-! ## Streams -/

/-- The environment of a deployment: its own, else that of the item. -/
def deploymentServer (i : Item) (d : Deployment) : Option String :=
  d.envName.or i.envName

/-- Deploys a stream as a deployment of it says. -/
def streamDeploymentLens (i : Item) (d : Deployment) : Lens :=
  ⟨d.startLineRange, .deployStream,
    StreamDeploy.positional ⟨i.definitionName, deploymentServer i d, some d.propertyMap⟩⟩

/-- The commands for a stream at its definition line. -/
def streamDefinitionLenses (i : Item) (p : Parsed) (range : Range) : List Lens :=
  let target : StreamName := ⟨i.definitionName, i.envName⟩
  [⟨range, .createStream,
      StreamCreate.positional ⟨i.definitionName, i.envName, i.description, p.definition.body⟩⟩,
    ⟨range, .destroyStream, target.positional⟩,
    ⟨range, .deployStream, StreamDeploy.positional ⟨i.definitionName, i.envName, none⟩⟩,
    ⟨range, .undeployStream, target.positional⟩]

/-- The lenses that an item has at its definition line, if it was read. -/
def definitionLenses (lenses : Item → Parsed → Range → List Lens) (i : Item) : List Lens :=
  match i.parsed, i.definitionRange with
  | some parsed, some range => lenses i parsed range
  | _, _ => []

def streamItemLenses (i : Item) : List Lens :=
  i.deployments.map (streamDeploymentLens i) ++ definitionLenses streamDefinitionLenses i

/-- The lenses of a stream document. -/
def streamLenses (items : List Item) : List Lens :=
  items.flatMap streamItemLenses

/-! ## Tasks -/

/-- Launches a task as a deployment of it says. -/
def taskDeploymentLens (i : Item) (d : Deployment) : Lens :=
  ⟨d.startLineRange, .launchTask,
    TaskLaunch.positional
      ⟨i.definitionName, deploymentServer i d, d.propertyMap, d.argumentValues⟩⟩

/-- The commands for a task at its definition line. -/
def taskDefinitionLenses (i : Item) (p : Parsed) (range : Range) : List Lens :=
  let target : TaskName := ⟨i.definitionName, i.envName⟩
  [⟨range, .createTask,
      TaskCreate.positional ⟨i.definitionName, i.envName, i.description, p.definition.body⟩⟩,
    ⟨range, .destroyTask, target.positional⟩,
    ⟨range, .launchTask, target.positional⟩]

def taskItemLenses (i : Item) : List Lens :=
  i.deployments.map (taskDeploymentLens i) ++ definitionLenses taskDefinitionLenses i

/-- The lenses of a task document. -/
def taskLenses (items : List Item) : List Lens :=
  items.flatMap taskItemLenses

/-! ## Apps -/

def entryLenses (e : ManifestEntry) : List Lens :=
  match e.mainLink with
  | none => []
  | some link =>
    [⟨link.keyRange, .registerApp,
        AppRegister.positional ⟨e.appType, e.name, e.app.map (·.uri), e.metadata.map (·.uri)⟩⟩,
      ⟨link.keyRange, .unregisterApp, AppUnregister.positional ⟨e.appType, e.name, e.version⟩⟩]

/-- The lenses of a list of apps. -/
def appLenses (entries : List ManifestEntry) : List Lens :=
  entries.flatMap entryLenses

/-! ## Deployed streams -/

/-- The stream and the environment that the uri of a deployed stream names, which is of the form
`scheme://environment/streams/name.extension`. -/
def runtimeTarget (url : Url) : Except ServiceError StreamName :=
  match url.host?, url.segments?.bind (·[1]?) with
  | some server, some file =>
    if file.isEmpty then .error (.runtimeUri url.render)
    else .ok ⟨some (String.ofList (file.toList.takeWhile (· != '.'))), some server⟩
  | _, _ => .error (.runtimeUri url.render)

/-- The lenses of a document that shows a deployed stream. -/
def runtimeLenses (items : List Item) (url : Url) : Except ServiceError (List Lens) :=
  match runtimeTarget url with
  | .error e => .error e
  | .ok target =>
    .ok (items.flatMap (definitionLenses fun _ _ range =>
      [⟨range, .deployStream, target.positional⟩, ⟨range, .undeployStream, target.positional⟩]))

end Flowline
