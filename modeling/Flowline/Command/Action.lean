import Flowline.Command.Parameters

/-!
# Actions

What a dataflow server can be told to do.

* `Action`, `Action.decode`: an action from the message that asks for it.
-/

namespace Flowline

/-- Something that a dataflow server does. -/
inductive Action where
  | createStream (parameters : StreamCreate)
  | deployStream (parameters : StreamDeploy)
  | undeployStream (parameters : StreamName)
  | destroyStream (parameters : StreamName)
  | createTask (parameters : TaskCreate)
  | launchTask (parameters : TaskLaunch)
  | destroyTask (parameters : TaskName)
  deriving DecidableEq, Repr, Inhabited

namespace Action

/-- The message that asks for an action. -/
def method : Action → String
  | createStream _ => "scdf/createStream"
  | deployStream _ => "scdf/deployStream"
  | undeployStream _ => "scdf/undeployStream"
  | destroyStream _ => "scdf/destroyStream"
  | createTask _ => "scdf/createTask"
  | launchTask _ => "scdf/launchTask"
  | destroyTask _ => "scdf/destroyTask"

/-- The environment that an action names. -/
def server : Action → Option String
  | createStream p => p.server
  | deployStream p => p.server
  | undeployStream p => p.server
  | destroyStream p => p.server
  | createTask p => p.server
  | launchTask p => p.server
  | destroyTask p => p.server

def encode : Action → Json
  | createStream p => p.encode
  | deployStream p => p.encode
  | undeployStream p => p.encode
  | destroyStream p => p.encode
  | createTask p => p.encode
  | launchTask p => p.encode
  | destroyTask p => p.encode

/-- The action that a message asks for. -/
def decode (method : String) (json : Json) : Option Action :=
  match method with
  | "scdf/createStream" => (StreamCreate.decode json).map createStream
  | "scdf/deployStream" => (StreamDeploy.decode json).map deployStream
  | "scdf/undeployStream" => (StreamName.decode json).map undeployStream
  | "scdf/destroyStream" => (StreamName.decode json).map destroyStream
  | "scdf/createTask" => (TaskCreate.decode json).map createTask
  | "scdf/launchTask" => (TaskLaunch.decode json).map launchTask
  | "scdf/destroyTask" => (TaskName.decode json).map destroyTask
  | _ => none

end Action

end Flowline
