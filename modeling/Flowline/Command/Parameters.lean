import Flowline.Json.Record

/-!
# Parameters of commands

What a command needs to know. An editor sends it as an object; a lens carries it as an array, in the
order of the fields. The field `server` names the environment to work with.

* `StreamCreate`, `StreamDeploy`, `StreamName`, `TaskCreate`, `TaskLaunch`, `TaskName`,
  `AppRegister`, `AppUnregister`;
* for each of them `encode`, the object, `positional`, the array, and `decode`.
-/

namespace Flowline

/-- A stream to be created. -/
structure StreamCreate where
  name : Option String
  server : Option String
  description : Option String
  definition : String
  deriving DecidableEq, Repr, Inhabited

/-- A stream to be deployed, with the settings of the server where none are given. -/
structure StreamDeploy where
  name : Option String
  server : Option String
  properties : Option Properties
  deriving DecidableEq, Repr, Inhabited

/-- A stream to be undeployed or destroyed. -/
structure StreamName where
  name : Option String
  server : Option String
  deriving DecidableEq, Repr, Inhabited

/-- A task to be created. -/
structure TaskCreate where
  name : Option String
  server : Option String
  description : Option String
  definition : String
  deriving DecidableEq, Repr, Inhabited

/-- A task to be launched. -/
structure TaskLaunch where
  name : Option String
  server : Option String
  properties : Properties
  arguments : List String
  deriving DecidableEq, Repr, Inhabited

/-- A task to be destroyed. -/
structure TaskName where
  name : Option String
  server : Option String
  deriving DecidableEq, Repr, Inhabited

/-- An app to be registered. -/
structure AppRegister where
  appType : String
  name : String
  appUri : Option String
  metadataUri : Option String
  deriving DecidableEq, Repr, Inhabited

/-- An app to be unregistered. -/
structure AppUnregister where
  appType : String
  name : String
  version : String
  deriving DecidableEq, Repr, Inhabited

open Json

namespace StreamCreate

def encode (p : StreamCreate) : Json :=
  .obj [("name", ofStringOption p.name), ("server", ofStringOption p.server),
    ("description", ofStringOption p.description), ("definition", .str p.definition)]

def decode (json : Json) : Option StreamCreate := do
  match ← slots ["name", "server", "description", "definition"] json with
  | [name, server, description, definition] =>
    pure ⟨← nullable asString name, ← nullable asString server, ← nullable asString description,
      ← required asString definition⟩
  | _ => none

def positional (p : StreamCreate) : List Json :=
  [ofStringOption p.name, ofStringOption p.server, ofStringOption p.description, .str p.definition]

end StreamCreate

namespace StreamDeploy

def encode (p : StreamDeploy) : Json :=
  .obj [("name", ofStringOption p.name), ("server", ofStringOption p.server),
    ("properties", ofOption ofProperties p.properties)]

def decode (json : Json) : Option StreamDeploy := do
  match ← slots ["name", "server", "properties"] json with
  | [name, server, properties] =>
    pure ⟨← nullable asString name, ← nullable asString server,
      ← nullableWithDefault asProperties properties⟩
  | _ => none

/-- The properties are left out when there are none. -/
def positional (p : StreamDeploy) : List Json :=
  [ofStringOption p.name, ofStringOption p.server] ++ (p.properties.map ofProperties).toList

end StreamDeploy

namespace StreamName

def encode (p : StreamName) : Json :=
  .obj [("name", ofStringOption p.name), ("server", ofStringOption p.server)]

def decode (json : Json) : Option StreamName := do
  match ← slots ["name", "server"] json with
  | [name, server] => pure ⟨← nullable asString name, ← nullable asString server⟩
  | _ => none

def positional (p : StreamName) : List Json :=
  [ofStringOption p.name, ofStringOption p.server]

end StreamName

namespace TaskCreate

def encode (p : TaskCreate) : Json :=
  .obj [("name", ofStringOption p.name), ("server", ofStringOption p.server),
    ("description", ofStringOption p.description), ("definition", .str p.definition)]

def decode (json : Json) : Option TaskCreate := do
  match ← slots ["name", "server", "description", "definition"] json with
  | [name, server, description, definition] =>
    pure ⟨← nullable asString name, ← nullable asString server, ← nullable asString description,
      ← required asString definition⟩
  | _ => none

def positional (p : TaskCreate) : List Json :=
  [ofStringOption p.name, ofStringOption p.server, ofStringOption p.description, .str p.definition]

end TaskCreate

namespace TaskLaunch

def encode (p : TaskLaunch) : Json :=
  .obj [("name", ofStringOption p.name), ("server", ofStringOption p.server),
    ("properties", ofProperties p.properties), ("arguments", .ofList .str p.arguments)]

def decode (json : Json) : Option TaskLaunch := do
  match ← slots ["name", "server", "properties", "arguments"] json with
  | [name, server, properties, arguments] =>
    pure ⟨← nullable asString name, ← nullableWithDefault asString server,
      ← withDefault asProperties Properties.empty properties,
      ← withDefault (asListOf asString) [] arguments⟩
  | _ => none

def positional (p : TaskLaunch) : List Json :=
  [ofStringOption p.name, ofStringOption p.server, ofProperties p.properties,
    .ofList .str p.arguments]

end TaskLaunch

namespace TaskName

def encode (p : TaskName) : Json :=
  .obj [("name", ofStringOption p.name), ("server", ofStringOption p.server)]

def decode (json : Json) : Option TaskName := do
  match ← slots ["name", "server"] json with
  | [name, server] => pure ⟨← nullable asString name, ← nullable asString server⟩
  | _ => none

def positional (p : TaskName) : List Json :=
  [ofStringOption p.name, ofStringOption p.server]

end TaskName

namespace AppRegister

def encode (p : AppRegister) : Json :=
  .obj [("appType", .str p.appType), ("name", .str p.name), ("appUri", ofStringOption p.appUri),
    ("metadataUri", ofStringOption p.metadataUri)]

def decode (json : Json) : Option AppRegister := do
  match ← slots ["appType", "name", "appUri", "metadataUri"] json with
  | [appType, name, appUri, metadataUri] =>
    pure ⟨← required asString appType, ← required asString name, ← nullable asString appUri,
      ← nullable asString metadataUri⟩
  | _ => none

def positional (p : AppRegister) : List Json :=
  [.str p.appType, .str p.name, ofStringOption p.appUri, ofStringOption p.metadataUri]

end AppRegister

namespace AppUnregister

def encode (p : AppUnregister) : Json :=
  .obj [("appType", .str p.appType), ("name", .str p.name), ("version", .str p.version)]

def decode (json : Json) : Option AppUnregister := do
  match ← slots ["appType", "name", "version"] json with
  | [appType, name, version] =>
    pure ⟨← required asString appType, ← required asString name, ← required asString version⟩
  | _ => none

def positional (p : AppUnregister) : List Json :=
  [.str p.appType, .str p.name, .str p.version]

end AppUnregister

end Flowline
