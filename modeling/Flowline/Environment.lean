import Flowline.Item.Basic
import Flowline.Json.Record
import Flowline.ServiceError

/-!
# Environments

An environment is a dataflow server with a name. A session knows some of them, one of which may be
the default. Metadata lines say which one a place in a document is about: inside a deployment its
own environment counts, elsewhere in an item that of the item.

* `Environments.resolve`: an environment by name;
* `declaredEnvironment`, `environmentAt`: the environment of a place in a document.
-/

namespace Flowline

/-- How to log in. -/
structure Credentials where
  username : Option String
  password : Option String
  deriving DecidableEq, Repr, Inhabited

/-- A dataflow server. -/
structure Environment where
  name : String
  url : String
  credentials : Credentials
  deriving DecidableEq, Repr, Inhabited

/-- The servers that a session knows. -/
structure Environments where
  environments : List Environment
  defaultEnvironment : Option String
  /-- Whether any certificate of a server is accepted. -/
  trustssl : Bool
  deriving DecidableEq, Repr, Inhabited

namespace Credentials

def empty : Credentials :=
  ⟨none, none⟩

def decode (json : Json) : Option Credentials := do
  match ← Json.slots ["username", "password"] json with
  | [username, password] =>
    pure ⟨← Json.nullableWithDefault Json.asString username,
      ← Json.nullableWithDefault Json.asString password⟩
  | _ => none

def encode (c : Credentials) : Json :=
  .obj [("username", .ofStringOption c.username), ("password", .ofStringOption c.password)]

end Credentials

namespace Environment

def decode (json : Json) : Option Environment := do
  match ← Json.slots ["name", "url", "credentials"] json with
  | [name, url, credentials] =>
    pure ⟨← Json.required Json.asString name, ← Json.required Json.asString url,
      ← Json.withDefault Credentials.decode Credentials.empty credentials⟩
  | _ => none

def encode (e : Environment) : Json :=
  .obj [("name", .str e.name), ("url", .str e.url), ("credentials", e.credentials.encode)]

end Environment

namespace Environments

def empty : Environments :=
  ⟨[], none, false⟩

def decode (json : Json) : Option Environments := do
  match ← Json.slots ["environments", "defaultEnvironment", "trustssl"] json with
  | [environments, defaultEnvironment, trustssl] =>
    pure ⟨← Json.withDefault (Json.asListOf Environment.decode) [] environments,
      ← Json.nullableWithDefault Json.asString defaultEnvironment,
      ← Json.withDefault Json.asBool false trustssl⟩
  | _ => none

def encode (e : Environments) : Json :=
  .obj [("environments", .ofList Environment.encode e.environments),
    ("defaultEnvironment", .ofStringOption e.defaultEnvironment), ("trustssl", .bool e.trustssl)]

/-- The first environment of a name. -/
def find? (e : Environments) (name : String) : Option Environment :=
  e.environments.find? fun environment => environment.name == name

/-- The environment of a name, or the default one when no name is given. -/
def resolve (e : Environments) (name : Option String) : Except ServiceError Environment :=
  match name.or e.defaultEnvironment with
  | none => .error .noEnvironment
  | some name =>
    match e.find? name with
    | none => .error (.unknownEnvironment name)
    | some environment => .ok environment

end Environments

/-- The environment that metadata lines name for a position. -/
def declaredEnvironment (items : List Item) (p : Position) : Option String :=
  match items.find? fun i => i.range.contains p with
  | none => none
  | some item =>
    ((item.deployments.find? fun d => d.range.contains p).bind Deployment.envName).or item.envName

/-- The environment of a position, the default one where none is named. -/
def environmentAt (items : List Item) (p : Position) (session : Environments) :
    Except ServiceError Environment :=
  session.resolve (declaredEnvironment items p)

end Flowline
