import Flowline.Session.Basic

/-!
# Connections

An editor and a session exchange JSON objects. A request carries an id, which its response repeats;
a notification carries none and gets no response. The editor first asks for a session, and before it
leaves it asks for the session to be shut down.

* `Connection`: how far a connection has come;
* `Connection.receive`: what comes of an object that the editor sends.
-/

namespace Flowline

/-- How far a connection has come. -/
inductive Connection where
  /-- No session has been asked for yet. -/
  | waiting
  | active (session : Session)
  /-- The session has been shut down. -/
  | closing
  | ended
  deriving DecidableEq, Repr, Inhabited

/-- Why a request gets no result. -/
inductive RequestError where
  | unreadable
  | outOfPlace
  | unknownMethod
  | badParameters
  /-- No session has been started. -/
  | notStarted
  deriving DecidableEq, Repr, Inhabited

namespace RequestError

/-- The number under which editors know an error. -/
def code : RequestError → Int
  | unreadable => -32700
  | outOfPlace => -32600
  | unknownMethod => -32601
  | badParameters => -32602
  | notStarted => -32002

def message : RequestError → String
  | unreadable => "Parse error"
  | outOfPlace => "Invalid request"
  | unknownMethod => "Method not found"
  | badParameters => "Invalid params"
  | notStarted => "Server not initialized"

end RequestError

/-- A message with its method, and its id if it is a request. -/
structure Envelope where
  method : String
  params : Json
  id : Option Json
  deriving Repr, Inhabited

def Envelope.decode (json : Json) : Option Envelope := do
  let method ← (json.get? "method").bind Json.asString
  pure ⟨method, (json.get? "params").getD .null, json.get? "id"⟩

/-- The version of the exchange, which every object carries. -/
def versionMember : String × Json :=
  ("jsonrpc", .str "2.0")

def resultToJson (id result : Json) : Json :=
  .obj [versionMember, ("result", result), ("id", id)]

def errorToJson (id : Json) (e : RequestError) : Json :=
  .obj [versionMember,
    ("error", .obj [("code", .int e.code), ("message", .str e.message)]), ("id", id)]

def noticeToJson (n : Notice) : Json :=
  .obj [versionMember, ("method", .str n.method), ("params", n.params)]

namespace Connection

/-- Refuses a request; a notification is passed over. -/
def refuse (e : Envelope) (error : RequestError) : List Json :=
  (e.id.map fun id => errorToJson id error).toList

/-- Starts a session with the options that an editor sends. -/
def start (e : Envelope) : Connection × List Json :=
  match e.id, Session.start (e.params.get? "initializationOptions") with
  | some id, some session => (.active session, [resultToJson id Session.greeting])
  | _, _ => (.waiting, refuse e .badParameters)

/-- The connection after a message to its session. -/
def next (method : String) (s : Session) : Connection :=
  if method = "shutdown" then .closing else .active s

/-- Hands a message to the session. Its notices go out before its response. -/
def dispatch (client : Option Client) (clock : Clock) (s : Session) (e : Envelope) :
    Connection × List Json :=
  match Message.decode e.method e.params with
  | none => (.active s, refuse e .badParameters)
  | some message =>
    let (s, reply) := s.handle client clock message
    let response :=
      match e.id, reply.answer with
      | some id, some answer => [resultToJson id answer.toJson]
      | _, _ => []
    (next e.method s, reply.notices.map noticeToJson ++ response)

/-- A message to a connection with a session. One that is known only as a request is passed over
when it has no id, and one that is known only as a notification is unknown when it has one. -/
def receiveActive (client : Option Client) (clock : Clock) (s : Session) (e : Envelope) :
    Connection × List Json :=
  if e.method = "initialize" then (.active s, refuse e .outOfPlace)
  else if e.id.isSome = Message.isRequest e.method then dispatch client clock s e
  else (.active s, refuse e .unknownMethod)

/-- What comes of a message. -/
def receiveEnvelope (client : Option Client) (clock : Clock) (c : Connection) (e : Envelope) :
    Connection × List Json :=
  if e.method = "exit" then (.ended, [])
  else
    match c with
    | .waiting =>
      if e.method = "initialize" then start e else (.waiting, refuse e .notStarted)
    | .active s => receiveActive client clock s e
    | .closing => (.closing, refuse e .outOfPlace)
    | .ended => (.ended, [])

/-- What comes of an object that the editor sends, none for a text that is no object. Responses to
the service's own messages are passed over. -/
def receive (client : Option Client) (clock : Clock) (c : Connection) (object : Option Json) :
    Connection × List Json :=
  match object with
  | none => (c, [errorToJson .null .unreadable])
  | some json =>
    match Envelope.decode json with
    | none => (c, [])
    | some e => receiveEnvelope client clock c e

end Connection

end Flowline
