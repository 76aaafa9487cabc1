/-!
# Service errors

Why a request to a dataflow server cannot be made, or why it failed.
-/

namespace Flowline

/-- The causes of failure outside of definitions. -/
inductive ServiceError where
  | unknownEnvironment (name : String)
  | noEnvironment
  /-- The server refused or could not be reached. -/
  | operation (reason : String)
  /-- The uri of a deployed stream does not name a server and a stream. -/
  | runtimeUri (uri : String)
  deriving DecidableEq, Repr, Inhabited

def ServiceError.message : ServiceError → String
  | unknownEnvironment name => "environment '" ++ name ++ "' is not configured"
  | noEnvironment => "no environment selected and no default environment configured"
  | operation reason => "dataflow server request failed: " ++ reason
  | runtimeUri uri => "invalid runtime stream uri: " ++ uri

end Flowline
