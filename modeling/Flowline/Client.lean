import Flowline.Command.Action
import Flowline.Environment

/-!
# Clients of dataflow servers

A client answers requests about an environment. Its answers depend on nothing but the request, so
that what is asked can be told from what is answered; what has been asked is kept as a list of
calls.

* `Client`, `Call`.
-/

namespace Flowline

/-- A way to go on from what is typed. -/
structure Proposal where
  /-- What the whole text would become. -/
  text : String
  explanation : String
  deriving DecidableEq, Repr, Inhabited

/-- A request to a dataflow server. -/
inductive Request where
  /-- How a definition of a dialect that starts with a text can go on. -/
  | completions (dialect : Dialect) (typed : String) (detailLevel : Nat)
  | registeredTaskApps
  | perform (action : Action)
  deriving DecidableEq, Repr, Inhabited

/-- A request that was made of an environment. -/
structure Call where
  environment : Environment
  request : Request
  deriving DecidableEq, Repr, Inhabited

/-- Access to dataflow servers. -/
structure Client where
  completions : Environment → Dialect → String → Nat → Except ServiceError (List Proposal)
  registeredTaskApps : Environment → Except ServiceError (List String)
  perform : Environment → Action → Except ServiceError Unit

end Flowline
