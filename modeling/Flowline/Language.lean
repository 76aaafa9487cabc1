import Flowline.Item.Dialect

/-!
# Document languages

The kinds of documents, by the identifiers under which an editor knows them.
-/

namespace Flowline

/-- The language of a document. -/
inductive Language where
  | stream
  /-- A stream that is deployed, opened to be looked at. -/
  | streamRuntime
  | task
  /-- A list of apps to import. -/
  | app
  deriving DecidableEq, Repr, Inhabited

namespace Language

def id : Language → String
  | stream => "scdfs"
  | streamRuntime => "scdfsr"
  | task => "scdft"
  | app => "scdfa"

def ofId? : String → Option Language
  | "scdfs" => some stream
  | "scdfsr" => some streamRuntime
  | "scdft" => some task
  | "scdfa" => some app
  | _ => none

/-- The dialect of a document with definitions. -/
def dialect : Language → Option Dialect
  | stream => some .stream
  | streamRuntime => some .stream
  | task => some .task
  | app => none

end Language

end Flowline
