import Flowline.Client
import Flowline.Url.Parser

/-!
# Messages of an editor

What an editor tells and asks.

* `Message.decode`: a message from its method and its parameters.
-/

namespace Flowline

/-- A message from an editor. -/
inductive Message where
  | didOpen (url : Url) (languageId text : String) (version : Int)
  /-- Each change is a whole new text. -/
  | didChange (url : Url) (version : Int) (changes : List String)
  | didClose (url : Url)
  /-- The servers that the session knows from now on. -/
  | environment (environments : Environments)
  | action (action : Action)
  | documentSymbol (url : Url)
  | workspaceSymbol (query : String)
  | codeLens (url : Url)
  | foldingRange (url : Url)
  | completion (url : Url) (position : Position)
  | prepareRename (url : Url) (position : Position)
  | rename (url : Url) (position : Position) (newName : String)
  | shutdown
  deriving DecidableEq, Repr, Inhabited

namespace Message

open Json

/-- The string that a member holds. -/
def stringAt (key : String) (json : Json) : Option String :=
  (json.get? key).bind asString

def intAt (key : String) (json : Json) : Option Int :=
  match json.get? key with
  | some (.int n) => some n
  | _ => none

/-- A number of a position. -/
def numberAt (key : String) (json : Json) : Option Nat :=
  (json.get? key).bind (asNatBelow 0x100000000)

/-- The url of the document that a message is about. -/
def urlOf (params : Json) : Option Url := do
  let document ← params.get? "textDocument"
  let uri ← stringAt "uri" document
  Url.parse? uri

def positionOf (params : Json) : Option Position := do
  let position ← params.get? "position"
  pure ⟨← numberAt "line" position, ← numberAt "character" position⟩

def decodeDidOpen (params : Json) : Option Message := do
  let document ← params.get? "textDocument"
  pure (.didOpen (← urlOf params) (← stringAt "languageId" document) (← stringAt "text" document)
    (← intAt "version" document))

def decodeDidChange (params : Json) : Option Message := do
  let document ← params.get? "textDocument"
  let changes ← params.get? "contentChanges"
  pure (.didChange (← urlOf params) (← intAt "version" document)
    (← asListOf (stringAt "text") changes))

/-- The message with a method and parameters. -/
def decode (method : String) (params : Json) : Option Message :=
  match method with
  | "textDocument/didOpen" => decodeDidOpen params
  | "textDocument/didChange" => decodeDidChange params
  | "textDocument/didClose" => (urlOf params).map didClose
  | "scdf/environment" => (Environments.decode params).map environment
  | "textDocument/documentSymbol" => (urlOf params).map documentSymbol
  | "workspace/symbol" => (stringAt "query" params).map workspaceSymbol
  | "textDocument/codeLens" => (urlOf params).map codeLens
  | "textDocument/foldingRange" => (urlOf params).map foldingRange
  | "textDocument/completion" => do pure (completion (← urlOf params) (← positionOf params))
  | "textDocument/prepareRename" => do pure (prepareRename (← urlOf params) (← positionOf params))
  | "textDocument/rename" => do
    pure (rename (← urlOf params) (← positionOf params) (← stringAt "newName" params))
  | "shutdown" => some shutdown
  | _ => (Action.decode method params).map action

/-- Whether a message with a method asks for an answer. -/
def isRequest (method : String) : Bool :=
  ["textDocument/documentSymbol", "workspace/symbol", "textDocument/codeLens",
    "textDocument/foldingRange", "textDocument/completion", "textDocument/prepareRename",
    "textDocument/rename", "shutdown"].contains method

end Message

end Flowline
