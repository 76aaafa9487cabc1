import Flowline.Session.Message
import Flowline.Session.Reply
import Flowline.Settings
import Flowline.Workspace.Basic

/-!
# Sessions

A session answers an editor. It holds the open documents and the known environments; a client, where
there is one, gives access to their servers.

* `Session.start`: a session with the settings of an editor;
* `Session.handle`: what comes of a message.
-/

namespace Flowline

/-- The state of a session. -/
structure Session where
  workspace : Workspace
  environments : Environments
  deriving DecidableEq, Repr, Inhabited

namespace Session

/-- What the service can do. -/
def capabilities : Json :=
  .obj [("codeLensProvider", .obj [("resolveProvider", .bool false)]),
    ("completionProvider", .obj []),
    ("documentSymbolProvider", .bool true),
    ("foldingRangeProvider", .bool true),
    ("renameProvider", .obj [("prepareProvider", .bool true)]),
    ("textDocumentSync", .int 1),
    ("workspaceSymbolProvider", .bool true)]

/-- The answer to an editor that starts a session. -/
def greeting : Json :=
  .obj [("capabilities", capabilities),
    ("serverInfo", .obj [("name", .str "dataflow-lsp"), ("version", .str "0.1.0")])]

/-- A session with given settings. -/
def ofSettings (s : Settings) : Session :=
  ⟨Workspace.empty.setIdle (s.cacheIdleSeconds * 1000), s.environment.getD Environments.empty⟩

/-- A session with the options of an editor, unless these cannot be understood. -/
def start (options : Option Json) : Option Session :=
  (Settings.decode options).map ofSettings

/-! ## Diagnostics -/

/-- Tells what is wrong with an open document. -/
def publish (client : Option Client) (clock : Clock) (s : Session) (uri : String) :
    Session × Reply :=
  match s.workspace.find? uri with
  | none => (s, .silent)
  | some d =>
    let (items, workspace) := s.workspace.items clock uri
    let (diagnostics, calls) :=
      match d.language, items with
      | some .stream, some items => (streamDiagnostics items, [])
      | some .streamRuntime, some items => (streamDiagnostics items, [])
      | some .task, some items => taskDiagnostics client s.environments items
      | _, _ => ([], [])
    ({ s with workspace := workspace },
      ⟨none, [.diagnostics uri diagnostics (some d.document.version)], calls⟩)

/-- Tells what is wrong with some documents, one after the other. -/
def publishAll (client : Option Client) (clock : Clock) (s : Session) (uris : List String) :
    Session × Reply :=
  uris.foldl (fun (s, reply) uri =>
    let (s, more) := s.publish client clock uri
    (s, ⟨none, reply.notices ++ more.notices, reply.calls ++ more.calls⟩)) (s, .silent)

/-! ## Documents -/

def didOpen (client : Option Client) (clock : Clock) (s : Session) (url : Url)
    (languageId text : String) (version : Int) : Session × Reply :=
  publish client clock { s with workspace := s.workspace.update url languageId text version }
    url.render

/-- Takes the first of the changes, if there is one. -/
def didChange (client : Option Client) (clock : Clock) (s : Session) (url : Url) (version : Int)
    (changes : List String) : Session × Reply :=
  match changes with
  | [] => (s, .silent)
  | text :: _ =>
    publish client clock
      { s with workspace := (s.workspace.change url text version).evict clock.now }
      url.render

def didClose (s : Session) (url : Url) : Session × Reply :=
  ({ s with workspace := s.workspace.remove url }, ⟨none, [.diagnostics url.render [] none], []⟩)

/-! ## Actions -/

/-- Tells a server to do something, and the editor if that fails. -/
def perform (client : Option Client) (s : Session) (a : Action) : Reply :=
  match client with
  | none => .silent
  | some client =>
    match s.environments.resolve a.server with
    | .error e => ⟨none, [.message .warning (a.method ++ ": " ++ e.message)], []⟩
    | .ok environment =>
      let call : Call := ⟨environment, .perform a⟩
      match client.perform environment a with
      | .ok () => ⟨none, [], [call]⟩
      | .error e => ⟨none, [.message .error (a.method ++ " failed: " ++ e.message)], [call]⟩

/-! ## Requests -/

/-- Answers from the symbols of a document. -/
def withSymbols (clock : Clock) (s : Session) (url : Url) (answer : SymbolTable → Answer) :
    Session × Reply :=
  let (table, workspace) := s.workspace.symbols clock url.render
  ({ s with workspace := workspace }, .ofAnswer (.ofOption answer table))

/-- Answers from the items of a document. -/
def withItems (clock : Clock) (s : Session) (url : Url) (answer : List Item → Answer) :
    Session × Reply :=
  let (items, workspace) := s.workspace.items clock url.render
  ({ s with workspace := workspace }, .ofAnswer (.ofOption answer items))

/-- The symbols of all open documents that a query accepts. -/
def workspaceSymbol (clock : Clock) (s : Session) (query : String) : Session × Reply :=
  let q := Query.parse (some query)
  let (s, found) := s.workspace.uris.foldl (fun ((s : Session), found) uri =>
    let (table, workspace) := s.workspace.symbols clock uri
    ({ s with workspace := workspace },
      found ++ ((table.map fun t => findSymbols t uri q).getD []))) (s, [])
  (s, .ofAnswer (.found found))

def codeLens (clock : Clock) (s : Session) (url : Url) : Session × Reply :=
  match s.workspace.language url.render with
  | some .stream => s.withItems clock url fun items => .lenses (streamLenses items)
  | some .task => s.withItems clock url fun items => .lenses (taskLenses items)
  | some .app =>
    (s, .ofAnswer (.ofOption (fun entries => .lenses (appLenses entries))
      (s.workspace.entries url.render)))
  | some .streamRuntime =>
    s.withItems clock url fun items => .ofOption .lenses (runtimeLenses items url).toOption
  | none => (s, .ofAnswer .nothing)

/-- Asks the server of a position how the line can go on there. -/
def completeAt (client : Client) (s : Session) (items : List Item) (d : Dialect)
    (line : List Char) (p : Position) : Reply :=
  match environmentAt items p s.environments with
  | .error _ => .ofAnswer .nothing
  | .ok e =>
    ⟨some (.ofOption .completions (complete client e d line p).toOption), [],
      [completionCall e d line p]⟩

def completion (client : Option Client) (clock : Clock) (s : Session) (url : Url) (p : Position) :
    Session × Reply :=
  match client, s.workspace.definitions? url.render with
  | some client, some (document, dialect) =>
    let (items, workspace) := s.workspace.items clock url.render
    let s := { s with workspace := workspace }
    match items, document.line p.line with
    | some items, some line => (s, s.completeAt client items dialect line p)
    | _, _ => (s, .ofAnswer .nothing)
  | _, _ => (s, .ofAnswer .nothing)

/-- What comes of a message. -/
def handle (client : Option Client) (clock : Clock) (s : Session) : Message → Session × Reply
  | .didOpen url languageId text version => s.didOpen client clock url languageId text version
  | .didChange url version changes => s.didChange client clock url version changes
  | .didClose url => s.didClose url
  | .environment environments =>
    publishAll client clock { s with environments := environments } s.workspace.uris
  | .action a => (s, s.perform client a)
  | .documentSymbol url => s.withSymbols clock url fun t => .outline (Flowline.outline t)
  | .workspaceSymbol query => s.workspaceSymbol clock query
  | .codeLens url => s.codeLens clock url
  | .foldingRange url => s.withItems clock url fun items => .folds (Flowline.folds items)
  | .completion url p => s.completion client clock url p
  | .prepareRename url p =>
    s.withSymbols clock url fun t => .ofOption .renameTarget (Flowline.renameTarget t p)
  | .rename url p newName =>
    s.withSymbols clock url fun t => .ofOption (.edits url.render) (renameEdits t p newName)
  | .shutdown => (s, .ofAnswer .nothing)

end Session

end Flowline
