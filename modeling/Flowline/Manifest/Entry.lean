import Flowline.Manifest.Version
import Flowline.Text.Document

/-!
# App manifests

A list of apps to import has lines `type.name=uri` for apps and `type.name.metadata=uri` for their
metadata. Lines for the same app are merged: they agree in the text made of type, name and version.
Other lines are skipped.

* `ManifestLine.parse?`: a line;
* `manifestOf`: the apps of a list, in the order in which they first appear.
-/

namespace Flowline

/-- A uri and the place of its key. -/
structure ManifestLink where
  uri : String
  keyRange : Range
  deriving DecidableEq, Repr, Inhabited

/-- An app of a list. -/
structure ManifestEntry where
  appType : String
  name : String
  version : String
  app : Option ManifestLink
  metadata : Option ManifestLink
  deriving DecidableEq, Repr, Inhabited

/-- A line of a list. -/
structure ManifestLine where
  appType : String
  name : String
  version : String
  isMetadata : Bool
  link : ManifestLink
  deriving DecidableEq, Repr, Inhabited

/-- The text by which lines are merged. -/
def mergeKey (appType name version : String) : String :=
  appType ++ "." ++ name ++ "#" ++ version

/-- The type and the name that a key is made of, and whether it is one for metadata. -/
def splitKey? (key : List Char) : Option (List Char × List Char × Bool) :=
  match pieces '.' key with
  | [appType, name] => some (appType, name, false)
  | [appType, name, kind] => if kind = "metadata".toList then some (appType, name, true) else none
  | _ => none

namespace ManifestLine

/-- Reads the line with a number. -/
def parse? (number : Nat) (text : List Char) : Option ManifestLine :=
  match pieces '=' text with
  | [keyText, uriText] =>
    let start := leadingBlanks keyText
    let key := trim keyText
    let uri := trim uriText
    match splitKey? key with
    | none => none
    | some (appType, name, isMetadata) =>
      if appType.isEmpty || name.isEmpty || uri.isEmpty then none
      else
        some
          { appType := String.ofList appType
            name := String.ofList name
            version := String.ofList (versionOf uri)
            isMetadata := isMetadata
            link := ⟨String.ofList uri, Range.onLine number start (start + key.length)⟩ }
  | _ => none

def key (l : ManifestLine) : String :=
  mergeKey l.appType l.name l.version

end ManifestLine

namespace ManifestEntry

def key (e : ManifestEntry) : String :=
  mergeKey e.appType e.name e.version

/-- The entry that starts with a line, still without its links. -/
def ofLine (l : ManifestLine) : ManifestEntry :=
  ⟨l.appType, l.name, l.version, none, none⟩

/-- Takes the link of a line. -/
def link (e : ManifestEntry) (l : ManifestLine) : ManifestEntry :=
  if l.isMetadata then { e with metadata := some l.link } else { e with app := some l.link }

/-- The link whose key stands for the app. -/
def mainLink (e : ManifestEntry) : Option ManifestLink :=
  e.app.or e.metadata

end ManifestEntry

/-- Merges a line into entries. -/
def addLine (l : ManifestLine) : List ManifestEntry → List ManifestEntry
  | [] => [(ManifestEntry.ofLine l).link l]
  | e :: rest => if e.key = l.key then e.link l :: rest else e :: addLine l rest

/-- The lines of a list that count. -/
def manifestLines (lines : List (List Char)) : List ManifestLine :=
  lines.zipIdx.filterMap fun (text, number) => ManifestLine.parse? number text

/-- The apps in some lines. -/
def manifestOfLines (lines : List (List Char)) : List ManifestEntry :=
  (manifestLines lines).foldl (fun entries l => addLine l entries) []

/-- The apps of a list. -/
def manifestOf (d : Document) : List ManifestEntry :=
  manifestOfLines d.lines

end Flowline
