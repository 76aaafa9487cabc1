import Flowline.Manifest.Entry
import Flowline.Symbol.Table

/-!
# Symbols of app manifests

Every app of a list is a symbol with its uris as parts.
-/

namespace Flowline

/-- The symbol of an app. -/
def Symbol.ofEntry (e : ManifestEntry) : Option Symbol :=
  e.mainLink.map fun link =>
    ⟨e.name, .app, link.keyRange,
      (e.app.map fun l => Symbol.leaf "uri" .appUri l.keyRange).toList ++
        (e.metadata.map fun l => Symbol.leaf "metadata" .appMetadata l.keyRange).toList⟩

/-- The symbols of a list of apps. -/
def SymbolTable.ofEntries (entries : List ManifestEntry) : SymbolTable :=
  ⟨entries.filterMap fun e => (Symbol.ofEntry e).map fun s => [s]⟩

end Flowline
