import Flowline.Environment

/-!
# Settings

What an editor sets when it starts a session.
-/

namespace Flowline

/-- The settings of a session. -/
structure Settings where
  /-- How long the items of a document are kept without being read. -/
  cacheIdleSeconds : Nat
  environment : Option Environments
  deriving DecidableEq, Repr, Inhabited

namespace Settings

def default : Settings :=
  ⟨60, none⟩

def decodeRecord (json : Json) : Option Settings := do
  match ← Json.slots ["cacheIdleSeconds", "environment"] json with
  | [cacheIdleSeconds, environment] =>
    pure ⟨← Json.withDefault (Json.asNatBelow 0x10000000000000000) default.cacheIdleSeconds
      cacheIdleSeconds, ← Json.nullableWithDefault Environments.decode environment⟩
  | _ => none

/-- The settings that options stand for; no options, or null, are the default. -/
def decode (options : Option Json) : Option Settings :=
  match options with
  | none => some default
  | some .null => some default
  | some json => decodeRecord json

end Settings

end Flowline
