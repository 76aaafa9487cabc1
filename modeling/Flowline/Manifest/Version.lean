import Flowline.Url.Parser

/-!
# Versions of apps

The version that the uri of an app tells. Coordinates and images end with it; the name of a file
carries it after a dash. An app and its metadata have the same version.

* `versionOf`.
-/

namespace Flowline

/-- What follows the last dash with a digit after it. -/
def fileVersion? : List Char → Option (List Char)
  | [] => none
  | c :: rest =>
    match fileVersion? rest with
    | some version => some version
    | none => if c = '-' ∧ rest.head?.any Url.isDigit then some rest else none

/-- The version of coordinates: their last part. -/
def mavenVersion (rest : List Char) : List Char :=
  ((cutLast ':' (rest.dropWhile (· == '/'))).map (·.2)).getD []

/-- The version of an image: its tag. -/
def dockerVersion (rest : List Char) : List Char :=
  let image := (pieces '/' (rest.dropWhile (· == '/'))).getLast?.getD []
  ((cutLast ':' image).map (·.2)).getD "latest".toList

/-- The version of a file: what its name, without the extension, ends with. -/
def httpVersion (uri : List Char) : List Char :=
  match (Url.parse? (String.ofList uri)).bind Url.file? with
  | none => []
  | some file =>
    let stem := ((cutLast '.' file.toList).map (·.1)).getD file.toList
    (fileVersion? stem).getD []

/-- A text without an ending. -/
def dropEnding (ending text : List Char) : List Char :=
  if ending.isSuffixOf text then text.take (text.length - ending.length) else text

/-- The version that a uri tells, empty when it tells none. -/
def versionOf (uri : List Char) : List Char :=
  match cutFirst ':' uri with
  | none => []
  | some (scheme, rest) =>
    let version :=
      match String.ofList scheme with
      | "maven" => mavenVersion rest
      | "docker" => dockerVersion rest
      | "http" => httpVersion uri
      | "https" => httpVersion uri
      | _ => []
    dropEnding "-metadata".toList version

end Flowline
