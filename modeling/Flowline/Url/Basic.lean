import Flowline.Text.Cut

/-!
# Urls

A url in its parts. Two urls are the same when they are written the same, and they are always
written in the form below.

* `Url.render`: how a url is written;
* `Url.segments`: the segments of its path.
-/

namespace Flowline

namespace Url

/-- Who answers: a host, perhaps with a user and a port. A host may be empty. -/
structure Authority where
  user : String
  password : String
  host : String
  port : Option Nat
  deriving DecidableEq, Repr, Inhabited

/-- What is asked for. -/
inductive Path where
  /-- Text that does not start with a slash. -/
  | rootless (text : String)
  | segments (segments : List String)
  deriving DecidableEq, Repr, Inhabited

end Url

/-- A url. -/
structure Url where
  scheme : String
  authority : Option Url.Authority
  path : Url.Path
  query : Option String
  fragment : Option String
  deriving DecidableEq, Repr, Inhabited

namespace Url

def Authority.render (a : Authority) : String :=
  let password := if a.password.isEmpty then "" else ":" ++ a.password
  let user := if a.user.isEmpty && a.password.isEmpty then "" else a.user ++ password ++ "@"
  let port := match a.port with
    | none => ""
    | some n => ":" ++ toString n
  "//" ++ user ++ a.host ++ port

def Path.render : Path → String
  | rootless text => text
  | segments parts => String.join (parts.map ("/" ++ ·))

/-- A path that starts with an empty segment is marked where it could be taken for a host. -/
def pathMark (authority : Option Authority) (path : Path) : String :=
  match authority, path with
  | none, .segments ("" :: _ :: _) => "/."
  | _, _ => ""

/-- The text of a url. -/
def render (u : Url) : String :=
  let authority := match u.authority with
    | none => ""
    | some a => a.render
  let query := match u.query with
    | none => ""
    | some q => "?" ++ q
  let fragment := match u.fragment with
    | none => ""
    | some f => "#" ++ f
  u.scheme ++ ":" ++ authority ++ pathMark u.authority u.path ++ u.path.render ++ query ++ fragment

/-- The host, if there is one. -/
def host? (u : Url) : Option String :=
  u.authority.bind fun a => if a.host.isEmpty then none else some a.host

/-- The segments of a path that starts with a slash. -/
def segments? (u : Url) : Option (List String) :=
  match u.path with
  | .rootless _ => none
  | .segments [] => none
  | .segments parts => some parts

/-- The last segment of the path. -/
def file? (u : Url) : Option String :=
  u.segments?.bind List.getLast?

end Url

end Flowline
