import Flowline.Definition.AppReader
import Flowline.Text.Cut

/-!
# Dialects

Streams and tasks are written in documents of the same shape. A dialect says which tags such a
document knows and where the name of a definition stands.

* `Tag`, `Dialect`;
* `Dialect.inlineName`: the `name =` that a task line starts with.
-/

namespace Flowline

open Character

/-- What a metadata line is about. -/
inductive Tag where
  | env
  | name
  | desc
  | prop
  | arg
  deriving DecidableEq, Repr, Inhabited

namespace Tag

/-- The tags, in the order in which they are looked for. -/
def all : List Tag :=
  [env, name, desc, prop, arg]

def token : Tag → String
  | env => "@env"
  | name => "@name"
  | desc => "@desc"
  | prop => "@prop"
  | arg => "@arg"

end Tag

/-- Who reads the name that stands before a definition. -/
inductive NameRule where
  /-- The name is part of the grammar of the definition. -/
  | grammar
  /-- The name is split off before the definition is read. -/
  | split
  deriving DecidableEq, Repr, Inhabited

/-- The kind of definitions in a document. -/
inductive Dialect where
  | stream
  | task
  deriving DecidableEq, Repr, Inhabited

/-- The name that a line starts with, its columns, and the column after the equals sign. -/
structure InlineName where
  name : String
  start : Nat
  stop : Nat
  bodyStart : Nat
  deriving DecidableEq, Repr, Inhabited

/-- Looks for a single word and an equals sign in what stands from column `index` on. The columns
`start` and `stop` are those of the word, as far as it has been read. Gives both and the column
after the equals sign. -/
def scanName (start : Option Nat) (stop index : Nat) : List Char → Option (Nat × Nat × Nat)
  | [] => none
  | c :: rest =>
    if c = '=' then start.map fun s => (s, stop, index + 1)
    else if isBlank c then scanName start stop (index + 1) rest
    else if isNameChar c then
      if start.isSome && decide (stop < index) then none
      else scanName (some (start.getD index)) (index + 1) (index + 1) rest
    else none

namespace Dialect

def nameRule : Dialect → NameRule
  | stream => .grammar
  | task => .split

/-- Whether a document of the dialect may hold a tag. -/
def allows : Dialect → Tag → Bool
  | stream, .arg => false
  | _, _ => true

/-- The `name =` that a line starts with, where the dialect splits it off. The name is one word of
name characters with blanks around it; anything else before the first equals sign means that the
line has no name, as in `timestamp --format=x`. -/
def inlineName (d : Dialect) (line : List Char) : Option InlineName :=
  match d.nameRule with
  | .grammar => none
  | .split =>
    (scanName none 0 0 line).map fun (start, stop, bodyStart) =>
      ⟨String.ofList (slice line start stop), start, stop, bodyStart⟩

end Dialect

end Flowline
