import Flowline.Character.LowerCase
import Flowline.Symbol.Basic
import Flowline.Text.Cut

/-!
# Symbol queries

What is typed to look for symbols. `<foo`, `^foo`, `>foo` and `@foo` ask for sources, processors,
sinks and definitions whose name begins with `foo`; anything else is looked for in the names,
without regard to case.

* `Query.parse`, `Query.accepts`.
-/

namespace Flowline

/-- Which symbols are looked for. -/
inductive Query where
  | all
  /-- Symbols of a role whose name begins with a text. -/
  | role (role : Role) (start : String)
  /-- Symbols whose lower-case name holds a text. -/
  | text (part : String)
  deriving DecidableEq, Repr, Inhabited

namespace Query

/-- The role that a query's first character asks for. -/
def roleOf? (c : Char) : Option Role :=
  if c = '<' then some .source
  else if c = '^' then some .processor
  else if c = '>' then some .sink
  else if c = '@' then some .definition
  else none

/-- The query that a text stands for. -/
def parse (typed : Option String) : Query :=
  match (typed.map fun t => trim t.toList).getD [] with
  | [] => .all
  | first :: rest =>
    match roleOf? first with
    | some r => .role r (String.ofList rest)
    | none => .text (String.ofList (Character.lowerCase (first :: rest)))

/-- Whether a symbol is looked for. -/
def accepts (q : Query) (s : Symbol) : Bool :=
  match q with
  | .all => true
  | .role r start => decide (s.role = r) && start.toList.isPrefixOf s.name.toList
  | .text part => hasPart part.toList (Character.lowerCase s.name.toList)

end Query

end Flowline
