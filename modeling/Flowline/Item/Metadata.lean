import Flowline.Item.Dialect
import Flowline.Text.Position

/-!
# Metadata

A line such as `-- @env prod` says something about the definitions that follow it.

* `Metadata.value`, `Metadata.valueRange`: what stands after the tag;
* `Metadata.property`: the key and the value of a setting.
-/

namespace Flowline

/-- A metadata line; its tag stands at column `contentStart`. -/
structure Metadata where
  tag : Tag
  line : Nat
  text : List Char
  contentStart : Nat
  deriving DecidableEq, Repr, Inhabited

namespace Metadata

/-- The whole line. -/
def range (m : Metadata) : Range :=
  Range.onLine m.line 0 m.text.length

/-- From the tag to the end of the line. -/
def contentRange (m : Metadata) : Range :=
  Range.onLine m.line m.contentStart m.text.length

/-- The column after the tag. -/
def tokenStop (m : Metadata) : Nat :=
  m.contentStart + m.tag.token.length

/-- What stands after the tag. -/
def afterToken (m : Metadata) : List Char :=
  m.text.drop m.tokenStop

/-- What stands after the tag, without the blanks around it. -/
def value (m : Metadata) : Option String :=
  let value := trim m.afterToken
  if value.isEmpty then none else some (String.ofList value)

/-- The columns of the value. -/
def valueRange (m : Metadata) : Option Range :=
  let value := trim m.afterToken
  if value.isEmpty then none
  else
    let start := m.tokenStop + leadingBlanks m.afterToken
    some (Range.onLine m.line start (start + value.length))

/-- A value of the form `key=value`, cut at its first equals sign. -/
def property (m : Metadata) : Option (String × String) := do
  let value ← m.value
  let (key, setting) ← cutFirst '=' value.toList
  if (trim key).isEmpty then none
  else some (String.ofList (trim key), String.ofList (trim setting))

end Metadata

end Flowline
