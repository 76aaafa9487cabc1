/-!
# JSON values

Settings, commands and answers travel as JSON values. Integers are kept apart from numbers with a
fraction or an exponent: no quantity here is anything but an integer, so the latter keep their
spelling and are only passed on or refused.

* `Json`, `Json.get?`;
* the constructors for optional values and lists.
-/

namespace Flowline

/-- A JSON value. The members of an object keep their order; the last one of a name counts. -/
inductive Json where
  | null
  | bool (value : Bool)
  | int (value : Int)
  | decimal (spelling : String)
  | str (value : String)
  | arr (items : List Json)
  | obj (members : List (String × Json))
  deriving Repr, Inhabited, BEq

namespace Json

/-- The value of an object's member. -/
def lookup (key : String) : List (String × Json) → Option Json
  | [] => none
  | (name, value) :: rest =>
    match lookup key rest with
    | some later => some later
    | none => if name = key then some value else none

def get? (key : String) : Json → Option Json
  | obj members => lookup key members
  | _ => none

def nat (n : Nat) : Json :=
  int n

/-- A value, or `null` when there is none. -/
def ofOption {α : Type} (encode : α → Json) : Option α → Json
  | none => null
  | some a => encode a

def ofList {α : Type} (encode : α → Json) (items : List α) : Json :=
  arr (items.map encode)

/-- A member that is left out when it has no value. -/
def optional (key : String) : Option Json → List (String × Json)
  | none => []
  | some value => [(key, value)]

end Json

end Flowline
