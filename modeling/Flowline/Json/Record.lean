import Flowline.Json.Basic
import Flowline.Properties

/-!
# Records in JSON

A record is written as an object, with its fields as members in any order, or as an array, with its
fields in their order. An object may hold other members too. An array may not be longer than the
record, and may be shorter only where the fields it lacks have a default. A field that may be null
may also be missing in an object.

* `slots`: what is written for each field of a record;
* `required`, `nullable`, `withDefault`, `nullableWithDefault`: the kinds of fields;
* `asString`, `asBool`, `asNatBelow`, `asListOf`, `asProperties`: the values of fields.
-/

namespace Flowline.Json

/-- What is written for a field. -/
inductive Slot where
  | value (json : Json)
  /-- An object without the member. -/
  | missing
  /-- An array that is too short. -/
  | ended
  deriving Repr, Inhabited

/-- What an object holds for a field. -/
def memberSlot (members : List (String × Json)) (key : String) : Slot :=
  match lookup key members with
  | some value => .value value
  | none => .missing

/-- What is written for each field of a record. -/
def slots (keys : List String) : Json → Option (List Slot)
  | obj members => some (keys.map (memberSlot members))
  | arr items =>
    if items.length ≤ keys.length then
      some (items.map Slot.value ++ List.replicate (keys.length - items.length) Slot.ended)
    else none
  | _ => none

/-! ## Kinds of fields -/

/-- A field that has to be there. -/
def required {α : Type} (decode : Json → Option α) : Slot → Option α
  | .value json => decode json
  | .missing => none
  | .ended => none

/-- A value or null. -/
def orNull {α : Type} (decode : Json → Option α) : Json → Option (Option α)
  | null => some none
  | json => (decode json).map some

/-- A field that may be null, or missing in an object. -/
def nullable {α : Type} (decode : Json → Option α) : Slot → Option (Option α)
  | .value json => orNull decode json
  | .missing => some none
  | .ended => none

/-- A field that has a default. -/
def withDefault {α : Type} (decode : Json → Option α) (default : α) : Slot → Option α
  | .value json => decode json
  | .missing => some default
  | .ended => some default

/-- A field that may be null, which is its default. -/
def nullableWithDefault {α : Type} (decode : Json → Option α) : Slot → Option (Option α) :=
  withDefault (orNull decode) none

/-! ## Values of fields -/

def asString : Json → Option String
  | str s => some s
  | _ => none

def asBool : Json → Option Bool
  | bool b => some b
  | _ => none

/-- An integer from zero up to, not including, a bound. -/
def asNatBelow (bound : Nat) : Json → Option Nat
  | int n => if 0 ≤ n ∧ n < bound then some n.toNat else none
  | _ => none

def asListOf {α : Type} (decode : Json → Option α) : Json → Option (List α)
  | arr items => items.mapM decode
  | _ => none

/-- The value of a member with its key. -/
def memberOf {α : Type} (decode : Json → Option α) (member : String × Json) : Option (String × α) :=
  (decode member.2).map fun value => (member.1, value)

/-- An object whose members are all strings. -/
def asProperties : Json → Option Properties
  | obj members => (members.mapM (memberOf asString)).map Properties.ofList
  | _ => none

/-- Properties as an object. -/
def ofProperties (p : Properties) : Json :=
  obj (p.entries.map fun (key, value) => (key, str value))

def ofStringOption (s : Option String) : Json :=
  ofOption str s

end Flowline.Json
