import Flowline.Item.Basic

/-!
# Item cache

The items of documents are kept until nobody has asked for them for a while. What is kept is found
by the text `uri#version`. Times are milliseconds.

* `Clock`: the times at which items are asked for and computed;
* `ItemCache.get`: the items kept under a key, else those to be kept from now on;
* `ItemCache.evict`, `ItemCache.invalidate`.
-/

namespace Flowline

/-- What the clock shows when something is asked for, and what it shows once that has been
computed. -/
structure Clock where
  now : Nat
  later : Nat
  deriving DecidableEq, Repr, Inhabited

/-- A clock that stands still. -/
def Clock.still (now : Nat) : Clock :=
  ⟨now, now⟩

/-- The items kept under a key, and when they were last asked for. -/
structure CacheEntry where
  items : List Item
  lastAccess : Nat
  deriving DecidableEq, Repr, Inhabited

/-- What is kept, and for how long without being asked for. -/
structure ItemCache where
  entries : List (String × CacheEntry)
  idle : Nat
  deriving DecidableEq, Repr, Inhabited

namespace ItemCache

/-- The greatest time for which items can be kept. -/
def maxIdle : Nat := 0xFFFFFFFFFFFFFFFF

/-- An empty cache whose entries stay for a time. -/
def ofIdle (millis : Nat) : ItemCache :=
  ⟨[], min millis maxIdle⟩

/-- What is kept by default stays for a minute. -/
def empty : ItemCache :=
  ofIdle 60000

/-- The text under which the items of a version are kept. -/
def key (uri : String) (version : Int) : String :=
  uri ++ "#" ++ toString version

/-- Changes the time for which entries stay. -/
def setIdle (c : ItemCache) (millis : Nat) : ItemCache :=
  { c with idle := min millis maxIdle }

/-- Whether an entry is still kept. -/
def isFresh (c : ItemCache) (now : Nat) (e : CacheEntry) : Bool :=
  decide (now - e.lastAccess < c.idle)

/-- The items kept under a key. -/
def find? (c : ItemCache) (now : Nat) (key : String) : Option (List Item) :=
  match c.entries.lookup key with
  | some e => if c.isFresh now e then some e.items else none
  | none => none

/-- Drops what is not kept any more. -/
def evict (c : ItemCache) (now : Nat) : ItemCache :=
  { c with entries := c.entries.filter fun e => c.isFresh now e.2 }

/-- Keeps items under a key. -/
def insert (c : ItemCache) (key : String) (e : CacheEntry) : ItemCache :=
  { c with entries := (key, e) :: c.entries.filter fun other => other.1 != key }

/-- The items kept for a version. When there are none they are computed, once what is not kept any
more has been dropped; their time then starts when they have been computed. -/
def get (c : ItemCache) (clock : Clock) (uri : String) (version : Int)
    (compute : Unit → List Item) : List Item × ItemCache :=
  let k := key uri version
  match c.find? clock.now k with
  | some items => (items, c.insert k ⟨items, clock.now⟩)
  | none =>
    let items := compute ()
    (items, (c.evict clock.now).insert k ⟨items, clock.later⟩)

/-- Drops everything kept under a key that starts with a uri and a number sign. -/
def invalidate (c : ItemCache) (uri : String) : ItemCache :=
  { c with entries := c.entries.filter fun e => !(uri ++ "#").toList.isPrefixOf e.1.toList }

def size (c : ItemCache) : Nat :=
  c.entries.length

end ItemCache

end Flowline
