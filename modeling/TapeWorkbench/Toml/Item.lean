/-!
# The contents of a TOML document

A document is a table.  Tables come about in three ways, and how a table came
about decides what may be added to it later: a table that a header or an inline
form has defined is closed to other headers and to dotted keys; a table that is
only implied by a longer header may still get a header of its own; a table made
by a dotted key takes further dotted keys, but no header.
-/

namespace TapeWorkbench
namespace Toml

/-- How a table came about. -/
inductive Origin where
  /-- By its own header. -/
  | header
  /-- As a part of the path in a longer header. -/
  | implied
  /-- As a part of a dotted key. -/
  | dotted
  deriving DecidableEq, Repr

/-- What a key stands for. -/
inductive Item where
  | string (text : String)
  | integer (number : Int)
  | float
  | boolean (value : Bool)
  | dateTime
  | array (elements : List Item)
  | inlineTable (members : List (String × Item))
  | table (origin : Origin) (members : List (String × Item))
  /-- An array of tables, one for each of its headers, newest first.  The newest one is
  open. -/
  | tables (elements : List (List (String × Item)))
  deriving Repr

/-- The keys of a table with their items, newest first. -/
abbrev Members := List (String × Item)

namespace Members

def find? (members : Members) (key : String) : Option Item :=
  (List.find? (fun member => member.1 == key) members).map Prod.snd

/-- Put an item in the place of a key's item. -/
def replace (key : String) (item : Item) : Members → Members
  | [] => []
  | (other, old) :: rest =>
    if other = key then (key, item) :: rest else (other, old) :: replace key item rest

/-- Add a key that is new. -/
def insert (key : String) (item : Item) (members : Members) : Members :=
  (key, item) :: members

/-- Change the newest one of the tables in an array. -/
def changeNewest (change : Members → Option Members) : List Members → Option (List Members)
  | [] => none
  | newest :: older => (change newest).map (· :: older)

/-- Give a value to a dotted key.  `addable` tells whether plain keys may be added to
the table itself: to one reached along a dotted key, only if dotted keys made it.
No key is given a value twice. -/
def assign (value : Item) : (path : List String) → (addable : Bool) → Members → Option Members
  | [], _, _ => none
  | [key], addable, members =>
    if addable && (members.find? key).isNone then some (members.insert key value) else none
  | key :: next :: rest, _, members =>
    match members.find? key with
    | none =>
      (assign value (next :: rest) true []).map fun inner =>
        members.insert key (.table .dotted inner)
    | some (.table .header _) => none
    | some (.table origin inner) =>
      (assign value (next :: rest) (origin = .dotted) inner).map fun inner =>
        members.replace key (.table origin inner)
    | some (.tables elements) =>
      (changeNewest (assign value (next :: rest) false) elements).map fun elements =>
        members.replace key (.tables elements)
    | some _ => none

/-- Change the table at the end of a header's path.  Tables on the way that do not
exist are implied. -/
def within (change : Members → Option Members) : (path : List String) → Members → Option Members
  | [], members => change members
  | key :: rest, members =>
    match members.find? key with
    | none =>
      (within change rest []).map fun inner => members.insert key (.table .implied inner)
    | some (.table origin inner) =>
      (within change rest inner).map fun inner => members.replace key (.table origin inner)
    | some (.tables elements) =>
      (changeNewest (within change rest) elements).map fun elements =>
        members.replace key (.tables elements)
    | some _ => none

def define (path : List String) (members : Members) : Option Members :=
  match path.getLast? with
  | none => none
  | some key =>
    within (fun parent =>
      match parent.find? key with
      | none => some (parent.insert key (.table .header []))
      | some (.table .implied inner) => some (parent.replace key (.table .header inner))
      | some _ => none) path.dropLast members

/-- Add one more table to an array of tables by a header. -/
def extend (path : List String) (members : Members) : Option Members :=
  match path.getLast? with
  | none => none
  | some key =>
    within (fun parent =>
      match parent.find? key with
      | none => some (parent.insert key (.tables [[]]))
      | some (.tables elements) => some (parent.replace key (.tables ([] :: elements)))
      | some _ => none) path.dropLast members

end Members
end Toml
end TapeWorkbench
