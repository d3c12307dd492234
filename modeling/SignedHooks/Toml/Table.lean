/-
# How TOML tables grow

An entry is put at a path below a table. The path may lead through tables that
are there, and makes those that are not: dotted ones on the way to a value,
implied ones on the way to a header. Through a list of tables it leads into
the last one. It never leads into a table in braces or any other value, and a
dotted key never into a table that has a header of its own.

A name is given a value once. A header may still give a table to a name that
only headers below it have implied, and one in double brackets adds a table to
its list.

Key definitions: `Toml.within`, `Toml.assign`, `Toml.openTable`, `Toml.openItem`.
-/
import SignedHooks.Toml.Node

namespace SignedHooks
namespace Toml

/-- How a path is walked: on the way to a value or to a header. -/
inductive Walk where
  /-- On the way to a value. -/
  | toValue
  /-- On the way to a header. -/
  | toHeader
  deriving DecidableEq, Repr

/-- The tables that are made on the way. -/
def Walk.origin : Walk → Origin
  | .toValue => .dotted
  | .toHeader => .implied

/-- The way may lead into a table. -/
def Walk.enters (walk : Walk) : Origin → Bool
  | .inline => false
  | .header => walk == .toHeader
  | .implied => true
  | .dotted => true

/-- A change of the entries of a table that came to be in some way. -/
abbrev Change := Origin → Entries → Option Entries

/-- A table with its entries changed. -/
def changeTable (change : Change) : Span × Node → Option (Span × Node)
  | (span, .table origin entries) => (change origin entries).map fun es => (span, .table origin es)
  | _ => none

/-- A list of tables with the entries of the last one changed. -/
def changeLast (change : Change) : List (Span × Node) → Option (List (Span × Node))
  | [] => none
  | [item] => (changeTable change item).map fun changed => [changed]
  | item :: rest => (changeLast change rest).map fun changed => item :: changed

/-- The value that a path leads into, with its entries changed. -/
def enter (walk : Walk) (change : Change) : Span × Node → Option (Span × Node)
  | (span, .table origin entries) =>
    if walk.enters origin then changeTable change (span, .table origin entries) else none
  | (span, .tables items) => (changeLast change items).map fun changed => (span, .tables changed)
  | _ => none

/-- The change of a table that changes the one at a path below it. -/
def within (walk : Walk) (change : Change) : List Key → Change
  | [], origin, entries => change origin entries
  | key :: path, _, entries =>
    match entries.find? key.name with
    | none => do
      let made ← within walk change path walk.origin []
      return entries.push key (key.span, .table walk.origin made)
    | some value => do
      let changed ← enter walk (within walk change path) value
      return entries.update key.name changed

/-- A table that holds a value at a path takes it: only one that dotted keys
made if the path is dotted, and only another if it is not. -/
def assign (path : List Key) (key : Key) (value : Span × Node) : Change :=
  within .toValue (fun origin entries =>
    if (origin == .dotted) == path.isEmpty then none
    else if (entries.find? key.name).isSome then none
    else some (entries.push key value)) path

/-- A header gives a table to the name at its path. -/
def openTable (path : List Key) (key : Key) (header : Span) : Change :=
  within .toHeader (fun _ entries =>
    match entries.find? key.name with
    | none => some (entries.push key (header, .table .header []))
    | some (_, .table .implied inner) => some (entries.replace key (header, .table .header inner))
    | some _ => none) path

/-- A header in double brackets adds a table to the list at its path. -/
def openItem (path : List Key) (key : Key) (header : Span) : Change :=
  let item := (header, Node.table .header [])
  within .toHeader (fun _ entries =>
    match entries.find? key.name with
    | none => some (entries.push key (header, .tables [item]))
    | some (span, .tables items) => some (entries.update key.name (span, .tables (items ++ [item])))
    | some _ => none) path

end Toml
end SignedHooks
