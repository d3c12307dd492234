/-
# TOML nodes

What a TOML document says: texts, numbers, truth values, moments, lists and
tables, each with its place in the document. A place is the span of
characters that says the node; of a table that has a header it is the header,
and of one that only other keys imply, the key that does.

How a table came to be decides what may be added to it later, so it is kept:
by a header of its own, by the header of a table below it, by a dotted key, or
in braces.

Key definitions: `Toml.Span`, `Toml.Key`, `Toml.Origin`, `Toml.Node`, `Toml.Entries`.
-/
import SignedHooks.Decimal.Binary64

namespace SignedHooks
namespace Toml

/-- A stretch of a document, by the characters that are unread at its two ends. -/
structure Span where
  /-- The characters unread at its start. -/
  start : Nat
  /-- The characters unread at its end. -/
  stop : Nat
  deriving DecidableEq, Repr

/-- The stretch between two rests of a document. -/
def Span.between (front back : List Char) : Span :=
  ⟨front.length, back.length⟩

/-- A key with its place. -/
structure Key where
  /-- The name. -/
  name : String
  /-- The place. -/
  span : Span
  deriving DecidableEq, Repr

/-- A number with a fraction or an exponent, or one that has only a name. -/
inductive Floating where
  /-- The nearest double. -/
  | finite (x : Binary64)
  /-- Plus or minus infinity. -/
  | infinite (negative : Bool)
  /-- What is no number. -/
  | notANumber
  /-- A decimal beyond all doubles. -/
  | tooLarge
  deriving DecidableEq, Repr

/-- How a table came to be. -/
inductive Origin where
  /-- By its own header, or as the root. -/
  | header
  /-- By the header of a table below it. -/
  | implied
  /-- By a dotted key. -/
  | dotted
  /-- In braces. -/
  | inline
  deriving DecidableEq, Repr

/-- What a place of a document says. -/
inductive Node where
  /-- A text. -/
  | text (s : String)
  /-- An integer of any size. -/
  | integer (n : Int)
  /-- What has the form of an integer, but digits that spell none. -/
  | unreadable
  /-- A number that is no integer. -/
  | floating (x : Floating)
  /-- A truth value. -/
  | boolean (b : Bool)
  /-- A date, a time or both. -/
  | moment
  /-- A list in brackets. -/
  | array (items : List (Span × Node))
  /-- The tables whose headers stand in double brackets, in order. -/
  | tables (items : List (Span × Node))
  /-- A table. -/
  | table (origin : Origin) (entries : List (Key × Span × Node))

instance : Inhabited Node := ⟨.moment⟩

/-- The entries of a table, in the order in which they came. -/
abbrev Entries := List (Key × Span × Node)

/-- The entry of a name. -/
def Entries.find? (entries : Entries) (name : String) : Option (Span × Node) :=
  (List.find? (fun e => e.1.name == name) entries).map (·.2)

/-- The entries with that of a key replaced. -/
def Entries.replace (entries : Entries) (key : Key) (value : Span × Node) : Entries :=
  entries.map fun e => if e.1.name == key.name then (key, value) else e

/-- The entries with that of a name replaced by one of the same key. -/
def Entries.update (entries : Entries) (name : String) (value : Span × Node) : Entries :=
  entries.map fun e => if e.1.name == name then (e.1, value) else e

/-- The entries with one more behind them. -/
def Entries.push (entries : Entries) (key : Key) (value : Span × Node) : Entries :=
  entries ++ [(key, value)]

end Toml
end SignedHooks
