/-
# Log filters

Which records are shown. A filter is a list of directives, separated by
commas. Of the directives that apply to a record the one with the longest
source decides, and of those with the same source one that asks for a value of
the record; of two that ask for the same the later one. A record to which none
applies is not shown. A directive that cannot be read is passed over, with a
complaint. Without any directive there is a level for all records.

Key definitions: `Log.Filter`, `Log.Filter.decisive?`, `Log.Filter.shows`, `Log.Filter.read`.
-/
import SignedHooks.Log.Directive

namespace SignedHooks
namespace Log

/-- The directives of a filter, in order. -/
structure Filter where
  /-- The directives. -/
  directives : List Directive
  deriving DecidableEq, Repr

namespace Filter

/-- The one of two directives that decides, of which the second came later. -/
def moreSpecific (a : Option Directive) (b : Directive) : Option Directive :=
  match a with
  | none => some b
  | some d => if d.outranks b then some d else some b

/-- The directive that decides about a record. -/
def decisive? (f : Filter) (r : Record) : Option Directive :=
  (f.directives.filter fun d => d.applies r).foldl moreSpecific none

/-- A record is shown. -/
def shows (f : Filter) (r : Record) : Bool :=
  match f.decisive? r with
  | none => false
  | some d => d.threshold.shows r.level

/-- The filter that shows all records from a level on. -/
def ofLevel (level : Level) : Filter :=
  ⟨[.ofThreshold (.atLeast level)]⟩

/-- The complaint about a directive that cannot be read. -/
def complaint (text : String) (fault : DirectiveFault) : String :=
  "ignoring " ++ Text.tick text ++ ": " ++ fault.message

/-- The texts between the commas. -/
def splitCommas : List Char → List (List Char)
  | [] => [[]]
  | c :: rest =>
    if c = ',' then [] :: splitCommas rest
    else
      match splitCommas rest with
      | [] => [[c]]
      | piece :: pieces => (c :: piece) :: pieces

/-- The texts between the commas that are not empty. -/
def pieces (text : String) : List String :=
  ((splitCommas text.toList).filter fun piece => !piece.isEmpty).map String.ofList

/-- The directives that can be read, and the complaints about the others. -/
def readPieces : List String → List Directive × List String
  | [] => ([], [])
  | piece :: rest =>
    let (directives, complaints) := readPieces rest
    match Directive.read piece with
    | .ok d => (d :: directives, complaints)
    | .error fault => (directives, complaint piece fault :: complaints)

/-- The filter that a text says, with the complaints; without any directive it
shows all records from a level on. -/
def read (level : Level) (text : String) : Filter × List String :=
  let (directives, complaints) := readPieces (pieces text)
  (if directives.isEmpty then ofLevel level else ⟨directives⟩, complaints)

end Filter
end Log
end SignedHooks
