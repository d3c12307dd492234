/-
# Excerpts of a document

To show a place of a document is to quote the line in which it starts, with
its number, and to mark the place below: from its column on, as far as the
place or the line goes, and at least one mark.

Key definitions: `Toml.Excerpt`, `Toml.Excerpt.ofSpan`, `Toml.Excerpt.render`.
-/
import SignedHooks.Json.Fault
import SignedHooks.Toml.Node

namespace SignedHooks
namespace Toml

/-- A line of a document with a place in it. -/
structure Excerpt where
  /-- The number of the line, counted from one. -/
  line : Nat
  /-- The characters in front of the place. -/
  indent : Nat
  /-- The text of the line. -/
  text : List Char
  /-- How many marks stand below the place. -/
  marks : Nat
  deriving DecidableEq, Repr

namespace Excerpt

/-- The characters of a list behind its last line feed. -/
def lastLine (cs : List Char) : List Char :=
  (cs.reverse.takeWhile (· ≠ '\n')).reverse

/-- The excerpt of a place. -/
def ofSpan (document : List Char) (span : Span) : Excerpt :=
  let front := document.take (document.length - span.start)
  let back := document.drop (document.length - span.start)
  let indent := lastLine front
  let text := indent ++ back.takeWhile (· ≠ '\n')
  let place := back.take (span.start - span.stop)
  ⟨front.count '\n' + 1, indent.length, text,
    max 1 (min (Json.byteLength place) (Json.byteLength text - indent.length))⟩

/-- So many spaces. -/
def spaces (n : Nat) : String :=
  String.ofList (List.replicate n ' ')

/-- The excerpt as it is shown. -/
def render (e : Excerpt) : String :=
  let number := toString e.line
  let gutter := spaces (number.length + 1) ++ "|"
  gutter ++ "\n" ++ number ++ " | " ++ String.ofList e.text ++ "\n" ++
    gutter ++ spaces (e.indent + 1) ++ String.ofList (List.replicate e.marks '^') ++ "\n"

end Excerpt
end Toml
end SignedHooks
