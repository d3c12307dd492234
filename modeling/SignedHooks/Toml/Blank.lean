/-
# Space, comments and line ends in TOML

Spaces and tabs may stand between the parts of a line. A line ends with a line
feed, which a carriage return may precede, and may have a comment at its end.
Comments and texts hold tabs and every character but the control characters.

Key definitions: `Toml.skipSpace`, `Toml.isPlain`, `Toml.newline?`, `Toml.skipComment`,
`Toml.endLine?`, `Toml.skipLines`.
-/

namespace SignedHooks
namespace Toml

/-- A character that may stand between the parts of a line. -/
def isSpace (c : Char) : Bool :=
  c == ' ' || c == '\t'

/-- The characters without the spaces in front. -/
def skipSpace (cs : List Char) : List Char :=
  cs.dropWhile isSpace

/-- A character that may stand in a comment or a text. -/
def isPlain (c : Char) : Bool :=
  c == '\t' || (' ' ≤ c && c ≤ '~') || 0x80 ≤ c.toNat

/-- What stands behind a line end, if one stands in front. -/
def newline? : List Char → Option (List Char)
  | '\n' :: rest => some rest
  | '\r' :: '\n' :: rest => some rest
  | _ => none

/-- What stands behind a comment, if one stands in front. -/
def skipComment : List Char → List Char
  | '#' :: rest => rest.dropWhile isPlain
  | cs => cs

/-- What stands behind the end of a line that says nothing more. -/
def endLine? (cs : List Char) : Option (List Char) :=
  match skipComment (skipSpace cs) with
  | [] => some []
  | rest => newline? rest

/-- What stands behind at most `n` line ends, with the space and the comments
before them. -/
def skipLinesUpTo : Nat → List Char → List Char
  | 0, cs => cs
  | n + 1, cs =>
    let rest := skipComment (skipSpace cs)
    match newline? rest with
    | some next => skipLinesUpTo n next
    | none => rest

/-- What stands behind space, comments and line ends. -/
def skipLines (cs : List Char) : List Char :=
  skipLinesUpTo (cs.length + 1) cs

end Toml
end SignedHooks
