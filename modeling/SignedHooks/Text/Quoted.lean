/-
# Quoted text

A text inside a message stands between double quotes, and what would not be
seen there is escaped: the quote, the backslash, tab, line feed, carriage
return and NUL by a letter, and any other character that prints nothing of
its own, or prints onto its neighbour, by its number.

Key definitions: `Text.escape`, `Text.quote`, `Text.tick`.
-/
import SignedHooks.Text.Unprintable

namespace SignedHooks
namespace Text

/-- The number of a character, as it is written in quoted text. -/
def numberEscape (c : Char) : List Char :=
  ['\\', 'u', '\x7b'] ++ Nat.toDigits 16 c.toNat ++ ['\x7d']

/-- A character as it is written in quoted text. -/
def escape (c : Char) : List Char :=
  if c == '"' then ['\\', '"']
  else if c == '\\' then ['\\', '\\']
  else if c == '\t' then ['\\', 't']
  else if c == '\n' then ['\\', 'n']
  else if c == '\r' then ['\\', 'r']
  else if c == '\x00' then ['\\', '0']
  else if ' ' ≤ c && c ≤ '~' then [c]
  else if isHidden c then numberEscape c
  else [c]

/-- The escaped form of a list of characters. -/
def escapeList (cs : List Char) : List Char :=
  cs.flatMap escape

/-- A text between quotes, with what cannot be seen in it escaped. -/
def quote (s : String) : String :=
  String.ofList (['"'] ++ escapeList s.toList ++ ['"'])

/-- A word of a message that stands for itself, between backquotes. -/
def tick (s : String) : String :=
  "`" ++ s ++ "`"

end Text
end SignedHooks
