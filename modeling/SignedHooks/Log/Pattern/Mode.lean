/-
# How a pattern is read

The letters between a parenthesis and a colon, or another parenthesis, change
how the rest of a group is read. Three of them matter for the form of a
pattern: whether the case of letters counts, whether characters are meant or
bytes, and whether blank space and remarks stand between the signs.

Key definitions: `Log.Mode`, `Log.Mode.skipGap`, `Log.Mode.readLetters`.
-/
import SignedHooks.Text.Blank

namespace SignedHooks
namespace Log

/-- How a part of a pattern is read. -/
structure Mode where
  /-- The case of letters does not count. -/
  caseless : Bool
  /-- Characters are meant, not bytes. -/
  unicode : Bool
  /-- Blank space and remarks may stand between the signs. -/
  spaced : Bool
  deriving DecidableEq, Repr

namespace Mode

/-- How a pattern is read at its beginning. -/
def default : Mode := ⟨false, true, false⟩

/-- The characters without the blank space and the remarks in front, of which
the first is a remark that goes on if `remark` is true. -/
def skipRemarks (remark : Bool) : List Char → List Char
  | [] => []
  | c :: rest =>
    if remark then skipRemarks (c ≠ '\n') rest
    else if Text.isBlank c then skipRemarks false rest
    else if c = '#' then skipRemarks true rest
    else c :: rest

/-- The characters without what may stand between the signs. -/
def skipGap (m : Mode) (cs : List Char) : List Char :=
  if m.spaced then skipRemarks false cs else cs

/-- The mode after a letter, which is switched on or off. -/
def switch (m : Mode) (letter : Char) (on : Bool) : Mode :=
  if letter = 'i' then { m with caseless := on }
  else if letter = 'u' then { m with unicode := on }
  else if letter = 'x' then { m with spaced := on }
  else m

/-- The letters that may be switched. -/
def letters : List Char :=
  ['i', 'm', 's', 'U', 'u', 'R', 'x']

/-- The letters up to their colon or parenthesis, of which those in `seen`
came before: the mode after them, the sign that ended them, and what stands
behind it. A hyphen switches off what follows, and something must. -/
def readLetters (m : Mode) (seen : List Char) (off dangling : Bool) :
    List Char → Option (Mode × Char × List Char)
  | [] => none
  | c :: rest =>
    if c = ':' then if dangling then none else some (m, c, rest)
    else if c = ')' then if dangling || seen.isEmpty then none else some (m, c, rest)
    else if c = '-' then if off then none else readLetters m seen true true rest
    else if letters.contains c && !seen.contains c then
      readLetters (m.switch c !off) (c :: seen) off false rest
    else none

end Mode
end Log
end SignedHooks
