/-
# Characters of a pattern

A character of a pattern stands for itself, or a backslash stands before it: a
sign is then a plain character, a letter a control character, a family of
characters, or a place between characters, and digits in base sixteen the
character with that number. In brackets stands a class: characters, ranges of
them, named families and classes again, which may be intersected or taken from
each other.

Nothing is known here about the characters beyond ASCII, so the families and
the case of letters have no meaning where characters are meant, and a pattern
with them is refused. Where bytes are meant, a class must hold ASCII only.

Key definitions: `Log.Atom`, `Log.readEscape`, `Log.openClass`, `Log.readMembers`.
-/
import SignedHooks.Digest.Hex
import SignedHooks.Log.Pattern.Mode

namespace SignedHooks
namespace Log

/-- What a character with or without a backslash stands for. -/
inductive Atom where
  /-- A character, which may be written as a byte. -/
  | character (c : Char) (byte : Bool)
  /-- A family of characters, or all others. -/
  | family (negated : Bool)
  /-- The edge of a word. -/
  | wordEdge
  /-- An edge of the text. -/
  | textEdge
  deriving DecidableEq, Repr

/-- The number of so many digits, where `n` came before. -/
def readDigits (m : Mode) : Nat → Nat → List Char → Option (Nat × List Char)
  | 0, n, cs => some (n, m.skipGap cs)
  | width + 1, n, cs =>
    match m.skipGap cs with
    | [] => none
    | c :: rest => (Hex.digitValue? c).bind fun d => readDigits m width (16 * n + d) rest

/-- The character whose number has so many digits. -/
def readNumbered (m : Mode) (width : Nat) (cs : List Char) : Option (Atom × List Char) := do
  let (n, rest) ← readDigits m width 0 cs
  if n.isValidChar then some (.character (Char.ofNat n) (width == 2), rest) else none

/-- A sign that stands for itself behind a backslash. -/
def isSign (c : Char) : Bool :=
  c.toNat < 0x80 && !c.isAlphanum && c != '<' && c != '>'

/-- The control characters that letters stand for. -/
def controls : List (Char × Char) :=
  [('a', '\x07'), ('f', '\x0c'), ('t', '\t'), ('n', '\n'), ('r', '\r'), ('v', '\x0b')]

/-- What stands behind a backslash. -/
def readEscape (m : Mode) : List Char → Option (Atom × List Char)
  | [] => none
  | 'x' :: rest => readNumbered m 2 rest
  | 'u' :: rest => readNumbered m 4 rest
  | 'U' :: rest => readNumbered m 8 rest
  | c :: rest =>
    if "dsw".toList.contains c then some (.family false, rest)
    else if "DSW".toList.contains c then some (.family true, rest)
    else if "bB<>".toList.contains c then some (.wordEdge, rest)
    else if "Az".toList.contains c then some (.textEdge, rest)
    else if isSign c then some (.character c false, rest)
    else (controls.find? fun p => p.1 == c).map fun p => (.character p.2 false, rest)

/-- The atom in front of a list. -/
def readAtom (m : Mode) : List Char → Option (Atom × List Char)
  | [] => none
  | '\\' :: rest => readEscape m rest
  | c :: rest => some (.character c false, rest)

/-- A character may stand in a class. -/
def Mode.holds (m : Mode) (c : Char) : Bool :=
  if m.unicode then !m.caseless else c.toNat < 0x80

/-- An atom may stand in a class. -/
def Mode.admits (m : Mode) : Atom → Bool
  | .character c _ => m.holds c
  | .family negated => !m.unicode && !negated
  | .wordEdge => false
  | .textEdge => false

/-- What stands behind a member of a class: an atom, or two with a hyphen
between them. -/
def readMember (m : Mode) (cs : List Char) : Option (List Char) := do
  let (first, rest) ← readAtom m cs
  let behind := m.skipGap rest
  let alone := if m.admits first then some behind else none
  match behind with
  | '-' :: more =>
    match m.skipGap more with
    | ']' :: _ => alone
    | '-' :: _ => alone
    | next => do
      let (last, after) ← readAtom m next
      match first, last with
      | .character a _, .character b _ =>
        if a ≤ b && m.holds a && m.holds b then some after else none
      | _, _ => none
  | _ => alone

/-- The families of ASCII characters that have names. -/
def families : List String :=
  ["alnum", "alpha", "ascii", "blank", "cntrl", "digit", "graph", "lower", "print", "punct",
   "space", "upper", "word", "xdigit"]

/-- A named family behind its bracket: whether all others are meant, and what
stands behind it. -/
def readFamily? : List Char → Option (Bool × List Char)
  | ':' :: rest =>
    let negated := rest.head? == some '^'
    let named := if negated then rest.drop 1 else rest
    match named.dropWhile (· ≠ ':') with
    | ':' :: ']' :: after =>
      if families.contains (String.ofList (named.takeWhile (· ≠ ':'))) then some (negated, after)
      else none
    | _ => none
  | _ => none

/-- A named family may stand in a class. -/
def Mode.admitsFamily (m : Mode) (negated : Bool) : Bool :=
  if m.unicode then !m.caseless else !negated

/-- At most `n` hyphens in front: how many, and what stands behind them. -/
def skipHyphens (m : Mode) : Nat → List Char → Nat × List Char
  | n + 1, '-' :: rest =>
    let (count, behind) := skipHyphens m n (m.skipGap rest)
    (count + 1, behind)
  | _, cs => (0, cs)

/-- A class behind its bracket: how many characters stand for themselves
because they come first, and what stands behind them. -/
def openClass (m : Mode) (cs : List Char) : Option (Nat × List Char) :=
  let front := m.skipGap cs
  let negated := front.head? == some '^'
  let inside := if negated then m.skipGap (front.drop 1) else front
  let (hyphens, behind) := skipHyphens m inside.length inside
  let (count, rest) :=
    match hyphens, behind with
    | 0, ']' :: rest => (1, m.skipGap rest)
    | _, _ => (hyphens, behind)
  if (negated && !m.unicode) || (count ≠ 0 && !m.holds '-') then none else some (count, rest)

/-- How deep members nest, of which each nests so deep. -/
def rowDepth : List Nat → Nat
  | [] => 0
  | [depth] => depth
  | depths => depths.foldl max 0 + 1

/-- How deep two sides of an operation nest, if there is a left one. -/
def joinedDepth (left : Option Nat) (members : List Nat) : Nat :=
  match left with
  | none => rowDepth members
  | some depth => max depth (rowDepth members) + 1

/-- At most `n` members of a class up to its bracket: how deep they nest, and
what stands behind them. `left` is the depth of what an operation is about,
and `members` are those of the members in front. -/
def readMembers (m : Mode) : Nat → Option Nat → List Nat → List Char → Option (Nat × List Char)
  | 0, _, _, _ => none
  | n + 1, left, members, cs =>
    match m.skipGap cs with
    | [] => none
    | ']' :: rest => some (joinedDepth left members, rest)
    | '[' :: rest =>
      match readFamily? rest with
      | some (negated, after) =>
        if m.admitsFamily negated then readMembers m n left (0 :: members) after else none
      | none => do
        let (count, inside) ← openClass m rest
        let (depth, after) ← readMembers m n none (List.replicate count 0) inside
        readMembers m n left ((depth + 1) :: members) after
    | '&' :: '&' :: rest => readMembers m n (some (joinedDepth left members)) [] rest
    | '-' :: '-' :: rest => readMembers m n (some (joinedDepth left members)) [] rest
    | '~' :: '~' :: rest => readMembers m n (some (joinedDepth left members)) [] rest
    | other => do
      let after ← readMember m other
      readMembers m n left (0 :: members) after

/-- A class behind its bracket: how deep it nests, and what stands behind it. -/
def readClass (m : Mode) (cs : List Char) : Option (Nat × List Char) := do
  let (count, inside) ← openClass m cs
  let (depth, after) ← readMembers m (cs.length + 1) none (List.replicate count 0) inside
  return (depth + 1, after)

end Log
end SignedHooks
