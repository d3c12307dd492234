/-
# Patterns

A directive of a log filter may ask for a value that matches a pattern, which
is a regular expression. No record is shown or hidden by one, as they are
about spans of work; but one that is not well formed is refused with its
directive, so that is what is decided here.

Of what was read only that is kept on which the form depends: how deep it
nests, the names of its groups, which must differ, and whether it asks for the
edges of words where characters are meant, which cannot be done in one pass
over the bytes.

Key definitions: `Log.Shape`, `Log.readRow`, `Log.PatternFault`, `Log.checkPattern`.
-/
import SignedHooks.Log.Pattern.Class
import SignedHooks.Text.Alphanumeric

namespace SignedHooks
namespace Log

/-- What is known of a part of a pattern. -/
structure Shape where
  /-- How deep it nests. -/
  depth : Nat
  /-- The names of its groups. -/
  names : List String
  /-- It asks for the edge of a word between characters. -/
  asksWordEdge : Bool
  /-- It only says how to read the rest, and cannot be repeated. -/
  isSetting : Bool
  deriving DecidableEq, Repr

namespace Shape

/-- A part without parts. -/
def single : Shape := ⟨0, [], false, false⟩

/-- A change of the mode. -/
def setting : Shape := ⟨0, [], false, true⟩

/-- The edge of a word. -/
def wordEdge (m : Mode) : Shape := ⟨0, [], m.unicode, false⟩

/-- A class of some depth. -/
def ofClass (depth : Nat) : Shape := ⟨depth, [], false, false⟩

/-- Some parts together, nested as deep as given. -/
def merge (depth : Nat) (parts : List Shape) : Shape :=
  ⟨depth, parts.flatMap (·.names), parts.any (·.asksWordEdge), false⟩

/-- Parts behind each other, given the last first. -/
def row (parts : List Shape) : Shape :=
  merge (rowDepth (parts.map (·.depth))) parts

/-- Parts of which one is chosen. -/
def choice (branches : List Shape) : Shape :=
  merge (rowDepth (branches.map (·.depth))) branches

/-- A part that is repeated. -/
def many (part : Shape) : Shape :=
  merge (part.depth + 1) [part]

/-- A group, which may have a name. -/
def group (name : Option String) (part : Shape) : Shape :=
  { merge (part.depth + 1) [part] with names := name.toList ++ part.names }

end Shape

/-- What stands behind a parenthesis. -/
inductive Opening where
  /-- Letters that say how to read the rest. -/
  | setting (m : Mode)
  /-- The inside of a group. -/
  | group (name : Option String) (m : Mode)
  deriving DecidableEq, Repr

/-- A character that may begin the name of a group. -/
def isNameStart (c : Char) : Bool :=
  c == '_' || Text.isAlphabetic c

/-- A character that may stand in the name of a group. -/
def isNameChar (c : Char) : Bool :=
  "_.[]".toList.contains c || Text.isAlphanumeric c

/-- A group whose name stands in front, up to its bracket. -/
def readNamed (m : Mode) (cs : List Char) : Option (Opening × List Char) :=
  let name := cs.takeWhile (· ≠ '>')
  match cs.dropWhile (· ≠ '>') with
  | [] => none
  | _ :: rest =>
    if name.head?.any isNameStart && (name.drop 1).all isNameChar then
      some (.group (some (String.ofList name)) m, rest)
    else none

/-- What stands behind a parenthesis. Looking ahead or back is not known. -/
def openGroup (m : Mode) (cs : List Char) : Option (Opening × List Char) :=
  match m.skipGap cs with
  | '?' :: 'P' :: '<' :: rest => readNamed m rest
  | '?' :: '<' :: rest => readNamed m rest
  | '?' :: rest => do
    let (inner, sign, after) ← m.readLetters [] false false rest
    return (if sign = ')' then .setting inner else .group none inner, after)
  | rest => some (.group none m, rest)

/-- A sign that repeats what stands before it. -/
def isRepetition (c : Char) : Bool :=
  c == '?' || c == '*' || c == '+'

/-- What stands behind a question mark, if one stands in front. -/
def dropLazy (cs : List Char) : List Char :=
  if cs.head? == some '?' then cs.drop 1 else cs

/-- A part that is one atom. -/
def readSingle (m : Mode) : List Char → Option (Shape × List Char)
  | '.' :: rest => if m.unicode then some (.single, rest) else none
  | '^' :: rest => some (.single, rest)
  | '$' :: rest => some (.single, rest)
  | cs => do
    let (atom, rest) ← readAtom m cs
    match atom with
    | .wordEdge => some (.wordEdge m, rest)
    | .textEdge => some (.single, rest)
    | .family negated => if m.unicode || negated then none else some (.single, rest)
    | .character c byte =>
      let refused := if m.unicode then m.caseless else byte && 0x80 ≤ c.toNat
      if refused then none else some (.single, rest)

/-- At most `n` signs of a pattern, up to the parenthesis that closes its group
or to the end. The parts in front are given last first, and so are the
branches before the last bar. -/
def readRow : Nat → Mode → List Shape → List Shape → List Char → Option (Shape × List Char)
  | 0, _, _, _, _ => none
  | n + 1, m, branches, parts, cs =>
    match m.skipGap cs with
    | [] => some (.choice (.row parts :: branches), [])
    | ')' :: rest => some (.choice (.row parts :: branches), ')' :: rest)
    | '|' :: rest => readRow n m (.row parts :: branches) [] rest
    | '(' :: rest => do
      let (opening, inside) ← openGroup m rest
      match opening with
      | .setting after => readRow n after branches (.setting :: parts) inside
      | .group name inner =>
        match ← readRow n inner [] [] inside with
        | (part, ')' :: behind) => readRow n m branches (.group name part :: parts) behind
        | _ => none
    | '[' :: rest => do
      let (depth, after) ← readClass m rest
      readRow n m branches (.ofClass depth :: parts) after
    | '\x7b' :: _ => none
    | c :: rest =>
      if isRepetition c then
        match parts with
        | [] => none
        | last :: before =>
          if last.isSetting then none
          else readRow n m branches (.many last :: before) (dropLazy rest)
      else do
        let (part, after) ← readSingle m (c :: rest)
        readRow n m branches (part :: parts) after

/-- Why a pattern is refused. -/
inductive PatternFault where
  /-- It is not well formed. -/
  | malformed
  /-- It asks for the edge of a word between characters. -/
  | wordEdge
  deriving DecidableEq, Repr

/-- The wording of a fault. -/
def PatternFault.message : PatternFault → String
  | .malformed => "error building NFA"
  | .wordEdge =>
    "unsupported regex feature for DFAs: cannot build DFAs for regexes with Unicode word " ++
      "boundaries; switch to ASCII word boundaries, or heuristically enable Unicode word " ++
      "boundaries or use a different regex engine"

/-- The deepest nesting of a pattern. -/
def deepestPattern : Nat := 250

/-- A pattern is well formed. -/
def checkPattern (cs : List Char) : Except PatternFault Unit :=
  match readRow (cs.length + 1) .default [] [] cs with
  | some (shape, []) =>
    if deepestPattern < shape.depth || shape.names.eraseDups ≠ shape.names then .error .malformed
    else if shape.asksWordEdge then .error .wordEdge
    else .ok ()
  | _ => .error .malformed

end Log
end SignedHooks
