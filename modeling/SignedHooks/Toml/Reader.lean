/-
# Reading TOML

A document is a sequence of lines: a header in brackets, or a key with its
value, and space and comments in between. A value is read from the front of a
list of characters, with what stands behind it. Lists and tables in braces
nest to a bounded depth: a reader of one depth is built from that of the depth
below, and at the bottom there are none. Their parts may stand on several
lines and end with a comma. A key has a bounded number of parts.

Key definitions: `Toml.readKey`, `Toml.readValue`, `Toml.readStatement`,
`Toml.readDocument`.
-/
import SignedHooks.Toml.Moment
import SignedHooks.Toml.Number
import SignedHooks.Toml.Table
import SignedHooks.Toml.Text

namespace SignedHooks
namespace Toml

/-- A character of a bare key. -/
def isBare (c : Char) : Bool :=
  c.isAlphanum || c == '_' || c == '-'

/-- The part of a key in front of a list. -/
def readKeyPart (cs : List Char) : Option (Key × List Char) :=
  match readLineText? cs with
  | some quoted => quoted.map fun p => (⟨String.ofList p.1, .between cs p.2⟩, p.2)
  | none =>
    let rest := cs.dropWhile isBare
    let name := cs.takeWhile isBare
    if name.isEmpty then none else some (⟨String.ofList name, .between cs rest⟩, rest)

/-- At most `n` parts of a key, with dots between them: the path, the last
part, and what stands behind the space behind it. -/
def readKeyUpTo : Nat → List Char → Option (List Key × Key × List Char)
  | 0, _ => none
  | n + 1, cs => do
    let (part, rest) ← readKeyPart cs
    match skipSpace rest with
    | '.' :: next =>
      let (path, key, behind) ← readKeyUpTo n (skipSpace next)
      return (part :: path, key, behind)
    | behind => return ([], part, behind)

/-- The most parts of a key. -/
def mostParts : Nat := 80

/-- A key in front of a list. -/
def readKey (cs : List Char) : Option (List Key × Key × List Char) :=
  readKeyUpTo mostParts cs

/-- A character of a word: one that says nothing between words. -/
def isWordChar (c : Char) : Bool :=
  !"=,[]\x7b\x7d#\r\n".toList.contains c && !isSpace c

/-- The word goes on behind the space in front, as that of a date does with a
time: more characters of words follow, and no text. -/
def goesOn (cs : List Char) : Bool :=
  match skipSpace cs with
  | [] => false
  | c :: _ => isWordChar c && c != '"' && c != '\''

/-- The word in front of a list, with the space within it, and what stands
behind it. -/
def splitWord : List Char → List Char × List Char
  | [] => ([], [])
  | c :: rest =>
    if isWordChar c || (isSpace c && goesOn rest) then
      let (word, behind) := splitWord rest
      (c :: word, behind)
    else ([], c :: rest)

/-- What a word says. -/
def word? (word : List Char) : Option Node :=
  if word = "true".toList then some (.boolean true)
  else if word = "false".toList then some (.boolean false)
  else
    match integer? word with
    | some node => some node
    | none =>
      match floating? word with
      | some x => some (.floating x)
      | none => if isMoment word then some .moment else none

/-- A reader of a value in front of a list. -/
abbrev ValueReader := List Char → Option (Node × List Char)

/-- A value with its place. -/
def placed (value : ValueReader) (cs : List Char) : Option ((Span × Node) × List Char) :=
  (value cs).map fun p => ((.between cs p.2, p.1), p.2)

/-- The key with its value in front of a list: the path, the key and the value.
What `skip` skips may stand around the sign between them. -/
def readEntry (skip : List Char → List Char) (value : ValueReader) (cs : List Char) :
    Option ((List Key × Key × (Span × Node)) × List Char) := do
  let (path, key, rest) ← readKey cs
  let behind ← behind? '=' (skip rest)
  let (node, after) ← placed value (skip behind)
  return ((path, key, node), after)

/-- At most `n` items of a list, up to its bracket. -/
def readItems (value : ValueReader) : Nat → List Char → Option (List (Span × Node) × List Char)
  | 0, _ => none
  | _ + 1, ']' :: rest => some ([], rest)
  | n + 1, cs => do
    let (item, rest) ← placed value cs
    match skipLines rest with
    | ',' :: next =>
      let (items, behind) ← readItems value n (skipLines next)
      return (item :: items, behind)
    | ']' :: behind => return ([item], behind)
    | _ => none

/-- At most `n` entries of a table in braces, up to its brace, where `entries`
came before. -/
def readEntries (value : ValueReader) : Nat → Entries → List Char → Option (Entries × List Char)
  | 0, _, _ => none
  | _ + 1, entries, '\x7d' :: rest => some (entries, rest)
  | n + 1, entries, cs => do
    let ((path, key, node), rest) ← readEntry skipLines value cs
    let more ← assign path key node .inline entries
    match skipLines rest with
    | ',' :: next => readEntries value n more (skipLines next)
    | '\x7d' :: behind => return (more, behind)
    | _ => none

/-- The deepest nesting of lists and tables in braces. -/
def deepest : Nat := 80

/-- A value whose lists and tables in braces nest at most so deep. -/
def readValueUpTo : Nat → ValueReader
  | depth, cs =>
    match readText? cs with
    | some text => text.map fun p => (.text (String.ofList p.1), p.2)
    | none =>
      match cs, depth with
      | '[' :: _, 0 => none
      | '\x7b' :: _, 0 => none
      | '[' :: rest, below + 1 =>
        (readItems (readValueUpTo below) (rest.length + 1) (skipLines rest)).map fun p =>
          (.array p.1, p.2)
      | '\x7b' :: rest, below + 1 =>
        (readEntries (readValueUpTo below) (rest.length + 1) [] (skipLines rest)).map fun p =>
          (.table .inline p.1, p.2)
      | other, _ =>
        let (word, rest) := splitWord other
        (word? word).map fun node => (node, rest)

/-- A value in front of a list. -/
def readValue : ValueReader :=
  readValueUpTo deepest

/-- What a line says. -/
inductive Statement where
  /-- A table begins. -/
  | table (path : List Key) (key : Key) (header : Span)
  /-- A table of a list begins. -/
  | item (path : List Key) (key : Key) (header : Span)
  /-- A name has a value. -/
  | entry (path : List Key) (key : Key) (value : Span × Node)

/-- What the line in front says, up to its end. -/
def readStatement (cs : List Char) : Option (Statement × List Char) :=
  match cs with
  | '[' :: '[' :: rest => do
    let (path, key, behind) ← readKey (skipSpace rest)
    let after ← behind? ']' (← behind? ']' behind)
    return (.item path key (.between cs after), after)
  | '[' :: rest => do
    let (path, key, behind) ← readKey (skipSpace rest)
    let after ← behind? ']' behind
    return (.table path key (.between cs after), after)
  | _ => do
    let ((path, key, value), after) ← readEntry skipSpace readValue cs
    return (.entry path key value, after)

/-- What at most `n` lines say. -/
def readStatements : Nat → List Char → Option (List Statement)
  | 0, _ => none
  | n + 1, cs =>
    match skipLines cs with
    | [] => some []
    | line => do
      let (statement, rest) ← readStatement line
      let statements ← readStatements n (← endLine? rest)
      return statement :: statements

/-- The root after some statements, and the path of the table that the entries
go into. -/
def build : List Statement → List Key → Entries → Option Entries
  | [], _, root => some root
  | .table path key header :: rest, _, root => do
    build rest (path ++ [key]) (← openTable path key header .header root)
  | .item path key header :: rest, _, root => do
    build rest (path ++ [key]) (← openItem path key header .header root)
  | .entry path key value :: rest, current, root => do
    build rest current (← within .toHeader (assign path key value) current .header root)

/-- The mark that may stand in front of a document. -/
def byteOrderMark : Char := Char.ofNat 0xFEFF

/-- The entries of the root of a document. -/
def readDocument (cs : List Char) : Option Entries := do
  let document := if cs.head? == some byteOrderMark then cs.drop 1 else cs
  let statements ← readStatements (document.length + 1) document
  build statements [] []

end Toml
end SignedHooks
