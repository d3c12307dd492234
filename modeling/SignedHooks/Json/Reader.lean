/-
# Reading JSON

A value is read from the front of a list of characters, with what stands
behind it. Lists and objects nest to a bounded depth: a reader of one depth
is built from that of the depth below, and at the bottom a bracket is a
fault. The items of a list, and the members of an object, are read one after
another; each takes at least one character, so their number is bounded by the
length of the text.

The root must be an object. Any other value is read first, for the message
says which it is; of a list only the bracket is seen.

Key definitions: `Json.readValue`, `Json.readItems`, `Json.readMembers`,
`Json.readObject`.
-/
import SignedHooks.Json.Number
import SignedHooks.Json.Text

namespace SignedHooks
namespace Json

/-- A character that may stand between the parts of a text. -/
def isBlank (c : Char) : Bool :=
  c == ' ' || c == '\t' || c == '\n' || c == '\r'

/-- The characters without the blanks in front. -/
def skipBlank (cs : List Char) : List Char :=
  cs.dropWhile isBlank

/-- A reader of a value in front of a list. -/
abbrev ValueReader := List Char → Except Fault (Value × List Char)

/-- What stands behind a word, if it stands in front of the list. -/
def readWord : List Char → List Char → Except Fault (List Char)
  | [], rest => .ok rest
  | _ :: _, [] => .error (.atEnd .endInValue)
  | w :: ws, c :: rest =>
    if w = c then readWord ws rest else .error (.within .badWord (c :: rest))

/-- A value in front of a list, where `array` and `object` read what stands
behind an opening bracket and brace. -/
def readValueWith (array object : ValueReader) (cs : List Char) :
    Except Fault (Value × List Char) :=
  match skipBlank cs with
  | [] => .error (.atEnd .endInValue)
  | '"' :: rest => (readText rest).map fun p => (.text (String.ofList p.1), p.2)
  | '[' :: rest => array rest
  | '\x7b' :: rest => object rest
  | 'n' :: rest => (readWord ['u', 'l', 'l'] rest).map fun r => (.null, r)
  | 't' :: rest => (readWord ['r', 'u', 'e'] rest).map fun r => (.boolean true, r)
  | 'f' :: rest => (readWord ['a', 'l', 's', 'e'] rest).map fun r => (.boolean false, r)
  | '-' :: rest => (readNumber true rest).map fun p => (.number p.1, p.2)
  | c :: rest =>
    if c.isDigit then (readNumber false (c :: rest)).map fun p => (.number p.1, p.2)
    else .error (.within .noValue (c :: rest))

/-- The items of a list from the next one on, at most `n`. -/
def readItems (item : ValueReader) : Nat → List Char → Except Fault (List Value × List Char)
  | 0, _ => .error (.atEnd .endInList)
  | n + 1, cs => do
    let (value, behind) ← item cs
    match skipBlank behind with
    | [] => .error (.atEnd .endInList)
    | ']' :: rest => return ([value], rest)
    | ',' :: rest =>
      match skipBlank rest with
      | [] => .error (.atEnd .endInValue)
      | ']' :: after => .error (.within .trailingComma (']' :: after))
      | next => do
        let (values, end_) ← readItems item n next
        return (value :: values, end_)
    | other => .error (.within .noListSeparator other)

/-- The list behind an opening bracket. -/
def readArray (item : ValueReader) : ValueReader := fun cs =>
  match skipBlank cs with
  | [] => .error (.atEnd .endInList)
  | ']' :: rest => .ok (.array [], rest)
  | next => (readItems item next.length next).map fun p => (.array p.1, p.2)

/-- The member whose key begins behind an opening quote. -/
def readMember (item : ValueReader) (cs : List Char) :
    Except Fault ((String × Value) × List Char) := do
  let (key, behind) ← readText cs
  match skipBlank behind with
  | [] => .error (.atEnd .endInObject)
  | ':' :: rest => do
    let (value, after) ← item rest
    return ((String.ofList key, value), after)
  | other => .error (.within .noColon other)

/-- The members of an object from the next one on, at most `n`; the quote of
the next key is read. -/
def readMembers (item : ValueReader) :
    Nat → List Char → Except Fault (List (String × Value) × List Char)
  | 0, _ => .error (.atEnd .endInObject)
  | n + 1, cs => do
    let (m, behind) ← readMember item cs
    match skipBlank behind with
    | [] => .error (.atEnd .endInObject)
    | '\x7d' :: rest => return ([m], rest)
    | ',' :: rest =>
      match skipBlank rest with
      | [] => .error (.atEnd .endInValue)
      | '"' :: next => do
        let (ms, end_) ← readMembers item n next
        return (m :: ms, end_)
      | '\x7d' :: after => .error (.within .trailingComma ('\x7d' :: after))
      | other => .error (.within .keyNotText other)
    | other => .error (.within .noMemberSeparator other)

/-- The members of the object behind an opening brace. -/
def readObjectBody (item : ValueReader) (cs : List Char) :
    Except Fault (List (String × Value) × List Char) :=
  match skipBlank cs with
  | [] => .error (.atEnd .endInObject)
  | '\x7d' :: rest => .ok ([], rest)
  | '"' :: next => readMembers item (next.length + 1) next
  | other => .error (.within .keyNotText other)

/-- The object behind an opening brace, as a value. -/
def readObjectValue (item : ValueReader) : ValueReader := fun cs =>
  (readObjectBody item cs).map fun p => (.object (Object.ofMembers p.1), p.2)

/-- A bracket where none may be opened any more. -/
def refuseBracket (bracket : Char) : ValueReader := fun rest =>
  .error (.within .tooDeep (bracket :: rest))

/-- A value in which at most so many lists and objects are open at once. -/
def readValue : Nat → ValueReader
  | 0 => readValueWith (refuseBracket '[') (refuseBracket '\x7b')
  | depth + 1 => readValueWith (readArray (readValue depth)) (readObjectValue (readValue depth))

/-- How many lists and objects may be open at once. -/
def deepest : Nat := 127

/-- How a message names a value. -/
def Value.found : Value → Found
  | .null => .null
  | .boolean b => .boolean b
  | .number n => n.found
  | .text s => .text s
  | .array _ => .sequence
  | .object _ => .map

/-- The fault of a root that is no object. -/
def refuseRoot (cs : List Char) : Fault :=
  let notAnObject (found : Found) : Reason := .mismatch (.wrongType found "a map")
  let unopened : ValueReader := fun rest => .error (.before (notAnObject .sequence) ('[' :: rest))
  match readValueWith unopened unopened cs with
  | .ok (value, rest) => .before (notAnObject value.found) rest
  | .error fault => fault

/-- The object that a list of characters is, up to blanks around it. -/
def readRoot (cs : List Char) : Except Fault Object :=
  match skipBlank cs with
  | '\x7b' :: rest => do
    let (members, behind) ← readObjectBody (readValue (deepest - 1)) rest
    match skipBlank behind with
    | [] => return Object.ofMembers members
    | other => .error (.within .trailingText other)
  | other => .error (refuseRoot other)

/-- The object that a text is. -/
def readObject (text : String) : Except Error Object :=
  (readRoot text.toList).mapError (Fault.locate text.toList)

end Json
end SignedHooks
