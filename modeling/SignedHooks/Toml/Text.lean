/-
# Texts in TOML

A text stands between double quotes, where a backslash begins an escape, or
between single quotes, where everything stands for itself. Between three
quotes it may go over several lines: a line end right behind the opening is
dropped, and so is, in front of the next word, a line end behind a backslash.
One or two quotes may stand right before the closing ones.

Key definitions: `Toml.readEscape`, `Toml.readLiteral`, `Toml.readBasic`,
`Toml.readBlock`, `Toml.readText?`.
-/
import SignedHooks.Digest.Hex
import SignedHooks.Toml.Blank

namespace SignedHooks
namespace Toml

/-- The single quote. -/
def apostrophe : Char := '\x27'

/-- A number that is a character. -/
def isScalarValue (n : Nat) : Bool :=
  n < 0xD800 || (0xDFFF < n && n < 0x110000)

/-- The number that some hexadecimal digits spell. -/
def ofHexDigits (cs : List Char) : Option Nat :=
  cs.foldlM (fun n c => (Hex.digitValue? c).map fun d => 16 * n + d) 0

/-- The character whose number has exactly `width` hexadecimal digits. -/
def readNumbered (width : Nat) (cs : List Char) : Option (Char × List Char) := do
  let n ← ofHexDigits (cs.take width)
  if width ≤ cs.length && isScalarValue n then some (Char.ofNat n, cs.drop width) else none

/-- The character that an escape stands for, behind its backslash. -/
def readEscape : List Char → Option (Char × List Char)
  | 'b' :: rest => some ('\x08', rest)
  | 't' :: rest => some ('\t', rest)
  | 'n' :: rest => some ('\n', rest)
  | 'f' :: rest => some ('\x0c', rest)
  | 'r' :: rest => some ('\r', rest)
  | 'e' :: rest => some ('\x1b', rest)
  | '"' :: rest => some ('"', rest)
  | '\\' :: rest => some ('\\', rest)
  | 'x' :: rest => readNumbered 2 rest
  | 'u' :: rest => readNumbered 4 rest
  | 'U' :: rest => readNumbered 8 rest
  | _ => none

/-- The text up to a single quote. -/
def readLiteral : List Char → Option (List Char × List Char)
  | [] => none
  | c :: rest =>
    if c = apostrophe then some ([], rest)
    else if isPlain c then (readLiteral rest).map fun p => (c :: p.1, p.2)
    else none

/-- The text of at most `n` characters up to a double quote. -/
def readBasicUpTo : Nat → List Char → Option (List Char × List Char)
  | 0, _ => none
  | _ + 1, [] => none
  | _ + 1, '"' :: rest => some ([], rest)
  | n + 1, '\\' :: rest => do
    let (c, after) ← readEscape rest
    let (text, behind) ← readBasicUpTo n after
    return (c :: text, behind)
  | n + 1, c :: rest =>
    if isPlain c then (readBasicUpTo n rest).map fun p => (c :: p.1, p.2) else none

/-- The text up to a double quote. -/
def readBasic (cs : List Char) : Option (List Char × List Char) :=
  readBasicUpTo (cs.length + 1) cs

/-- What stands behind space and line ends. -/
def skipFold : List Char → List Char
  | [] => []
  | '\r' :: '\n' :: rest => skipFold rest
  | c :: rest => if isSpace c || c = '\n' then skipFold rest else c :: rest

/-- What stands behind a fold, of which the backslash is read: space up to the
end of the line, and all space and line ends behind it. -/
def fold? (cs : List Char) : Option (List Char) :=
  (newline? (skipSpace cs)).map skipFold

/-- The most quotes that may close a text over several lines: two that belong
to it, and the three that close it. -/
def closingQuotes : Nat := 5

/-- The text of at most `n` characters up to three quotes. -/
def readBlockUpTo (quote : Char) (escapes : Bool) : Nat → List Char → Option (List Char × List Char)
  | 0, _ => none
  | n + 1, cs =>
    let quotes := min (cs.takeWhile (· = quote)).length closingQuotes
    if 3 ≤ quotes then some (List.replicate (quotes - 3) quote, cs.drop quotes)
    else
      match cs with
      | [] => none
      | '\n' :: rest => (readBlockUpTo quote escapes n rest).map fun p => ('\n' :: p.1, p.2)
      | '\r' :: '\n' :: rest =>
        (readBlockUpTo quote escapes n rest).map fun p => ('\r' :: '\n' :: p.1, p.2)
      | c :: rest =>
        if escapes && c = '\\' then
          match fold? rest with
          | some after => readBlockUpTo quote escapes n after
          | none => do
            let (e, after) ← readEscape rest
            let (text, behind) ← readBlockUpTo quote escapes n after
            return (e :: text, behind)
        else if isPlain c then
          (readBlockUpTo quote escapes n rest).map fun p => (c :: p.1, p.2)
        else none

/-- The text between three quotes, behind the opening ones. -/
def readBlock (quote : Char) (escapes : Bool) (cs : List Char) : Option (List Char × List Char) :=
  let inside := (newline? cs).getD cs
  readBlockUpTo quote escapes (inside.length + 1) inside

/-- The text on one line that begins with a quote, if one does. -/
def readLineText? (cs : List Char) : Option (Option (List Char × List Char)) :=
  match cs with
  | '"' :: rest => some (readBasic rest)
  | '\x27' :: rest => some (readLiteral rest)
  | _ => none

/-- The text that begins with a quote, if one does. -/
def readText? (cs : List Char) : Option (Option (List Char × List Char)) :=
  match cs with
  | '"' :: '"' :: '"' :: rest => some (readBlock '"' true rest)
  | '\x27' :: '\x27' :: '\x27' :: rest => some (readBlock apostrophe false rest)
  | other => readLineText? other

end Toml
end SignedHooks
