/-
# Texts in JSON

A text stands between double quotes. A backslash begins an escape: a letter
for a control character, the quote or a slash, or four hexadecimal digits of
a UTF-16 unit; two units that are a pair of surrogates are one character, and
half a pair is none. A control character must not stand in a text itself.

Writing escapes the quote, the backslash and the control characters only.

Key definitions: `Json.readText`, `Json.writeText`.
Key theorems: `Json.readText_quote`.
-/
import SignedHooks.Digest.Hex
import SignedHooks.Json.Fault

namespace SignedHooks
namespace Json

/-- The character that a letter behind a backslash stands for. -/
def letterEscape? (c : Char) : Option Char :=
  if c = '"' then some '"'
  else if c = '\\' then some '\\'
  else if c = '/' then some '/'
  else if c = 'b' then some '\x08'
  else if c = 'f' then some '\x0c'
  else if c = 'n' then some '\n'
  else if c = 'r' then some '\r'
  else if c = 't' then some '\t'
  else none

/-- The UTF-16 unit that four digits spell. -/
def unit? (a b c d : Char) : Option Nat := do
  let a ← Hex.digitValue? a
  let b ← Hex.digitValue? b
  let c ← Hex.digitValue? c
  let d ← Hex.digitValue? d
  return ((a * 16 + b) * 16 + c) * 16 + d

/-- A unit that is the first half of a pair. -/
def isHighHalf (n : Nat) : Bool :=
  0xD800 ≤ n && n ≤ 0xDBFF

/-- A unit that is the second half of a pair. -/
def isLowHalf (n : Nat) : Bool :=
  0xDC00 ≤ n && n ≤ 0xDFFF

/-- The character of a pair of units. -/
def pairChar (high low : Nat) : Char :=
  Char.ofNat ((high - 0xD800) * 0x400 + (low - 0xDC00) + 0x10000)

/-- The fault of four bytes that are not four digits. -/
def unitFault (rest : List Char) : Fault :=
  if byteLength rest < 4 then .atEnd .endInText else ⟨.badEscape, byteLength rest - 4⟩

/-- A character in front of what was read. -/
def consText (c : Char) (read : Except Fault (List Char × List Char)) :
    Except Fault (List Char × List Char) :=
  read.map fun p => (c :: p.1, p.2)

/-- The characters up to the closing quote, and what stands behind it. -/
def readText : List Char → Except Fault (List Char × List Char)
  | [] => .error (.atEnd .endInText)
  | '"' :: rest => .ok ([], rest)
  | ['\\'] => .error (.atEnd .endInText)
  | '\\' :: 'u' :: digits =>
    match digits with
    | a :: b :: c :: d :: rest =>
      match unit? a b c d with
      | none => .error (unitFault digits)
      | some n =>
        if isLowHalf n then .error (.before .loneSurrogate rest)
        else if isHighHalf n then
          match rest with
          | [] => .error (.atEnd .endInText)
          | ['\\'] => .error (.atEnd .endInText)
          | '\\' :: 'u' :: lowDigits =>
            match lowDigits with
            | e :: f :: g :: h :: lowRest =>
              match unit? e f g h with
              | none => .error (unitFault lowDigits)
              | some m =>
                if isLowHalf m then consText (pairChar n m) (readText lowRest)
                else .error (.before .loneSurrogate lowRest)
            | _ => .error (unitFault lowDigits)
          | '\\' :: other => .error (.within .endOfSurrogate other)
          | other => .error (.within .endOfSurrogate other)
        else consText (Char.ofNat n) (readText rest)
    | _ => .error (unitFault digits)
  | '\\' :: c :: rest =>
    match letterEscape? c with
    | some e => consText e (readText rest)
    | none => .error (.within .badEscape (c :: rest))
  | c :: rest =>
    if c < ' ' then .error (.within .controlCharacter (c :: rest))
    else consText c (readText rest)

/-- A character as it is written in a text. -/
def writeChar (c : Char) : List Char :=
  if c = '"' then ['\\', '"']
  else if c = '\\' then ['\\', '\\']
  else if c = '\x08' then ['\\', 'b']
  else if c = '\x0c' then ['\\', 'f']
  else if c = '\n' then ['\\', 'n']
  else if c = '\r' then ['\\', 'r']
  else if c = '\t' then ['\\', 't']
  else if c < ' ' then
    ['\\', 'u', '0', '0', Hex.digit (c.toNat / 16), Hex.digit (c.toNat % 16)]
  else [c]

/-- A text between quotes. -/
def writeText (s : String) : List Char :=
  ['"'] ++ s.toList.flatMap writeChar ++ ['"']

/-- The closing quote ends a text. -/
@[simp] theorem readText_quote (rest : List Char) : readText ('"' :: rest) = .ok ([], rest) := by
  simp [readText]

end Json
end SignedHooks
