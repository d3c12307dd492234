/-
# Words of a command line

Two dashes alone end the options; two dashes and a name are a long option,
perhaps with a value behind an equals sign; one dash and letters are short
options in a row. All else is plain, and so is a dash alone.

Key definitions: `CommandLine.Word`, `CommandLine.Word.ofText`,
`CommandLine.looksNumeric`.
-/

namespace SignedHooks
namespace CommandLine

/-- What a word of a command line is. -/
inductive Word where
  /-- The end of the options. -/
  | escape
  /-- A long option, with the value that is attached to it. -/
  | long (name : String) (value : Option String)
  /-- Short options in a row. -/
  | short (letters : List Char)
  /-- Anything else. -/
  | plain (text : String)
  deriving DecidableEq, Repr

/-- The long option behind two dashes. -/
def Word.ofLong (cs : List Char) : Word :=
  .long (String.ofList (cs.takeWhile (· ≠ '=')))
    (match cs.dropWhile (· ≠ '=') with
    | [] => none
    | _ :: value => some (String.ofList value))

/-- What a word is. -/
def Word.ofText (text : String) : Word :=
  match text.toList with
  | ['-', '-'] => .escape
  | '-' :: '-' :: rest => .ofLong rest
  | '-' :: c :: rest => .short (c :: rest)
  | _ => .plain text

/-- The letters go on like a number: digits, at most one point before the
exponent, at most one exponent. -/
def continuesNumber (point exponent : Bool) : List Char → Bool
  | [] => true
  | c :: rest =>
    if c.isDigit then continuesNumber point exponent rest
    else if c = '.' && !point && !exponent then continuesNumber true exponent rest
    else if c = 'e' && !exponent && !rest.isEmpty then continuesNumber point true rest
    else false

/-- The letters behind a dash look like a number, which begins with a digit. -/
def looksNumeric : List Char → Bool
  | [] => true
  | c :: rest => c.isDigit && continuesNumber false false rest

end CommandLine
end SignedHooks
