/-
# Header lines

A header on one line, as a person writes it: a name, a colon or an equals
sign, and a value, with any blank space around both. The first separator
counts, so a value may hold more of them.

Key definitions: `HeaderLine.read`, `HeaderLine.write`.
Key theorems: `HeaderLine.read_eq_none_of_no_separator`.
-/
import SignedHooks.Text.Blank

namespace SignedHooks
namespace HeaderLine

/-- A character that ends the name. -/
def isSeparator (c : Char) : Bool :=
  c == ':' || c == '='

/-- The name and the value of a line. -/
def readList (line : List Char) : Option (List Char × List Char) :=
  match line.dropWhile (fun c => !isSeparator c) with
  | [] => none
  | _ :: rest =>
    let name := Text.trimList (line.takeWhile fun c => !isSeparator c)
    if name.isEmpty then none else some (name, Text.trimList rest)

/-- The name and the value of a line. -/
def read (line : String) : Option (String × String) :=
  (readList line.toList).map fun p => (String.ofList p.1, String.ofList p.2)

/-- The line of a header. -/
def write (name value : String) : String :=
  name ++ ": " ++ value ++ "\n"

theorem dropWhile_of_no_separator : ∀ line : List Char, (∀ c ∈ line, isSeparator c = false) →
    line.dropWhile (fun c => !isSeparator c) = []
  | [], _ => rfl
  | c :: rest, h => by
    simp [h c (by simp), dropWhile_of_no_separator rest fun d hd => h d (by simp [hd])]

/-- A line without a separator is no header. -/
theorem read_eq_none_of_no_separator {line : List Char} (h : ∀ c ∈ line, isSeparator c = false) :
    readList line = none := by
  simp [readList, dropWhile_of_no_separator line h]

end HeaderLine
end SignedHooks
