/-
# Writing JSON

A value is written without blanks, its members in the order in which they
stand.

Key definitions: `Json.Value.write`, `Json.Value.render`.
Key theorems: `Json.writeItems_cons_cons`.
-/
import SignedHooks.Json.Number
import SignedHooks.Json.Text

namespace SignedHooks
namespace Json

mutual

/-- The characters of a value. -/
def Value.write : Value → List Char
  | .null => ['n', 'u', 'l', 'l']
  | .boolean true => ['t', 'r', 'u', 'e']
  | .boolean false => ['f', 'a', 'l', 's', 'e']
  | .number n => n.write
  | .text s => writeText s
  | .array items => ['['] ++ writeItems items ++ [']']
  | .object members => ['\x7b'] ++ writeMembers members ++ ['\x7d']

/-- The characters of the items of a list. -/
def writeItems : List Value → List Char
  | [] => []
  | [v] => v.write
  | v :: w :: rest => v.write ++ [','] ++ writeItems (w :: rest)

/-- The characters of the members of an object. -/
def writeMembers : List (String × Value) → List Char
  | [] => []
  | [(k, v)] => writeText k ++ [':'] ++ v.write
  | (k, v) :: m :: rest => writeText k ++ [':'] ++ v.write ++ [','] ++ writeMembers (m :: rest)

end

/-- The text of a value. -/
def Value.render (v : Value) : String :=
  String.ofList v.write

theorem writeItems_cons_cons (v w : Value) (rest : List Value) :
    writeItems (v :: w :: rest) = v.write ++ [','] ++ writeItems (w :: rest) := by
  simp [writeItems]

end Json
end SignedHooks
