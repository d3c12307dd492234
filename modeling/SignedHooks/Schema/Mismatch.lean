/-
# Mismatches between a value and a schema

A document that is well formed may still hold another value than the one
asked for. A mismatch says what was found and what was wanted: a value of
another type, an integer out of range, a field that is missing or not known,
or a list with too few or too many elements where a record was wanted.

Key definitions: `Found`, `Mismatch`, `Mismatch.message`.
-/
import SignedHooks.Text.Quoted

namespace SignedHooks

open Text (tick)

/-- What was found. -/
inductive Found where
  /-- Nothing. -/
  | null
  /-- A truth value. -/
  | boolean (b : Bool)
  /-- An integer. -/
  | integer (n : Int)
  /-- An integer of more than 64 bits, with the name of its width. -/
  | wideInteger (n : Int) (width : String)
  /-- A number with a fraction or an exponent, as it is written. -/
  | floating (digits : String)
  /-- A text. -/
  | text (s : String)
  /-- A list. -/
  | sequence
  /-- A table. -/
  | map
  deriving DecidableEq, Repr

/-- The wording of what was found. -/
def Found.message : Found → String
  | .null => "null"
  | .boolean b => "boolean " ++ tick (if b then "true" else "false")
  | .integer n => "integer " ++ tick (toString n)
  | .wideInteger n width => "integer " ++ tick (toString n) ++ " as " ++ width
  | .floating digits => "floating point " ++ tick digits
  | .text s => "string " ++ Text.quote s
  | .sequence => "sequence"
  | .map => "map"

/-- What is wrong with a value. -/
inductive Mismatch where
  /-- The value has another type. -/
  | wrongType (found : Found) (wanted : String)
  /-- The value has the right type and is out of range. -/
  | wrongValue (found : Found) (wanted : String)
  /-- A field that must be there is not. -/
  | missingField (name : String)
  /-- A field is there that is none of the known ones. -/
  | unknownField (name : String) (known : List String)
  /-- A list ends before a field of the record that must be there. -/
  | tooShort (length : Nat) (record : String) (fields : Nat)
  /-- A list goes on behind the last field of the record. -/
  | tooLong (length : Nat)
  deriving DecidableEq, Repr

/-- The name of a record where a record is wanted. -/
def recordNamed (name : String) : String :=
  "struct " ++ name

/-- The fields that are known, one of which was expected. -/
def knownFields : List String → String
  | [] => "there are no fields"
  | [a] => "expected " ++ tick a
  | [a, b] => "expected " ++ tick a ++ " or " ++ tick b
  | names => "expected one of " ++ String.intercalate ", " (names.map tick)

/-- The wording of a mismatch. -/
def Mismatch.message : Mismatch → String
  | .wrongType found wanted => "invalid type: " ++ found.message ++ ", expected " ++ wanted
  | .wrongValue found wanted => "invalid value: " ++ found.message ++ ", expected " ++ wanted
  | .missingField name => "missing field " ++ tick name
  | .unknownField name known => "unknown field " ++ tick name ++ ", " ++ knownFields known
  | .tooShort length record fields =>
    "invalid length " ++ toString length ++ ", expected " ++ recordNamed record ++ " with " ++
      toString fields ++ (if fields = 1 then " element" else " elements")
  | .tooLong length =>
    "invalid length " ++ toString length ++ ", expected fewer elements in array"

end SignedHooks
