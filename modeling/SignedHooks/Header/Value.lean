/-
# Header values

A framework hands out the value of a header as a text, as a list of the texts
that were sent under the name, or as something that may be absent. Of
several the first one counts, and of an absent one or none at all nothing.

Key definitions: `HeaderValue`, `HeaderValue.first`.
-/

namespace SignedHooks

/-- The value of a header as it is stored. -/
inductive HeaderValue where
  /-- One text. -/
  | text (s : String)
  /-- No value. -/
  | absent
  /-- All that was sent under the name, in order. -/
  | list (values : List HeaderValue)
  deriving Repr

/-- The first text of a value. -/
def HeaderValue.first : HeaderValue → Option String
  | .text s => some s
  | .absent => none
  | .list [] => none
  | .list (v :: _) => v.first

end SignedHooks
