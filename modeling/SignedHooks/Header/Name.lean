/-
# Header names

The names of the headers that carry a signed delivery, and when two names
are the same: up to the case of ASCII letters. A name that may stand in an
HTTP message is a token.

Key definitions: `Header.signature`, `Header.timestamp`, `Header.event`, `Header.call`,
`Header.lower`, `Header.same`, `Header.isToken`.
Key theorems: `Header.same_refl`.
-/

namespace SignedHooks
namespace Header

/-- The header that carries the signature. -/
def signature : String := "X-UseSend-Signature"

/-- The header that carries the signing time. -/
def timestamp : String := "X-UseSend-Timestamp"

/-- The header that names the type of the event, for information. -/
def event : String := "X-UseSend-Event"

/-- The header that identifies the delivery, for information. -/
def call : String := "X-UseSend-Call"

/-- A name with its ASCII letters in lower case. -/
def lower (name : String) : String :=
  String.ofList (name.toList.map Char.toLower)

/-- Two names are the same up to the case of ASCII letters. -/
def same (a b : String) : Bool :=
  lower a == lower b

/-- A character that may stand in a token. -/
def isTokenChar (c : Char) : Bool :=
  c.isAlphanum || "!#$%&'*+-.^_`|~".toList.contains c

/-- The most bytes that the name of a field may have. -/
def longestToken : Nat := 65535

/-- A name that may stand in an HTTP message. -/
def isToken (name : String) : Bool :=
  !name.isEmpty && name.toList.length ≤ longestToken && name.toList.all isTokenChar

@[simp] theorem same_refl (name : String) : same name name = true := by
  simp [same]

end Header
end SignedHooks
