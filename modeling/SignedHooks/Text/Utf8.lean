/-
# UTF-8

The bytes of a text, and the text of some bytes. A character takes one to four
bytes; which second bytes are allowed depends on the first, so that no
character is written longer than needed and no surrogate is written at all.

Bytes that are not UTF-8 are refused with the number of bytes before the
first bad sequence. A sequence that the end of the input cuts off, and that
is well formed so far, is told apart from one that no byte could mend; of the
latter the fault gives the length of its well-formed start, at least one.

Key definitions: `Utf8.encode`, `Utf8.decode`, `Utf8.Fault`, `Utf8.Fault.message`.
Key theorems: `Utf8.encodeList_append`.
-/

namespace SignedHooks
namespace Utf8

/-- The bytes of a list of characters. -/
def encodeList (cs : List Char) : List UInt8 :=
  cs.flatMap String.utf8EncodeChar

/-- The bytes of a text. -/
def encode (s : String) : List UInt8 :=
  encodeList s.toList

@[simp] theorem encodeList_nil : encodeList [] = [] := rfl

@[simp] theorem encodeList_append (a b : List Char) :
    encodeList (a ++ b) = encodeList a ++ encodeList b := by
  simp [encodeList]

/-- Why some bytes are not UTF-8. -/
inductive Fault where
  /-- After `valid` good bytes come `length` bytes that start no character. -/
  | invalid (valid length : Nat)
  /-- After `valid` good bytes the input ends inside a character. -/
  | incomplete (valid : Nat)
  deriving DecidableEq, Repr

/-- The wording of a fault. -/
def Fault.message : Fault → String
  | .invalid valid length =>
    "invalid utf-8 sequence of " ++ toString length ++ " bytes from index " ++ toString valid
  | .incomplete valid => "incomplete utf-8 byte sequence from index " ++ toString valid

/-- How many bytes a character takes that starts with `b`, if any starts so. -/
def width (b : UInt8) : Option Nat :=
  if b < 0x80 then some 1
  else if 0xC2 ≤ b && b ≤ 0xDF then some 2
  else if 0xE0 ≤ b && b ≤ 0xEF then some 3
  else if 0xF0 ≤ b && b ≤ 0xF4 then some 4
  else none

/-- A byte that continues a character. -/
def isTail (b : UInt8) : Bool :=
  0x80 ≤ b && b ≤ 0xBF

/-- A byte that may follow `first` in a character of three or four bytes. -/
def isSecond (first b : UInt8) : Bool :=
  if first == 0xE0 then 0xA0 ≤ b && b ≤ 0xBF
  else if first == 0xED then 0x80 ≤ b && b ≤ 0x9F
  else if first == 0xF0 then 0x90 ≤ b && b ≤ 0xBF
  else if first == 0xF4 then 0x80 ≤ b && b ≤ 0x8F
  else isTail b

/-- The six bits that a continuing byte holds. -/
def tailBits (b : UInt8) : Nat :=
  b.toNat - 0x80

/-- The characters of `bytes`, which stand after `valid` bytes already read. -/
def decodeAfter (valid : Nat) : List UInt8 → Except Fault (List Char)
  | [] => .ok []
  | b0 :: r0 =>
    match width b0 with
    | none => .error (.invalid valid 1)
    | some 1 => do
      let cs ← decodeAfter (valid + 1) r0
      return Char.ofNat b0.toNat :: cs
    | some 2 =>
      match r0 with
      | [] => .error (.incomplete valid)
      | b1 :: r1 =>
        if isTail b1 then do
          let cs ← decodeAfter (valid + 2) r1
          return Char.ofNat ((b0.toNat - 0xC0) * 64 + tailBits b1) :: cs
        else .error (.invalid valid 1)
    | some 3 =>
      match r0 with
      | [] => .error (.incomplete valid)
      | b1 :: r1 =>
        if isSecond b0 b1 then
          match r1 with
          | [] => .error (.incomplete valid)
          | b2 :: r2 =>
            if isTail b2 then do
              let cs ← decodeAfter (valid + 3) r2
              return Char.ofNat
                ((b0.toNat - 0xE0) * 4096 + tailBits b1 * 64 + tailBits b2) :: cs
            else .error (.invalid valid 2)
        else .error (.invalid valid 1)
    | some _ =>
      match r0 with
      | [] => .error (.incomplete valid)
      | b1 :: r1 =>
        if isSecond b0 b1 then
          match r1 with
          | [] => .error (.incomplete valid)
          | b2 :: r2 =>
            if isTail b2 then
              match r2 with
              | [] => .error (.incomplete valid)
              | b3 :: r3 =>
                if isTail b3 then do
                  let cs ← decodeAfter (valid + 4) r3
                  return Char.ofNat
                    ((b0.toNat - 0xF0) * 262144 + tailBits b1 * 4096 + tailBits b2 * 64 +
                      tailBits b3) :: cs
                else .error (.invalid valid 3)
            else .error (.invalid valid 2)
        else .error (.invalid valid 1)

/-- The characters whose bytes these are. -/
def decodeList (bytes : List UInt8) : Except Fault (List Char) :=
  decodeAfter 0 bytes

/-- The text whose bytes these are. -/
def decode (bytes : List UInt8) : Except Fault String :=
  (decodeList bytes).map String.ofList

end Utf8
end SignedHooks
