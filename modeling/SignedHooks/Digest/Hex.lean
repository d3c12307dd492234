/-
# Bytes as hexadecimal digits

Two lowercase digits for each byte. Reading also takes uppercase digits.

Key definitions: `Hex.encode`, `Hex.decode`.
Key theorems: `Hex.length_encodeList`, `Hex.decodeList_encodeList`.
-/

namespace SignedHooks
namespace Hex

/-- The digit of a number below sixteen. -/
def digit (n : Nat) : Char :=
  if n < 10 then Char.ofNat (48 + n) else Char.ofNat (87 + n)

/-- The number of a digit. -/
def digitValue? (c : Char) : Option Nat :=
  if '0' ≤ c && c ≤ '9' then some (c.toNat - 48)
  else if 'a' ≤ c && c ≤ 'f' then some (c.toNat - 87)
  else if 'A' ≤ c && c ≤ 'F' then some (c.toNat - 55)
  else none

/-- The digits of some bytes. -/
def encodeList : List UInt8 → List Char
  | [] => []
  | b :: rest => digit (b.toNat / 16) :: digit (b.toNat % 16) :: encodeList rest

/-- The digits of some bytes. -/
def encode (bytes : List UInt8) : String :=
  String.ofList (encodeList bytes)

/-- The bytes that some digits spell. -/
def decodeList : List Char → Option (List UInt8)
  | [] => some []
  | [_] => none
  | hi :: lo :: rest => do
    let h ← digitValue? hi
    let l ← digitValue? lo
    let bytes ← decodeList rest
    return UInt8.ofNat (16 * h + l) :: bytes

/-- The bytes that some digits spell. -/
def decode (s : String) : Option (List UInt8) :=
  decodeList s.toList

theorem length_encodeList : ∀ bytes : List UInt8, (encodeList bytes).length = 2 * bytes.length
  | [] => rfl
  | b :: rest => by simp only [encodeList, List.length_cons, length_encodeList rest]; omega

theorem digitValue?_digit : ∀ n : Fin 16, digitValue? (digit n) = some n.val := by
  decide

/-- Reading undoes writing. -/
theorem decodeList_encodeList : ∀ bytes : List UInt8, decodeList (encodeList bytes) = some bytes
  | [] => rfl
  | b :: rest => by
    have hb : b.toNat < 256 := b.toNat_lt
    have h := digitValue?_digit ⟨b.toNat / 16, by omega⟩
    have l := digitValue?_digit ⟨b.toNat % 16, by omega⟩
    simp only at h l
    have hsum : 16 * (b.toNat / 16) + b.toNat % 16 = b.toNat := by omega
    have hbyte : UInt8.ofNat (16 * (b.toNat / 16) + b.toNat % 16) = b := by
      rw [hsum, UInt8.ofNat_toNat]
    simp only [encodeList, decodeList, h, l, decodeList_encodeList rest, Option.bind_eq_bind,
      Option.bind_some, Option.pure_def, hbyte]

end Hex
end SignedHooks
