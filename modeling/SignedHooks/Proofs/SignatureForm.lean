/-
# The form of a signature

The code of a message under a key is described step by step over the hash of the standard
(`Sha256.IsHash`): the key is brought to the size of a block (`Hmac.KeyBlock`), and the hash
of the one masked block with the message is hashed behind the other (`Hmac.IsCode`). What is
computed is what is described, and nothing else is (`Hmac.isCode_iff`), in whatever pieces
the message is taken (`Hmac.Stream.finish_absorbAll`).

A signature is the marker and 64 digits, which are read as the code of the one message that
the timestamp, a dot and the body are (`Signature.compute_isCode`).

Key definitions: `Hmac.KeyBlock`, `Hmac.IsCode`.
Key theorems: `Hmac.isCode_iff`, `Hmac.Stream.finish_absorbAll`, `Signature.compute_isCode`.
-/
import SignedHooks.Proofs.HashStandard
import SignedHooks.Proofs.Headers

namespace SignedHooks

/-! ### The code of a message under a key -/

namespace Hmac

open Sha256 (IsHash isHash_iff blockSize)

/-- A key as a block of 64 bytes: the key, or its hash if the key is longer than a block, and
zeros. -/
inductive KeyBlock (key : List UInt8) : List UInt8 → Prop where
  /-- The key is no longer than a block. -/
  | short {zeros : Nat} : key.length + zeros = 64 →
      KeyBlock key (key ++ List.replicate zeros 0)
  /-- The key is longer than a block. -/
  | long {zeros : Nat} {code : List UInt8} : 64 < key.length → IsHash key code →
      code.length + zeros = 64 → KeyBlock key (code ++ List.replicate zeros 0)

/-- The bytes are the code of the message under the key: the hash of the outer block and the
hash of the inner block and the message. -/
inductive IsCode (key message : List UInt8) : List UInt8 → Prop where
  /-- One hash within the other. -/
  | nested {block inner code : List UInt8} : KeyBlock key block →
      IsHash (block.map (· ^^^ 0x36) ++ message) inner →
      IsHash (block.map (· ^^^ 0x5c) ++ inner) code → IsCode key message code

variable {key message block code : List UInt8}

theorem keyBlock_iff : KeyBlock key block ↔ block = blockKey key := by
  have hsize := length_shortKey key
  have hblock : blockSize = 64 := rfl
  constructor
  · intro h
    cases h with
    | @short zeros hlength =>
      have hshort : shortKey key = key := if_neg (by omega)
      have hzeros : zeros = blockSize - key.length := by omega
      rw [blockKey, hshort, hzeros]
    | @long zeros code hlong hcode hlength =>
      have hshort : shortKey key = Sha256.hash key := if_pos hlong
      obtain rfl := isHash_iff.mp hcode
      have hzeros : zeros = blockSize - (Sha256.hash key).length := by omega
      rw [blockKey, hshort, hzeros]
  · rintro rfl
    by_cases hlong : blockSize < key.length
    · have hshort : shortKey key = Sha256.hash key := if_pos hlong
      rw [hshort] at hsize
      rw [blockKey, hshort]
      exact .long hlong (isHash_iff.mpr rfl) (by omega)
    · have hshort : shortKey key = key := if_neg hlong
      rw [blockKey, hshort]
      exact .short (by omega)

/-- A message has one code under a key, the one that is computed. -/
theorem isCode_iff : IsCode key message code ↔ code = digest key message := by
  constructor
  · rintro ⟨hblock, hinner, houter⟩
    obtain rfl := keyBlock_iff.mp hblock
    obtain rfl := isHash_iff.mp hinner
    exact isHash_iff.mp houter
  · rintro rfl
    exact .nested (keyBlock_iff.mpr rfl) (isHash_iff.mpr rfl) (isHash_iff.mpr rfl)

/-- The code of `what do ya want for nothing?` under the key `Jefe`, as it is published. -/
example : IsCode (Utf8.encode "Jefe") (Utf8.encode "what do ya want for nothing?")
    [0x5b, 0xdc, 0xc1, 0x46, 0xbf, 0x60, 0x75, 0x4e, 0x6a, 0x04, 0x24, 0x26,
     0x08, 0x95, 0x75, 0xc7, 0x5a, 0x00, 0x3f, 0x08, 0x9d, 0x27, 0x39, 0x83,
     0x9d, 0xec, 0x58, 0xb9, 0x64, 0xec, 0x38, 0x43] :=
  isCode_iff.mpr (by decide +kernel)

namespace Stream

variable {s : Stream}

theorem Holds.absorbAll (h : s.Holds key message) (pieces : List (List UInt8)) :
    (pieces.foldl Stream.absorb s).Holds key (message ++ pieces.flatten) := by
  induction pieces generalizing s message with
  | nil => rwa [List.foldl_nil, List.flatten_nil, List.append_nil]
  | cons piece pieces ih =>
    rw [List.foldl_cons, List.flatten_cons, ← List.append_assoc]
    exact ih (h.absorb piece)

/-- In whatever pieces a message is taken its code is the same. -/
theorem finish_absorbAll (key : List UInt8) (pieces : List (List UInt8)) :
    (pieces.foldl absorb (ofKey key)).finish = digest key pieces.flatten :=
  ((holds_ofKey key).absorbAll pieces).finish

end Stream
end Hmac

/-! ### The digits of a code -/

namespace Hex

theorem lowercase_of_mem_encodeList {bytes : List UInt8} {c : Char} (h : c ∈ encodeList bytes) :
    c ∈ "0123456789abcdef".toList := by
  have hdigit : ∀ n : Fin 16, digit n ∈ "0123456789abcdef".toList := by decide
  obtain ⟨n, rfl⟩ := exists_digit_of_mem h
  exact hdigit n

end Hex

/-! ### Signatures -/

namespace Signature

/-- **The form of a signature.** Whatever the lengths of the secret, the timestamp and the
body, a signature is the marker and 64 digits, lowercase, which are read as the code under the
secret of one message: the bytes of the timestamp, a dot and those of the body. There is no
other code of this message, and in whatever pieces a message is taken its code comes out. -/
theorem compute_isCode (secret timestamp body : String) :
    let key := Utf8.encode secret
    let message := Utf8.encode timestamp ++ [0x2e] ++ Utf8.encode body
    ∃ code digits, (∀ other, Hmac.IsCode key message other ↔ other = code) ∧
      compute secret timestamp body = "v1=" ++ String.ofList digits ∧
      (compute secret timestamp body).length = 67 ∧ digits.length = 64 ∧
      (∀ d ∈ digits, d ∈ "0123456789abcdef".toList) ∧
      Hex.decode (String.ofList digits) = some code ∧
      ∀ pieces : List (List UInt8), Hmac.IsCode key pieces.flatten
        (pieces.foldl Hmac.Stream.absorb (Hmac.Stream.ofKey key)).finish := by
  intro key message
  have hmessage : message = Signature.message timestamp (Utf8.encode body) := by
    rw [Signature.message, ← List.singleton_append, ← List.append_assoc]
    rfl
  have hform : compute secret timestamp body =
      "v1=" ++ String.ofList (Hex.encodeList (Hmac.digest key message)) := by
    rw [compute_eq, hmessage]
    rfl
  have hcount : (Hex.encodeList (Hmac.digest key message)).length = 64 := by
    rw [Hex.length_encodeList, Hmac.length_digest]
  refine ⟨Hmac.digest key message, Hex.encodeList (Hmac.digest key message),
    fun _ => Hmac.isCode_iff, hform, ?_, hcount, fun _ => Hex.lowercase_of_mem_encodeList, ?_, ?_⟩
  · have hdigits : (String.ofList (Hex.encodeList (Hmac.digest key message))).length = 64 := by
      rw [String.length_ofList, hcount]
    rw [hform, String.length_append, hdigits]
    rfl
  · rw [Hex.decode, String.toList_ofList]
    exact Hex.decodeList_encodeList _
  · intro pieces
    exact Hmac.isCode_iff.mpr (Hmac.Stream.finish_absorbAll key pieces)

end Signature
end SignedHooks
