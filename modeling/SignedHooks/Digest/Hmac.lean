/-
# HMAC-SHA256

A hash that only the holder of a key can compute. The key is brought to the
size of a block (a longer one is hashed first, a shorter one filled with
zeros), masked in two ways, and hashed in front of the message and again in
front of that hash.

`Hmac.digest` says this in one line; `Hmac.Stream` takes the message in pieces.

Key definitions: `Hmac.digest`, `Hmac.Stream`.
Key theorems: `Hmac.length_blockKey`, `Hmac.length_digest`.
-/
import SignedHooks.Digest.Sha256

namespace SignedHooks
namespace Hmac

open Sha256 (blockSize)

/-- The key, hashed if it is longer than a block. -/
def shortKey (key : List UInt8) : List UInt8 :=
  if blockSize < key.length then Sha256.hash key else key

/-- The key as a block. -/
def blockKey (key : List UInt8) : List UInt8 :=
  shortKey key ++ List.replicate (blockSize - (shortKey key).length) 0

/-- The key block with every byte masked. -/
def maskedKey (mask : UInt8) (key : List UInt8) : List UInt8 :=
  (blockKey key).map (· ^^^ mask)

/-- The mask of the key that stands before the message. -/
def innerMask : UInt8 := 0x36

/-- The mask of the key that stands before the inner hash. -/
def outerMask : UInt8 := 0x5c

/-- The code of a message under a key. -/
def digest (key message : List UInt8) : List UInt8 :=
  Sha256.hash (maskedKey outerMask key ++ Sha256.hash (maskedKey innerMask key ++ message))

/-- A keyed message of which only a first part is known. -/
structure Stream where
  /-- The inner hash so far. -/
  inner : Sha256.Stream
  /-- The masked key of the outer hash. -/
  outerKey : List UInt8

/-- The stream of no bytes under a key. -/
def Stream.ofKey (key : List UInt8) : Stream :=
  ⟨Sha256.Stream.empty.absorb (maskedKey innerMask key), maskedKey outerMask key⟩

/-- The stream with some bytes more. -/
def Stream.absorb (s : Stream) (bytes : List UInt8) : Stream :=
  ⟨s.inner.absorb bytes, s.outerKey⟩

/-- The code of the message that the stream has taken. -/
def Stream.finish (s : Stream) : List UInt8 :=
  ((Sha256.Stream.empty.absorb s.outerKey).absorb s.inner.finish).finish

theorem length_shortKey (key : List UInt8) : (shortKey key).length ≤ blockSize := by
  unfold shortKey
  split
  · simp [blockSize]
  · omega

/-- A key as a block fills the block. -/
theorem length_blockKey (key : List UInt8) : (blockKey key).length = blockSize := by
  have := length_shortKey key
  simp only [blockKey, List.length_append, List.length_replicate]
  omega

@[simp] theorem length_digest (key message : List UInt8) : (digest key message).length = 32 :=
  Sha256.length_hash _

end Hmac
end SignedHooks
