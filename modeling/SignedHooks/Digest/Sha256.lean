/-
# SHA-256

The hash of a list of bytes, in one step and as a stream. The message is
padded to whole blocks of 64 bytes (a one bit, zeros, and its length in bits
as eight bytes), and the blocks are folded one after another into a state of
eight words, whose bytes are the hash.

A stream takes the message in pieces of any size: it folds the blocks that
are full and keeps the bytes of the one that is not.

Key definitions: `Sha256.hash`, `Sha256.Stream`, `Sha256.Stream.absorb`,
`Sha256.Stream.finish`.
Key theorems: `Sha256.length_toBytes`, `Sha256.length_hash`.
-/

namespace SignedHooks
namespace Sha256

/-- The bytes of a block. -/
def blockSize : Nat := 64

/-- The eight words that the blocks are folded into. -/
structure State where
  /-- The first word. -/
  a : UInt32
  /-- The second word. -/
  b : UInt32
  /-- The third word. -/
  c : UInt32
  /-- The fourth word. -/
  d : UInt32
  /-- The fifth word. -/
  e : UInt32
  /-- The sixth word. -/
  f : UInt32
  /-- The seventh word. -/
  g : UInt32
  /-- The eighth word. -/
  h : UInt32
  deriving DecidableEq, Repr

/-- The state before the first block: the first 32 bits of the fractional
parts of the square roots of the first eight primes. -/
def initial : State :=
  ⟨0x6a09e667, 0xbb67ae85, 0x3c6ef372, 0xa54ff53a, 0x510e527f, 0x9b05688c, 0x1f83d9ab, 0x5be0cd19⟩

/-- The constants of the 64 rounds: the first 32 bits of the fractional parts
of the cube roots of the first 64 primes. -/
def roundConstants : List UInt32 :=
  [0x428a2f98, 0x71374491, 0xb5c0fbcf, 0xe9b5dba5, 0x3956c25b, 0x59f111f1, 0x923f82a4, 0xab1c5ed5,
   0xd807aa98, 0x12835b01, 0x243185be, 0x550c7dc3, 0x72be5d74, 0x80deb1fe, 0x9bdc06a7, 0xc19bf174,
   0xe49b69c1, 0xefbe4786, 0x0fc19dc6, 0x240ca1cc, 0x2de92c6f, 0x4a7484aa, 0x5cb0a9dc, 0x76f988da,
   0x983e5152, 0xa831c66d, 0xb00327c8, 0xbf597fc7, 0xc6e00bf3, 0xd5a79147, 0x06ca6351, 0x14292967,
   0x27b70a85, 0x2e1b2138, 0x4d2c6dfc, 0x53380d13, 0x650a7354, 0x766a0abb, 0x81c2c92e, 0x92722c85,
   0xa2bfe8a1, 0xa81a664b, 0xc24b8b70, 0xc76c51a3, 0xd192e819, 0xd6990624, 0xf40e3585, 0x106aa070,
   0x19a4c116, 0x1e376c08, 0x2748774c, 0x34b0bcb5, 0x391c0cb3, 0x4ed8aa4a, 0x5b9cca4f, 0x682e6ff3,
   0x748f82ee, 0x78a5636f, 0x84c87814, 0x8cc70208, 0x90befffa, 0xa4506ceb, 0xbef9a3f7, 0xc67178f2]

/-- The word with its bits turned `n` places to the right. -/
def rotateRight (x n : UInt32) : UInt32 :=
  (x >>> n) ||| (x <<< (32 - n))

/-- The word that four bytes spell, most significant byte first. -/
def word (b0 b1 b2 b3 : UInt8) : UInt32 :=
  (b0.toUInt32 <<< 24) ||| (b1.toUInt32 <<< 16) ||| (b2.toUInt32 <<< 8) ||| b3.toUInt32

/-- The four bytes of a word, most significant byte first. -/
def wordBytes (x : UInt32) : List UInt8 :=
  [(x >>> 24).toUInt8, (x >>> 16).toUInt8, (x >>> 8).toUInt8, x.toUInt8]

/-- The words that a list of bytes spells. -/
def words : List UInt8 → List UInt32
  | b0 :: b1 :: b2 :: b3 :: rest => word b0 b1 b2 b3 :: words rest
  | _ => []

/-- The word that follows sixteen words of the message schedule. -/
def nextWord (window : List UInt32) : UInt32 :=
  let w1 := window.getD 1 0
  let w14 := window.getD 14 0
  (rotateRight w14 17 ^^^ rotateRight w14 19 ^^^ (w14 >>> 10)) + window.getD 9 0 +
    (rotateRight w1 7 ^^^ rotateRight w1 18 ^^^ (w1 >>> 3)) + window.getD 0 0

/-- The first `n` words of the message schedule whose next sixteen words are
`window`. -/
def schedule : Nat → List UInt32 → List UInt32
  | 0, _ => []
  | n + 1, window => window.headD 0 :: schedule n (window.tail ++ [nextWord window])

/-- One round: the words move down one place, and the round's constant and
schedule word are mixed in. -/
def round (s : State) (constant scheduled : UInt32) : State :=
  let t1 := s.h + (rotateRight s.e 6 ^^^ rotateRight s.e 11 ^^^ rotateRight s.e 25) +
    ((s.e &&& s.f) ^^^ ((~~~ s.e) &&& s.g)) + constant + scheduled
  let t2 := (rotateRight s.a 2 ^^^ rotateRight s.a 13 ^^^ rotateRight s.a 22) +
    ((s.a &&& s.b) ^^^ (s.a &&& s.c) ^^^ (s.b &&& s.c))
  ⟨t1 + t2, s.a, s.b, s.c, s.d + t1, s.e, s.f, s.g⟩

/-- The word by word sum of two states. -/
def State.add (s t : State) : State :=
  ⟨s.a + t.a, s.b + t.b, s.c + t.c, s.d + t.d, s.e + t.e, s.f + t.f, s.g + t.g, s.h + t.h⟩

/-- The state after a block. -/
def compress (s : State) (block : List UInt8) : State :=
  s.add ((roundConstants.zip (schedule 64 (words block))).foldl (fun t p => round t p.1 p.2) s)

/-- The bytes of a state. -/
def State.toBytes (s : State) : List UInt8 :=
  wordBytes s.a ++ wordBytes s.b ++ wordBytes s.c ++ wordBytes s.d ++
    wordBytes s.e ++ wordBytes s.f ++ wordBytes s.g ++ wordBytes s.h

/-- The state after the first `n` blocks of `data`, and the bytes behind them. -/
def foldBlocks : Nat → State → List UInt8 → State × List UInt8
  | 0, s, data => (s, data)
  | n + 1, s, data => foldBlocks n (compress s (data.take blockSize)) (data.drop blockSize)

/-- The bytes of `n` as a number of `size` bytes, most significant byte first. -/
def bigEndian : Nat → Nat → List UInt8
  | 0, _ => []
  | size + 1, n => (n / Nat.pow 256 size).toUInt8 :: bigEndian size n

/-- What is put behind a message of `length` bytes to fill its last block. -/
def padding (length : Nat) : List UInt8 :=
  0x80 :: List.replicate ((119 - length % blockSize) % blockSize) 0 ++ bigEndian 8 (8 * length)

/-- The hash of a message. -/
def hash (message : List UInt8) : List UInt8 :=
  let data := message ++ padding message.length
  (foldBlocks (data.length / blockSize) initial data).1.toBytes

/-- A message of which only a first part is known. -/
structure Stream where
  /-- The state after the blocks that are full. -/
  state : State
  /-- The bytes behind them. -/
  pending : List UInt8
  /-- The bytes so far. -/
  length : Nat
  deriving DecidableEq, Repr

/-- The stream of no bytes. -/
def Stream.empty : Stream :=
  ⟨initial, [], 0⟩

/-- The stream with some bytes more. -/
def Stream.absorb (s : Stream) (bytes : List UInt8) : Stream :=
  let data := s.pending ++ bytes
  let folded := foldBlocks (data.length / blockSize) s.state data
  ⟨folded.1, folded.2, s.length + bytes.length⟩

/-- The hash of the message that the stream has taken. -/
def Stream.finish (s : Stream) : List UInt8 :=
  let data := s.pending ++ padding s.length
  (foldBlocks (data.length / blockSize) s.state data).1.toBytes

@[simp] theorem length_toBytes (s : State) : s.toBytes.length = 32 := rfl

/-- A hash has 32 bytes. -/
@[simp] theorem length_hash (message : List UInt8) : (hash message).length = 32 :=
  length_toBytes _

@[simp] theorem length_bigEndian : ∀ size n : Nat, (bigEndian size n).length = size
  | 0, _ => rfl
  | size + 1, n => by simp [bigEndian, length_bigEndian size n]

/-- A padded message fills its last block. -/
theorem length_padding (length : Nat) : (length + (padding length).length) % blockSize = 0 := by
  simp only [padding, blockSize, List.length_append, List.length_cons, List.length_replicate,
    length_bigEndian]
  omega

end Sha256
end SignedHooks
