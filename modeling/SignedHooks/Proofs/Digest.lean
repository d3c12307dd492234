/-
# A message may be hashed in pieces

A stream holds a message if its state is that of the message's full blocks
and its pending bytes are those behind them (`Sha256.Stream.Holds`). The empty
stream holds the empty message, and each piece that is absorbed is put behind
the message (`Sha256.Stream.Holds.absorb`), so in the end the stream gives the
hash of the whole (`Sha256.Stream.Holds.finish`). A keyed stream is two of them,
and gives the code of the whole message under the key
(`Hmac.Stream.Holds.finish`).

Key definitions: `Sha256.Stream.Holds`, `Hmac.Stream.Holds`.
Key theorems: `Sha256.Stream.Holds.absorb`, `Sha256.Stream.Holds.finish`,
`Hmac.Stream.Holds.finish`.
-/
import Mathlib.Tactic.Common
import SignedHooks.Digest.Hmac

namespace SignedHooks

namespace Sha256

/-- What is left behind the first `n` blocks. -/
theorem foldBlocks_snd : ∀ (n : Nat) (s : State) (data : List UInt8),
    (foldBlocks n s data).2 = data.drop (blockSize * n)
  | 0, _, _ => rfl
  | n + 1, s, data => by
    rw [foldBlocks, foldBlocks_snd n, List.drop_drop]
    congr 1
    rw [Nat.mul_succ, Nat.add_comm]

/-- Blocks may be folded in two runs. -/
theorem foldBlocks_add : ∀ (m n : Nat) (s : State) (data : List UInt8),
    foldBlocks (m + n) s data = foldBlocks n (foldBlocks m s data).1 (foldBlocks m s data).2
  | 0, n, s, data => by rw [Nat.zero_add]; rfl
  | m + 1, n, s, data => by
    rw [Nat.add_right_comm, foldBlocks, foldBlocks_add m n, foldBlocks]

/-- Bytes behind full blocks are left as they are. -/
theorem foldBlocks_append : ∀ (n : Nat) (s : State) (data more : List UInt8),
    blockSize * n ≤ data.length → foldBlocks n s (data ++ more) =
      ((foldBlocks n s data).1, (foldBlocks n s data).2 ++ more)
  | 0, _, _, _, _ => rfl
  | n + 1, s, data, more, h => by
    have hfirst : blockSize ≤ data.length := by
      rw [Nat.mul_succ] at h
      omega
    have hrest : blockSize * n ≤ (data.drop blockSize).length := by
      rw [Nat.mul_succ] at h
      rw [List.length_drop]
      omega
    rw [foldBlocks, foldBlocks, List.take_append_of_le_length hfirst,
      List.drop_append_of_le_length hfirst, foldBlocks_append n _ _ more hrest]

namespace Stream

/-- The stream has taken the message: its full blocks are in the state, the
bytes behind them are pending. -/
structure Holds (s : Stream) (message : List UInt8) : Prop where
  /-- The bytes are counted. -/
  length_eq : s.length = message.length
  /-- The full blocks are folded. -/
  state_eq : s.state = (foldBlocks (message.length / blockSize) initial message).1
  /-- The bytes behind them are kept. -/
  pending_eq : s.pending = message.drop (blockSize * (message.length / blockSize))

theorem holds_empty : Holds empty [] := ⟨rfl, rfl, rfl⟩

variable {s : Stream} {message : List UInt8}

/-- The blocks of a longer message are those that the stream goes on with. -/
theorem Holds.foldBlocks_append (h : s.Holds message) (more : List UInt8) :
    foldBlocks ((message ++ more).length / blockSize) initial (message ++ more) =
      foldBlocks ((s.pending ++ more).length / blockSize) s.state (s.pending ++ more) := by
  have hfull : blockSize * (message.length / blockSize) ≤ message.length :=
    Nat.mul_div_le _ _
  have hcount : (message ++ more).length / blockSize =
      message.length / blockSize + (s.pending ++ more).length / blockSize := by
    rw [h.pending_eq]
    simp only [List.length_append, List.length_drop, blockSize]
    omega
  rw [hcount, foldBlocks_add, Sha256.foldBlocks_append _ _ _ _ hfull, foldBlocks_snd,
    ← h.state_eq, ← h.pending_eq]

/-- What is absorbed is put behind the message. -/
theorem Holds.absorb (h : s.Holds message) (bytes : List UInt8) :
    (s.absorb bytes).Holds (message ++ bytes) := by
  have hfold := h.foldBlocks_append bytes
  refine ⟨?_, ?_, ?_⟩
  · rw [List.length_append, ← h.length_eq]
    rfl
  · rw [hfold]
    rfl
  · rw [← foldBlocks_snd _ initial, hfold]
    rfl

/-- The stream gives the hash of the message. -/
theorem Holds.finish (h : s.Holds message) : s.finish = hash message := by
  have hfold := h.foldBlocks_append (padding message.length)
  rw [Stream.finish, hash, h.length_eq]
  simp only [hfold]

end Stream
end Sha256

namespace Hmac
namespace Stream

/-- The stream has taken the message under the key. -/
structure Holds (s : Stream) (key message : List UInt8) : Prop where
  /-- The inner hash has taken the masked key and the message. -/
  inner : s.inner.Holds (maskedKey innerMask key ++ message)
  /-- The outer key is kept. -/
  outerKey_eq : s.outerKey = maskedKey outerMask key

theorem holds_ofKey (key : List UInt8) : (ofKey key).Holds key [] := by
  refine ⟨?_, rfl⟩
  rw [List.append_nil]
  exact Sha256.Stream.holds_empty.absorb _

variable {s : Stream} {key message : List UInt8}

theorem Holds.absorb (h : s.Holds key message) (bytes : List UInt8) :
    (s.absorb bytes).Holds key (message ++ bytes) := by
  refine ⟨?_, h.outerKey_eq⟩
  rw [← List.append_assoc]
  exact h.inner.absorb bytes

/-- The stream gives the code of the message. -/
theorem Holds.finish (h : s.Holds key message) : s.finish = digest key message := by
  have houter := (Sha256.Stream.holds_empty.absorb s.outerKey).absorb s.inner.finish
  rw [Stream.finish, houter.finish, List.nil_append, h.inner.finish, h.outerKey_eq, digest]

end Stream
end Hmac
end SignedHooks
