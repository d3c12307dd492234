/-
# UTF-8 is read as it is written

The decoder, at the bytes of a character, takes just these and goes on behind
them (`Utf8.decodeAfter_encodeChar`); and what it takes for a character are
the bytes of that character and no others (`Utf8.encodeList_of_decodeAfter`). So
a text comes back from its bytes (`Utf8.decode_encode`), bytes that are read
are those of the text (`Utf8.encode_of_decode`), and no two texts have the
same bytes (`Utf8.encode_injective`). A byte of ASCII stands for a character of
ASCII, wherever it is met (`Utf8.high_of_mem_encodeChar`).

Key theorems: `Utf8.decode_encode`, `Utf8.encode_of_decode`, `Utf8.encode_injective`.
-/
import Mathlib.Tactic.Common
import SignedHooks.Text.Utf8

namespace SignedHooks
namespace Utf8

/-! ### Bytes by their numbers -/

theorem isTail_iff (b : UInt8) : isTail b = true ↔ 0x80 ≤ b.toNat ∧ b.toNat ≤ 0xBF := by
  simp [isTail, UInt8.le_iff_toNat_le]

theorem isSecond_iff (first b : UInt8) : isSecond first b = true ↔
    (0x80 ≤ b.toNat ∧ b.toNat ≤ 0xBF) ∧
      (first.toNat = 0xE0 → 0xA0 ≤ b.toNat) ∧ (first.toNat = 0xED → b.toNat ≤ 0x9F) ∧
      (first.toNat = 0xF0 → 0x90 ≤ b.toNat) ∧ (first.toNat = 0xF4 → b.toNat ≤ 0x8F) := by
  have h1 : (0xE0 : UInt8).toNat = 0xE0 := rfl
  have h2 : (0xED : UInt8).toNat = 0xED := rfl
  have h3 : (0xF0 : UInt8).toNat = 0xF0 := rfl
  have h4 : (0xF4 : UInt8).toNat = 0xF4 := rfl
  unfold isSecond
  simp only [beq_iff_eq, ← UInt8.toNat_inj, h1, h2, h3, h4]
  split_ifs <;> simp [isTail, UInt8.le_iff_toNat_le] <;> omega

theorem width_eq (b : UInt8) : width b =
    if b.toNat < 0x80 then some 1
    else if 0xC2 ≤ b.toNat ∧ b.toNat ≤ 0xDF then some 2
    else if 0xE0 ≤ b.toNat ∧ b.toNat ≤ 0xEF then some 3
    else if 0xF0 ≤ b.toNat ∧ b.toNat ≤ 0xF4 then some 4
    else none := by
  simp [width, UInt8.le_iff_toNat_le, UInt8.lt_iff_toNat_lt]

section

variable {b : UInt8} {n : Nat}

/-- The bytes with which a character of each width begins. -/
theorem range_of_width (h : width b = some n) :
    (n = 1 ∧ b.toNat < 0x80) ∨ (n = 2 ∧ 0xC2 ≤ b.toNat ∧ b.toNat ≤ 0xDF) ∨
      (n = 3 ∧ 0xE0 ≤ b.toNat ∧ b.toNat ≤ 0xEF) ∨ (n = 4 ∧ 0xF0 ≤ b.toNat ∧ b.toNat ≤ 0xF4) := by
  rw [width_eq] at h
  split_ifs at h <;> cases h <;> omega

theorem range_of_width_one (h : width b = some 1) : b.toNat < 0x80 := by
  have := range_of_width h
  omega

theorem range_of_width_two (h : width b = some 2) : 0xC2 ≤ b.toNat ∧ b.toNat ≤ 0xDF := by
  have := range_of_width h
  omega

theorem range_of_width_three (h : width b = some 3) : 0xE0 ≤ b.toNat ∧ b.toNat ≤ 0xEF := by
  have := range_of_width h
  omega

/-- A width that is none of the lesser ones is four. -/
theorem range_of_width_four (h : width b = some n) (h1 : n ≠ 1) (h2 : n ≠ 2) (h3 : n ≠ 3) :
    0xF0 ≤ b.toNat ∧ b.toNat ≤ 0xF4 := by
  have := range_of_width h
  omega

end

/-! ### One character -/

theorem decodeAfter_one {b : UInt8} (valid : Nat) (rest : List UInt8) (h : b.toNat < 0x80) :
    decodeAfter valid (b :: rest) =
      (decodeAfter (valid + 1) rest).map (Char.ofNat b.toNat :: ·) := by
  rw [decodeAfter.eq_def]
  simp only [width_eq, h, ↓reduceIte]
  rfl

theorem decodeAfter_two {b c : UInt8} (valid : Nat) (rest : List UInt8)
    (hb : 0xC2 ≤ b.toNat ∧ b.toNat ≤ 0xDF) (hc : isTail c = true) :
    decodeAfter valid (b :: c :: rest) = (decodeAfter (valid + 2) rest).map
      (Char.ofNat ((b.toNat - 0xC0) * 64 + tailBits c) :: ·) := by
  have h1 : ¬ b.toNat < 0x80 := by omega
  rw [decodeAfter.eq_def]
  simp only [width_eq, h1, hb, hc, and_self, ↓reduceIte]
  rfl

theorem decodeAfter_three {b c d : UInt8} (valid : Nat) (rest : List UInt8)
    (hb : 0xE0 ≤ b.toNat ∧ b.toNat ≤ 0xEF) (hc : isSecond b c = true) (hd : isTail d = true) :
    decodeAfter valid (b :: c :: d :: rest) = (decodeAfter (valid + 3) rest).map
      (Char.ofNat ((b.toNat - 0xE0) * 4096 + tailBits c * 64 + tailBits d) :: ·) := by
  have h1 : ¬ b.toNat < 0x80 := by omega
  have h2 : ¬ (0xC2 ≤ b.toNat ∧ b.toNat ≤ 0xDF) := by omega
  rw [decodeAfter.eq_def]
  simp only [width_eq, h1, h2, hb, hc, hd, and_self, ↓reduceIte]
  rfl

theorem decodeAfter_four {b c d e : UInt8} (valid : Nat) (rest : List UInt8)
    (hb : 0xF0 ≤ b.toNat ∧ b.toNat ≤ 0xF4) (hc : isSecond b c = true) (hd : isTail d = true)
    (he : isTail e = true) :
    decodeAfter valid (b :: c :: d :: e :: rest) = (decodeAfter (valid + 4) rest).map
      (Char.ofNat ((b.toNat - 0xF0) * 262144 + tailBits c * 4096 + tailBits d * 64 +
        tailBits e) :: ·) := by
  have h1 : ¬ b.toNat < 0x80 := by omega
  have h2 : ¬ (0xC2 ≤ b.toNat ∧ b.toNat ≤ 0xDF) := by omega
  have h3 : ¬ (0xE0 ≤ b.toNat ∧ b.toNat ≤ 0xEF) := by omega
  rw [decodeAfter.eq_def]
  simp only [width_eq, h1, h2, h3, hb, hc, hd, he, and_self, ↓reduceIte]
  rfl

/-- A character's number is below the surrogates or above them. -/
theorem toNat_valid (c : Char) :
    c.toNat < 0xD800 ∨ (0xDFFF < c.toNat ∧ c.toNat < 0x110000) :=
  c.valid

theorem toNat_ofNat {n : Nat} (h : n < 0xD800 ∨ (0xDFFF < n ∧ n < 0x110000)) :
    (Char.ofNat n).toNat = n := by
  rw [Char.ofNat, dif_pos h]
  rfl

theorem toNat_byte {n : Nat} (h : n < 256) : (UInt8.ofNat n).toNat = n :=
  UInt8.toNat_ofNat_of_lt' h

/-- A continuing byte holds the six lowest bits of a number. -/
theorem toNat_tail (n : Nat) : (UInt8.ofNat (n % 0x40 + 0x80)).toNat = n % 0x40 + 0x80 :=
  toNat_byte (by omega)

theorem isTail_tail (n : Nat) : isTail (UInt8.ofNat (n % 0x40 + 0x80)) = true := by
  rw [isTail_iff, toNat_tail]
  omega

theorem tailBits_tail (n : Nat) : tailBits (UInt8.ofNat (n % 0x40 + 0x80)) = n % 0x40 := by
  have := toNat_tail n
  unfold tailBits
  omega

theorem encodeChar_one {c : Char} (h : c.toNat ≤ 0x7f) :
    String.utf8EncodeChar c = [UInt8.ofNat c.toNat] :=
  if_pos h

theorem encodeChar_two {c : Char} (h : 0x7f < c.toNat) (h' : c.toNat ≤ 0x7ff) :
    String.utf8EncodeChar c =
      [UInt8.ofNat (c.toNat / 64 % 0x20 + 0xc0), UInt8.ofNat (c.toNat % 0x40 + 0x80)] :=
  (if_neg (Nat.not_le.mpr h)).trans (if_pos h')

theorem encodeChar_three {c : Char} (h : 0x7ff < c.toNat) (h' : c.toNat ≤ 0xffff) :
    String.utf8EncodeChar c =
      [UInt8.ofNat (c.toNat / 4096 % 0x10 + 0xe0), UInt8.ofNat (c.toNat / 64 % 0x40 + 0x80),
        UInt8.ofNat (c.toNat % 0x40 + 0x80)] :=
  have h1 : ¬ c.toNat ≤ 0x7f := by omega
  (if_neg h1).trans ((if_neg (Nat.not_le.mpr h)).trans (if_pos h'))

theorem encodeChar_four {c : Char} (h : 0xffff < c.toNat) :
    String.utf8EncodeChar c =
      [UInt8.ofNat (c.toNat / 262144 % 0x08 + 0xf0), UInt8.ofNat (c.toNat / 4096 % 0x40 + 0x80),
        UInt8.ofNat (c.toNat / 64 % 0x40 + 0x80), UInt8.ofNat (c.toNat % 0x40 + 0x80)] :=
  have h1 : ¬ c.toNat ≤ 0x7f := by omega
  have h2 : ¬ c.toNat ≤ 0x7ff := by omega
  (if_neg h1).trans ((if_neg h2).trans (if_neg (Nat.not_le.mpr h)))

/-- The bytes of a character are taken for it. -/
theorem decodeAfter_encodeChar (c : Char) (valid : Nat) (rest : List UInt8) :
    decodeAfter valid (String.utf8EncodeChar c ++ rest) =
      (decodeAfter (valid + (String.utf8EncodeChar c).length) rest).map (c :: ·) := by
  have hv := toNat_valid c
  have hc : Char.ofNat c.toNat = c := Char.ofNat_toNat c
  by_cases h1 : c.toNat ≤ 0x7f
  · have hb : (UInt8.ofNat c.toNat).toNat = c.toNat := toNat_byte (by omega)
    rw [encodeChar_one h1, List.singleton_append, decodeAfter_one _ _ (by omega), hb, hc]
    rfl
  by_cases h2 : c.toNat ≤ 0x7ff
  · have hb : (UInt8.ofNat (c.toNat / 64 % 0x20 + 0xc0)).toNat = c.toNat / 64 + 0xc0 := by
      rw [toNat_byte (by omega)]; omega
    have hn : (c.toNat / 64 + 0xc0 - 0xC0) * 64 + c.toNat % 0x40 = c.toNat := by omega
    rw [encodeChar_two (by omega) h2, List.cons_append, List.singleton_append,
      decodeAfter_two _ _ (by omega) (isTail_tail _), hb, tailBits_tail, hn, hc]
    rfl
  by_cases h3 : c.toNat ≤ 0xffff
  · have hb : (UInt8.ofNat (c.toNat / 4096 % 0x10 + 0xe0)).toNat = c.toNat / 4096 + 0xe0 := by
      rw [toNat_byte (by omega)]; omega
    have hsecond := toNat_tail (c.toNat / 64)
    have hn : (c.toNat / 4096 + 0xe0 - 0xE0) * 4096 + c.toNat / 64 % 0x40 * 64 +
        c.toNat % 0x40 = c.toNat := by omega
    rw [encodeChar_three (by omega) h3, List.cons_append, List.cons_append, List.singleton_append,
      decodeAfter_three _ _ (by omega) ((isSecond_iff _ _).mpr (by omega)) (isTail_tail _), hb,
      tailBits_tail, tailBits_tail, hn, hc]
    rfl
  have hb : (UInt8.ofNat (c.toNat / 262144 % 0x08 + 0xf0)).toNat = c.toNat / 262144 + 0xf0 := by
    rw [toNat_byte (by omega)]; omega
  have hsecond := toNat_tail (c.toNat / 4096)
  have hn : (c.toNat / 262144 + 0xf0 - 0xF0) * 262144 + c.toNat / 4096 % 0x40 * 4096 +
      c.toNat / 64 % 0x40 * 64 + c.toNat % 0x40 = c.toNat := by omega
  rw [encodeChar_four (by omega), List.cons_append, List.cons_append, List.cons_append,
    List.singleton_append, decodeAfter_four _ _ (by omega) ((isSecond_iff _ _).mpr (by omega))
      (isTail_tail _) (isTail_tail _), hb, tailBits_tail, tailBits_tail, tailBits_tail, hn, hc]
  rfl

theorem ofNat_byte {n : Nat} {b : UInt8} (h : n = b.toNat) : UInt8.ofNat n = b := by
  rw [h, UInt8.ofNat_toNat]

/-- What is taken for a character of one byte is that byte. -/
theorem encodeChar_ofNat_one {b : UInt8} (h : b.toNat < 0x80) :
    String.utf8EncodeChar (Char.ofNat b.toNat) = [b] := by
  have hn : (Char.ofNat b.toNat).toNat = b.toNat := toNat_ofNat (.inl (by omega))
  rw [encodeChar_one (by omega), hn, UInt8.ofNat_toNat]

/-- What is taken for a character of two bytes are these bytes. -/
theorem encodeChar_ofNat_two {b c : UInt8} (hb : 0xC2 ≤ b.toNat ∧ b.toNat ≤ 0xDF)
    (hc : isTail c = true) :
    String.utf8EncodeChar (Char.ofNat ((b.toNat - 0xC0) * 64 + tailBits c)) = [b, c] := by
  rw [isTail_iff] at hc
  unfold tailBits
  generalize hv : (b.toNat - 0xC0) * 64 + (c.toNat - 0x80) = v
  have hn : (Char.ofNat v).toNat = v := toNat_ofNat (.inl (by omega))
  rw [encodeChar_two (by omega) (by omega), hn, ofNat_byte (b := b) (by omega),
    ofNat_byte (b := c) (by omega)]

/-- What is taken for a character of three bytes are these bytes. -/
theorem encodeChar_ofNat_three {b c d : UInt8} (hb : 0xE0 ≤ b.toNat ∧ b.toNat ≤ 0xEF)
    (hc : isSecond b c = true) (hd : isTail d = true) :
    String.utf8EncodeChar (Char.ofNat ((b.toNat - 0xE0) * 4096 + tailBits c * 64 + tailBits d)) =
      [b, c, d] := by
  rw [isSecond_iff] at hc
  rw [isTail_iff] at hd
  unfold tailBits
  generalize hv : (b.toNat - 0xE0) * 4096 + (c.toNat - 0x80) * 64 + (d.toNat - 0x80) = v
  have hn : (Char.ofNat v).toNat = v := toNat_ofNat (by omega)
  rw [encodeChar_three (by omega) (by omega), hn, ofNat_byte (b := b) (by omega),
    ofNat_byte (b := c) (by omega), ofNat_byte (b := d) (by omega)]

/-- What is taken for a character of four bytes are these bytes. -/
theorem encodeChar_ofNat_four {b c d e : UInt8} (hb : 0xF0 ≤ b.toNat ∧ b.toNat ≤ 0xF4)
    (hc : isSecond b c = true) (hd : isTail d = true) (he : isTail e = true) :
    String.utf8EncodeChar (Char.ofNat ((b.toNat - 0xF0) * 262144 + tailBits c * 4096 +
      tailBits d * 64 + tailBits e)) = [b, c, d, e] := by
  rw [isSecond_iff] at hc
  rw [isTail_iff] at hd he
  unfold tailBits
  generalize hv : (b.toNat - 0xF0) * 262144 + (c.toNat - 0x80) * 4096 + (d.toNat - 0x80) * 64 +
    (e.toNat - 0x80) = v
  have hn : (Char.ofNat v).toNat = v := toNat_ofNat (by omega)
  rw [encodeChar_four (by omega), hn, ofNat_byte (b := b) (by omega),
    ofNat_byte (b := c) (by omega), ofNat_byte (b := d) (by omega), ofNat_byte (b := e) (by omega)]

/-! ### Texts -/

theorem encodeList_cons (c : Char) (cs : List Char) :
    encodeList (c :: cs) = String.utf8EncodeChar c ++ encodeList cs :=
  List.flatMap_cons

/-- The bytes of a text are read as the text. -/
theorem decodeAfter_encodeList : ∀ (cs : List Char) (valid : Nat),
    decodeAfter valid (encodeList cs) = .ok cs
  | [], valid => by rw [encodeList_nil, decodeAfter]
  | c :: cs, valid => by
    rw [encodeList_cons, decodeAfter_encodeChar, decodeAfter_encodeList cs]
    rfl

/-- What is read after one character, put behind it. -/
theorem encodeList_of_step {read : Except Fault (List Char)} {c : Char} {taken rest : List UInt8}
    {cs : List Char} (hc : String.utf8EncodeChar c = taken)
    (ih : ∀ cs, read = .ok cs → encodeList cs = rest)
    (h : (do let cs ← read; return c :: cs) = .ok cs) : encodeList cs = taken ++ rest := by
  cases read with
  | error fault => cases h
  | ok tail =>
    cases h
    rw [encodeList_cons, hc, ih tail rfl]

/-- Bytes that are read are those of the text. -/
theorem encodeList_of_decodeAfter (valid : Nat) (bytes : List UInt8) :
    ∀ {cs : List Char}, decodeAfter valid bytes = .ok cs → encodeList cs = bytes := by
  fun_induction decodeAfter valid bytes with
  | case3 valid b rest hw ih =>
    intro cs h
    exact encodeList_of_step (encodeChar_ofNat_one (range_of_width_one hw)) (fun _ => ih) h
  | case5 valid b hw c rest hc ih =>
    intro cs h
    exact encodeList_of_step (encodeChar_ofNat_two (range_of_width_two hw) hc) (fun _ => ih) h
  | case9 valid b hw c hc d rest hd ih =>
    intro cs h
    exact encodeList_of_step (encodeChar_ofNat_three (range_of_width_three hw) hc hd)
      (fun _ => ih) h
  | case15 valid b w h1 h2 h3 hw c hc d hd e rest he ih =>
    intro cs h
    have hb : 0xF0 ≤ b.toNat ∧ b.toNat ≤ 0xF4 := range_of_width_four hw h1 h2 h3
    exact encodeList_of_step (encodeChar_ofNat_four hb hc hd he) (fun _ => ih) h
  | case1 =>
    intro cs h
    cases h
    rfl
  | _ =>
    intro cs h
    cases h

/-- A text comes back from its bytes. -/
theorem decode_encode (s : String) : decode (encode s) = .ok s := by
  rw [decode, decodeList, encode, decodeAfter_encodeList]
  exact congrArg Except.ok String.ofList_toList

/-- Bytes that are read are those of the text. -/
theorem encode_of_decode {bytes : List UInt8} {s : String} (h : decode bytes = .ok s) :
    encode s = bytes := by
  unfold decode decodeList at h
  cases hcs : decodeAfter 0 bytes with
  | error fault =>
    rw [hcs] at h
    cases h
  | ok cs =>
    rw [hcs] at h
    cases h
    rw [encode, String.toList_ofList]
    exact encodeList_of_decodeAfter 0 bytes hcs

/-- No two texts have the same bytes. -/
theorem encode_injective {s t : String} (h : encode s = encode t) : s = t := by
  have hs := decode_encode s
  rw [h, decode_encode] at hs
  exact (Except.ok.inj hs).symm

/-! ### Bytes of some sort -/

/-- Outside ASCII no byte of a character is one of ASCII. -/
theorem high_of_mem_encodeChar {c : Char} (hc : 0x7f < c.toNat) {b : UInt8}
    (hb : b ∈ String.utf8EncodeChar c) : 0x80 ≤ b.toNat := by
  have htail : ∀ n, 0x80 ≤ (UInt8.ofNat (n % 0x40 + 0x80)).toNat := by
    intro n
    rw [toNat_tail]
    omega
  by_cases h2 : c.toNat ≤ 0x7ff
  · rw [encodeChar_two hc h2, List.mem_cons, List.mem_singleton] at hb
    rcases hb with rfl | rfl
    · rw [toNat_byte (by omega)]
      omega
    · exact htail _
  by_cases h3 : c.toNat ≤ 0xffff
  · rw [encodeChar_three (by omega) h3, List.mem_cons, List.mem_cons, List.mem_singleton] at hb
    rcases hb with rfl | rfl | rfl
    · rw [toNat_byte (by omega)]
      omega
    · exact htail _
    · exact htail _
  · rw [encodeChar_four (by omega), List.mem_cons, List.mem_cons, List.mem_cons,
      List.mem_singleton] at hb
    rcases hb with rfl | rfl | rfl | rfl
    · rw [toNat_byte (by omega)]
      omega
    · exact htail _
    · exact htail _
    · exact htail _

/-- Bytes are all of some sort exactly if those of each character are. -/
theorem all_encode_iff {p : UInt8 → Bool} {q : Char → Prop} (s : String)
    (h : ∀ c, (∀ b ∈ String.utf8EncodeChar c, p b = true) ↔ q c) :
    (encode s).all p = true ↔ ∀ c ∈ s.toList, q c := by
  rw [List.all_eq_true, encode, encodeList]
  simp only [List.mem_flatMap, ← h]
  constructor
  · intro hall c hc b hb
    exact hall b ⟨c, hc, hb⟩
  · rintro hall b ⟨c, hc, hb⟩
    exact hall c hc b hb

end Utf8
end SignedHooks
