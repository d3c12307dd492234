/-
# What is wrong with bytes that are no text

The bytes of a character are one of four shapes (`Utf8.Sequence`), and every sequence of one
of these shapes is that of a character (`Utf8.sequence_iff`). So some bytes that a character
begins with, but not all of its bytes, are told apart from those that no byte could mend
(`Utf8.Begun`).

Bytes that are no text are a text, and behind it something that begins with no character. The
text is the longest in front (`Utf8.Front`). What stands behind it is the beginning of a
character, and the input ends there, or the beginning of one and a byte that no character has
at this place (`Utf8.Stops`). The fault gives the length of the text, and the length of the
beginning, which counts as one if it is empty (`Utf8.front_of_decode_error`).

Key definitions: `Utf8.Sequence`, `Utf8.Begun`, `Utf8.Stops`, `Utf8.Front`.
Key theorems: `Utf8.sequence_iff`, `Utf8.Stops.incomplete_iff`,
`Utf8.stopsBehind_of_decodeAfter`, `Utf8.front_of_decode_error`.
-/
import SignedHooks.Proofs.Utf8

namespace SignedHooks
namespace Utf8

/-! ### The bytes of a character -/

/-- The bytes of a character: none is written longer than needed, none is a surrogate and none
lies beyond the last one. -/
inductive Sequence : List UInt8 → Prop where
  /-- One byte. -/
  | one {b : UInt8} : b.toNat < 0x80 → Sequence [b]
  /-- Two bytes. -/
  | two {b c : UInt8} : 0xC2 ≤ b.toNat ∧ b.toNat ≤ 0xDF → isTail c = true → Sequence [b, c]
  /-- Three bytes. -/
  | three {b c d : UInt8} : 0xE0 ≤ b.toNat ∧ b.toNat ≤ 0xEF → isSecond b c = true →
      isTail d = true → Sequence [b, c, d]
  /-- Four bytes. -/
  | four {b c d e : UInt8} : 0xF0 ≤ b.toNat ∧ b.toNat ≤ 0xF4 → isSecond b c = true →
      isTail d = true → isTail e = true → Sequence [b, c, d, e]

theorem sequence_encodeChar (c : Char) : Sequence (String.utf8EncodeChar c) := by
  have hv := toNat_valid c
  by_cases h1 : c.toNat ≤ 0x7f
  · rw [encodeChar_one h1]
    exact .one (by rw [toNat_byte (by omega)]; omega)
  by_cases h2 : c.toNat ≤ 0x7ff
  · rw [encodeChar_two (by omega) h2]
    exact .two (by rw [toNat_byte (by omega)]; omega) (isTail_tail _)
  by_cases h3 : c.toNat ≤ 0xffff
  · have hb : (UInt8.ofNat (c.toNat / 4096 % 0x10 + 0xe0)).toNat = c.toNat / 4096 + 0xe0 := by
      rw [toNat_byte (by omega)]; omega
    have hsecond := toNat_tail (c.toNat / 64)
    rw [encodeChar_three (by omega) h3]
    exact .three (by omega) ((isSecond_iff _ _).mpr (by omega)) (isTail_tail _)
  have hb : (UInt8.ofNat (c.toNat / 262144 % 0x08 + 0xf0)).toNat = c.toNat / 262144 + 0xf0 := by
    rw [toNat_byte (by omega)]; omega
  have hsecond := toNat_tail (c.toNat / 4096)
  rw [encodeChar_four (by omega)]
  exact .four (by omega) ((isSecond_iff _ _).mpr (by omega)) (isTail_tail _) (isTail_tail _)

/-- The sequences are those of the characters. -/
theorem sequence_iff {bytes : List UInt8} :
    Sequence bytes ↔ ∃ c, String.utf8EncodeChar c = bytes := by
  constructor
  · intro h
    cases h with
    | one hb => exact ⟨_, encodeChar_ofNat_one hb⟩
    | two hb hc => exact ⟨_, encodeChar_ofNat_two hb hc⟩
    | three hb hc hd => exact ⟨_, encodeChar_ofNat_three hb hc hd⟩
    | four hb hc hd he => exact ⟨_, encodeChar_ofNat_four hb hc hd he⟩
  · rintro ⟨c, rfl⟩
    exact sequence_encodeChar c

/-- Some bytes that a character begins with, but not all of its bytes. -/
def Begun (bytes : List UInt8) : Prop :=
  bytes ≠ [] ∧ ∃ c more, more ≠ [] ∧ String.utf8EncodeChar c = bytes ++ more

theorem begun_of_sequence {bytes : List UInt8} (hbytes : bytes ≠ []) (more : List UInt8)
    (hmore : more ≠ []) (h : Sequence (bytes ++ more)) : Begun bytes :=
  let ⟨c, hc⟩ := sequence_iff.mp h
  ⟨hbytes, c, more, hmore, hc⟩

/-- For every first byte of a character of three or four there is a second one. -/
theorem exists_second (b : UInt8) : ∃ c, isSecond b c = true := by
  by_cases h : b.toNat = 0xE0 ∨ b.toNat = 0xF0
  · refine ⟨0xA0, (isSecond_iff _ _).mpr ?_⟩
    have hc : (0xA0 : UInt8).toNat = 0xA0 := rfl
    omega
  · refine ⟨0x80, (isSecond_iff _ _).mpr ?_⟩
    have hc : (0x80 : UInt8).toNat = 0x80 := rfl
    omega

theorem isTail_first : isTail 0x80 = true := by decide

section

variable {b c d : UInt8} {n : Nat}

/-- The first byte of a longer character begins one. -/
theorem begun_one (hb : width b = some n) (h1 : n ≠ 1) : Begun [b] := by
  obtain ⟨c, hc⟩ := exists_second b
  rcases range_of_width hb with ⟨hn, -⟩ | ⟨-, hb⟩ | ⟨-, hb⟩ | ⟨-, hb⟩
  · exact absurd hn h1
  · exact begun_of_sequence nofun [0x80] nofun (.two hb isTail_first)
  · exact begun_of_sequence nofun [c, 0x80] nofun (.three hb hc isTail_first)
  · exact begun_of_sequence nofun [c, 0x80, 0x80] nofun (.four hb hc isTail_first isTail_first)

/-- So do the first two bytes of a character that is longer still. -/
theorem begun_two (hb : width b = some n) (h1 : n ≠ 1) (h2 : n ≠ 2) (hc : isSecond b c = true) :
    Begun [b, c] := by
  rcases range_of_width hb with ⟨hn, -⟩ | ⟨hn, -⟩ | ⟨-, hb⟩ | ⟨-, hb⟩
  · exact absurd hn h1
  · exact absurd hn h2
  · exact begun_of_sequence nofun [0x80] nofun (.three hb hc isTail_first)
  · exact begun_of_sequence nofun [0x80, 0x80] nofun (.four hb hc isTail_first isTail_first)

/-- So do the first three bytes of one of the longest. -/
theorem begun_three (hb : width b = some n) (h1 : n ≠ 1) (h2 : n ≠ 2) (h3 : n ≠ 3)
    (hc : isSecond b c = true) (hd : isTail d = true) : Begun [b, c, d] :=
  begun_of_sequence nofun [0x80] nofun (.four (range_of_width_four hb h1 h2 h3) hc hd isTail_first)

end

/-! ### Characters in front of some bytes -/

/-- The bytes of no character go on behind those of another. -/
theorem encodeChar_eq_append {c c' : Char} {more : List UInt8}
    (h : String.utf8EncodeChar c' = String.utf8EncodeChar c ++ more) : c' = c ∧ more = [] := by
  have hc := decodeAfter_encodeList [c'] 0
  rw [encodeList_cons, encodeList_nil, List.append_nil, h, decodeAfter_encodeChar] at hc
  cases hmore : decodeAfter (0 + (String.utf8EncodeChar c).length) more with
  | error fault =>
    rw [hmore] at hc
    cases hc
  | ok cs =>
    rw [hmore] at hc
    cases hc
    exact ⟨rfl, (encodeList_of_decodeAfter _ _ hmore).symm⟩

/-- Some bytes begin with one character at most. -/
theorem encodeChar_append_inj {c c' : Char} {rest rest' : List UInt8}
    (h : String.utf8EncodeChar c ++ rest = String.utf8EncodeChar c' ++ rest') :
    c = c' ∧ rest = rest' := by
  rcases List.append_eq_append_iff.mp h with ⟨more, hc, hrest⟩ | ⟨more, hc, hrest⟩
  · obtain ⟨rfl, rfl⟩ := encodeChar_eq_append hc
    exact ⟨rfl, by simpa using hrest⟩
  · obtain ⟨rfl, rfl⟩ := encodeChar_eq_append hc
    exact ⟨rfl, by simpa using hrest.symm⟩

/-- No character stands in front. -/
def Blocked (rest : List UInt8) : Prop :=
  ∀ c more, rest ≠ String.utf8EncodeChar c ++ more

/-- Where no character stands in front there is no longer text. -/
theorem length_encodeList_le {rest : List UInt8} (hrest : Blocked rest) :
    ∀ {cs cs' : List Char} {more : List UInt8}, encodeList cs ++ rest = encodeList cs' ++ more →
      (encodeList cs').length ≤ (encodeList cs).length
  | _, [], _, _ => Nat.zero_le _
  | [], c' :: cs', more, h => by
    rw [encodeList_nil, List.nil_append, encodeList_cons, List.append_assoc] at h
    exact absurd h (hrest c' _)
  | c :: cs, c' :: cs', more, h => by
    simp only [encodeList_cons, List.append_assoc] at h
    obtain ⟨rfl, htail⟩ := encodeChar_append_inj h
    have hle := length_encodeList_le hrest htail
    simp only [encodeList_cons, List.length_append]
    omega

theorem Begun.blocked {bytes : List UInt8} (h : Begun bytes) : Blocked bytes := by
  rintro c more rfl
  obtain ⟨-, c', behind, hbehind, hc'⟩ := h
  rw [List.append_assoc] at hc'
  exact hbehind (List.append_eq_nil_iff.mp (encodeChar_eq_append hc').2).2

/-! ### Where reading stops -/

/-- What the fault says of `rest`, which stands behind `index` bytes of a text: the input ends
within a character, or a byte is met that no character has behind those in front of it. -/
inductive Stops (index : Nat) : List UInt8 → Fault → Prop where
  /-- The input ends within a character. -/
  | cut {rest : List UInt8} : Begun rest → Stops index rest (.incomplete index)
  /-- No character goes on with the byte behind `start`. -/
  | ruledOut {start behind : List UInt8} {b : UInt8} : start = [] ∨ Begun start →
      (∀ c more, String.utf8EncodeChar c ≠ start ++ b :: more) →
      Stops index (start ++ b :: behind) (.invalid index (max 1 start.length))

variable {index : Nat} {rest : List UInt8} {fault : Fault}

/-- Reading stops only where no character stands in front. -/
theorem Stops.blocked (h : Stops index rest fault) : Blocked rest := by
  cases h with
  | cut hbegun => exact hbegun.blocked
  | @ruledOut start behind b hstart hnone =>
    have hshort : ∀ c more, start ≠ String.utf8EncodeChar c ++ more := by
      rcases hstart with rfl | hbegun
      · intro c more heq
        exact String.utf8EncodeChar_ne_nil (List.append_eq_nil_iff.mp heq.symm).1
      · exact hbegun.blocked
    intro c more heq
    rcases List.append_eq_append_iff.mp heq with ⟨mid, hc, hmid⟩ | ⟨mid, hc, -⟩
    · cases mid with
      | nil => exact hshort c [] (by rw [hc, List.append_nil, List.append_nil])
      | cons d mid =>
        obtain ⟨rfl, -⟩ := List.cons.inj hmid
        exact hnone c mid hc
    · exact hshort c mid hc

/-- The input ends within a character exactly if what stands behind the text is the beginning
of one. -/
theorem Stops.incomplete_iff (h : Stops index rest fault) :
    fault = .incomplete index ↔ Begun rest := by
  cases h with
  | cut hbegun => exact ⟨fun _ => hbegun, fun _ => rfl⟩
  | ruledOut _ hnone =>
    constructor
    · intro heq
      cases heq
    · rintro ⟨-, c, more, -, hc⟩
      rw [List.append_assoc] at hc
      exact absurd hc (hnone c _)

/-! ### Bytes of a sequence -/

section

variable {b c d e : UInt8} {n : Nat} {more : List UInt8}

theorem Sequence.width_ne_none (h : Sequence (b :: more)) : width b ≠ none := by
  intro hnone
  rw [width_eq] at hnone
  split_ifs at hnone
  cases h <;> omega

theorem Sequence.isTail_second (h : Sequence (b :: c :: more)) (hb : width b = some 2) :
    isTail c = true := by
  have hrange := range_of_width_two hb
  cases h with
  | two _ hc => exact hc
  | three hb' _ _ => omega
  | four hb' _ _ _ => omega

theorem Sequence.isSecond (h : Sequence (b :: c :: more)) (hb : width b = some n) (hn : n ≠ 2) :
    isSecond b c = true := by
  have hrange := range_of_width hb
  cases h with
  | two hb' _ =>
    have htwo : n = 2 := by omega
    exact absurd htwo hn
  | three _ hc _ => exact hc
  | four _ hc _ _ => exact hc

theorem Sequence.isTail_third (h : Sequence (b :: c :: d :: more)) : isTail d = true := by
  cases h with
  | three _ _ hd => exact hd
  | four _ _ hd _ => exact hd

theorem Sequence.isTail_fourth (h : Sequence (b :: c :: d :: e :: more)) : isTail e = true := by
  cases h with
  | four _ _ _ he => exact he

end

/-! ### Every fault -/

/-- Some bytes are a text, which stands behind `valid` bytes more, and what the fault is
about. -/
def StopsBehind (valid : Nat) (bytes : List UInt8) (fault : Fault) : Prop :=
  ∃ cs rest, bytes = encodeList cs ++ rest ∧ Stops (valid + (encodeList cs).length) rest fault

variable {valid : Nat}

theorem stopsBehind_cut {rest : List UInt8} (h : Begun rest) :
    StopsBehind valid rest (.incomplete valid) :=
  ⟨[], rest, rfl, .cut h⟩

theorem stopsBehind_ruledOut (start behind : List UInt8) {b : UInt8}
    (hstart : start = [] ∨ Begun start) (hnone : ∀ more, ¬ Sequence (start ++ b :: more)) :
    StopsBehind valid (start ++ b :: behind) (.invalid valid (max 1 start.length)) :=
  ⟨[], _, rfl, .ruledOut hstart fun c more hc => hnone more (sequence_iff.mpr ⟨c, hc⟩)⟩

/-- A fault behind one character more. -/
theorem StopsBehind.of_step {read : Except Fault (List Char)} {c : Char} {taken rest : List UInt8}
    (hc : String.utf8EncodeChar c = taken)
    (ih : ∀ {fault}, read = .error fault → StopsBehind (valid + taken.length) rest fault)
    (h : (do let cs ← read; return c :: cs) = .error fault) :
    StopsBehind valid (taken ++ rest) fault := by
  cases read with
  | ok cs => cases h
  | error bad =>
    cases h
    obtain ⟨cs, behind, rfl, hstops⟩ := ih rfl
    refine ⟨c :: cs, behind, ?_, ?_⟩
    · rw [encodeList_cons, hc, List.append_assoc]
    · rw [encodeList_cons, hc, List.length_append, ← Nat.add_assoc]
      exact hstops

/-- Bytes that cannot be read are a text, and behind it what the fault is about. -/
theorem stopsBehind_of_decodeAfter (valid : Nat) (bytes : List UInt8) :
    ∀ {fault : Fault}, decodeAfter valid bytes = .error fault → StopsBehind valid bytes fault := by
  fun_induction decodeAfter valid bytes with
  | case1 =>
    intro fault h
    cases h
  | case2 valid b rest hw =>
    intro fault h
    cases h
    exact stopsBehind_ruledOut [] rest (.inl rfl) fun _ hs => hs.width_ne_none hw
  | case3 valid b rest hw ih =>
    intro fault h
    exact .of_step (encodeChar_ofNat_one (range_of_width_one hw)) ih h
  -- A character of two bytes.
  | case4 valid b hw =>
    intro fault h
    cases h
    exact stopsBehind_cut (begun_one hw (by decide))
  | case5 valid b hw c rest hc ih =>
    intro fault h
    exact .of_step (encodeChar_ofNat_two (range_of_width_two hw) hc) ih h
  | case6 valid b hw c rest hc =>
    intro fault h
    cases h
    exact stopsBehind_ruledOut [b] rest (.inr (begun_one hw (by decide))) fun _ hs =>
      hc (hs.isTail_second hw)
  -- A character of three bytes.
  | case7 valid b hw =>
    intro fault h
    cases h
    exact stopsBehind_cut (begun_one hw (by decide))
  | case8 valid b hw c hc =>
    intro fault h
    cases h
    exact stopsBehind_cut (begun_two hw (by decide) (by decide) hc)
  | case9 valid b hw c hc d rest hd ih =>
    intro fault h
    exact .of_step (encodeChar_ofNat_three (range_of_width_three hw) hc hd) ih h
  | case10 valid b hw c hc d rest hd =>
    intro fault h
    cases h
    have hbegun : Begun [b, c] := begun_two hw (by decide) (by decide) hc
    exact stopsBehind_ruledOut [b, c] rest (.inr hbegun) fun _ hs => hd hs.isTail_third
  | case11 valid b hw c rest hc =>
    intro fault h
    cases h
    exact stopsBehind_ruledOut [b] rest (.inr (begun_one hw (by decide))) fun _ hs =>
      hc (hs.isSecond hw (by decide))
  -- A character of four bytes.
  | case12 valid b n h1 h2 h3 hw =>
    intro fault h
    cases h
    exact stopsBehind_cut (begun_one hw h1)
  | case13 valid b n h1 h2 h3 hw c hc =>
    intro fault h
    cases h
    exact stopsBehind_cut (begun_two hw h1 h2 hc)
  | case14 valid b n h1 h2 h3 hw c hc d hd =>
    intro fault h
    cases h
    exact stopsBehind_cut (begun_three hw h1 h2 h3 hc hd)
  | case15 valid b n h1 h2 h3 hw c hc d hd e rest he ih =>
    intro fault h
    exact .of_step (encodeChar_ofNat_four (range_of_width_four hw h1 h2 h3) hc hd he) ih h
  | case16 valid b n h1 h2 h3 hw c hc d hd e rest he =>
    intro fault h
    cases h
    exact stopsBehind_ruledOut [b, c, d] rest (.inr (begun_three hw h1 h2 h3 hc hd)) fun _ hs =>
      he hs.isTail_fourth
  | case17 valid b n h1 h2 h3 hw c hc d rest hd =>
    intro fault h
    cases h
    exact stopsBehind_ruledOut [b, c] rest (.inr (begun_two hw h1 h2 hc)) fun _ hs =>
      hd hs.isTail_third
  | case18 valid b n h1 h2 h3 hw c rest hc =>
    intro fault h
    cases h
    exact stopsBehind_ruledOut [b] rest (.inr (begun_one hw h1)) fun _ hs =>
      hc (hs.isSecond hw h2)

/-! ### The longest text in front -/

/-- `front` is the longest text that some bytes begin with, and `rest` stands behind it. -/
structure Front (bytes : List UInt8) (front : String) (rest : List UInt8) : Prop where
  /-- The bytes are those of the text and the rest. -/
  bytes_eq : bytes = encode front ++ rest
  /-- No text in front has more bytes. -/
  longest : ∀ s more, bytes = encode s ++ more → (encode s).length ≤ (encode front).length

/-- Bytes that are no text have a longest text in front, and the fault is about what stands
behind it. -/
theorem front_of_decode_error {bytes : List UInt8} (h : decode bytes = .error fault) :
    ∃ front rest, Front bytes front rest ∧ Stops (encode front).length rest fault := by
  have hlist : decodeAfter 0 bytes = .error fault := by
    rw [decode, decodeList] at h
    cases hcs : decodeAfter 0 bytes with
    | ok cs =>
      rw [hcs] at h
      cases h
    | error bad =>
      rw [hcs] at h
      cases h
      rfl
  obtain ⟨cs, rest, rfl, hstops⟩ := stopsBehind_of_decodeAfter 0 bytes hlist
  have hfront : encode (String.ofList cs) = encodeList cs := by rw [encode, String.toList_ofList]
  rw [Nat.zero_add] at hstops
  refine ⟨String.ofList cs, rest, ⟨by rw [hfront], ?_⟩, by rwa [hfront]⟩
  intro s more heq
  rw [hfront]
  exact length_encodeList_le hstops.blocked heq

end Utf8
end SignedHooks
