import Mathlib.Data.Char
import Mathlib.Data.UInt

/-!
# UTF-8 over lists of bytes

The encoding of a list of characters, on top of `String.utf8EncodeChar`, for programs that handle
bytes.

`encodeChar_two`, `encodeChar_three` and `encodeChar_four` are the well-formed sequences of two to
four bytes: each is the encoding of the character its low bits spell. The bytes of a character
beyond ASCII are all beyond ASCII (`le_of_mem_encodeChar`), so a scanner for ASCII bytes may ignore
the encoding. `decode` is the strict decoder, the inverse of `encode` on what it accepts. -/

namespace Utf8

open String (utf8EncodeChar)

variable {c : Char} {cs : List Char} {bytes : List UInt8} {n : ℕ} {b b₀ b₁ : UInt8}

/-- The bytes of a list of characters. -/
def encode (cs : List Char) : List UInt8 := cs.flatMap utf8EncodeChar

@[simp] theorem encode_nil : encode [] = [] := rfl

@[simp] theorem encode_cons (c : Char) (cs : List Char) :
    encode (c :: cs) = utf8EncodeChar c ++ encode cs := List.flatMap_cons

@[simp] theorem encode_append (cs ds : List Char) : encode (cs ++ ds) = encode cs ++ encode ds :=
  List.flatMap_append

theorem encodeChar_ascii (h : c.toNat ≤ 0x7F) :
    utf8EncodeChar c = [UInt8.ofNat c.toNat] := if_pos h

/-- The bytes of ASCII characters. -/
theorem encode_ascii (h : ∀ c ∈ cs, c.toNat ≤ 0x7F) :
    encode cs = cs.map fun c ↦ UInt8.ofNat c.toNat := by
  induction cs with
  | nil => rfl
  | cons c cs ih =>
    rw [encode_cons, encodeChar_ascii (h c List.mem_cons_self),
      ih fun d hd ↦ h d (List.mem_cons_of_mem c hd)]
    rfl

/-- What is said of a byte is decided by going through all of them. -/
theorem forall_byte {p : UInt8 → Prop} (h : ∀ n < 256, p (UInt8.ofNat n)) (b : UInt8) : p b :=
  UInt8.ofNat_toNat (x := b) ▸ h b.toNat b.toNat_lt

/-- The characters that bytes are the encoding of, if they are: no overlong form, no surrogate. -/
def decode (bytes : List UInt8) : Option (List Char) :=
  bytes.toByteArray.utf8Decode?.map Array.toList

theorem decode_encode (cs : List Char) : decode (encode cs) = some cs :=
  congrArg (Option.map Array.toList) (List.utf8Decode?_utf8Encode (l := cs))

theorem encode_of_decode (h : decode bytes = some cs) : encode cs = bytes := by
  obtain ⟨decoded, hdecoded, rfl⟩ := Option.map_eq_some_iff.mp h
  have hsome : bytes.toByteArray.utf8Decode?.isSome := by rw [hdecoded]; rfl
  have hbytes := ByteArray.utf8Encode_get_utf8Decode? (h := hsome)
  rw [Option.get_of_eq_some hsome hdecoded] at hbytes
  have hdata := congrArg (fun b : ByteArray ↦ b.data.toList) hbytes
  simpa [List.utf8Encode, encode] using hdata

theorem encode_injective : Function.Injective encode := fun cs ds h ↦ by
  have hdecoded := congrArg decode h
  rw [decode_encode, decode_encode] at hdecoded
  exact Option.some.inj hdecoded

theorem toNat_lt (c : Char) : c.toNat < 0x110000 := by
  rcases c.valid with h | ⟨-, h⟩
  · exact h.trans (by decide)
  · exact h

/-- The bytes of a character beyond ASCII are beyond ASCII. -/
theorem le_of_mem_encodeChar (h : 0x7F < c.toNat) (hb : b ∈ utf8EncodeChar c) : 0x80 ≤ b := by
  have hlt := toNat_lt c
  have hle : ∀ n, 0x80 ≤ n → n < 256 → (0x80 : UInt8) ≤ UInt8.ofNat n := by
    intro n hge hn
    rw [UInt8.le_iff_toNat_le, UInt8.toNat_ofNat_of_lt' hn]
    exact hge
  rw [String.utf8EncodeChar, if_neg (show ¬ c.val.toNat ≤ 0x7F from not_le.mpr h)] at hb
  replace hlt : c.val.toNat < 0x110000 := hlt
  generalize c.val.toNat = n at hb hlt
  split_ifs at hb
  · simp only [List.mem_cons, List.not_mem_nil, or_false] at hb
    rcases hb with rfl | rfl
    · exact hle _ (by omega) (by omega)
    · exact hle _ (by omega) (by omega)
  · simp only [List.mem_cons, List.not_mem_nil, or_false] at hb
    rcases hb with rfl | rfl | rfl
    · exact hle _ (by omega) (by omega)
    · exact hle _ (by omega) (by omega)
    · exact hle _ (by omega) (by omega)
  · simp only [List.mem_cons, List.not_mem_nil, or_false] at hb
    rcases hb with rfl | rfl | rfl | rfl
    · exact hle _ (by omega) (by omega)
    · exact hle _ (by omega) (by omega)
    · exact hle _ (by omega) (by omega)
    · exact hle _ (by omega) (by omega)

/-- An ASCII byte of an encoding is the one of a character. -/
theorem mem_of_mem_encode (hc : c.toNat ≤ 0x7F) (h : UInt8.ofNat c.toNat ∈ encode cs) : c ∈ cs := by
  have hnat : ∀ d : Char, d.toNat ≤ 0x7F → (UInt8.ofNat d.toNat).toNat = d.toNat :=
    fun d hd ↦ UInt8.toNat_ofNat_of_lt' (show d.toNat < 256 by omega)
  obtain ⟨d, hd, hmem⟩ := List.mem_flatMap.mp h
  rcases Nat.lt_or_ge 0x7F d.toNat with hbeyond | hascii
  · have hle := UInt8.le_iff_toNat_le.mp (le_of_mem_encodeChar hbeyond hmem)
    have hbound : (0x80 : UInt8).toNat = 0x80 := rfl
    have hbyte := hnat c hc
    omega
  · rw [encodeChar_ascii hascii, List.mem_singleton] at hmem
    have heq := congrArg UInt8.toNat hmem
    rw [hnat c hc, hnat d hascii] at heq
    exact Char.toNat_inj.mp heq ▸ hd

theorem encode_intercalate (sep : List Char) (parts : List (List Char)) :
    encode (sep.intercalate parts) = (encode sep).intercalate (parts.map encode) := by
  induction parts with
  | nil => rfl
  | cons part parts ih =>
    cases parts with
    | nil => simp
    | cons next parts =>
      rw [List.intercalate_cons_cons, encode_append, encode_append, ih, List.map_cons,
        List.map_cons,
        List.map_cons, List.intercalate_cons_cons]

/-- A byte after the first of a character. -/
def IsTail (b : UInt8) : Prop := 0x80 ≤ b.toNat ∧ b.toNat ≤ 0xBF

theorem toNat_ofNat (h : n < 0xD800 ∨ 0xDFFF < n ∧ n < 0x110000) :
    (Char.ofNat n).val.toNat = n := by
  have hvalid : n.isValidChar := h
  rw [Char.ofNat, dif_pos hvalid]
  rfl

theorem ofNat_eq (h : n = b.toNat) : UInt8.ofNat n = b := by
  rw [h, UInt8.ofNat_toNat]

/-- The encodings of two bytes. -/
theorem encodeChar_two (h₀ : 0xC2 ≤ b₀.toNat) (h₀' : b₀.toNat ≤ 0xDF) (h₁ : IsTail b₁) :
    utf8EncodeChar (Char.ofNat (b₀.toNat % 32 * 64 + b₁.toNat % 64)) = [b₀, b₁] := by
  obtain ⟨h₁, h₁'⟩ := h₁
  rw [String.utf8EncodeChar, toNat_ofNat (.inl (by omega)), if_neg (by omega), if_pos (by omega),
    ofNat_eq (b := b₀) (by omega), ofNat_eq (b := b₁) (by omega)]

/-- The encodings of three bytes; the second byte is bounded where the first could begin an overlong
sequence or a surrogate. -/
theorem encodeChar_three {b₂ : UInt8} (h₀ : 0xE0 ≤ b₀.toNat) (h₀' : b₀.toNat ≤ 0xEF)
    (h₁ : IsTail b₁) (h₂ : IsTail b₂) (hoverlong : b₀.toNat = 0xE0 → 0xA0 ≤ b₁.toNat)
    (hsurrogate : b₀.toNat = 0xED → b₁.toNat < 0xA0) :
    utf8EncodeChar (Char.ofNat (b₀.toNat % 16 * 4096 + b₁.toNat % 64 * 64 + b₂.toNat % 64)) =
      [b₀, b₁, b₂] := by
  obtain ⟨h₁, h₁'⟩ := h₁
  obtain ⟨h₂, h₂'⟩ := h₂
  rw [String.utf8EncodeChar, toNat_ofNat (by omega), if_neg (by omega), if_neg (by omega),
    if_pos (by omega), ofNat_eq (b := b₀) (by omega), ofNat_eq (b := b₁) (by omega),
    ofNat_eq (b := b₂) (by omega)]

/-- The encodings of four bytes; the second byte is bounded where the first could begin an overlong
sequence or one beyond the last character. -/
theorem encodeChar_four {b₂ b₃ : UInt8} (h₀ : 0xF0 ≤ b₀.toNat) (h₀' : b₀.toNat ≤ 0xF4)
    (h₁ : IsTail b₁) (h₂ : IsTail b₂) (h₃ : IsTail b₃)
    (hoverlong : b₀.toNat = 0xF0 → 0x90 ≤ b₁.toNat) (hlast : b₀.toNat = 0xF4 → b₁.toNat < 0x90) :
    utf8EncodeChar (Char.ofNat (b₀.toNat % 8 * 262144 + b₁.toNat % 64 * 4096 + b₂.toNat % 64 * 64 +
      b₃.toNat % 64)) = [b₀, b₁, b₂, b₃] := by
  obtain ⟨h₁, h₁'⟩ := h₁
  obtain ⟨h₂, h₂'⟩ := h₂
  obtain ⟨h₃, h₃'⟩ := h₃
  rw [String.utf8EncodeChar, toNat_ofNat (by omega), if_neg (by omega), if_neg (by omega),
    if_neg (by omega), ofNat_eq (b := b₀) (by omega), ofNat_eq (b := b₁) (by omega),
    ofNat_eq (b := b₂) (by omega), ofNat_eq (b := b₃) (by omega)]

/-- The sequences of two to four bytes that encode a character, with the number of the character. -/
inductive Sequence : List UInt8 → ℕ → Prop
  | two {b₀ b₁ : UInt8} (h₀ : 0xC2 ≤ b₀.toNat) (h₀' : b₀.toNat ≤ 0xDF) (h₁ : IsTail b₁) :
      Sequence [b₀, b₁] (b₀.toNat % 32 * 64 + b₁.toNat % 64)
  | three {b₀ b₁ b₂ : UInt8} (h₀ : 0xE0 ≤ b₀.toNat) (h₀' : b₀.toNat ≤ 0xEF) (h₁ : IsTail b₁)
      (h₂ : IsTail b₂) (hoverlong : b₀.toNat = 0xE0 → 0xA0 ≤ b₁.toNat)
      (hsurrogate : b₀.toNat = 0xED → b₁.toNat < 0xA0) :
      Sequence [b₀, b₁, b₂] (b₀.toNat % 16 * 4096 + b₁.toNat % 64 * 64 + b₂.toNat % 64)
  | four {b₀ b₁ b₂ b₃ : UInt8} (h₀ : 0xF0 ≤ b₀.toNat) (h₀' : b₀.toNat ≤ 0xF4) (h₁ : IsTail b₁)
      (h₂ : IsTail b₂) (h₃ : IsTail b₃) (hoverlong : b₀.toNat = 0xF0 → 0x90 ≤ b₁.toNat)
      (hlast : b₀.toNat = 0xF4 → b₁.toNat < 0x90) :
      Sequence [b₀, b₁, b₂, b₃] (b₀.toNat % 8 * 262144 + b₁.toNat % 64 * 4096 +
        b₂.toNat % 64 * 64 + b₃.toNat % 64)

theorem Sequence.encodeChar (h : Sequence bytes n) : utf8EncodeChar (Char.ofNat n) = bytes := by
  cases h with
  | two h₀ h₀' h₁ => exact encodeChar_two h₀ h₀' h₁
  | three h₀ h₀' h₁ h₂ ho hs => exact encodeChar_three h₀ h₀' h₁ h₂ ho hs
  | four h₀ h₀' h₁ h₂ h₃ ho hl => exact encodeChar_four h₀ h₀' h₁ h₂ h₃ ho hl

/-- A sequence of more than one byte is of a character beyond ASCII. -/
theorem Sequence.lt (h : Sequence bytes n) : 0x7F < n := by
  cases h with
  | two h₀ h₀' h₁ => omega
  | three h₀ h₀' h₁ h₂ ho hs =>
    obtain ⟨h₁, h₁'⟩ := h₁
    omega
  | four h₀ h₀' h₁ h₂ h₃ ho hl =>
    obtain ⟨h₁, h₁'⟩ := h₁
    omega

/-- The encoding of a character beyond ASCII is such a sequence. -/
theorem sequence_encodeChar (h : 0x7F < c.toNat) : Sequence (utf8EncodeChar c) c.toNat := by
  have hvalid : c.val.toNat < 0xD800 ∨ 0xDFFF < c.val.toNat ∧ c.val.toNat < 0x110000 := c.valid
  have hbyte : ∀ n < 256, (UInt8.ofNat n).toNat = n := fun n hn ↦ UInt8.toNat_ofNat_of_lt' hn
  rw [String.utf8EncodeChar, if_neg (show ¬ c.val.toNat ≤ 0x7F from not_le.mpr h)]
  change 0x7F < c.val.toNat at h
  change Sequence _ c.val.toNat
  generalize c.val.toNat = n at h hvalid
  have hcongr : ∀ {bytes : List UInt8} {m : ℕ}, Sequence bytes m → m = n → Sequence bytes n := by
    rintro _ _ hsequence rfl
    exact hsequence
  have hlast := hbyte (n % 64 + 0x80) (by omega)
  have hsecond := hbyte (n / 64 % 64 + 0x80) (by omega)
  split_ifs with htwo hthree
  · have hlead := hbyte (n / 64 % 32 + 0xC0) (by omega)
    refine hcongr (.two ?_ ?_ ⟨?_, ?_⟩) ?_
    all_goals omega
  · have hlead := hbyte (n / 4096 % 16 + 0xE0) (by omega)
    refine hcongr (.three ?_ ?_ ⟨?_, ?_⟩ ⟨?_, ?_⟩ ?_ ?_) ?_
    all_goals omega
  · have hlead := hbyte (n / 262144 % 8 + 0xF0) (by omega)
    have hthird := hbyte (n / 4096 % 64 + 0x80) (by omega)
    refine hcongr (.four ?_ ?_ ⟨?_, ?_⟩ ⟨?_, ?_⟩ ⟨?_, ?_⟩ ?_ ?_) ?_
    all_goals omega

/-- An ASCII byte is the encoding of a character. -/
theorem encodeChar_ofNat (h : b.toNat ≤ 0x7F) : utf8EncodeChar (Char.ofNat b.toNat) = [b] := by
  have hc : (Char.ofNat b.toNat).toNat = b.toNat := toNat_ofNat (.inl (by omega))
  rw [encodeChar_ascii (hc.trans_le h), hc, UInt8.ofNat_toNat]

/-- An ASCII byte is in the encoding of its character only. -/
theorem mem_encodeChar_iff (hb : b.toNat ≤ 0x7F) :
    b ∈ utf8EncodeChar c ↔ c = Char.ofNat b.toNat := by
  constructor
  · intro hmem
    rcases Nat.lt_or_ge 0x7F c.toNat with hbeyond | hascii
    · have hle := UInt8.le_iff_toNat_le.mp (le_of_mem_encodeChar hbeyond hmem)
      have hbound : (0x80 : UInt8).toNat = 0x80 := rfl
      omega
    · rw [encodeChar_ascii hascii, List.mem_singleton] at hmem
      rw [hmem, UInt8.toNat_ofNat_of_lt' (show c.toNat < 256 by omega), Char.ofNat_toNat]
  · rintro rfl
    rw [encodeChar_ofNat hb]
    exact List.mem_singleton_self b

/-- What is done to every byte is done to every character, if only ASCII bytes are changed. -/
theorem flatMap_encode {f : UInt8 → List UInt8} {g : Char → List Char}
    (hbytes : ∀ b, 0x80 ≤ b → f b = [b]) (hchars : ∀ c : Char, 0x7F < c.toNat → g c = [c])
    (hascii : ∀ c ∈ cs, c.toNat ≤ 0x7F → f (UInt8.ofNat c.toNat) = encode (g c)) :
    (encode cs).flatMap f = encode (cs.flatMap g) := by
  induction cs with
  | nil => rfl
  | cons c cs ih =>
    obtain ⟨hc, hcs⟩ := List.forall_mem_cons.mp hascii
    have hchar : (utf8EncodeChar c).flatMap f = encode (g c) := by
      rcases Nat.lt_or_ge 0x7F c.toNat with hbeyond | hle
      · rw [hchars c hbeyond, encode_cons, encode_nil, List.append_nil,
          List.flatMap_congr fun b hb ↦ hbytes b (le_of_mem_encodeChar hbeyond hb),
          List.flatMap_singleton']
      · rw [encodeChar_ascii hle, List.flatMap_singleton, hc hle]
    rw [encode_cons, List.flatMap_append, hchar, ih hcs, List.flatMap_cons, encode_append]

/-- The well-formed sequences, with the number of the character. -/
inductive WellFormed : List UInt8 → ℕ → Prop
  | one {b : UInt8} (h : b.toNat ≤ 0x7F) : WellFormed [b] b.toNat
  | more {bytes : List UInt8} {n : ℕ} (h : Sequence bytes n) : WellFormed bytes n

theorem wellFormed_encodeChar (c : Char) : WellFormed (utf8EncodeChar c) c.toNat := by
  rcases Nat.lt_or_ge 0x7F c.toNat with hbeyond | hascii
  · exact .more (sequence_encodeChar hbeyond)
  · have hbyte : (UInt8.ofNat c.toNat).toNat = c.toNat :=
      UInt8.toNat_ofNat_of_lt' (show c.toNat < 256 by omega)
    have hone := WellFormed.one (b := UInt8.ofNat c.toNat) (hbyte.trans_le hascii)
    rwa [hbyte, ← encodeChar_ascii hascii] at hone

theorem WellFormed.encodeChar (h : WellFormed bytes n) : utf8EncodeChar (Char.ofNat n) = bytes := by
  rcases h with h | h
  · exact encodeChar_ofNat h
  · exact h.encodeChar

theorem Sequence.isValidChar (h : Sequence bytes n) : n < 0xD800 ∨ 0xDFFF < n ∧ n < 0x110000 := by
  rcases h with ⟨h₀, h₀', h₁, h₁'⟩ | ⟨h₀, h₀', ⟨h₁, h₁'⟩, ⟨h₂, h₂'⟩, ho, hs⟩ |
    ⟨h₀, h₀', ⟨h₁, h₁'⟩, ⟨h₂, h₂'⟩, ⟨h₃, h₃'⟩, ho, hl⟩
  · omega
  · omega
  · omega

/-- **The well-formed sequences are the encodings of characters.** -/
theorem wellFormed_iff :
    WellFormed bytes n ↔ ∃ c : Char, c.toNat = n ∧ utf8EncodeChar c = bytes := by
  constructor
  · intro h
    refine ⟨Char.ofNat n, toNat_ofNat ?_, h.encodeChar⟩
    rcases h with h | h
    · exact .inl (by omega)
    · exact h.isValidChar
  · rintro ⟨c, rfl, rfl⟩
    exact wellFormed_encodeChar c

/-- Any bytes are read off from the front, a character or a byte at a time: the byte is one that no
character begins with there. -/
@[elab_as_elim]
theorem induct {P : List UInt8 → Prop} (nil : P [])
    (char : ∀ c rest, P rest → P (utf8EncodeChar c ++ rest))
    (malformed : ∀ b rest, (∀ c, ¬ utf8EncodeChar c <+: b :: rest) → P rest → P (b :: rest))
    (bytes : List UInt8) : P bytes := by
  induction hlength : bytes.length using Nat.strong_induction_on generalizing bytes with
  | h n ih =>
    by_cases hchar : ∃ c, utf8EncodeChar c <+: bytes
    · obtain ⟨c, rest, rfl⟩ := hchar
      have hpos := List.length_pos_of_ne_nil (String.utf8EncodeChar_ne_nil (c := c))
      rw [List.length_append] at hlength
      exact char c rest (ih rest.length (by omega) rest rfl)
    · rcases bytes with _ | ⟨b, rest⟩
      · exact nil
      · rw [List.length_cons] at hlength
        exact malformed b rest (not_exists.mp hchar) (ih rest.length (by omega) rest rfl)

end Utf8
