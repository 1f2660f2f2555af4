import Skan.Core.TextSafety

/-!
# What the sanitizers repair

`decode_utf8` accepts the well-formed sequences of RFC 3629 and no others (`decodeUtf8_eq_iff`). The
sanitizers read any bytes off from the front, a character or a malformed byte at a time
(`sanitize_encodeChar`, `sanitize_malformed`): a character that is not allowed and a malformed byte
each become a question mark, and everything else is copied. So the result is clean, and clean text
is left as it is.

**Where the repair gets back in step** is decided by the library's `Utf8.induct`: behind a malformed
byte the next byte may begin a character.
-/

namespace Skan.Core.Text

open Utf8 String

variable {b b₀ b₁ : UInt8} {text : Text}

/-! ### Code points -/

theorem toNat_bits {mask : UInt8} {shift : UInt32} {n k : ℕ} (hmask : mask.toNat = 2 ^ n - 1)
    (hshift : shift.toNat = k) (hn : n ≤ 8) (hk : k ≤ 18) :
    (bits b mask shift).toNat = b.toNat % 2 ^ n * 2 ^ k := by
  have hpow : 2 ^ n ≤ 2 ^ 8 := Nat.pow_le_pow_right (by decide) hn
  have hpow' : 2 ^ k ≤ 2 ^ 18 := Nat.pow_le_pow_right (by decide) hk
  have hlow : b.toNat % 2 ^ n < 2 ^ n := Nat.mod_lt _ (Nat.two_pow_pos n)
  have hmul : b.toNat % 2 ^ n * 2 ^ k ≤ 2 ^ 8 * 2 ^ 18 := Nat.mul_le_mul (by omega) hpow'
  rw [bits, UInt32.toNat_shiftLeft, UInt8.toNat_toUInt32, UInt8.toNat_and, hmask,
    Nat.and_two_pow_sub_one_eq_mod, hshift, Nat.mod_eq_of_lt (show k < 32 by omega),
    Nat.shiftLeft_eq, Nat.mod_eq_of_lt (by omega)]

/-- The bits of a code point lie in different places. -/
theorem toNat_or_bits {high low : UInt32} {m k : ℕ} (hhigh : high.toNat = m * 2 ^ k)
    (hlow : low.toNat < 2 ^ k) : (high ||| low).toNat = high.toNat + low.toNat := by
  rw [UInt32.toNat_or, hhigh, ← Nat.shiftLeft_eq, ← Nat.shiftLeft_add_eq_or_of_lt hlow]

theorem continuation_of_isTail (h : IsTail b) : continuation b = true := by
  have hall : ∀ n < 256, 0x80 ≤ n → n ≤ 0xBF → n &&& 0xC0 = 0x80 := by decide +kernel
  rw [continuation, decide_eq_true_eq, ← UInt8.toNat_inj, UInt8.toNat_and]
  exact hall b.toNat b.toNat_lt h.1 h.2

/-! ### Reading at an offset -/

theorem getD_of_drop {rest : Text} {offset : ℕ} (h : text.drop offset = rest) (index : ℕ) :
    text.getD (offset + index) 0 = rest.getD index 0 := by
  rw [← h, List.getD_eq_getElem?_getD, List.getD_eq_getElem?_getD, List.getElem?_drop]

theorem decodeUtf8_drop (text : Text) (offset : ℕ) :
    decodeUtf8 text offset = decodeUtf8 (text.drop offset) 0 := by
  have hbyte : ∀ index, text.getD (offset + index) 0 = (text.drop offset).getD (0 + index) 0 :=
    fun index ↦ by rw [getD_of_drop rfl, Nat.zero_add]
  have hend : text.length ≤ offset ↔ (text.drop offset).length ≤ 0 := by
    rw [List.length_drop]
    omega
  rw [decodeUtf8, decodeUtf8]
  simp only [hbyte, hend, List.length_drop, Nat.sub_zero]

theorem decodeUtf8_one (rest : Text) (h₀ : b₀.toNat ≤ 0x7F) :
    decodeUtf8 (b₀ :: rest) 0 = ⟨b₀.toUInt32, 1, true⟩ :=
  (if_neg (Nat.not_succ_le_zero _)).trans (if_pos (show b₀ ≤ 0x7F from h₀))

/-- A first byte is not in a range that it is beyond. -/
theorem not_le_of_lt_toNat {limit : UInt8} (h : limit.toNat < b.toNat) : ¬ b ≤ limit :=
  fun hle ↦ absurd (UInt8.le_iff_toNat_le.mp hle) (not_le.mpr h)

theorem decodeUtf8_two (rest : Text) (h₀ : 0xC2 ≤ b₀.toNat) (h₀' : b₀.toNat ≤ 0xDF)
    (h₁ : IsTail b₁) :
    decodeUtf8 (b₀ :: b₁ :: rest) 0 = ⟨bits b₀ 0x1F 6 ||| bits b₁ 0x3F 0, 2, true⟩ := by
  have hascii : ¬ b₀ ≤ 0x7F := not_le_of_lt_toNat (lt_of_lt_of_le (by decide) h₀)
  have hremaining : 2 ≤ (b₀ :: b₁ :: rest).length - 0 := by simp
  refine (if_neg (Nat.not_succ_le_zero _)).trans ((if_neg hascii).trans (if_pos ?_))
  exact ⟨h₀, h₀', hremaining, continuation_of_isTail h₁⟩

theorem decodeUtf8_three {b₂ : UInt8} (rest : Text) (h₀ : 0xE0 ≤ b₀.toNat) (h₀' : b₀.toNat ≤ 0xEF)
    (h₁ : IsTail b₁) (h₂ : IsTail b₂) (hoverlong : b₀.toNat = 0xE0 → 0xA0 ≤ b₁.toNat)
    (hsurrogate : b₀.toNat = 0xED → b₁.toNat < 0xA0) :
    decodeUtf8 (b₀ :: b₁ :: b₂ :: rest) 0 =
      ⟨bits b₀ 0x0F 12 ||| bits b₁ 0x3F 6 ||| bits b₂ 0x3F 0, 3, true⟩ := by
  have hascii : ¬ b₀ ≤ 0x7F := not_le_of_lt_toNat (lt_of_lt_of_le (by decide) h₀)
  have htwo : ¬ b₀ ≤ 0xDF := not_le_of_lt_toNat (lt_of_lt_of_le (by decide) h₀)
  have hremaining : 3 ≤ (b₀ :: b₁ :: b₂ :: rest).length - 0 := by simp
  refine (if_neg (Nat.not_succ_le_zero _)).trans ((if_neg hascii).trans
    ((if_neg fun h ↦ htwo h.2.1).trans ((if_pos ?_).trans (if_neg ?_))))
  · exact ⟨h₀, h₀', hremaining, continuation_of_isTail h₁, continuation_of_isTail h₂⟩
  · rintro (⟨heq, hlt⟩ | ⟨heq, hle⟩)
    · exact absurd (hoverlong (congrArg UInt8.toNat heq)) (not_le.mpr hlt)
    · exact absurd (hsurrogate (congrArg UInt8.toNat heq)) (not_lt.mpr hle)

theorem decodeUtf8_four {b₂ b₃ : UInt8} (rest : Text) (h₀ : 0xF0 ≤ b₀.toNat)
    (h₀' : b₀.toNat ≤ 0xF4) (h₁ : IsTail b₁) (h₂ : IsTail b₂) (h₃ : IsTail b₃)
    (hoverlong : b₀.toNat = 0xF0 → 0x90 ≤ b₁.toNat) (hlast : b₀.toNat = 0xF4 → b₁.toNat < 0x90) :
    decodeUtf8 (b₀ :: b₁ :: b₂ :: b₃ :: rest) 0 =
      ⟨bits b₀ 0x07 18 ||| bits b₁ 0x3F 12 ||| bits b₂ 0x3F 6 ||| bits b₃ 0x3F 0, 4, true⟩ := by
  have hascii : ¬ b₀ ≤ 0x7F := not_le_of_lt_toNat (lt_of_lt_of_le (by decide) h₀)
  have htwo : ¬ b₀ ≤ 0xDF := not_le_of_lt_toNat (lt_of_lt_of_le (by decide) h₀)
  have hthree : ¬ b₀ ≤ 0xEF := not_le_of_lt_toNat (lt_of_lt_of_le (by decide) h₀)
  have hremaining : 4 ≤ (b₀ :: b₁ :: b₂ :: b₃ :: rest).length - 0 := by simp
  refine (if_neg (Nat.not_succ_le_zero _)).trans ((if_neg hascii).trans
    ((if_neg fun h ↦ htwo h.2.1).trans ((if_neg fun h ↦ hthree h.2.1).trans
      ((if_pos ?_).trans (if_neg ?_)))))
  · exact ⟨h₀, h₀', hremaining, continuation_of_isTail h₁, continuation_of_isTail h₂,
      continuation_of_isTail h₃⟩
  · rintro (⟨heq, hlt⟩ | ⟨heq, hle⟩)
    · exact absurd (hoverlong (congrArg UInt8.toNat heq)) (not_le.mpr hlt)
    · exact absurd (hlast (congrArg UInt8.toNat heq)) (not_lt.mpr hle)

/-- **A character at the front is accepted**, and its code point is read. -/
theorem decodeUtf8_encodeChar (c : Char) (rest : Text) :
    decodeUtf8 (utf8EncodeChar c ++ rest) 0 = ⟨c.val, (utf8EncodeChar c).length, true⟩ := by
  have hsequence : WellFormed (utf8EncodeChar c) c.val.toNat := wellFormed_encodeChar c
  generalize utf8EncodeChar c = bytes at hsequence
  generalize c.val = value at hsequence
  generalize hn : value.toNat = n at hsequence
  -- the places of the bits
  have hlast : ∀ b : UInt8, (bits b 0x3F 0).toNat = b.toNat % 64 * 1 := fun b ↦
    toNat_bits (n := 6) (k := 0) rfl rfl (by decide) (by decide)
  have hsix : ∀ b : UInt8, (bits b 0x3F 6).toNat = b.toNat % 64 * 64 := fun b ↦
    toNat_bits (n := 6) (k := 6) rfl rfl (by decide) (by decide)
  have htwelve : ∀ b : UInt8, (bits b 0x3F 12).toNat = b.toNat % 64 * 4096 := fun b ↦
    toNat_bits (n := 6) (k := 12) rfl rfl (by decide) (by decide)
  rcases hsequence with h | ⟨h₀, h₀', h₁⟩ | ⟨h₀, h₀', h₁, h₂, hoverlong, hsurrogate⟩ |
    ⟨h₀, h₀', h₁, h₂, h₃, hoverlong, hbeyond⟩
  · rename_i b₀
    have hvalue : b₀.toUInt32 = value := UInt32.toNat_inj.mp (by rw [hn, UInt8.toNat_toUInt32])
    exact hvalue ▸ decodeUtf8_one rest h
  · rename_i b₀ b₁
    have hlead : (bits b₀ 0x1F 6).toNat = b₀.toNat % 32 * 64 :=
      toNat_bits (n := 5) (k := 6) rfl rfl (by decide) (by decide)
    have hvalue : bits b₀ 0x1F 6 ||| bits b₁ 0x3F 0 = value := UInt32.toNat_inj.mp (by
      rw [toNat_or_bits (k := 6) hlead (by rw [hlast]; omega), hlead, hlast, hn]
      omega)
    exact hvalue ▸ decodeUtf8_two rest h₀ h₀' h₁
  · rename_i b₀ b₁ b₂
    have hlead : (bits b₀ 0x0F 12).toNat = b₀.toNat % 16 * 4096 :=
      toNat_bits (n := 4) (k := 12) rfl rfl (by decide) (by decide)
    have hpair : (bits b₀ 0x0F 12 ||| bits b₁ 0x3F 6).toNat =
        (b₀.toNat % 16 * 64 + b₁.toNat % 64) * 64 := by
      rw [toNat_or_bits (k := 12) hlead (by rw [hsix]; omega), hlead, hsix]
      omega
    have hvalue : bits b₀ 0x0F 12 ||| bits b₁ 0x3F 6 ||| bits b₂ 0x3F 0 = value :=
      UInt32.toNat_inj.mp (by
        rw [toNat_or_bits (k := 6) hpair (by rw [hlast]; omega), hpair, hlast, hn]
        omega)
    exact hvalue ▸ decodeUtf8_three rest h₀ h₀' h₁ h₂ hoverlong hsurrogate
  · rename_i b₀ b₁ b₂ b₃
    have hlead : (bits b₀ 0x07 18).toNat = b₀.toNat % 8 * 262144 :=
      toNat_bits (n := 3) (k := 18) rfl rfl (by decide) (by decide)
    have hpair : (bits b₀ 0x07 18 ||| bits b₁ 0x3F 12).toNat =
        (b₀.toNat % 8 * 64 + b₁.toNat % 64) * 4096 := by
      rw [toNat_or_bits (k := 18) hlead (by rw [htwelve]; omega), hlead, htwelve]
      omega
    have htriple : (bits b₀ 0x07 18 ||| bits b₁ 0x3F 12 ||| bits b₂ 0x3F 6).toNat =
        ((b₀.toNat % 8 * 64 + b₁.toNat % 64) * 64 + b₂.toNat % 64) * 64 := by
      rw [toNat_or_bits (k := 12) hpair (by rw [hsix]; omega), hpair, hsix]
      omega
    have hvalue : bits b₀ 0x07 18 ||| bits b₁ 0x3F 12 ||| bits b₂ 0x3F 6 ||| bits b₃ 0x3F 0 =
        value :=
      UInt32.toNat_inj.mp (by
        rw [toNat_or_bits (k := 6) htriple (by rw [hlast]; omega), htriple, hlast, hn]
        omega)
    exact hvalue ▸ decodeUtf8_four rest h₀ h₀' h₁ h₂ h₃ hoverlong hbeyond

/-- What does not decode is nothing: an end of the text, or a byte that begins no character. -/
theorem decodeUtf8_cases (text : Text) (offset : ℕ) :
    (∃ (c : Char) (rest : Text), text.drop offset = utf8EncodeChar c ++ rest ∧
      decodeUtf8 text offset = ⟨c.val, (utf8EncodeChar c).length, true⟩) ∨
    (∀ c, ¬ utf8EncodeChar c <+: text.drop offset) ∧ decodeUtf8 text offset = {} := by
  by_cases hchar : ∃ c, utf8EncodeChar c <+: text.drop offset
  · obtain ⟨c, rest, hrest⟩ := hchar
    exact .inl ⟨c, rest, hrest.symm, by rw [decodeUtf8_drop, ← hrest, decodeUtf8_encodeChar]⟩
  · refine .inr ⟨not_exists.mp hchar, ?_⟩
    have hinvalid : ¬ (decodeUtf8 text offset).valid = true := fun hvalid ↦ by
      obtain ⟨-, -, c, hc⟩ := decodeUtf8_valid hvalid
      exact hchar ⟨c, hc ▸ List.take_prefix _ _⟩
    rw [decodeUtf8] at hinvalid ⊢
    dsimp only at hinvalid ⊢
    split_ifs at hinvalid ⊢
    all_goals first | rfl | exact absurd rfl hinvalid

/-- **`decode_utf8` accepts exactly the well-formed sequences**, with their code points. -/
theorem decodeUtf8_eq_iff {offset length : ℕ} {value : UInt32} :
    decodeUtf8 text offset = ⟨value, length, true⟩ ↔
      ∃ bytes, WellFormed bytes value.toNat ∧ bytes.length = length ∧
        bytes <+: text.drop offset := by
  constructor
  · intro h
    rcases decodeUtf8_cases text offset with ⟨c, rest, hrest, hdecoded⟩ | ⟨-, hnothing⟩
    · rw [h] at hdecoded
      simp only [DecodedCodePoint.mk.injEq, and_true] at hdecoded
      obtain ⟨rfl, rfl⟩ := hdecoded
      exact ⟨_, wellFormed_encodeChar c, rfl, rest, hrest.symm⟩
    · rw [h] at hnothing
      exact nomatch (congrArg DecodedCodePoint.valid hnothing : true = false)
  · rintro ⟨bytes, hbytes, rfl, rest, hrest⟩
    obtain ⟨c, hc, rfl⟩ := wellFormed_iff.mp hbytes
    rw [decodeUtf8_drop, ← hrest, decodeUtf8_encodeChar, UInt32.toNat_inj.mp hc]

/-! ### Sanitizing from the front -/

variable {allowed : UInt32 → Bool}

theorem sanitizeLoop_drop (text : Text) (fuel offset k : ℕ) :
    sanitizeLoop allowed text fuel (offset + k) =
      sanitizeLoop allowed (text.drop offset) fuel k := by
  induction fuel generalizing k with
  | zero => rfl
  | succ fuel ih =>
    have hmore : offset + k < text.length ↔ k < (text.drop offset).length := by
      rw [List.length_drop]
      omega
    have hdecoded : decodeUtf8 text (offset + k) = decodeUtf8 (text.drop offset) k := by
      rw [decodeUtf8_drop, decodeUtf8_drop (text.drop offset), List.drop_drop]
    rw [sanitizeLoop, sanitizeLoop]
    simp only [hmore, hdecoded, Nat.add_assoc, ih, List.drop_drop]

/-- What is sanitized behind the front does not depend on it. -/
theorem sanitizeLoop_rest {front rest : Text} {fuel : ℕ} (hfuel : rest.length ≤ fuel) :
    sanitizeLoop allowed (front ++ rest) fuel front.length = sanitize allowed rest := by
  have hdrop := @sanitizeLoop_drop allowed (front ++ rest) fuel front.length 0
  rw [Nat.add_zero, List.drop_left] at hdrop
  obtain ⟨more, rfl⟩ := Nat.exists_eq_add_of_le hfuel
  rw [hdrop, sanitizeLoop_fuel allowed rest (by omega), sanitize]

/-- A character is copied if it is allowed. -/
theorem sanitize_encodeChar (c : Char) (rest : Text) :
    sanitize allowed (utf8EncodeChar c ++ rest) =
      (if allowed c.val then utf8EncodeChar c else [0x3F]) ++ sanitize allowed rest := by
  have hpos := List.length_pos_of_ne_nil (utf8EncodeChar_ne_nil (c := c))
  have hmore : 0 < (utf8EncodeChar c ++ rest).length := by
    rw [List.length_append]
    omega
  obtain ⟨fuel, hfuel⟩ := Nat.exists_eq_succ_of_ne_zero (Nat.ne_of_gt hmore)
  have hrest : rest.length ≤ fuel := by
    rw [List.length_append] at hfuel
    omega
  rw [sanitize, hfuel, sanitizeLoop, if_pos hmore, decodeUtf8_encodeChar]
  simp only [Bool.not_true, Bool.false_or, Bool.not_eq_true', if_true, Nat.zero_add, List.drop_zero,
    List.take_left, sanitizeLoop_rest hrest]
  by_cases hallowed : allowed c.val = true
  · rw [if_neg (by simp [hallowed]), if_pos hallowed]
  · rw [if_pos (by simpa using hallowed), if_neg hallowed]
    rfl

/-- A byte that begins no character becomes a question mark. -/
theorem sanitize_malformed {rest : Text} (h : ∀ c, ¬ utf8EncodeChar c <+: b :: rest) :
    sanitize allowed (b :: rest) = 0x3F :: sanitize allowed rest := by
  have hdecoded : decodeUtf8 (b :: rest) 0 = {} := by
    rcases decodeUtf8_cases (b :: rest) 0 with ⟨c, back, hback, -⟩ | ⟨-, hnothing⟩
    · exact absurd ⟨back, hback.symm⟩ (h c)
    · exact hnothing
  have hrest := @sanitizeLoop_rest allowed [b] rest rest.length le_rfl
  have hsome : 0 < (b :: rest).length := Nat.succ_pos _
  rw [sanitize, List.length_cons, sanitizeLoop, if_pos hsome, hdecoded]
  exact congrArg (List.cons 0x3F) hrest

theorem sanitize_encode_cons (c : Char) (cs : List Char) :
    sanitize allowed (encode (c :: cs)) =
      (if allowed c.val then utf8EncodeChar c else [0x3F]) ++ sanitize allowed (encode cs) := by
  rw [encode_cons, sanitize_encodeChar]

/-! ### Clean text -/

/-- The text is well-formed UTF-8 and all its characters are allowed. -/
def Clean (allowed : UInt32 → Bool) (text : Text) : Prop :=
  ∃ cs, text = encode cs ∧ ∀ c ∈ cs, allowed c.val = true

theorem clean_nil : Clean allowed [] := ⟨[], rfl, fun _ hc ↦ absurd hc List.not_mem_nil⟩

theorem Clean.cons {c : Char} (hc : allowed c.val = true) (h : Clean allowed text) :
    Clean allowed (utf8EncodeChar c ++ text) := by
  obtain ⟨cs, rfl, hcs⟩ := h
  exact ⟨c :: cs, (encode_cons c cs).symm, List.forall_mem_cons.mpr ⟨hc, hcs⟩⟩

/-- **Sanitized text is clean**, provided that a question mark is allowed. -/
theorem clean_sanitize (hmark : allowed '?'.val = true) (text : Text) :
    Clean allowed (sanitize allowed text) := by
  induction text using Utf8.induct with
  | nil => exact clean_nil
  | char c rest ih =>
    rw [sanitize_encodeChar]
    split_ifs with hallowed
    · exact ih.cons hallowed
    · exact ih.cons hmark
  | malformed b rest h ih =>
    rw [sanitize_malformed h]
    exact ih.cons hmark

/-- **Clean text is left as it is.** -/
theorem sanitize_of_clean (h : Clean allowed text) : sanitize allowed text = text := by
  obtain ⟨cs, rfl, hcs⟩ := h
  induction cs with
  | nil => rfl
  | cons c cs ih =>
    obtain ⟨hc, hcs⟩ := List.forall_mem_cons.mp hcs
    rw [sanitize_encode_cons, if_pos hc, ih hcs, encode_cons]

/-- What a sanitizer is for. -/
structure Repairs (sanitizer : Text → Text) (allowed : UInt32 → Bool) : Prop where
  clean : ∀ text, Clean allowed (sanitizer text)
  idempotent : ∀ text, sanitizer (sanitizer text) = sanitizer text
  unchanged : ∀ text, Clean allowed text → sanitizer text = text

theorem repairs_sanitize (hmark : allowed '?'.val = true) :
    Repairs (sanitize allowed) allowed where
  clean := clean_sanitize hmark
  idempotent text := sanitize_of_clean (clean_sanitize hmark text)
  unchanged _ := sanitize_of_clean

/-- The ASCII bytes that are allowed stay, and there are no new ones but question marks. -/
theorem mem_sanitize_iff (hb : b.toNat ≤ 0x7F) (hne : b ≠ 0x3F)
    (hallowed : allowed (Char.ofNat b.toNat).val = true) :
    b ∈ sanitize allowed text ↔ b ∈ text := by
  induction text using Utf8.induct with
  | nil => exact Iff.rfl
  | char c rest ih =>
    rw [sanitize_encodeChar, List.mem_append, List.mem_append, ih]
    refine or_congr_left ?_
    split_ifs with hc
    · exact Iff.rfl
    · refine iff_of_false (fun hmem ↦ hne (List.mem_singleton.mp hmem)) fun hmem ↦ hc ?_
      rw [mem_encodeChar_iff hb] at hmem
      exact hmem ▸ hallowed
  | malformed b' rest h ih =>
    rw [sanitize_malformed h, List.mem_cons, List.mem_cons, ih]
    refine or_congr_left (iff_of_false hne fun heq ↦ h (Char.ofNat b.toNat) ?_)
    rw [encodeChar_ofNat hb, heq]
    exact ⟨rest, rfl⟩

/-- **Decoding is exact, and so is the repair.** A sequence decodes exactly if it is a well-formed
one of RFC 3629, and each of the three sanitizers makes clean text of any bytes, does nothing a
second time and does nothing to clean text. -/
theorem decoding_and_repair_exact :
    (∀ (text : Text) (offset length : ℕ) (value : UInt32),
      decodeUtf8 text offset = ⟨value, length, true⟩ ↔
        ∃ bytes, WellFormed bytes value.toNat ∧ bytes.length = length ∧
          bytes <+: text.drop offset) ∧
    Repairs sanitizeUtf8 (fun _ ↦ true) ∧
    Repairs sanitizeTerminal (fun value ↦ !terminalControl value) ∧
    Repairs sanitizeXml10 xml10Character :=
  ⟨fun _ _ _ _ ↦ decodeUtf8_eq_iff, repairs_sanitize rfl, repairs_sanitize (by decide),
    repairs_sanitize (by decide)⟩

end Skan.Core.Text
