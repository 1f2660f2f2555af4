import Skan.Core.Types
import Skan.Library.Utf8

/-!
# Text safety

`decode_utf8` and the sanitizers of `src/core/text_safety.cpp`: text that came from the network is
copied character by character, with a question mark for every byte that does not decode and for
every character that is not allowed.

Whatever the bytes were, what the sanitizers produce is UTF-8 (`sanitize_eq_encode`), because a
sequence that `decode_utf8` accepts is the encoding of a character (`decodeUtf8_valid`).
-/

namespace Skan.Core.Text

open Utf8

variable {text : Text} {offset : ℕ}

/-- `DecodedCodePoint`. -/
structure DecodedCodePoint where
  value : UInt32 := 0x3F
  length : ℕ := 1
  valid : Bool := false
  deriving DecidableEq

def continuation (value : UInt8) : Bool := value &&& 0xC0 = 0x80

/-- The low bits of a byte, as a part of a code point. -/
def bits (b mask : UInt8) (shift : UInt32) : UInt32 := (b &&& mask).toUInt32 <<< shift

/-- `decode_utf8`. -/
def decodeUtf8 (text : Text) (offset : ℕ) : DecodedCodePoint :=
  if text.length ≤ offset then {}
  else
    let byte index := text.getD (offset + index) 0
    let remaining := text.length - offset
    let first := byte 0
    if first ≤ 0x7F then ⟨first.toUInt32, 1, true⟩
    else if 0xC2 ≤ first ∧ first ≤ 0xDF ∧ 2 ≤ remaining ∧ continuation (byte 1) then
      ⟨bits first 0x1F 6 ||| bits (byte 1) 0x3F 0, 2, true⟩
    else if 0xE0 ≤ first ∧ first ≤ 0xEF ∧ 3 ≤ remaining ∧ continuation (byte 1) ∧
        continuation (byte 2) then
      if first = 0xE0 ∧ byte 1 < 0xA0 ∨ first = 0xED ∧ 0xA0 ≤ byte 1 then {}
      else ⟨bits first 0x0F 12 ||| bits (byte 1) 0x3F 6 ||| bits (byte 2) 0x3F 0, 3, true⟩
    else if 0xF0 ≤ first ∧ first ≤ 0xF4 ∧ 4 ≤ remaining ∧ continuation (byte 1) ∧
        continuation (byte 2) ∧ continuation (byte 3) then
      if first = 0xF0 ∧ byte 1 < 0x90 ∨ first = 0xF4 ∧ 0x90 ≤ byte 1 then {}
      else
        ⟨bits first 0x07 18 ||| bits (byte 1) 0x3F 12 ||| bits (byte 2) 0x3F 6 |||
          bits (byte 3) 0x3F 0, 4, true⟩
    else {}

/-- The loop of `sanitize` over the offsets. Every iteration moves on, so the length of the text is
fuel enough. -/
def sanitizeLoop (allowed : UInt32 → Bool) (text : Text) : ℕ → ℕ → Text
  | 0, _ => []
  | fuel + 1, offset =>
    if offset < text.length then
      let decoded := decodeUtf8 text offset
      if !decoded.valid || !allowed decoded.value then
        0x3F :: sanitizeLoop allowed text fuel
          (offset + if decoded.valid then decoded.length else 1)
      else
        (text.drop offset).take decoded.length ++
          sanitizeLoop allowed text fuel (offset + decoded.length)
    else []

/-- `sanitize`. -/
def sanitize (allowed : UInt32 → Bool) (text : Text) : Text :=
  sanitizeLoop allowed text text.length 0

/-- `terminal_control`. -/
def terminalControl (value : UInt32) : Bool :=
  value ≤ 0x1F || (0x7F ≤ value && value ≤ 0x9F) || value = 0x061C || value = 0x200E ||
    value = 0x200F || (0x202A ≤ value && value ≤ 0x202E) || (0x2066 ≤ value && value ≤ 0x2069) ||
    value = 0xFEFF

/-- `xml_1_0_character`. -/
def xml10Character (value : UInt32) : Bool :=
  value = 0x09 || value = 0x0A || value = 0x0D || (0x20 ≤ value && value ≤ 0xD7FF) ||
    (0xE000 ≤ value && value ≤ 0xFFFD) || (0x10000 ≤ value && value ≤ 0x10FFFF)

/-- `sanitize_utf8`. -/
def sanitizeUtf8 (text : Text) : Text := sanitize (fun _ ↦ true) text

/-- `sanitize_terminal`. -/
def sanitizeTerminal (text : Text) : Text := sanitize (fun value ↦ !terminalControl value) text

/-- `sanitize_xml_1_0`. -/
def sanitizeXml10 (text : Text) : Text := sanitize xml10Character text

/-! ### What decodes -/

theorem isTail_of_continuation {b : UInt8} (h : continuation b = true) : IsTail b := by
  have hall : ∀ n < 256, n &&& 0xC0 = 0x80 → 0x80 ≤ n ∧ n ≤ 0xBF := by decide +kernel
  have hand : b.toNat &&& 0xC0 = 0x80 := by
    rw [continuation, decide_eq_true_eq, ← UInt8.toNat_inj, UInt8.toNat_and] at h
    exact h
  exact hall b.toNat b.toNat_lt hand

/-- The bytes of a text from an offset on. -/
theorem take_drop_succ (h : offset < text.length) (n : ℕ) :
    (text.drop offset).take (n + 1) = text.getD offset 0 :: (text.drop (offset + 1)).take n := by
  rw [List.drop_eq_getElem_cons h, List.take_succ_cons, List.getD_eq_getElem _ _ h]

/-- **What decodes is the encoding of a character.** -/
theorem decodeUtf8_valid (h : (decodeUtf8 text offset).valid = true) :
    offset + (decodeUtf8 text offset).length ≤ text.length ∧
      0 < (decodeUtf8 text offset).length ∧
      ∃ c : Char, (text.drop offset).take (decodeUtf8 text offset).length =
        String.utf8EncodeChar c := by
  have hcontinuation : ∀ {index}, continuation (text.getD (offset + index) 0) = true →
      IsTail (text.getD (offset + index) 0) := isTail_of_continuation
  rw [decodeUtf8] at h ⊢
  dsimp only at h ⊢
  simp only [UInt8.le_iff_toNat_le, UInt8.lt_iff_toNat_lt, ← UInt8.toNat_inj, add_zero] at h ⊢
  split_ifs at h ⊢ with hend h₁ h₂ h₃ h₃' h₄ h₄'
  · refine ⟨by dsimp only; omega, Nat.one_pos, Char.ofNat (text.getD offset 0).toNat, ?_⟩
    have hascii : (Char.ofNat (text.getD offset 0).toNat).toNat = (text.getD offset 0).toNat :=
      toNat_ofNat (.inl (h₁.trans_lt (by decide)))
    rw [take_drop_succ (by omega), List.take_zero, encodeChar_ascii (hascii.trans_le h₁), hascii,
      UInt8.ofNat_toNat]
  · obtain ⟨hlow, hhigh, hsize, h₁'⟩ := h₂
    refine ⟨by dsimp only; omega, Nat.two_pos, _, Eq.trans ?_
      (encodeChar_two hlow hhigh (hcontinuation h₁')).symm⟩
    rw [take_drop_succ (by omega), take_drop_succ (by omega), List.take_zero]
  · obtain ⟨hlow, hhigh, hsize, h₁', h₂'⟩ := h₃
    obtain ⟨hoverlong, hsurrogate⟩ := not_or.mp h₃'
    refine ⟨by dsimp only; omega, Nat.succ_pos 2, _, Eq.trans ?_
      (encodeChar_three hlow hhigh (hcontinuation h₁') (hcontinuation h₂')
        (fun heq ↦ not_lt.mp fun hlt ↦ hoverlong ⟨heq, hlt⟩)
        (fun heq ↦ not_le.mp fun hle ↦ hsurrogate ⟨heq, hle⟩)).symm⟩
    rw [take_drop_succ (by omega), take_drop_succ (by omega), take_drop_succ (by omega),
      List.take_zero]
  · obtain ⟨hlow, hhigh, hsize, h₁', h₂', h₃'⟩ := h₄
    obtain ⟨hoverlong, hlast⟩ := not_or.mp h₄'
    refine ⟨by dsimp only; omega, Nat.succ_pos 3, _, Eq.trans ?_
      (encodeChar_four hlow hhigh (hcontinuation h₁') (hcontinuation h₂') (hcontinuation h₃')
        (fun heq ↦ not_lt.mp fun hlt ↦ hoverlong ⟨heq, hlt⟩)
        (fun heq ↦ not_le.mp fun hle ↦ hlast ⟨heq, hle⟩)).symm⟩
    rw [take_drop_succ (by omega), take_drop_succ (by omega), take_drop_succ (by omega),
      take_drop_succ (by omega), List.take_zero]

/-! ### What the sanitizers produce -/

/-- An iteration of the loop appends a character and moves on. -/
theorem sanitizeLoop_step (allowed : UInt32 → Bool) (h : offset < text.length) :
    ∃ (c : Char) (length : ℕ), 0 < length ∧
      ∀ fuel, sanitizeLoop allowed text (fuel + 1) offset =
        String.utf8EncodeChar c ++ sanitizeLoop allowed text fuel (offset + length) := by
  by_cases hrefused : (!(decodeUtf8 text offset).valid || !allowed (decodeUtf8 text offset).value) =
    true
  · refine ⟨'?', if (decodeUtf8 text offset).valid then (decodeUtf8 text offset).length else 1, ?_,
      fun fuel ↦ ?_⟩
    · split_ifs with hvalid
      · exact (decodeUtf8_valid hvalid).2.1
      · exact Nat.one_pos
    · rw [sanitizeLoop, if_pos h]
      exact if_pos hrefused
  · obtain ⟨hvalid, -⟩ := Bool.or_eq_false_iff.mp (Bool.eq_false_iff.mpr hrefused)
    rw [Bool.not_eq_false'] at hvalid
    obtain ⟨-, hpos, c, hc⟩ := decodeUtf8_valid hvalid
    refine ⟨c, (decodeUtf8 text offset).length, hpos, fun fuel ↦ ?_⟩
    rw [sanitizeLoop, if_pos h, ← hc]
    exact if_neg hrefused

theorem sanitizeLoop_end (allowed : UInt32 → Bool) (h : text.length ≤ offset) (fuel : ℕ) :
    sanitizeLoop allowed text fuel offset = [] := by
  cases fuel with
  | zero => rfl
  | succ fuel => exact if_neg (not_lt.mpr h)

/-- **Sanitized text is UTF-8**, whatever the bytes were. -/
theorem sanitize_eq_encode (allowed : UInt32 → Bool) (text : Text) :
    ∃ cs, sanitize allowed text = encode cs := by
  have hloop : ∀ fuel offset, ∃ cs, sanitizeLoop allowed text fuel offset = encode cs := by
    intro fuel
    induction fuel with
    | zero => exact fun _ ↦ ⟨[], rfl⟩
    | succ fuel ih =>
      intro offset
      by_cases hmore : offset < text.length
      · obtain ⟨c, length, -, hstep⟩ := sanitizeLoop_step allowed hmore
        obtain ⟨cs, hcs⟩ := ih (offset + length)
        exact ⟨c :: cs, by rw [hstep, hcs, encode_cons]⟩
      · exact ⟨[], sanitizeLoop_end allowed (not_lt.mp hmore) _⟩
  exact hloop _ _

/-- The loop reads the text to its end: more fuel makes no difference. -/
theorem sanitizeLoop_fuel (allowed : UInt32 → Bool) (text : Text) {fuel : ℕ}
    (h : text.length ≤ offset + fuel) (more : ℕ) :
    sanitizeLoop allowed text (fuel + more) offset = sanitizeLoop allowed text fuel offset := by
  induction fuel generalizing offset with
  | zero =>
    have hend : text.length ≤ offset := h
    rw [sanitizeLoop_end allowed hend, sanitizeLoop_end allowed hend]
  | succ fuel ih =>
    by_cases hmore : offset < text.length
    · obtain ⟨c, length, hpos, hstep⟩ := sanitizeLoop_step allowed hmore
      rw [Nat.add_right_comm, hstep, hstep, ih (by omega)]
    · rw [sanitizeLoop_end allowed (not_lt.mp hmore), sanitizeLoop_end allowed (not_lt.mp hmore)]

end Skan.Core.Text
