import Skan.Core.TextRepair

/-!
# Terminal text

`src/output/terminal_text.cpp`: how many cells a text takes on a terminal, and how a text is cut to
the cells a table has for it.

The two loops walk over bytes. On clean text they walk over characters (`displayWidthLoop_encode`,
`truncateLoop_encode`), so what is cut is a prefix of the characters, and no cut falls inside one.
-/

namespace Skan.Output

open Skan.Core Skan.Core.Text Utf8 String

variable {cs : List Char}

def combining (value : UInt32) : Bool :=
  (0x0300 ≤ value && value ≤ 0x036F) || (0x1AB0 ≤ value && value ≤ 0x1AFF) ||
    (0x1DC0 ≤ value && value ≤ 0x1DFF) || (0x20D0 ≤ value && value ≤ 0x20FF) ||
    (0xFE00 ≤ value && value ≤ 0xFE0F) || (0xFE20 ≤ value && value ≤ 0xFE2F) ||
    value = 0x200D || (0x1F3FB ≤ value && value ≤ 0x1F3FF)

def wide (value : UInt32) : Bool :=
  (0x1100 ≤ value && value ≤ 0x115F) || value = 0x2329 || value = 0x232A ||
    (0x2E80 ≤ value && value ≤ 0xA4CF) || (0xAC00 ≤ value && value ≤ 0xD7A3) ||
    (0xF900 ≤ value && value ≤ 0xFAFF) || (0xFE10 ≤ value && value ≤ 0xFE19) ||
    (0xFE30 ≤ value && value ≤ 0xFE6F) || (0xFF00 ≤ value && value ≤ 0xFF60) ||
    (0xFFE0 ≤ value && value ≤ 0xFFE6) || (0x1F300 ≤ value && value ≤ 0x1FAFF) ||
    (0x20000 ≤ value && value ≤ 0x3FFFD)

def codePointWidth (decoded : DecodedCodePoint) : ℕ :=
  if !decoded.valid || terminalControl decoded.value then 1
  else if combining decoded.value then 0
  else if wide decoded.value then 2
  else 1

/-- The loop of `sgr_length` over the cursor. -/
def sgrLengthLoop (text : Text) (offset : ℕ) : ℕ → ℕ → ℕ
  | 0, _ => 0
  | fuel + 1, cursor =>
    if cursor < text.length then
      let value := text.getD cursor 0
      if value = 0x6D then cursor - offset + 1
      else if (value < 0x30 || 0x39 < value) && value != 0x3B then 0
      else sgrLengthLoop text offset fuel (cursor + 1)
    else 0

/-- `sgr_length`. -/
def sgrLength (text : Text) (offset : ℕ) : ℕ :=
  if text.length ≤ offset + 2 || text.getD offset 0 != 0x1B ||
      text.getD (offset + 1) 0 != 0x5B then 0
  else sgrLengthLoop text offset text.length (offset + 2)

/-- The loop of `display_width`. Every iteration moves on. -/
def displayWidthLoop (text : Text) : ℕ → ℕ → ℕ → ℕ
  | 0, _, cells => cells
  | fuel + 1, offset, cells =>
    if offset < text.length then
      let escapeLength := sgrLength text offset
      if 0 < escapeLength then displayWidthLoop text fuel (offset + escapeLength) cells
      else
        let decoded := decodeUtf8 text offset
        displayWidthLoop text fuel (offset + if decoded.valid then decoded.length else 1)
          (cells + codePointWidth decoded)
    else cells

/-- `display_width`. -/
def displayWidth (text : Text) : ℕ := displayWidthLoop text text.length 0 0

/-- The largest `std::size_t`. -/
def sizeMax : ℕ := 2 ^ 64 - 1

/-- The loop of `truncate_display`. -/
def truncateLoop (sanitized : Text) (contentCells contentBytes : ℕ) : ℕ → ℕ → ℕ → Text → Text
  | 0, _, _, truncated => truncated
  | fuel + 1, offset, used, truncated =>
    if offset < sanitized.length then
      let decoded := decodeUtf8 sanitized offset
      let width := codePointWidth decoded
      if contentCells < used + width || contentBytes - truncated.length < decoded.length then
        truncated
      else
        truncateLoop sanitized contentCells contentBytes fuel (offset + decoded.length)
          (used + width) (truncated ++ (sanitized.drop offset).take decoded.length)
    else truncated

/-- `truncate_display`. -/
def truncateDisplay (text : Text) (maximumCells : ℕ) : Text :=
  if maximumCells = 0 then []
  else
    let sanitized := sanitizeTerminal text
    let maximumBytes := if sizeMax / 4 < maximumCells then sizeMax else maximumCells * 4
    if displayWidth sanitized ≤ maximumCells && sanitized.length ≤ maximumBytes then sanitized
    else if maximumCells ≤ 3 then List.replicate maximumCells 0x2E
    else
      truncateLoop sanitized (maximumCells - 3) (maximumBytes - 3) sanitized.length 0 0 [] ++
        [0x2E, 0x2E, 0x2E]

/-! ### The cells of a character -/

/-- What a terminal may be sent. -/
abbrev Printable (text : Text) : Prop := Clean (fun value ↦ !terminalControl value) text

/-- The cells of a character. -/
def cells (c : Char) : ℕ :=
  if terminalControl c.val then 1 else if combining c.val then 0 else if wide c.val then 2 else 1

/-- The cells of characters one after the other. -/
def width (cs : List Char) : ℕ := (cs.map cells).sum

@[simp] theorem width_nil : width [] = 0 := rfl

@[simp] theorem width_cons (c : Char) (cs : List Char) : width (c :: cs) = cells c + width cs := rfl

@[simp] theorem width_append (cs ds : List Char) : width (cs ++ ds) = width cs + width ds := by
  rw [width, List.map_append, List.sum_append, width, width]

theorem codePointWidth_char (c : Char) (length : ℕ) :
    codePointWidth ⟨c.val, length, true⟩ = cells c := rfl

/-- A character behind the front of a text is what decodes there. -/
theorem decodeUtf8_encode (front back : List Char) (c : Char) :
    decodeUtf8 (encode (front ++ c :: back)) (encode front).length =
      ⟨c.val, (utf8EncodeChar c).length, true⟩ := by
  rw [decodeUtf8_drop, encode_append, List.drop_left, encode_cons, decodeUtf8_encodeChar]

theorem offset_lt (front back : List Char) (c : Char) :
    (encode front).length < (encode (front ++ c :: back)).length := by
  have hpos := List.length_pos_of_ne_nil (utf8EncodeChar_ne_nil (c := c))
  rw [encode_append, encode_cons, List.length_append, List.length_append]
  omega

theorem length_encode_snoc (front : List Char) (c : Char) :
    (encode (front ++ [c])).length = (encode front).length + (utf8EncodeChar c).length := by
  rw [encode_append, List.length_append, encode_cons, encode_nil, List.append_nil]

/-- Only an escape starts an escape sequence. -/
theorem sgrLength_eq_zero {text : Text} {offset : ℕ} (hmore : offset < text.length)
    (h : terminalControl (decodeUtf8 text offset).value = false) : sgrLength text offset = 0 := by
  have hescape : text.getD offset 0 ≠ 0x1B := fun heq ↦ by
    have hdecoded : decodeUtf8 text offset = ⟨0x1B, 1, true⟩ := by
      rw [decodeUtf8, if_neg (not_le.mpr hmore)]
      simp only [Nat.add_zero, heq]
      rfl
    rw [hdecoded] at h
    exact absurd h (by decide)
  have hfirst : (text.getD offset 0 != 0x1B) = true := bne_iff_ne.mpr hescape
  exact if_pos (by rw [hfirst, Bool.or_true, Bool.true_or])

/-- **`display_width` adds the cells of the characters.** -/
theorem displayWidthLoop_encode {front back : List Char}
    (hback : ∀ c ∈ back, terminalControl c.val = false) {fuel : ℕ} (hfuel : back.length ≤ fuel)
    (used : ℕ) :
    displayWidthLoop (encode (front ++ back)) fuel (encode front).length used =
      used + width back := by
  induction back generalizing front fuel used with
  | nil =>
    have hend : ¬ (encode front).length < (encode (front ++ [])).length := by
      rw [List.append_nil]
      exact lt_irrefl _
    cases fuel with
    | zero => rfl
    | succ fuel => exact if_neg hend
  | cons c back ih =>
    obtain ⟨hc, hback⟩ := List.forall_mem_cons.mp hback
    obtain ⟨fuel, rfl⟩ := Nat.exists_eq_succ_of_ne_zero (Nat.ne_of_gt (Nat.zero_lt_of_lt hfuel))
    have hmore := offset_lt front back c
    have hdecoded := decodeUtf8_encode front back c
    have hsgr : sgrLength (encode (front ++ c :: back)) (encode front).length = 0 :=
      sgrLength_eq_zero hmore (by rw [hdecoded]; exact hc)
    have hrest := @ih (front ++ [c]) hback fuel (Nat.le_of_succ_le_succ hfuel) (used + cells c)
    rw [List.append_assoc, List.singleton_append, length_encode_snoc] at hrest
    rw [displayWidthLoop, if_pos hmore]
    simp only [hsgr, lt_irrefl, if_false, hdecoded, if_true, codePointWidth_char, hrest, width_cons]
    omega

theorem length_le_encode (cs : List Char) : cs.length ≤ (encode cs).length := by
  induction cs with
  | nil => exact le_rfl
  | cons c cs ih =>
    have hpos := List.length_pos_of_ne_nil (utf8EncodeChar_ne_nil (c := c))
    rw [encode_cons, List.length_append, List.length_cons]
    omega

theorem displayWidth_encode (h : ∀ c ∈ cs, terminalControl c.val = false) :
    displayWidth (encode cs) = width cs := by
  have hloop := @displayWidthLoop_encode [] cs h _ (length_le_encode cs) 0
  rw [Nat.zero_add] at hloop
  exact hloop

/-! ### The cut -/

/-- **What is cut is a prefix of the characters**, within the cells and the bytes. -/
theorem truncateLoop_encode (contentCells contentBytes fuel : ℕ) {front back : List Char}
    (hcells : width front ≤ contentCells) (hbytes : (encode front).length ≤ contentBytes) :
    ∃ kept, kept <+: front ++ back ∧ width kept ≤ contentCells ∧
      (encode kept).length ≤ contentBytes ∧
      truncateLoop (encode (front ++ back)) contentCells contentBytes fuel (encode front).length
        (width front) (encode front) = encode kept := by
  induction fuel generalizing front back with
  | zero => exact ⟨front, List.prefix_append _ _, hcells, hbytes, rfl⟩
  | succ fuel ih =>
    rw [truncateLoop]
    cases back with
    | nil =>
      rw [List.append_nil, if_neg (lt_irrefl _)]
      exact ⟨front, List.prefix_rfl, hcells, hbytes, rfl⟩
    | cons c back =>
      have hdrop : ((encode (front ++ c :: back)).drop (encode front).length).take
          (utf8EncodeChar c).length = utf8EncodeChar c := by
        rw [encode_append, List.drop_left, encode_cons, List.take_left]
      rw [if_pos (offset_lt front back c)]
      simp only [decodeUtf8_encode, codePointWidth_char, hdrop]
      split_ifs with hfull
      · exact ⟨front, List.prefix_append _ _, hcells, hbytes, rfl⟩
      · rw [Bool.or_eq_true, decide_eq_true_eq, decide_eq_true_eq, not_or, not_lt, not_lt] at hfull
        obtain ⟨kept, hsub, hkept⟩ := @ih (front ++ [c]) back
          (by rw [width_append, width_cons, width_nil]; omega)
          (by rw [length_encode_snoc]; omega)
        rw [List.append_assoc, List.singleton_append, length_encode_snoc, width_append, width_cons,
          width_nil, Nat.add_zero, encode_append front [c], encode_cons, encode_nil,
          List.append_nil] at hkept
        rw [List.append_assoc, List.singleton_append] at hsub
        exact ⟨kept, hsub, hkept⟩

theorem encode_dots (n : ℕ) : encode (List.replicate n '.') = List.replicate n 0x2E := by
  induction n with
  | zero => rfl
  | succ n ih => rw [List.replicate_succ, List.replicate_succ, encode_cons, ih]; rfl

theorem printable_dots {n : ℕ} : ∀ c ∈ List.replicate n '.', terminalControl c.val = false :=
  fun _ hc ↦ List.eq_of_mem_replicate hc ▸ rfl

theorem width_dots (n : ℕ) : width (List.replicate n '.') = n := by
  induction n with
  | zero => rfl
  | succ n ih =>
    have hdot : cells '.' = 1 := by decide
    rw [List.replicate_succ, width_cons, ih, hdot, Nat.add_comm]

/-- What `truncate_display` promises of what it returns. -/
structure Fits (text : Text) (maximumCells : ℕ) : Prop where
  printable : Printable text
  width_le : displayWidth text ≤ maximumCells
  length_le : text.length ≤ 4 * maximumCells

/-- Printable characters fit if their cells and bytes do. -/
theorem fits_encode {maximumCells : ℕ} (hprintable : ∀ c ∈ cs, terminalControl c.val = false)
    (hcells : width cs ≤ maximumCells) (hbytes : (encode cs).length ≤ 4 * maximumCells) :
    Fits (encode cs) maximumCells where
  printable := ⟨cs, rfl, fun c hc ↦ congrArg (!·) (hprintable c hc)⟩
  width_le := (displayWidth_encode hprintable).trans_le hcells
  length_le := hbytes

theorem fits_dots (n : ℕ) : Fits (List.replicate n 0x2E) n := by
  rw [← encode_dots]
  refine fits_encode printable_dots (width_dots n).le ?_
  rw [encode_dots, List.length_replicate]
  omega

/-- Sanitized text is made of characters that are no terminal controls. -/
theorem exists_chars_sanitizeTerminal (text : Text) :
    ∃ cs, sanitizeTerminal text = encode cs ∧ ∀ c ∈ cs, terminalControl c.val = false := by
  obtain ⟨cs, hcs, hprintable⟩ :=
    @clean_sanitize (fun value ↦ !terminalControl value) (by decide) text
  exact ⟨cs, hcs, fun c hc ↦ by simpa using hprintable c hc⟩

theorem fits_cut {sanitized : Text} (hcs : sanitized = encode cs)
    (hprintable : ∀ c ∈ cs, terminalControl c.val = false) {maximumCells maximumBytes : ℕ}
    (hcells : 3 < maximumCells) (hbytes : 3 ≤ maximumBytes)
    (hle : maximumBytes ≤ 4 * maximumCells) :
    Fits (truncateLoop sanitized (maximumCells - 3) (maximumBytes - 3) sanitized.length 0 0 [] ++
      [0x2E, 0x2E, 0x2E]) maximumCells := by
  obtain ⟨kept, hsub, hwidth, hlength, hkept⟩ :=
    @truncateLoop_encode (maximumCells - 3) (maximumBytes - 3) sanitized.length [] cs
      (Nat.zero_le _) (Nat.zero_le _)
  have hdots := encode_dots 3
  have hcut :
      truncateLoop sanitized (maximumCells - 3) (maximumBytes - 3) sanitized.length 0 0 [] ++
        [0x2E, 0x2E, 0x2E] = encode (kept ++ List.replicate 3 '.') := by
    rw [encode_append, ← hkept, hdots, hcs]
    rfl
  rw [hcut]
  refine fits_encode (fun c hc ↦ ?_) ?_ ?_
  · rcases List.mem_append.mp hc with hc | hc
    · exact hprintable c (hsub.subset hc)
    · exact printable_dots c hc
  · rw [width_append, width_dots]
    omega
  · rw [encode_append, List.length_append, hdots, List.length_replicate]
    omega

/-- A byte or more of the text makes a byte of what is sanitized, or a character does as many. -/
theorem length_sanitize_le (allowed : UInt32 → Bool) (text : Text) :
    (sanitize allowed text).length ≤ text.length := by
  induction text using Utf8.induct with
  | nil => exact le_rfl
  | char c rest ih =>
    have hpos := List.length_pos_of_ne_nil (utf8EncodeChar_ne_nil (c := c))
    rw [sanitize_encodeChar, List.length_append, List.length_append]
    split_ifs
    · omega
    · rw [List.length_singleton]
      omega
  | malformed b rest h ih =>
    rw [sanitize_malformed h, List.length_cons, List.length_cons]
    omega

/-- **`truncate_display` cuts to the cells and four bytes a cell**, and cuts nothing that fits.

The text is one that a `std::string_view` can be. -/
theorem truncateDisplay_fits {text : Text} (hsize : text.length ≤ sizeMax) (maximumCells : ℕ) :
    Fits (truncateDisplay text maximumCells) maximumCells ∧
      (displayWidth (sanitizeTerminal text) ≤ maximumCells →
        (sanitizeTerminal text).length ≤ 4 * maximumCells →
        truncateDisplay text maximumCells = sanitizeTerminal text) := by
  obtain ⟨cs, hcs, hprintable⟩ := exists_chars_sanitizeTerminal text
  have hlength : (sanitizeTerminal text).length ≤ sizeMax :=
    (length_sanitize_le _ text).trans hsize
  rw [truncateDisplay]
  by_cases hnone : maximumCells = 0
  · rw [if_pos hnone, hnone]
    refine ⟨fits_dots 0, fun _ hempty ↦ ?_⟩
    exact (List.length_eq_zero_iff.mp (Nat.le_zero.mp hempty)).symm
  · rw [if_neg hnone]
    dsimp only
    generalize hmaximum : (if sizeMax / 4 < maximumCells then sizeMax else maximumCells * 4) =
      maximumBytes
    -- the largest size is less than four bytes a cell only if no text is longer
    have hbytes : maximumBytes ≤ 4 * maximumCells ∧
        (maximumBytes = sizeMax ∨ maximumBytes = 4 * maximumCells) := by
      rw [← hmaximum]
      split_ifs with hlarge
      · have hsizeMax : sizeMax = 4 * (sizeMax / 4) + 3 := by decide
        exact ⟨by omega, .inl rfl⟩
      · exact ⟨by omega, .inr (Nat.mul_comm _ _)⟩
    by_cases hfits : displayWidth (sanitizeTerminal text) ≤ maximumCells ∧
        (sanitizeTerminal text).length ≤ maximumBytes
    · rw [if_pos (by simpa using hfits)]
      exact ⟨⟨clean_sanitize (by decide) text, hfits.1, hfits.2.trans hbytes.1⟩, fun _ _ ↦ rfl⟩
    · rw [if_neg (by simpa using hfits)]
      refine ⟨?_, fun hcells hfour ↦ absurd ⟨hcells, ?_⟩ hfits⟩
      · split_ifs with hfew
        · exact fits_dots maximumCells
        · refine fits_cut hcs hprintable (not_le.mp hfew) ?_ hbytes.1
          have hsizeMax : 3 ≤ sizeMax := by decide
          omega
      · rcases hbytes.2 with hbytes | hbytes <;> rw [hbytes]
        · exact hlength
        · exact hfour

/-- Four cells of two wide characters and an accent between them. -/
theorem truncateDisplay_fits_wide :
    Fits (truncateDisplay (encode ['世', '\u0301', '界', '界']) 5) 5 ∧
      (displayWidth (sanitizeTerminal (encode ['世', '\u0301', '界', '界'])) ≤ 5 →
        (sanitizeTerminal (encode ['世', '\u0301', '界', '界'])).length ≤ 4 * 5 →
        truncateDisplay (encode ['世', '\u0301', '界', '界']) 5 =
          sanitizeTerminal (encode ['世', '\u0301', '界', '界'])) :=
  truncateDisplay_fits (by decide) 5

end Skan.Output
