import Skan.Corpus.Words
import Skan.Detect.Comments

/-!
# Quoted fields

`_quote_byte_value` of `tools/corpus/runtime_service_db.py` writes any bytes into a line of a
service database, and `src/detect/service_db.cpp` reads them again. `tokenize_fieldsLine` is the
round trip, for every line of fields: nothing is trimmed or taken for a comment, every field comes
out as one token, and the token is split into the key and the bytes.

The two languages escape alike (`decodeEscape_eq`, `digitValue_eq`) and find the same comments, so
that what is known of a quoted byte there can be used here.
-/

namespace Skan.Detect.ServiceDb

open Skan.Core Skan.PortScan Skan.Corpus Utf8

variable {quoted : Bool} {rest : Text} {b : UInt8}

/-! ### The emitter -/

/-- A byte as `_quote_byte_value` writes it. -/
def quotedByte (value : UInt8) : Str :=
  if value = 13 then ['\\', 'r']
  else if value = 10 then ['\\', 'n']
  else if value = 9 then ['\\', 't']
  else if value = 92 then ['\\', '\\']
  else if value = 34 then ['\\', '"']
  else if 32 ≤ value ∧ value ≤ 126 then [Strings.chr value]
  else '\\' :: 'x' :: Strings.hexPair value

/-- `_quote_byte_value`. -/
def quoteByteValue (data : Text) : Str := '"' :: data.flatMap quotedByte ++ ['"']

/-- A letter of ASCII, or a character beyond it: letters of other scripts are among these. -/
def IsKeyCharacter (c : Char) : Prop := c.isAlpha = true ∨ 0x7F < c.toNat

/-- A key and its value. -/
structure QuotedField where
  key : Str
  value : Text
  key_ne_nil : key ≠ []
  isKeyCharacter : ∀ c ∈ key, IsKeyCharacter c
  value_ne_nil : value ≠ []

namespace QuotedField

/-- The field as it is written. -/
def text (f : QuotedField) : Str := f.key ++ '=' :: quoteByteValue f.value

/-- The token it is read as. -/
def token (f : QuotedField) : Text := Utf8.encode f.key ++ 0x3D :: f.value

end QuotedField

/-- The line of some fields, in bytes. -/
def fieldsLine (fields : List QuotedField) : Text :=
  Utf8.encode (join [' '] (fields.map QuotedField.text))

/-! ### Bytes -/

/-- A byte that stands for itself wherever it is. -/
def IsOrdinary (b : UInt8) : Prop := b ≠ 0x22 ∧ b ≠ 0x5C ∧ b ≠ 0x23 ∧ isSpace b = false

instance : DecidablePred IsOrdinary := fun b ↦
  inferInstanceAs (Decidable (b ≠ 0x22 ∧ b ≠ 0x5C ∧ b ≠ 0x23 ∧ isSpace b = false))

theorem isOrdinary_letter (h : isLetter b = true ∨ 0x80 ≤ b) : IsOrdinary b ∧ b ≠ 0x3D :=
  forall_byte (p := fun b ↦ isLetter b = true ∨ 0x80 ≤ b → IsOrdinary b ∧ b ≠ 0x3D)
    (by decide +kernel) b h

theorem isLetter_ofNat {c : Char} (h : c.isAlpha = true) :
    c.toNat ≤ 0x7F ∧ isLetter (UInt8.ofNat c.toNat) = true := by
  have hrange : (65 ≤ c.toNat ∧ c.toNat ≤ 90) ∨ (97 ≤ c.toNat ∧ c.toNat ≤ 122) := by
    change (decide ('A'.val ≤ c.val ∧ c.val ≤ 'Z'.val) ||
      (decide ('a'.val ≤ c.val) && decide (c.val ≤ 'z'.val))) = true at h
    simpa [UInt32.le_iff_toNat_le] using h
  have hbyte : (UInt8.ofNat c.toNat).toNat = c.toNat :=
    UInt8.toNat_ofNat_of_lt' (show c.toNat < 256 by omega)
  refine ⟨by omega, ?_⟩
  simp only [isLetter, Bool.or_eq_true, Bool.and_eq_true, decide_eq_true_eq,
    UInt8.le_iff_toNat_le, hbyte]
  exact hrange

theorem isOrdinary_key (f : QuotedField) :
    ∀ b ∈ encode f.key, IsOrdinary b ∧ b ≠ 0x3D := by
  intro b hb
  obtain ⟨c, hc, hmem⟩ := List.mem_flatMap.mp hb
  rcases f.isKeyCharacter c hc with hletter | hbeyond
  · obtain ⟨hascii, hbyte⟩ := isLetter_ofNat hletter
    rw [encodeChar_ascii hascii, List.mem_singleton] at hmem
    exact isOrdinary_letter (.inl (hmem ▸ hbyte))
  · exact isOrdinary_letter (.inr (le_of_mem_encodeChar hbeyond hmem))

theorem quotedByte_eq (b : UInt8) : quotedByte b = quoteByte b := by
  unfold quotedByte quoteByte
  by_cases hbackslash : b = 92
  · subst hbackslash
    rfl
  · simp only [if_neg hbackslash]

theorem decodeEscape_eq (escaped : UInt8) : decodeEscape escaped = decodedEscape escaped := rfl

theorem digitValue_eq (c : UInt8) : digitValue c = Strings.hexValue (Strings.chr c) :=
  forall_byte (p := fun c ↦ digitValue c = Strings.hexValue (Strings.chr c)) (by decide +kernel) c

theorem hexEscape_eq {high low : UInt8} (h : hexByte high low = some b) (rest : Text) :
    hexEscape (high :: low :: rest) = some (b, rest) := by
  rw [hexByte, ← digitValue_eq, ← digitValue_eq] at h
  rw [hexEscape]
  cases hhigh : digitValue high with
  | none =>
    rw [hhigh] at h
    cases h
  | some x =>
    cases hlow : digitValue low with
    | none =>
      rw [hhigh, hlow] at h
      cases h
    | some y =>
      rw [hhigh, hlow] at h
      exact congrArg (fun byte ↦ some (byte, rest)) (Option.some.inj h)

theorem encode_quoteByteValue (data : Text) :
    encode (quoteByteValue data) =
      0x22 :: (encode (data.flatMap quotedByte) ++ [0x22]) := by
  rw [quoteByteValue, List.cons_append, encode_cons, encode_append]
  rfl

theorem encode_text (f : QuotedField) :
    encode f.text = encode f.key ++
      0x3D :: 0x22 :: (encode (f.value.flatMap quotedByte) ++ [0x22]) := by
  rw [QuotedField.text, encode_append, encode_cons, encode_quoteByteValue]
  rfl

/-- **A quoted byte** is one pass of `tokenize` inside quotes. -/
theorem pass_quotedByte (b : UInt8) (rest : Text) :
    pass true (encode (quotedByte b) ++ rest) = some ([b], true, rest) := by
  rw [quotedByte_eq]
  rcases encode_quoteByte b with ⟨e, hbytes, hescape⟩ | ⟨hbytes, hquote, hbackslash⟩ |
    ⟨high, low, hbytes, hbyte⟩
  · have hx : e ≠ 0x78 := by
      rintro rfl
      exact nomatch hescape
    rw [hbytes]
    show some ((escape e rest).1, true, (escape e rest).2) = _
    rw [escape, if_neg hx, decodeEscape_eq, hescape]
  · rw [hbytes]
    exact pass_self hquote hbackslash
  · rw [hbytes]
    show some ((escape 0x78 (high :: low :: rest)).1, true,
      (escape 0x78 (high :: low :: rest)).2) = _
    rw [escape, if_pos rfl, hexEscape_eq hbyte]

/-! ### Comments -/

theorem withoutCommentFrom_ordinary {front : Text} (h : ∀ b ∈ front, IsOrdinary b) (rest : Text) :
    withoutCommentFrom false false (front ++ rest) =
      front ++ withoutCommentFrom false false rest := by
  induction front with
  | nil => rfl
  | cons b front ih =>
    obtain ⟨hquote, -, hhash, -⟩ := h b List.mem_cons_self
    rw [List.cons_append, withoutCommentFrom, ih fun c hc ↦ h c (List.mem_cons_of_mem b hc)]
    simp [hquote, hhash]

/-- Both languages leave off the same comments. -/
theorem withoutCommentFrom_eq (quoted escaped : Bool) (text : Text) :
    withoutCommentFrom quoted escaped text = Corpus.withoutCommentFrom quoted escaped text := by
  induction text generalizing quoted escaped with
  | nil => rfl
  | cons c text ih => simp only [withoutCommentFrom, Corpus.withoutCommentFrom, ih]

/-- No `#` between quotation marks starts a comment. -/
theorem withoutCommentFrom_value (value rest : Text) :
    withoutCommentFrom true false (encode (value.flatMap quotedByte) ++ rest) =
      encode (value.flatMap quotedByte) ++ withoutCommentFrom true false rest := by
  rw [withoutCommentFrom_eq, withoutCommentFrom_eq, funext quotedByte_eq]
  exact withoutCommentFrom_quoted value rest

theorem withoutCommentFrom_field (f : QuotedField) (rest : Text) :
    withoutCommentFrom false false (encode f.text ++ rest) =
      encode f.text ++ withoutCommentFrom false false rest := by
  have hkey := @withoutCommentFrom_ordinary (encode f.key) fun b hb ↦ (isOrdinary_key f b hb).1
  have hvalue := withoutCommentFrom_value f.value (0x22 :: rest)
  rw [encode_text, List.append_assoc, List.append_assoc, hkey]
  congr 1
  show 0x3D :: 0x22 :: withoutCommentFrom true false
    (encode (f.value.flatMap quotedByte) ++ [0x22] ++ rest) = _
  rw [List.append_assoc, List.singleton_append, hvalue, List.cons_append, List.cons_append,
    List.append_assoc]
  rfl

theorem fieldsLine_cons_cons (f next : QuotedField) (fields : List QuotedField) :
    fieldsLine (f :: next :: fields) =
      encode f.text ++ 0x20 :: fieldsLine (next :: fields) := by
  rw [fieldsLine, List.map_cons, List.map_cons, join_cons_cons, encode_append,
    encode_append]
  rfl

theorem fieldsLine_singleton (f : QuotedField) : fieldsLine [f] = encode f.text := by
  rw [fieldsLine, List.map_singleton, join, List.intercalate_singleton]

theorem withoutCommentFrom_fieldsLine (fields : List QuotedField) :
    withoutCommentFrom false false (fieldsLine fields) = fieldsLine fields := by
  induction fields with
  | nil => rfl
  | cons f fields ih =>
    cases fields with
    | nil =>
      have hfield := withoutCommentFrom_field f []
      rw [withoutCommentFrom, List.append_nil] at hfield
      rwa [fieldsLine_singleton]
    | cons next fields =>
      rw [fieldsLine_cons_cons, withoutCommentFrom_field]
      congr 1
      show 0x20 :: withoutCommentFrom false false (fieldsLine (next :: fields)) = _
      rw [ih]

/-! ### Tokens -/

/-- `tokenize` reads a token from here on, inside quotes or not, and leaves the rest. -/
inductive Reads : Bool → Text → Text → Text → Prop where
  | done : Reads false [] [] []
  | space {c : UInt8} {text : Text} : isSpace c = true → Reads false (c :: text) [] text
  | pass {quoted quoted' : Bool} {c : UInt8} {text bytes after token rest : Text} :
    (!quoted && isSpace c) = false → pass quoted (c :: text) = some (bytes, quoted', after) →
      Reads quoted' after token rest → Reads quoted (c :: text) (bytes ++ token) rest

theorem length_of_pass {quoted' : Bool} {text bytes : Text}
    (h : pass quoted text = some (bytes, quoted', rest)) : rest.length < text.length := by
  rcases pass_cases h with ⟨rfl, -⟩ | ⟨high, low, rfl, -⟩ | ⟨escaped, rfl, -⟩ | ⟨c, rfl, -⟩
  · exact Nat.lt_succ_self _
  · simp only [List.length_cons]
    omega
  · simp only [List.length_cons]
    omega
  · exact Nat.lt_succ_self _

/-- The length of what is left is as many passes as it takes. -/
theorem Reads.readToken_eq {text token : Text} (h : Reads quoted text token rest) {fuel : ℕ}
    (hfuel : text.length ≤ fuel) : readToken fuel quoted text = some (token, rest) := by
  induction h generalizing fuel with
  | done => cases fuel <;> rfl
  | @space c text hspace =>
    obtain ⟨fuel, rfl⟩ : ∃ k, fuel = k + 1 :=
      Nat.exists_eq_succ_of_ne_zero (by rw [List.length_cons] at hfuel; omega)
    rw [readToken, hspace]
    rfl
  | @pass quoted quoted' c text bytes after token rest hgoes hpass hreads ih =>
    obtain ⟨fuel, rfl⟩ : ∃ k, fuel = k + 1 :=
      Nat.exists_eq_succ_of_ne_zero (by rw [List.length_cons] at hfuel; omega)
    have hlength := length_of_pass hpass
    rw [readToken, hgoes, if_neg Bool.false_ne_true, hpass]
    dsimp only
    rw [ih (by omega), Option.map_some]

theorem Reads.self {text token : Text} (hquote : b ≠ 0x22) (hbackslash : b ≠ 0x5C)
    (hgoes : (!quoted && isSpace b) = false) (h : Reads quoted text token rest) :
    Reads quoted (b :: text) (b :: token) rest :=
  .pass hgoes (pass_self hquote hbackslash) h

theorem Reads.quote {text token : Text} (h : Reads (!quoted) text token rest) :
    Reads quoted (0x22 :: text) token rest := by
  have hreads : Reads quoted (0x22 :: text) ([] ++ token) rest := .pass (Bool.and_false _) rfl h
  exact hreads

theorem Reads.ordinary {front : Text} (h : ∀ b ∈ front, IsOrdinary b) {text token : Text}
    (hreads : Reads false text token rest) : Reads false (front ++ text) (front ++ token) rest := by
  induction front with
  | nil => exact hreads
  | cons b front ih =>
    obtain ⟨hquote, hbackslash, -, hspace⟩ := h b List.mem_cons_self
    refine .self hquote hbackslash ?_ (ih fun c hc ↦ h c (List.mem_cons_of_mem b hc))
    rw [hspace, Bool.and_false]

/-- A quoted value is read as its bytes. -/
theorem Reads.value (value : Text) {text token : Text} (h : Reads true text token rest) :
    Reads true (encode (value.flatMap quotedByte) ++ text) (value ++ token) rest := by
  induction value with
  | nil => exact h
  | cons b value ih =>
    have hpass := pass_quotedByte b (encode (value.flatMap quotedByte) ++ text)
    rw [List.flatMap_cons, encode_append, List.append_assoc]
    revert hpass
    cases encode (quotedByte b) ++ (encode (value.flatMap quotedByte) ++ text) with
    | nil => exact fun hpass ↦ nomatch hpass
    | cons c after =>
      intro hpass
      have hreads : Reads true (c :: after) ([b] ++ (value ++ token)) rest := .pass rfl hpass ih
      exact hreads

/-- **A field** is read as its token. -/
theorem Reads.field (f : QuotedField) {text token : Text} (h : Reads false text token rest) :
    Reads false (encode f.text ++ text) (f.token ++ token) rest := by
  rw [encode_text, List.append_assoc, QuotedField.token, List.append_assoc]
  have hvalue : Reads true (encode (f.value.flatMap quotedByte) ++ 0x22 :: text)
      (f.value ++ token) rest := .value f.value (.quote h)
  refine .ordinary (fun b hb ↦ (isOrdinary_key f b hb).1) (.self (by decide) (by decide) rfl ?_)
  refine .quote ?_
  show Reads true (encode (f.value.flatMap quotedByte) ++ [0x22] ++ text) _ rest
  rwa [List.append_assoc, List.singleton_append]

/-- The first byte of a field is no space. -/
theorem head_field (f : QuotedField) :
    ∃ b rest, encode f.text = b :: rest ∧ isSpace b = false := by
  rw [encode_text]
  cases hkey : encode f.key with
  | nil => exact absurd hkey (encode_ne_nil f.key_ne_nil)
  | cons b rest =>
    exact ⟨b, _, rfl, (isOrdinary_key f b (hkey ▸ List.mem_cons_self)).1.2.2.2⟩

/-- Nor is that of a line. -/
theorem head_fieldsLine (f : QuotedField) (fields : List QuotedField) :
    ∃ b rest, fieldsLine (f :: fields) = b :: rest ∧ isSpace b = false := by
  obtain ⟨b, front, hbytes, hb⟩ := head_field f
  cases fields with
  | nil => exact ⟨b, front, by rw [fieldsLine_singleton, hbytes], hb⟩
  | cons next fields => exact ⟨b, _, by rw [fieldsLine_cons_cons, hbytes, List.cons_append], hb⟩

/-- **The fields are read one after the other.** -/
theorem tokenizeLoop_fieldsLine (fields : List QuotedField) {fuel : ℕ}
    (hfuel : fields.length < fuel) :
    tokenizeLoop fuel (fieldsLine fields) = some (fields.map QuotedField.token) := by
  induction fields generalizing fuel with
  | nil =>
    obtain ⟨fuel, rfl⟩ := Nat.exists_eq_succ_of_ne_zero (Nat.ne_zero_of_lt hfuel)
    rfl
  | cons f fields ih =>
    obtain ⟨fuel, rfl⟩ := Nat.exists_eq_succ_of_ne_zero (Nat.ne_zero_of_lt hfuel)
    obtain ⟨b, front, hbytes, hb⟩ := head_field f
    -- what follows the field is nothing, or a space and the other fields
    obtain ⟨after, hline, hreads⟩ : ∃ after,
        fieldsLine (f :: fields) = encode f.text ++ after ∧
          Reads false after [] (fieldsLine fields) := by
      cases fields with
      | nil => exact ⟨[], by rw [fieldsLine_singleton, List.append_nil], .done⟩
      | cons next fields => exact ⟨_, fieldsLine_cons_cons f next fields, .space rfl⟩
    have htoken := Reads.field f hreads
    rw [hbytes, List.append_nil] at htoken
    rw [hline, hbytes, List.cons_append, tokenizeLoop,
      List.dropWhile_cons_of_neg (Bool.eq_false_iff.mp hb)]
    dsimp only
    rw [← List.cons_append, htoken.readToken_eq le_rfl, Option.bind_eq_bind, Option.bind_some]
    dsimp only
    rw [ih (Nat.lt_of_succ_lt_succ hfuel)]
    rfl

/-! ### Ends and assignments -/

/-- A token is split at its `=`. -/
theorem splitAssignment_token (f : QuotedField) :
    splitAssignment f.token = some (encode f.key, f.value) := by
  have hkey : ∀ b ∈ encode f.key, (decide (b ≠ 0x3D)) = true :=
    fun b hb ↦ decide_eq_true (isOrdinary_key f b hb).2
  have hspan : f.token.span (fun b ↦ decide (b ≠ 0x3D)) = (encode f.key, 0x3D :: f.value) := by
    rw [List.span_eq_takeWhile_dropWhile, QuotedField.token, List.takeWhile_append_of_pos hkey,
      List.dropWhile_append_of_pos hkey]
    simp
  rw [splitAssignment, hspan]
  dsimp only
  rw [if_neg]
  simp [encode_ne_nil f.key_ne_nil, f.value_ne_nil]

theorem getLast_fieldsLine (fields : List QuotedField) :
    ∀ b ∈ (fieldsLine fields).getLast?, isSpace b = false := by
  induction fields with
  | nil => exact fun b hb ↦ nomatch hb
  | cons f fields ih =>
    cases fields with
    | nil =>
      intro b hb
      rw [fieldsLine_singleton, encode_text, ← List.cons_append, ← List.cons_append,
        ← List.append_assoc, List.getLast?_concat, Option.mem_some_iff] at hb
      exact hb ▸ rfl
    | cons next fields =>
      obtain ⟨b, front, hbytes, -⟩ := head_fieldsLine next fields
      have hne : fieldsLine (next :: fields) ≠ [] := hbytes ▸ List.cons_ne_nil b front
      rw [fieldsLine_cons_cons, List.append_cons, List.getLast?_append_of_ne_nil _ hne]
      exact ih

/-- No blanks surround the line. -/
theorem trim_fieldsLine (fields : List QuotedField) :
    trim (fieldsLine fields) = fieldsLine fields := by
  refine Strings.strip_eq_self (fun b hb ↦ ?_) fun b hb ↦
    by simp [getLast_fieldsLine fields b hb]
  cases fields with
  | nil => exact nomatch hb
  | cons f fields =>
    obtain ⟨c, front, hbytes, hc⟩ := head_fieldsLine f fields
    rw [hbytes, List.head?_cons] at hb
    obtain rfl := Option.some.inj hb
    simp [hc]

theorem length_le_fieldsLine (fields : List QuotedField) :
    fields.length ≤ (fieldsLine fields).length := by
  induction fields with
  | nil => exact Nat.zero_le _
  | cons f fields ih =>
    obtain ⟨b, front, hbytes, -⟩ := head_field f
    cases fields with
    | nil =>
      rw [fieldsLine_singleton, hbytes]
      exact Nat.succ_le_succ (Nat.zero_le _)
    | cons next fields =>
      rw [fieldsLine_cons_cons]
      simp only [List.length_append, List.length_cons] at ih ⊢
      omega

/-- **What the emitter quotes is read back**: each field of a line is a token, and splits into its
key and its bytes. -/
theorem tokenize_fieldsLine (fields : List QuotedField) :
    trim (fieldsLine fields) = fieldsLine fields ∧
    withoutComment (fieldsLine fields) = fieldsLine fields ∧
    ∃ tokens, tokenize (fieldsLine fields) = some tokens ∧
      tokens.map splitAssignment = fields.map fun f ↦ some (Utf8.encode f.key, f.value) := by
  refine ⟨trim_fieldsLine fields, withoutCommentFrom_fieldsLine fields,
    fields.map QuotedField.token, ?_, ?_⟩
  · exact tokenizeLoop_fieldsLine fields (Nat.lt_succ_of_le (length_le_fieldsLine fields))
  · rw [List.map_map]
    exact List.map_congr_left fun f _ ↦ splitAssignment_token f

/-- A backslash before an `x`, a quote before a `#`, and an assignment in the value. -/
example : tokenize (Utf8.encode ("k=".toList ++ quoteByteValue (literal "\\x41\"#=" ++ [0, 0xFF])))
    = some [literal "k=\\x41\"#=" ++ [0, 0xFF]] := by decide +kernel

end Skan.Detect.ServiceDb
