import Skan.Corpus.Compiler

/-!
# Words of an emitted line

A line of a service database is a sequence of words between single spaces. A word is plain text that
the lexer leaves alone, and perhaps a quoted byte string behind it.

`tokenize_line` is the round trip: the lexer reads the line of any words as their tokens, whatever
bytes were quoted. `encode_quoteByte` says once what `quote` can make of a byte, and everything
about quoted bytes is derived from it. -/

namespace Skan.Corpus

open Utf8

variable {b : UInt8} {w : Word} {words : List Word} {c : Char} {fuel : ℕ}

/-! ### Words and lines -/

/-- A word. -/
structure Word where
  plain : Str
  quoted : Option Bytes := none

namespace Word

/-- The word as it is written. -/
def text (w : Word) : Str := w.plain ++ (w.quoted.map quote).getD []

/-- The token that it is read as. -/
def token (w : Word) : Bytes := Utf8.encode w.plain ++ w.quoted.getD []

end Word

/-- The line of some words. -/
def wordsLine (words : List Word) : Str := join [' '] (words.map Word.text)

/-- Printable ASCII characters that mean nothing to the lexer. -/
def isPlain (c : Char) : Bool :=
  0x21 ≤ c.toNat && c.toNat ≤ 0x7E && c ≠ '"' && c ≠ '\\' && c ≠ '#'

/-- A word that is written with at least one character. -/
structure Word.Proper (w : Word) : Prop where
  plain : ∀ c ∈ w.plain, isPlain c
  nonempty : w.plain ≠ [] ∨ w.quoted ≠ none

/-! ### Bytes of plain text -/

theorem le_of_isPlain (h : isPlain c) : c.toNat ≤ 0x7F := by
  simp only [isPlain, Bool.and_eq_true, decide_eq_true_eq] at h
  omega

/-- A byte of plain text. -/
def isPlainByte (b : UInt8) : Bool :=
  0x21 ≤ b && b ≤ 0x7E && b ≠ 0x22 && b ≠ 0x5C && b ≠ 0x23

theorem isPlainByte_of_isPlain (h : isPlain c) : isPlainByte (UInt8.ofNat c.toNat) := by
  simp only [isPlain, Bool.and_eq_true, decide_eq_true_eq] at h
  obtain ⟨⟨⟨⟨hlow, hhigh⟩, hquote⟩, hbackslash⟩, hhash⟩ := h
  have hbyte : (UInt8.ofNat c.toNat).toNat = c.toNat :=
    UInt8.toNat_ofNat_of_lt' (show c.toNat < 256 by omega)
  have hne : ∀ d : Char, c ≠ d → d.toNat ≤ 0x7F → UInt8.ofNat c.toNat ≠ UInt8.ofNat d.toNat := by
    intro d hcd hd heq
    have hd' : (UInt8.ofNat d.toNat).toNat = d.toNat :=
      UInt8.toNat_ofNat_of_lt' (show d.toNat < 256 by omega)
    have hnat := congrArg UInt8.toNat heq
    rw [hbyte, hd'] at hnat
    exact hcd (Char.toNat_inj.mp hnat)
  simp only [isPlainByte, Bool.and_eq_true, decide_eq_true_eq, UInt8.le_iff_toNat_le, hbyte]
  exact ⟨⟨⟨⟨hlow, hhigh⟩, hne '"' hquote (by decide)⟩, hne '\\' hbackslash (by decide)⟩,
    hne '#' hhash (by decide)⟩

theorem encode_plain {text : Str} (h : ∀ c ∈ text, isPlain c) :
    ∀ b ∈ encode text, isPlainByte b := by
  rw [encode_ascii fun c hc ↦ le_of_isPlain (h c hc)]
  intro b hb
  obtain ⟨c, hc, rfl⟩ := List.mem_map.mp hb
  exact isPlainByte_of_isPlain (h c hc)

/-- What the lexer asks of a byte outside quotes. -/
theorem of_isPlainByte (h : isPlainByte b) :
    b ≠ 0x22 ∧ b ≠ 0x5C ∧ b ≠ 0x23 ∧ isSpaceByte b = false := by
  simp only [isPlainByte, Bool.and_eq_true, decide_eq_true_eq] at h
  obtain ⟨⟨⟨⟨hlow, -⟩, hquote⟩, hbackslash⟩, hhash⟩ := h
  refine ⟨hquote, hbackslash, hhash, ?_⟩
  rw [UInt8.le_iff_toNat_le] at hlow
  simp only [isSpaceByte, Bool.or_eq_false_iff, decide_eq_false_iff_not]
  refine ⟨⟨⟨⟨⟨?_, ?_⟩, ?_⟩, ?_⟩, ?_⟩, ?_⟩ <;> (rintro rfl; exact absurd hlow (by decide))

/-! ### Quoted bytes -/

/-- A character of a line. -/
def IsPrintable (c : Char) : Prop := 0x20 ≤ c.toNat ∧ c.toNat ≤ 0x7E

theorem isPrintable_of_isPlain (h : isPlain c) : IsPrintable c := by
  simp only [isPlain, Bool.and_eq_true, decide_eq_true_eq] at h
  rw [IsPrintable]
  omega

theorem chr_toNat (h : b ≤ 126) : (Strings.chr b).toNat = b.toNat := by
  have hle : b.toNat ≤ 126 := UInt8.le_iff_toNat_le.mp h
  exact toNat_ofNat (.inl (by omega))

theorem isPrintable_hexPair (b : UInt8) : ∀ c ∈ Strings.hexPair b, IsPrintable c := by
  have hlt := b.toNat_lt
  have hdigit : ∀ n < 16, 0x20 ≤ n.digitChar.toNat ∧ n.digitChar.toNat ≤ 0x7E := by decide
  simp only [Strings.hexPair, List.mem_cons, List.not_mem_nil, or_false]
  rintro c (rfl | rfl)
  · exact hdigit _ (by omega)
  · exact hdigit _ (by omega)

theorem isPrintable_quoteByte (b : UInt8) : ∀ c ∈ quoteByte b, IsPrintable c := by
  have hescape : ∀ d : Char, IsPrintable d → ∀ c ∈ ['\\', d], IsPrintable c := by
    intro d hd c hc
    rcases List.mem_pair.mp hc with rfl | rfl
    · exact ⟨by decide, by decide⟩
    · exact hd
  rw [quoteByte]
  split_ifs with _ _ _ _ _ hprintable
  · exact hescape 'r' ⟨by decide, by decide⟩
  · exact hescape 'n' ⟨by decide, by decide⟩
  · exact hescape 't' ⟨by decide, by decide⟩
  · exact hescape '"' ⟨by decide, by decide⟩
  · exact hescape '\\' ⟨by decide, by decide⟩
  · intro c hc
    rw [List.mem_singleton.mp hc, IsPrintable, chr_toNat hprintable.2]
    exact ⟨UInt8.le_iff_toNat_le.mp hprintable.1, UInt8.le_iff_toNat_le.mp hprintable.2⟩
  · intro c hc
    rcases List.mem_cons.mp hc with rfl | hc
    · exact ⟨by decide, by decide⟩
    rcases List.mem_cons.mp hc with rfl | hc
    · exact ⟨by decide, by decide⟩
    · exact isPrintable_hexPair b c hc

theorem hexByte_hexPair (b : UInt8) :
    hexByte (UInt8.ofNat (b.toNat / 16).digitChar.toNat)
      (UInt8.ofNat (b.toNat % 16).digitChar.toNat) =
      some b := by
  have hlt := b.toNat_lt
  have hdigit : ∀ n < 16, n.digitChar.toNat ≤ 0x7F := by decide
  rw [hexByte, Strings.chr_ofNat (hdigit _ (by omega)), Strings.chr_ofNat (hdigit _ (by omega)),
    Strings.hexValue_digitChar _ (by omega), Strings.hexValue_digitChar _ (by omega)]
  dsimp only
  rw [Nat.div_add_mod', UInt8.ofNat_toNat]

/-- The two digits of a byte are no other character. -/
theorem ne_of_hexByte {high low c : UInt8} (h : hexByte high low = some b)
    (hc : Strings.hexValue (Strings.chr c) = none) : high ≠ c ∧ low ≠ c := by
  rw [hexByte] at h
  split at h
  · rename_i hhigh hlow
    constructor
    · rintro rfl
      exact absurd (hc.symm.trans hhigh) (by simp)
    · rintro rfl
      exact absurd (hc.symm.trans hlow) (by simp)
  · exact absurd h (by simp)

/-- **A quoted byte** is an escape, the byte itself, or two hexadecimal digits. -/
theorem encode_quoteByte (b : UInt8) :
    (∃ e, encode (quoteByte b) = [0x5C, e] ∧ decodedEscape e = some b) ∨
      (encode (quoteByte b) = [b] ∧ b ≠ 0x22 ∧ b ≠ 0x5C) ∨
        ∃ high low, encode (quoteByte b) = [0x5C, 0x78, high, low] ∧
          hexByte high low = some b := by
  have hascii : ∀ c ∈ quoteByte b, c.toNat ≤ 0x7F := fun c hc ↦
    (isPrintable_quoteByte b c hc).2.trans (by decide)
  rw [encode_ascii hascii, quoteByte]
  split_ifs with hreturn hnewline htab hquote hbackslash hprintable
  · exact .inl ⟨0x72, by decide, by rw [hreturn]; decide⟩
  · exact .inl ⟨0x6E, by decide, by rw [hnewline]; decide⟩
  · exact .inl ⟨0x74, by decide, by rw [htab]; decide⟩
  · exact .inl ⟨0x22, by decide, by rw [hquote]; decide⟩
  · exact .inl ⟨0x5C, by decide, by rw [hbackslash]; decide⟩
  · refine .inr (.inl ⟨?_, hquote, hbackslash⟩)
    rw [List.map_singleton, chr_toNat hprintable.2, UInt8.ofNat_toNat]
  · exact .inr (.inr ⟨_, _, rfl, hexByte_hexPair b⟩)

/-! ### Comments -/

theorem withoutCommentFrom_space (rest : Bytes) :
    withoutCommentFrom false false (0x20 :: rest) = 0x20 :: withoutCommentFrom false false rest :=
      rfl

theorem withoutCommentFrom_quote (quoted : Bool) (rest : Bytes) :
    withoutCommentFrom quoted false (0x22 :: rest) =
      0x22 :: withoutCommentFrom (!quoted) false rest := by
  cases quoted <;> rfl

/-- Plain bytes are not cut off. -/
theorem withoutCommentFrom_plain {front : Bytes} (h : ∀ b ∈ front, isPlainByte b) (rest : Bytes) :
    withoutCommentFrom false false (front ++ rest) =
      front ++ withoutCommentFrom false false rest := by
  induction front with
  | nil => rfl
  | cons b front ih =>
    obtain ⟨hquote, -, hhash, -⟩ := of_isPlainByte (h b List.mem_cons_self)
    rw [List.cons_append, withoutCommentFrom, ih fun c hc ↦ h c (List.mem_cons_of_mem b hc)]
    simp [hquote, hhash]

/-- Nor is what stands between quotes. -/
theorem withoutCommentFrom_quoted (value rest : Bytes) :
    withoutCommentFrom true false (encode (value.flatMap quoteByte) ++ rest) =
      encode (value.flatMap quoteByte) ++ withoutCommentFrom true false rest := by
  induction value with
  | nil => rfl
  | cons b value ih =>
    rw [List.flatMap_cons, encode_append, List.append_assoc, List.append_assoc, ← ih]
    rcases encode_quoteByte b with ⟨e, hbytes, -⟩ | ⟨hbytes, hquote, hbackslash⟩ |
      ⟨high, low, hbytes, hbyte⟩
    · rw [hbytes]
      simp [withoutCommentFrom]
    · rw [hbytes]
      simp [withoutCommentFrom, hquote, hbackslash]
    · have hbackslash := ne_of_hexByte (c := 0x5C) hbyte (by decide)
      have hquote := ne_of_hexByte (c := 0x22) hbyte (by decide)
      rw [hbytes]
      simp [withoutCommentFrom, hbackslash, hquote]

/-- The bytes between the quotes. -/
theorem encode_quote (value : Bytes) :
    encode (quote value) = 0x22 :: (encode (value.flatMap quoteByte) ++ [0x22]) := by
  rw [quote, List.cons_append, encode_cons, encode_append]
  rfl

theorem withoutCommentFrom_text (h : w.Proper) (rest : Bytes) :
    withoutCommentFrom false false (encode w.text ++ rest) =
      encode w.text ++ withoutCommentFrom false false rest := by
  rw [Word.text, encode_append, List.append_assoc, List.append_assoc,
    withoutCommentFrom_plain (encode_plain h.plain)]
  congr 1
  cases w.quoted with
  | none => rfl
  | some value =>
    have hquoted := withoutCommentFrom_quoted value (0x22 :: rest)
    rw [Option.map_some, Option.getD_some, encode_quote, List.cons_append, List.append_assoc,
      List.singleton_append, withoutCommentFrom_quote, Bool.not_false, hquoted,
      withoutCommentFrom_quote, Bool.not_true, List.cons_append, List.append_assoc,
      List.singleton_append]

theorem join_cons_cons (sep part next : Str) (parts : List Str) :
    join sep (part :: next :: parts) = part ++ (sep ++ join sep (next :: parts)) := by
  simp [join, List.intercalate]

theorem wordsLine_cons_cons (w next : Word) (words : List Word) :
    wordsLine (w :: next :: words) = w.text ++ ' ' :: wordsLine (next :: words) :=
  join_cons_cons [' '] _ _ _

theorem wordsLine_singleton (w : Word) : wordsLine [w] = w.text := by
  simp [wordsLine, join, List.intercalate]

/-- **A line of words** holds no comment. -/
theorem withoutCommentFrom_line (h : ∀ w ∈ words, w.Proper) (rest : Bytes) :
    withoutCommentFrom false false (encode (wordsLine words) ++ rest) =
      encode (wordsLine words) ++ withoutCommentFrom false false rest := by
  induction words with
  | nil => rfl
  | cons w words ih =>
    have hw := h w List.mem_cons_self
    replace ih := ih fun v hv ↦ h v (List.mem_cons_of_mem w hv)
    cases words with
    | nil => rw [wordsLine_singleton, withoutCommentFrom_text hw]
    | cons next words =>
      rw [wordsLine_cons_cons, encode_append, encode_cons, List.append_assoc,
        withoutCommentFrom_text hw, List.append_assoc]
      have hspace : String.utf8EncodeChar ' ' = [0x20] := by decide
      rw [hspace, List.append_assoc, List.singleton_append, withoutCommentFrom_space, ih,
        List.append_assoc, List.singleton_append]

theorem withoutComment_line (h : ∀ w ∈ words, w.Proper) :
    withoutComment (encode (wordsLine words)) = encode (wordsLine words) := by
  have hline := withoutCommentFrom_line h []
  rwa [List.append_nil, withoutCommentFrom, List.append_nil] at hline

/-! ### Tokens -/

/-- **Fuel**: the length of the line is enough. -/
theorem readToken_eq {n fuel' : ℕ} {quoted : Bool} {line : Bytes} (h : line.length ≤ fuel)
    (h' : line.length ≤ fuel') : readToken n fuel quoted line = readToken n fuel' quoted line := by
  induction fuel generalizing fuel' quoted line with
  | zero =>
    obtain rfl := List.length_eq_zero_iff.mp (Nat.le_zero.mp h)
    rw [readToken, readToken]
  | succ fuel ih =>
    cases line with
    | nil => rw [readToken, readToken]
    | cons c rest =>
      obtain ⟨fuel', rfl⟩ : ∃ k, fuel' = k + 1 :=
        Nat.exists_eq_succ_of_ne_zero (by rw [List.length_cons] at h'; omega)
      rw [List.length_cons] at h h'
      have hrest : ∀ {quoted : Bool} {after : Bytes}, after.length ≤ rest.length →
          readToken n fuel quoted after = readToken n fuel' quoted after :=
        fun hle ↦ ih (by omega) (by omega)
      rw [readToken.eq_def, readToken.eq_def]
      dsimp only
      split_ifs
      · exact hrest le_rfl
      · split
        · rfl
        · split
          · rw [hrest (by simp only [List.length_cons]; omega)]
          · rw [hrest (by simp only [List.length_cons]; omega)]
        · split
          · rw [hrest (by simp only [List.length_cons]; omega)]
          · rw [hrest (by simp only [List.length_cons]; omega)]
      · rfl
      · rw [hrest le_rfl]

/-- `readToken` with as much fuel as it needs. -/
def readAll (n : ℕ) (quoted : Bool) (line : Bytes) : Except RuntimeCorpusError (Bytes × Bytes) :=
  readToken n line.length quoted line

theorem readToken_eq_readAll {n : ℕ} {quoted : Bool} {line : Bytes} (h : line.length ≤ fuel) :
    readToken n fuel quoted line = readAll n quoted line := readToken_eq h le_rfl

section

variable (n : ℕ) (quoted : Bool) (rest : Bytes)

theorem readAll_nil : readAll n false [] = .ok ([], []) := rfl

theorem readAll_space : readAll n false (0x20 :: rest) = .ok ([], rest) := rfl

theorem readAll_quote : readAll n quoted (0x22 :: rest) = readAll n (!quoted) rest := by
  rw [readAll, List.length_cons, readToken.eq_def]
  dsimp only
  rw [if_pos rfl, readAll]

theorem readAll_hex {high low : UInt8} (h : hexByte high low = some b) :
    readAll n quoted (0x5C :: 0x78 :: high :: low :: rest) =
      pushed [b] (readAll n quoted rest) := by
  rw [readAll, List.length_cons, readToken.eq_def]
  dsimp only
  rw [if_neg (by decide), if_pos rfl]
  split
  · rename_i heq
    exact absurd heq (by simp)
  · rename_i heq
    simp only [List.cons.injEq, true_and] at heq
    obtain ⟨rfl, rfl, rfl⟩ := heq
    rw [h]
    dsimp only
    rw [readToken_eq_readAll (by simp only [List.length_cons]; omega)]
  · rename_i hother heq
    obtain ⟨rfl, rfl⟩ := List.cons.inj heq
    exact absurd rfl (hother high low rest rfl)

theorem readAll_escape {e : UInt8} (h : decodedEscape e = some b) :
    readAll n quoted (0x5C :: e :: rest) = pushed [b] (readAll n quoted rest) := by
  have hx : e ≠ 0x78 := by
    rintro rfl
    exact absurd h.symm (by simp [decodedEscape])
  rw [readAll, List.length_cons, readToken.eq_def]
  dsimp only
  rw [if_neg (by decide), if_pos rfl]
  split
  · rename_i heq
    exact absurd heq (by simp)
  · rename_i heq
    exact absurd (List.cons.inj heq).1 hx
  · rename_i heq
    obtain ⟨rfl, rfl⟩ := List.cons.inj heq
    rw [h]
    dsimp only
    rw [readToken_eq_readAll (by simp only [List.length_cons]; omega)]

theorem readAll_self (hquote : b ≠ 0x22) (hbackslash : b ≠ 0x5C)
    (hspace : quoted ∨ isSpaceByte b = false) :
    readAll n quoted (b :: rest) = pushed [b] (readAll n quoted rest) := by
  have hgoes : (!quoted && isSpaceByte b) = false := by
    rcases hspace with h | h
    · rw [h, Bool.not_true, Bool.false_and]
    · rw [h, Bool.and_false]
  rw [readAll, List.length_cons, readToken.eq_def]
  dsimp only
  rw [if_neg hquote, if_neg hbackslash, hgoes, if_neg Bool.false_ne_true, readAll]

/-- **A byte between quotes** is read back. -/
theorem readAll_quoteByte (b : UInt8) :
    readAll n true (encode (quoteByte b) ++ rest) = pushed [b] (readAll n true rest) := by
  rcases encode_quoteByte b with ⟨e, hbytes, hescape⟩ | ⟨hbytes, hquote, hbackslash⟩ |
    ⟨high, low, hbytes, hbyte⟩
  · rw [hbytes]
    exact readAll_escape n true rest hescape
  · rw [hbytes]
    exact readAll_self n true rest hquote hbackslash (.inl rfl)
  · rw [hbytes]
    exact readAll_hex n true rest hbyte

end

@[simp] theorem pushed_nil (read : Except RuntimeCorpusError (Bytes × Bytes)) :
    pushed [] read = read := by
  cases read <;> rfl

theorem pushed_pushed (front next : Bytes) (read : Except RuntimeCorpusError (Bytes × Bytes)) :
    pushed front (pushed next read) = pushed (front ++ next) read := by
  cases read with
  | error => rfl
  | ok r =>
      exact congrArg (fun token ↦ Except.ok (token, r.2)) (List.append_assoc front next r.1).symm

theorem pushed_ok (front token rest : Bytes) :
    pushed front (.ok (token, rest)) = .ok (front ++ token, rest) := rfl

/-- **A quoted byte string** is read back. -/
theorem readAll_quoted (n : ℕ) (value rest : Bytes) :
    readAll n true (encode (value.flatMap quoteByte) ++ rest) =
      pushed value (readAll n true rest) := by
  induction value with
  | nil => rw [pushed_nil]; rfl
  | cons b value ih =>
    rw [List.flatMap_cons, encode_append, List.append_assoc, readAll_quoteByte, ih,
      pushed_pushed]
    rfl

/-- Plain bytes stand for themselves. -/
theorem readAll_plain (n : ℕ) {front : Bytes} (h : ∀ b ∈ front, isPlainByte b) (rest : Bytes) :
    readAll n false (front ++ rest) = pushed front (readAll n false rest) := by
  induction front with
  | nil => rw [pushed_nil]; rfl
  | cons b front ih =>
    obtain ⟨hquote, hbackslash, -, hspace⟩ := of_isPlainByte (h b List.mem_cons_self)
    rw [List.cons_append, readAll_self n false _ hquote hbackslash (.inr hspace),
      ih fun c hc ↦ h c (List.mem_cons_of_mem b hc), pushed_pushed]
    rfl

/-- **A word** is read as its token. -/
theorem readAll_text (n : ℕ) (h : w.Proper) (rest : Bytes) :
    readAll n false (encode w.text ++ rest) = pushed w.token (readAll n false rest) := by
  rw [Word.text, encode_append, List.append_assoc, readAll_plain n (encode_plain h.plain),
    Word.token]
  cases w.quoted with
  | none => simp
  | some value =>
    rw [Option.map_some, Option.getD_some, Option.getD_some, encode_quote, List.cons_append,
      List.append_assoc, List.singleton_append, readAll_quote, Bool.not_false, readAll_quoted,
      readAll_quote, Bool.not_true, pushed_pushed]

/-! ### Lines -/

theorem encode_ne_nil {text : Str} (h : text ≠ []) : encode text ≠ [] := by
  obtain ⟨c, cs, rfl⟩ := List.exists_cons_of_ne_nil h
  rw [encode_cons]
  exact List.append_ne_nil_of_left_ne_nil String.utf8EncodeChar_ne_nil _

theorem Word.Proper.text_ne_nil (h : w.Proper) : w.text ≠ [] := by
  rcases h.nonempty with hplain | hquoted
  · exact List.append_ne_nil_of_left_ne_nil hplain _
  · obtain ⟨value, hvalue⟩ := Option.ne_none_iff_exists'.mp hquoted
    rw [Word.text, hvalue]
    exact List.append_ne_nil_of_right_ne_nil _ (List.cons_ne_nil _ _)

/-- The first byte of a word is no space. -/
theorem head_text (h : w.Proper) :
    ∃ b rest, encode w.text = b :: rest ∧ isSpaceByte b = false := by
  rw [Word.text, encode_append]
  cases hbytes : encode w.plain with
  | cons b rest =>
    have hb : b ∈ encode w.plain := hbytes ▸ List.mem_cons_self
    exact ⟨b, _, List.cons_append, (of_isPlainByte (encode_plain h.plain b hb)).2.2.2⟩
  | nil =>
    rcases h.nonempty with hplain | hquoted
    · exact absurd hbytes (encode_ne_nil hplain)
    · obtain ⟨value, hvalue⟩ := Option.ne_none_iff_exists'.mp hquoted
      rw [hvalue, Option.map_some, Option.getD_some, encode_quote]
      exact ⟨0x22, _, rfl, by decide⟩

theorem dropWhile_text (h : w.Proper) (rest : Bytes) :
    (encode w.text ++ rest).dropWhile isSpaceByte = encode w.text ++ rest := by
  obtain ⟨b, front, hbytes, hb⟩ := head_text h
  rw [hbytes, List.cons_append, List.dropWhile_cons_of_neg (by simp [hb])]

/-- A line is read word by word. -/
theorem tokenizeFrom_line (n : ℕ) (h : ∀ w ∈ words, w.Proper) (hfuel : words.length ≤ fuel) :
    tokenizeFrom n fuel (encode (wordsLine words)) = .ok (words.map Word.token) := by
  induction words generalizing fuel with
  | nil => cases fuel <;> rfl
  | cons w words ih =>
    obtain ⟨fuel, rfl⟩ : ∃ k, fuel = k + 1 :=
      Nat.exists_eq_succ_of_ne_zero (by rw [List.length_cons] at hfuel; omega)
    have hw := h w List.mem_cons_self
    obtain ⟨b, front, hbytes, -⟩ := head_text hw
    -- what follows the word is nothing, or a space and the other words
    obtain ⟨after, hline, hread⟩ : ∃ after,
        encode (wordsLine (w :: words)) = encode w.text ++ after ∧
          readAll n false after = .ok ([], encode (wordsLine words)) := by
      cases words with
      | nil => exact ⟨[], by rw [wordsLine_singleton, List.append_nil], readAll_nil n⟩
      | cons next words =>
        refine ⟨0x20 :: encode (wordsLine (next :: words)), ?_, readAll_space n _⟩
        rw [wordsLine_cons_cons, encode_append, encode_cons]
        rfl
    have htoken : readToken n (b :: front ++ after).length false (b :: front ++ after) =
        .ok (w.token, encode (wordsLine words)) := by
      have hall := readAll_text n hw after
      rw [hread, pushed_ok, List.append_nil, hbytes] at hall
      exact hall
    have hdrop := dropWhile_text hw after
    rw [hbytes] at hdrop
    rw [hline, hbytes, tokenizeFrom, hdrop, List.cons_append]
    rw [List.cons_append] at htoken
    dsimp only
    rw [htoken, List.map_cons]
    exact congrArg (fun read ↦ read.map (w.token :: ·))
      (ih (fun v hv ↦ h v (List.mem_cons_of_mem w hv)) (Nat.le_of_succ_le_succ hfuel))

theorem length_le_of_proper (h : ∀ w ∈ words, w.Proper) :
    words.length ≤ (encode (wordsLine words)).length := by
  induction words with
  | nil => exact Nat.zero_le _
  | cons w words ih =>
    have hw := List.length_pos_of_ne_nil
      (encode_ne_nil (h w List.mem_cons_self).text_ne_nil)
    replace ih := ih fun v hv ↦ h v (List.mem_cons_of_mem w hv)
    cases words with
    | nil =>
      rw [wordsLine_singleton]
      exact hw
    | cons next words =>
      rw [wordsLine_cons_cons, encode_append, encode_cons, List.length_append,
        List.length_append, List.length_cons]
      have hspace : (String.utf8EncodeChar ' ').length = 1 := by decide
      omega

/-- **The lexer reads a line of words as their tokens.** -/
theorem tokenize_line (n : ℕ) (h : ∀ w ∈ words, w.Proper) :
    tokenize (encode (wordsLine words)) n = .ok (words.map Word.token) :=
  tokenizeFrom_line n h (Nat.le_succ_of_le (length_le_of_proper h))

/-! ### The characters of a line -/

/-- The characters of a joined list. -/
theorem mem_join {sep : Str} {parts : List Str} (h : c ∈ join sep parts) :
    c ∈ sep ∨ ∃ part ∈ parts, c ∈ part := by
  induction parts with
  | nil => exact absurd h List.not_mem_nil
  | cons part parts ih =>
    cases parts with
    | nil =>
      rw [join, List.intercalate_singleton] at h
      exact .inr ⟨part, List.mem_cons_self, h⟩
    | cons next parts =>
      rw [join_cons_cons, List.mem_append, List.mem_append] at h
      rcases h with h | h | h
      · exact .inr ⟨part, List.mem_cons_self, h⟩
      · exact .inl h
      · refine (ih h).imp_right ?_
        rintro ⟨found, hfound, hc⟩
        exact ⟨found, List.mem_cons_of_mem part hfound, hc⟩

theorem join_ne_nil {sep : Str} {parts : List Str} (hne : parts ≠ [])
    (h : ∀ part ∈ parts, part ≠ []) :
    join sep parts ≠ [] := by
  obtain ⟨part, parts, rfl⟩ := List.exists_cons_of_ne_nil hne
  have hpart := h part List.mem_cons_self
  cases parts with
  | nil => rwa [join, List.intercalate_singleton]
  | cons next parts =>
    rw [join_cons_cons]
    exact List.append_ne_nil_of_left_ne_nil hpart _

/-- A word has printable characters only. -/
theorem isPrintable_text (h : w.Proper) : ∀ c ∈ w.text, IsPrintable c := by
  intro c hc
  rcases List.mem_append.mp hc with hc | hc
  · exact isPrintable_of_isPlain (h.plain c hc)
  cases hquoted : w.quoted with
  | none =>
    rw [hquoted] at hc
    exact absurd hc List.not_mem_nil
  | some value =>
    have hquote : IsPrintable '"' := ⟨by decide, by decide⟩
    rw [hquoted, Option.map_some, Option.getD_some, quote] at hc
    rcases List.mem_append.mp hc with hc | hc
    · rcases List.mem_cons.mp hc with rfl | hc
      · exact hquote
      · obtain ⟨b, -, hb⟩ := List.mem_flatMap.mp hc
        exact isPrintable_quoteByte b c hb
    · exact List.mem_singleton.mp hc ▸ hquote

/-- The characters of a line of words. -/
theorem isPrintable_wordsLine (h : ∀ w ∈ words, w.Proper) :
    ∀ c ∈ wordsLine words, IsPrintable c := by
  intro c hc
  rcases mem_join hc with hc | ⟨part, hpart, hc⟩
  · exact List.mem_singleton.mp hc ▸ ⟨by decide, by decide⟩
  · obtain ⟨w, hw, rfl⟩ := List.mem_map.mp hpart
    exact isPrintable_text (h w hw) c hc

theorem newline_notMem_wordsLine (h : ∀ w ∈ words, w.Proper) :
    '\n' ∉ wordsLine words := fun hc ↦
  absurd (isPrintable_wordsLine h _ hc).1 (by decide)

/-- The last byte of a word is no space. -/
theorem getLast_text (h : w.Proper) :
    ∀ b ∈ (encode w.text).getLast?, isSpaceByte b = false := by
  intro b hb
  rw [Word.text, encode_append] at hb
  cases hquoted : w.quoted with
  | some value =>
    rw [hquoted, Option.map_some, Option.getD_some, encode_quote, ← List.cons_append,
      ← List.append_assoc,
      List.getLast?_concat, Option.mem_some_iff] at hb
    exact hb ▸ by decide
  | none =>
    rw [hquoted, Option.map_none, Option.getD_none, encode_nil, List.append_nil] at hb
    exact (of_isPlainByte (encode_plain h.plain b (List.mem_of_getLast? hb))).2.2.2

theorem getLast_wordsLine (h : ∀ w ∈ words, w.Proper) :
    ∀ b ∈ (encode (wordsLine words)).getLast?, isSpaceByte b = false := by
  induction words with
  | nil =>
    intro b hb
    exact absurd hb (by simp [wordsLine, join])
  | cons w words ih =>
    replace ih := ih fun v hv ↦ h v (List.mem_cons_of_mem w hv)
    cases words with
    | nil =>
      rw [wordsLine_singleton]
      exact getLast_text (h w List.mem_cons_self)
    | cons next words =>
      have hne : encode (wordsLine (next :: words)) ≠ [] := by
        have hlength := length_le_of_proper fun v hv ↦ h v (List.mem_cons_of_mem w hv)
        exact List.ne_nil_of_length_pos (by rw [List.length_cons] at hlength; omega)
      rw [wordsLine_cons_cons, encode_append, encode_cons, ← List.append_assoc,
        List.getLast?_append_of_ne_nil _ hne]
      exact ih

/-- No blanks surround a line of words. -/
theorem strip_wordsLine (h : ∀ w ∈ words, w.Proper) :
    Strings.strip isSpaceByte (encode (wordsLine words)) = encode (wordsLine words) := by
  refine Strings.strip_eq_self (fun b hb ↦ ?_) fun b hb ↦ by simp [getLast_wordsLine h b hb]
  cases words with
  | nil => exact absurd hb (by simp [wordsLine, join])
  | cons w words =>
    obtain ⟨c, front, hbytes, hc⟩ := head_text (h w List.mem_cons_self)
    have hhead : (encode (wordsLine (w :: words))).head? = some c := by
      cases words with
      | nil => rw [wordsLine_singleton, hbytes, List.head?_cons]
      | cons next words =>
        rw [wordsLine_cons_cons, encode_append, hbytes, List.cons_append, List.head?_cons]
    obtain rfl := Option.some.inj (hhead.symm.trans hb)
    simp [hc]

/-! ### Plain words -/

theorem text_mk (text : Str) : Word.text { plain := text } = text := List.append_nil _

theorem token_mk (text : Str) : Word.token { plain := text } = encode text := List.append_nil _

theorem proper_mk {text : Str} (hne : text ≠ []) (h : ∀ c ∈ text, isPlain c) :
    Word.Proper { plain := text } := ⟨h, .inl hne⟩

end Skan.Corpus
