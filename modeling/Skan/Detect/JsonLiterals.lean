import Mathlib.Data.List.TakeWhile
import Skan.Detect.ProtocolParsers
import Skan.Library.JsonTrees

/-!
# White space, strings and numbers of the JSON reader

What the reader takes for white space, a string or a number is what the grammar derives, encoded.
The reader goes from byte to byte, and the grammar from character to character, so an equivalence is
stated for each thing that is read: the reader comes to `rest` if and only if the input is the
encoding of such a thing with `rest` behind it.

A number is read as far as it goes. So what is behind it must not go on with it (`Stops`).
-/

namespace Skan.Detect

open Skan.Core Json Utf8
open String (utf8EncodeChar)

namespace JsonReader

variable {input rest out : Text} {s : List Char} {c : UInt8} {n : ℕ} {d : Char}

/-! ### Classes of bytes and of characters -/

/-- The bytes of a class are those of the characters of a class. -/
structure Spans (p : UInt8 → Bool) (P : Char → Prop) : Prop where
  ofByte : ∀ b, p b = true → b.toNat ≤ 0x7F ∧ P (Char.ofNat b.toNat)
  ofChar : ∀ c, P c → ∃ b, utf8EncodeChar c = [b] ∧ p b = true

section

variable {p : UInt8 → Bool} {P : Char → Prop}

theorem Spans.encode (h : Spans p P) (hs : ∀ c ∈ s, P c) : ∀ b ∈ Utf8.encode s, p b = true := by
  intro b hb
  obtain ⟨c, hc, hbc⟩ := List.mem_flatMap.mp hb
  obtain ⟨b', hb', hp⟩ := h.ofChar c (hs c hc)
  rw [hb', List.mem_singleton] at hbc
  exact hbc ▸ hp

theorem Spans.exists_encode (h : Spans p P) {bytes : Text} (hbytes : ∀ b ∈ bytes, p b = true) :
    ∃ s, (∀ c ∈ s, P c) ∧ Utf8.encode s = bytes := by
  induction bytes with
  | nil => exact ⟨[], fun _ hc ↦ absurd hc List.not_mem_nil, rfl⟩
  | cons b bytes ih =>
    obtain ⟨s, hs, rfl⟩ := ih fun b hb ↦ hbytes b (List.mem_cons_of_mem _ hb)
    obtain ⟨hascii, hb⟩ := h.ofByte b (hbytes b List.mem_cons_self)
    refine ⟨Char.ofNat b.toNat :: s, List.forall_mem_cons.mpr ⟨hb, hs⟩, ?_⟩
    rw [encode_cons, encodeChar_ofNat hascii]
    rfl

theorem Spans.dropWhile_append (h : Spans p P) (hs : ∀ c ∈ s, P c) (rest : Text) :
    (Utf8.encode s ++ rest).dropWhile p = rest.dropWhile p :=
  List.dropWhile_append_of_pos (h.encode hs)

/-- The longest run of such bytes is the encoding of such characters. -/
theorem Spans.exists_dropWhile (h : Spans p P) (input : Text) :
    ∃ s, (∀ c ∈ s, P c) ∧ input = Utf8.encode s ++ input.dropWhile p := by
  have htake : ∀ b ∈ input.takeWhile p, p b = true := fun b hb ↦ List.mem_takeWhile_imp hb
  obtain ⟨s, hs, heq⟩ := h.exists_encode htake
  exact ⟨s, hs, by rw [heq, List.takeWhile_append_dropWhile]⟩

end

/-! ### White space -/

def isBlank (c : UInt8) : Bool := c = 0x20 || c = 0x09 || c = 0x0D || c = 0x0A

theorem spans_isBlank : Spans isBlank fun c ↦ c = ' ' ∨ c = '\t' ∨ c = '\n' ∨ c = '\r' where
  ofByte := forall_byte (by decide +kernel)
  ofChar := by
    rintro c (rfl | rfl | rfl | rfl)
    all_goals exact ⟨_, rfl, by decide⟩

theorem skipWhitespace_append {w : List Char} (hw : IsSpace w) (rest : Text) :
    skipWhitespace (Utf8.encode w ++ rest) = skipWhitespace rest :=
  spans_isBlank.dropWhile_append hw rest

theorem exists_space (input : Text) :
    ∃ w, IsSpace w ∧ input = Utf8.encode w ++ skipWhitespace input :=
  spans_isBlank.exists_dropWhile input

theorem skipWhitespace_cons (h : isBlank c = false) (rest : Text) :
    skipWhitespace (c :: rest) = c :: rest := by
  refine List.dropWhile_cons_of_neg ?_
  show ¬ isBlank c = true
  rw [h]
  exact Bool.false_ne_true

/-- What is consumed is a byte with white space before it. -/
theorem consume_iff (hc : isBlank c = false) :
    consume c input = some rest ↔ ∃ w, IsSpace w ∧ input = Utf8.encode w ++ c :: rest := by
  constructor
  · intro h
    obtain ⟨w, hw, hinput⟩ := exists_space input
    refine ⟨w, hw, ?_⟩
    unfold consume at h
    split at h
    · exact nomatch h
    · rename_i d tail heq
      split_ifs at h with hd
      obtain rfl := Option.some.inj h
      rw [hinput, heq, hd]
  · rintro ⟨w, hw, rfl⟩
    rw [consume, skipWhitespace_append hw, skipWhitespace_cons hc]
    exact if_pos rfl

/-- Nothing is consumed where something else comes first. -/
theorem consume_eq_none {d : UInt8} (hd : isBlank d = false) (hne : d ≠ c) {w : List Char}
    (hw : IsSpace w) (rest : Text) : consume c (Utf8.encode w ++ d :: rest) = none := by
  rw [consume, skipWhitespace_append hw, skipWhitespace_cons hd]
  exact if_neg hne

/-! ### Escapes -/

theorem digitValue_eq : ∀ b, (digitValue b).filter (· < 16) =
    if b.toNat ≤ 0x7F then hexValue (Char.ofNat b.toNat) else none :=
  forall_byte (by decide +kernel)

theorem le_of_hexValue {c : Char} (h : hexValue c = some n) : c.toNat ≤ 0x7F ∧ n < 16 := by
  have hle : ∀ {a b : Char}, a ≤ b → a.toNat ≤ b.toNat := UInt32.le_iff_toNat_le.mp
  rw [hexValue] at h
  split_ifs at h with hdigit hlower hupper
  · obtain rfl := Option.some.inj h
    have hfirst : 0x30 ≤ c.toNat := hle hdigit.1
    have hlast : c.toNat ≤ 0x39 := hle hdigit.2
    omega
  · obtain rfl := Option.some.inj h
    have hfirst : 0x61 ≤ c.toNat := hle hlower.1
    have hlast : c.toNat ≤ 0x66 := hle hlower.2
    omega
  · obtain rfl := Option.some.inj h
    have hfirst : 0x41 ≤ c.toNat := hle hupper.1
    have hlast : c.toNat ≤ 0x46 := hle hupper.2
    omega

theorem digitValue_eq_some_iff {b : UInt8} :
    (digitValue b).filter (· < 16) = some n ↔
      ∃ c, utf8EncodeChar c = [b] ∧ hexValue c = some n := by
  rw [digitValue_eq]
  constructor
  · intro h
    split_ifs at h with hascii
    exact ⟨_, encodeChar_ofNat hascii, h⟩
  · rintro ⟨c, hc, h⟩
    obtain ⟨hascii, -⟩ := le_of_hexValue h
    rw [encodeChar_ascii hascii] at hc
    obtain rfl := (List.cons.inj hc).1
    rw [UInt8.toNat_ofNat_of_lt' (show c.toNat < 256 by omega), if_pos hascii, Char.ofNat_toNat]
    exact h

/-- The digit of a byte, for `unsigned_number` in base sixteen. -/
def hexDigit (b : UInt8) : Option ℕ := (digitValue b).filter (· < 16)

theorem unsignedNumber_four {w x y z : UInt8} :
    unsignedNumber 16 [w, x, y, z] = some n ↔ ∃ a b c d, hexDigit w = some a ∧
      hexDigit x = some b ∧ hexDigit y = some c ∧ hexDigit z = some d ∧
        a * 4096 + b * 256 + c * 16 + d = n := by
  have hlt : ∀ {b n}, hexDigit b = some n → n < 16 := by
    intro b n h
    have hn := (Option.filter_eq_some_iff.mp h).2
    exact of_decide_eq_true hn
  have hfold : ∀ a b c d : ℕ, [a, b, c, d].foldl (fun value digit ↦ value * 16 + digit) 0 =
      a * 4096 + b * 256 + c * 16 + d := by
    intro a b c d
    show (((0 * 16 + a) * 16 + b) * 16 + c) * 16 + d = _
    omega
  show ((List.mapM hexDigit [w, x, y, z]).bind fun digits ↦
    if [w, x, y, z] = [] then none
    else if digits.foldl (fun value digit ↦ value * 16 + digit) 0 < 2 ^ 64 then
      some (digits.foldl (fun value digit ↦ value * 16 + digit) 0)
    else none) = some n ↔ _
  simp only [List.mapM_cons, List.mapM_nil, Option.bind_eq_bind, Option.bind_eq_some_iff,
    Option.pure_def, Option.some.injEq, reduceCtorEq, if_false]
  constructor
  · rintro ⟨_, ⟨a, ha, _, ⟨b, hb, _, ⟨c, hc, _, ⟨d, hd, _, rfl, rfl⟩, rfl⟩, rfl⟩, rfl⟩, h⟩
    rw [hfold] at h
    split_ifs at h
    exact ⟨a, b, c, d, ha, hb, hc, hd, Option.some.inj h⟩
  · rintro ⟨a, b, c, d, ha, hb, hc, hd, rfl⟩
    refine ⟨_, ⟨a, ha, _, ⟨b, hb, _, ⟨c, hc, _, ⟨d, hd, _, rfl, rfl⟩, rfl⟩, rfl⟩, rfl⟩, ?_⟩
    have ha := hlt ha
    have hb := hlt hb
    have hc := hlt hc
    have hd := hlt hd
    rw [hfold, if_pos (by omega)]

/-- Four hexadecimal digits. -/
theorem hex4_iff : hex4 input = some (n, rest) ↔
    ∃ a b c d, input = Utf8.encode [a, b, c, d] ++ rest ∧ unitOf a b c d = some n := by
  have hunit : ∀ {a b c d : Char}, unitOf a b c d = some n ↔ ∃ i j k l, hexValue a = some i ∧
      hexValue b = some j ∧ hexValue c = some k ∧ hexValue d = some l ∧
        i * 4096 + j * 256 + k * 16 + l = n := by
    intro a b c d
    simp only [unitOf, Option.bind_eq_bind, Option.bind_eq_some_iff, Option.pure_def,
      Option.some.injEq]
    constructor
    · rintro ⟨i, hi, j, hj, k, hk, l, hl, rfl⟩
      exact ⟨i, j, k, l, hi, hj, hk, hl, rfl⟩
    · rintro ⟨i, j, k, l, hi, hj, hk, hl, rfl⟩
      exact ⟨i, hi, j, hj, k, hk, l, hl, rfl⟩
  constructor
  · intro h
    rw [hex4] at h
    split_ifs at h with hshort
    obtain ⟨n, hn, heq⟩ := Option.map_eq_some_iff.mp h
    obtain ⟨rfl, rfl⟩ := Prod.mk.inj heq
    rcases input with _ | ⟨w, _ | ⟨x, _ | ⟨y, _ | ⟨z, rest⟩⟩⟩⟩
    · exact absurd (by simp) hshort
    · exact absurd (by simp) hshort
    · exact absurd (by simp) hshort
    · exact absurd (by simp) hshort
    · obtain ⟨i, j, k, l, hw, hx, hy, hz, hsum⟩ := unsignedNumber_four.mp hn
      obtain ⟨a, ha, hi⟩ := digitValue_eq_some_iff.mp hw
      obtain ⟨b, hb, hj⟩ := digitValue_eq_some_iff.mp hx
      obtain ⟨c, hc, hk⟩ := digitValue_eq_some_iff.mp hy
      obtain ⟨d, hd, hl⟩ := digitValue_eq_some_iff.mp hz
      refine ⟨a, b, c, d, ?_, hunit.mpr ⟨i, j, k, l, hi, hj, hk, hl, hsum⟩⟩
      simp [ha, hb, hc, hd]
  · rintro ⟨a, b, c, d, rfl, h⟩
    obtain ⟨i, j, k, l, hi, hj, hk, hl, hsum⟩ := hunit.mp h
    have hbyte : ∀ {c n}, hexValue c = some n →
        ∃ b, utf8EncodeChar c = [b] ∧ hexDigit b = some n := by
      intro c n hc
      have hencode := encodeChar_ascii (le_of_hexValue hc).1
      exact ⟨_, hencode, digitValue_eq_some_iff.mpr ⟨c, hencode, hc⟩⟩
    obtain ⟨w, ha, hw⟩ := hbyte hi
    obtain ⟨x, hb, hx⟩ := hbyte hj
    obtain ⟨y, hc, hy⟩ := hbyte hk
    obtain ⟨z, hd, hz⟩ := hbyte hl
    have hinput : Utf8.encode [a, b, c, d] ++ rest = w :: x :: y :: z :: rest := by
      simp [ha, hb, hc, hd]
    have hnumber := unsignedNumber_four.mpr ⟨i, j, k, l, hw, hx, hy, hz, hsum⟩
    rw [hinput, hex4, if_neg (by simp)]
    show (unsignedNumber 16 [w, x, y, z]).map _ = _
    rw [hnumber]
    rfl

theorem utf8_eq (h : n < 0xD800 ∨ 0xDFFF < n ∧ n < 0x110000) :
    utf8 n = utf8EncodeChar (Char.ofNat n) := by
  rw [String.utf8EncodeChar, toNat_ofNat h, utf8]
  split_ifs with hone htwo hthree
  · rfl
  · rw [show 0xC0 + n / 64 = n / 64 % 32 + 0xC0 by omega, Nat.add_comm 0x80 (n % 64)]
  · rw [show 0xE0 + n / 4096 = n / 4096 % 16 + 0xE0 by omega, Nat.add_comm 0x80 (n / 64 % 64),
      Nat.add_comm 0x80 (n % 64)]
  · rw [show 0xF0 + n / 262144 = n / 262144 % 8 + 0xF0 by omega,
      Nat.add_comm 0x80 (n / 4096 % 64), Nat.add_comm 0x80 (n / 64 % 64),
      Nat.add_comm 0x80 (n % 64)]

theorem unitOf_lt {a b c : Char} (h : unitOf a b c d = some n) : n < 0x10000 := by
  simp only [unitOf, Option.bind_eq_bind, Option.bind_eq_some_iff, Option.pure_def,
    Option.some.injEq] at h
  obtain ⟨i, hi, j, hj, k, hk, l, hl, rfl⟩ := h
  have hi := (le_of_hexValue hi).2
  have hj := (le_of_hexValue hj).2
  have hk := (le_of_hexValue hk).2
  have hl := (le_of_hexValue hl).2
  omega

theorem encode_pair (s s' : List Char) :
    Utf8.encode (s ++ '\\' :: 'u' :: s') = Utf8.encode s ++ 0x5C :: 0x75 :: Utf8.encode s' := by
  rw [encode_append, encode_cons, encode_cons]
  rfl

/-- An escape by a number, or by two. -/
theorem unicodeEscape_iff : unicodeEscape input = some (n, rest) ↔
    (∃ a b c d, input = Utf8.encode [a, b, c, d] ++ rest ∧ unitOf a b c d = some n ∧
      ¬(0xD800 ≤ n ∧ n < 0xE000)) ∨
    ∃ a b c d a' b' c' d' high low,
      input = Utf8.encode ([a, b, c, d] ++ '\\' :: 'u' :: [a', b', c', d']) ++ rest ∧
        unitOf a b c d = some high ∧ unitOf a' b' c' d' = some low ∧
          (0xD800 ≤ high ∧ high < 0xDC00) ∧ (0xDC00 ≤ low ∧ low < 0xE000) ∧
            n = 0x10000 + (high - 0xD800) * 0x400 + (low - 0xDC00) := by
  constructor
  · intro hread
    obtain ⟨⟨code, tail⟩, hcode, h⟩ := Option.bind_eq_some_iff.mp hread
    obtain ⟨a, b, c, d, rfl, hunit⟩ := hex4_iff.mp hcode
    dsimp only at h
    split_ifs at h with hhigh hescape hlow
    · obtain ⟨⟨low, tail'⟩, hhex, h⟩ := Option.bind_eq_some_iff.mp h
      obtain ⟨a', b', c', d', htail, hunit'⟩ := hex4_iff.mp hhex
      dsimp only at h
      split_ifs at h with hrange
      simp only [Bool.and_eq_true, Bool.or_eq_true, decide_eq_true_eq] at hhigh hrange
      obtain ⟨rfl, rfl⟩ := Prod.mk.inj (Option.some.inj h)
      right
      refine ⟨a, b, c, d, a', b', c', d', code, low, ?_, hunit, hunit', by omega, by omega, rfl⟩
      have hsplit : tail = [0x5C, 0x75] ++ tail.drop 2 := by
        rw [← not_not.mp hescape, List.take_append_drop]
      rw [hsplit, htail, encode_pair, List.append_assoc]
      rfl
    · simp only [Bool.and_eq_true, decide_eq_true_eq] at hhigh hlow
      obtain ⟨rfl, rfl⟩ := Prod.mk.inj (Option.some.inj h)
      exact .inl ⟨a, b, c, d, rfl, hunit, by omega⟩
  · rintro (⟨a, b, c, d, rfl, hunit, hn⟩ |
      ⟨a, b, c, d, a', b', c', d', high, low, rfl, hhigh, hlow, hn, hm, hvalue⟩)
    · rw [unicodeEscape, hex4_iff.mpr ⟨a, b, c, d, rfl, hunit⟩]
      show (if _ then _ else _) = _
      rw [if_neg (by simp only [Bool.and_eq_true, decide_eq_true_eq]; omega),
        if_neg (by simp only [Bool.and_eq_true, decide_eq_true_eq]; omega)]
    · have htake : List.take 2 (0x5C :: 0x75 :: Utf8.encode [a', b', c', d'] ++ rest) =
          [0x5C, 0x75] := rfl
      rw [encode_pair, List.append_assoc, unicodeEscape, hex4_iff.mpr ⟨a, b, c, d, rfl, hhigh⟩]
      show (if _ then _ else _) = _
      rw [if_pos (by simp only [Bool.and_eq_true, decide_eq_true_eq]; omega),
        if_neg (not_not.mpr htake)]
      show ((hex4 (Utf8.encode [a', b', c', d'] ++ rest)).bind _) = _
      rw [hex4_iff.mpr ⟨a', b', c', d', rfl, hlow⟩]
      show (if _ then _ else _) = _
      rw [if_neg (by simp only [Bool.or_eq_true, decide_eq_true_eq]; omega), hvalue]

/-- The bytes of a character may be told by the first of them. -/
theorem eq_of_encodeChar_eq {c : Char} {bytes : Text} (hd : d.toNat ≤ 0x7F)
    (h : utf8EncodeChar c = UInt8.ofNat d.toNat :: bytes) : c = d := by
  have hmem : UInt8.ofNat d.toNat ∈ Utf8.encode [c] := by
    rw [encode_cons, h]
    exact List.mem_cons_self
  exact (List.mem_singleton.mp (mem_of_mem_encode hd hmem)).symm

/-- What is read as an escape is one. -/
theorem escape_sound (hread : escape input = some (out, rest)) :
    ∃ s c, 0x5C :: input = Utf8.encode s ++ rest ∧ Symbol s c ∧ out = utf8EncodeChar c := by
  have hshort : ∀ {b : UInt8} {tail : Text} {c e : Char}, b = UInt8.ofNat c.toNat →
      shortEscape c = some e → some (utf8EncodeChar e, tail) = some (out, rest) →
      ∃ s c, 0x5C :: b :: tail = Utf8.encode s ++ rest ∧ Symbol s c ∧
        out = utf8EncodeChar c := by
    rintro b tail c e rfl he h
    obtain ⟨rfl, rfl⟩ := Prod.mk.inj (Option.some.inj h)
    refine ⟨['\\', c], e, ?_, .short he, rfl⟩
    rw [encode_cons, encode_cons, encodeChar_ascii (ascii_of_shortEscape he)]
    rfl
  unfold escape at hread
  split at hread
  · exact nomatch hread
  · rename_i b tail
    split_ifs at hread with hself hb hf hn hr ht hu
    · simp only [Bool.or_eq_true, decide_eq_true_eq] at hself
      rcases hself with (rfl | rfl) | rfl
      · exact hshort (c := '"') rfl rfl hread
      · exact hshort (c := '\\') rfl rfl hread
      · exact hshort (c := '/') rfl rfl hread
    · exact hshort (c := 'b') hb rfl hread
    · exact hshort (c := 'f') hf rfl hread
    · exact hshort (c := 'n') hn rfl hread
    · exact hshort (c := 'r') hr rfl hread
    · exact hshort (c := 't') ht rfl hread
    · obtain ⟨⟨n, tail'⟩, hescape, heq⟩ := Option.map_eq_some_iff.mp hread
      obtain ⟨rfl, rfl⟩ := Prod.mk.inj heq
      rcases unicodeEscape_iff.mp hescape with ⟨a, b', c, d, rfl, hunit, hn⟩ |
        ⟨a, b', c, d, a', b'', c', d', high, low, rfl, hhigh, hlow, hn, hm, hvalue⟩
      · have hlt := unitOf_lt hunit
        exact ⟨_, _, by rw [hu]; rfl, .unit hunit hn, utf8_eq (by omega)⟩
      · refine ⟨_, _, by rw [hu]; rfl, .pair hhigh hlow hn hm, ?_⟩
        rw [hvalue]
        exact utf8_eq (by omega)

/-- Every escape is read. -/
theorem escape_complete {c : Char} (hs : Symbol s c)
    (hinput : 0x5C :: input = Utf8.encode s ++ rest) :
    escape input = some (utf8EncodeChar c, rest) := by
  cases hs with
  | plain h =>
    -- a backslash does not stand for itself
    obtain ⟨b, bytes, hbytes⟩ :=
      List.exists_cons_of_ne_nil (String.utf8EncodeChar_ne_nil (c := c))
    rw [encode_cons, hbytes] at hinput
    obtain ⟨rfl, -⟩ := List.cons.inj hinput
    rw [eq_of_encodeChar_eq (d := '\\') (by decide) hbytes] at h
    cases h
  | short h =>
    rw [encode_cons, encode_cons,
      encodeChar_ascii (ascii_of_shortEscape h)] at hinput
    obtain rfl := (List.cons.inj hinput).2
    rw [shortEscape.eq_def] at h
    split at h
    any_goals
      obtain rfl := Option.some.inj h
      rfl
    cases h
  | @unit a b c d n h hn =>
    have hlt := unitOf_lt h
    have htail : input = 0x75 :: (Utf8.encode [a, b, c, d] ++ rest) := (List.cons.inj hinput).2
    rw [htail]
    show (unicodeEscape _).map _ = _
    rw [unicodeEscape_iff.mpr (.inl ⟨_, _, _, _, rfl, h, hn⟩)]
    show some (utf8 _, rest) = _
    rw [utf8_eq (by omega)]
  | @pair a b c d a' b' c' d' n m h h' hn hm =>
    have htail : input = 0x75 ::
        (Utf8.encode ([a, b, c, d] ++ '\\' :: 'u' :: [a', b', c', d']) ++ rest) :=
      (List.cons.inj hinput).2
    rw [htail]
    show (unicodeEscape _).map _ = _
    rw [unicodeEscape_iff.mpr
      (.inr ⟨_, _, _, _, _, _, _, _, _, _, rfl, h, h', hn, hm, rfl⟩)]
    show some (utf8 _, rest) = _
    rw [utf8_eq (by omega)]

/-- An escaped character. -/
theorem escape_iff : escape input = some (out, rest) ↔
    ∃ s c, 0x5C :: input = Utf8.encode s ++ rest ∧ Symbol s c ∧ out = utf8EncodeChar c := by
  constructor
  · exact escape_sound
  · rintro ⟨s, c, hinput, hs, rfl⟩
    exact escape_complete hs hinput

/-! ### Characters -/

theorem isTail_iff : ∀ b : UInt8, b &&& 0xC0 = 0x80 ↔ IsTail b :=
  forall_byte (by unfold IsTail; decide +kernel)

/-- How many bytes follow a first byte, the bits it gives, and the first character it may begin. -/
def lead (c : UInt8) : Option (ℕ × ℕ × ℕ) :=
  if 0xC2 ≤ c && c ≤ 0xDF then some (1, c.toNat % 32, 0x80)
  else if 0xE0 ≤ c && c ≤ 0xEF then some (2, c.toNat % 16, 0x800)
  else if 0xF0 ≤ c && c ≤ 0xF4 then some (3, c.toNat % 8, 0x10000)
  else none

theorem lead_iff {l : ℕ × ℕ × ℕ} : lead c = some l ↔
    (0xC2 ≤ c.toNat ∧ c.toNat ≤ 0xDF) ∧ l = (1, c.toNat % 32, 0x80) ∨
    (0xE0 ≤ c.toNat ∧ c.toNat ≤ 0xEF) ∧ l = (2, c.toNat % 16, 0x800) ∨
    (0xF0 ≤ c.toNat ∧ c.toNat ≤ 0xF4) ∧ l = (3, c.toNat % 8, 0x10000) := by
  simp only [lead, Bool.and_eq_true, decide_eq_true_eq, UInt8.le_iff_toNat_le, UInt8.reduceToNat]
  split_ifs with h₂ h₃ h₄
  · rw [Option.some.injEq]
    constructor
    · rintro rfl
      exact .inl ⟨h₂, rfl⟩
    · rintro (⟨-, rfl⟩ | ⟨h, -⟩ | ⟨h, -⟩)
      · rfl
      · omega
      · omega
  · rw [Option.some.injEq]
    constructor
    · rintro rfl
      exact .inr (.inl ⟨h₃, rfl⟩)
    · rintro (⟨h, -⟩ | ⟨-, rfl⟩ | ⟨h, -⟩)
      · omega
      · rfl
      · omega
  · rw [Option.some.injEq]
    constructor
    · rintro rfl
      exact .inr (.inr ⟨h₄, rfl⟩)
    · rintro (⟨h, -⟩ | ⟨h, -⟩ | ⟨-, rfl⟩)
      · omega
      · omega
      · rfl
  · constructor
    · intro h
      exact nomatch h
    · rintro (⟨h, -⟩ | ⟨h, -⟩ | ⟨h, -⟩)
      · exact absurd h h₂
      · exact absurd h h₃
      · exact absurd h h₄

/-- The number that a first byte's bits and the bytes behind it spell. -/
def spelled (bits : ℕ) (bytes : Text) : ℕ :=
  bytes.foldl (fun code next ↦ code * 64 + next.toNat % 64) bits

theorem spelled_two (bits : ℕ) (b₁ b₂ : UInt8) :
    spelled bits [b₁, b₂] = bits * 4096 + b₁.toNat % 64 * 64 + b₂.toNat % 64 := by
  show (bits * 64 + b₁.toNat % 64) * 64 + b₂.toNat % 64 = _
  omega

theorem spelled_three (bits : ℕ) (b₁ b₂ b₃ : UInt8) : spelled bits [b₁, b₂, b₃] =
    bits * 262144 + b₁.toNat % 64 * 4096 + b₂.toNat % 64 * 64 + b₃.toNat % 64 := by
  show ((bits * 64 + b₁.toNat % 64) * 64 + b₂.toNat % 64) * 64 + b₃.toNat % 64 = _
  omega

/-- `multibyte`, behind what a lead byte says of the count, the bits and the minimum. -/
def multibyteOf (input : Text) : Option (ℕ × ℕ × ℕ) → Option (Text × Text)
  | none => none
  | some (count, bits, minimum) =>
    if input.length < count || !(input.take count).all (fun next ↦ next &&& 0xC0 = 0x80) then none
    else if spelled bits (input.take count) < minimum ||
        0x10FFFF < spelled bits (input.take count) ||
          0xD800 ≤ spelled bits (input.take count) &&
            spelled bits (input.take count) ≤ 0xDFFF then
      none
    else some (utf8 (spelled bits (input.take count)), input.drop count)

theorem multibyte_eq : multibyte c input = some (out, rest) ↔
    ∃ count bits minimum, lead c = some (count, bits, minimum) ∧ ∃ bytes, input = bytes ++ rest ∧
      bytes.length = count ∧ (∀ b ∈ bytes, IsTail b) ∧ minimum ≤ spelled bits bytes ∧
        spelled bits bytes ≤ 0x10FFFF ∧
          ¬(0xD800 ≤ spelled bits bytes ∧ spelled bits bytes ≤ 0xDFFF) ∧
            out = utf8 (spelled bits bytes) := by
  have hmultibyte : multibyte c input = multibyteOf input (lead c) := rfl
  rw [hmultibyte]
  constructor
  · intro h
    rcases hlead : lead c with _ | ⟨count, bits, minimum⟩
    · rw [hlead] at h
      cases h
    rw [hlead, multibyteOf] at h
    split_ifs at h with hbytes hrange
    obtain ⟨rfl, rfl⟩ := Prod.mk.inj (Option.some.inj h)
    simp only [Bool.or_eq_true, decide_eq_true_eq, Bool.not_eq_true', Bool.and_eq_true,
      not_or, not_lt, Bool.not_eq_false, List.all_eq_true, isTail_iff] at hbytes hrange
    exact ⟨count, bits, minimum, rfl, input.take count, (List.take_append_drop _ _).symm,
      List.length_take_of_le hbytes.1, hbytes.2, hrange.1.1, hrange.1.2, hrange.2, rfl⟩
  · rintro ⟨count, bits, minimum, hlead, bytes, rfl, rfl, htail, hmin, hmax, hsurrogate, rfl⟩
    rw [hlead, multibyteOf, List.take_left, List.drop_left, if_neg, if_neg]
    · simp only [Bool.or_eq_true, decide_eq_true_eq, Bool.and_eq_true]
      omega
    · simp only [Bool.or_eq_true, decide_eq_true_eq, Bool.not_eq_true', not_or, not_lt,
        Bool.not_eq_false, List.all_eq_true, isTail_iff, List.length_append]
      exact ⟨Nat.le_add_right _ _, htail⟩

/-- What is read is one character. -/
theorem multibyte_sound (h : multibyte c input = some (out, rest)) :
    ∃ d : Char, 0x7F < d.toNat ∧ c :: input = utf8EncodeChar d ++ rest ∧
      out = utf8EncodeChar d := by
  obtain ⟨count, bits, minimum, hlead, bytes, rfl, hlength, htail, hmin, hmax, hsurrogate, rfl⟩ :=
    multibyte_eq.mp h
  have hcharacter : ∀ {n : ℕ}, Sequence (c :: bytes) n → n = spelled bits bytes →
      ∃ d : Char, 0x7F < d.toNat ∧ c :: (bytes ++ rest) = utf8EncodeChar d ++ rest ∧
        utf8 (spelled bits bytes) = utf8EncodeChar d := by
    rintro n hsequence rfl
    have hvalid : spelled bits bytes < 0xD800 ∨
        0xDFFF < spelled bits bytes ∧ spelled bits bytes < 0x110000 := by omega
    refine ⟨Char.ofNat (spelled bits bytes), ?_, ?_, utf8_eq hvalid⟩
    · have hnat : (Char.ofNat (spelled bits bytes)).toNat = spelled bits bytes :=
        toNat_ofNat hvalid
      rw [hnat]
      exact hsequence.lt
    · rw [hsequence.encodeChar, List.cons_append]
  rcases lead_iff.mp hlead with ⟨hc, heq⟩ | ⟨hc, heq⟩ | ⟨hc, heq⟩
  · obtain ⟨rfl, rfl, rfl⟩ : count = 1 ∧ bits = c.toNat % 32 ∧ minimum = 0x80 := by
      simpa using heq
    obtain ⟨b₁, rfl⟩ := List.length_eq_one_iff.mp hlength
    exact hcharacter (.two hc.1 hc.2 (htail b₁ (by simp))) rfl
  · obtain ⟨rfl, rfl, rfl⟩ : count = 2 ∧ bits = c.toNat % 16 ∧ minimum = 0x800 := by
      simpa using heq
    obtain ⟨b₁, b₂, rfl⟩ := List.length_eq_two.mp hlength
    have h₁ := htail b₁ (by simp)
    have h₂ := htail b₂ (by simp)
    have hspelled := spelled_two (c.toNat % 16) b₁ b₂
    have hbounds : 0x80 ≤ b₁.toNat ∧ b₁.toNat ≤ 0xBF := h₁
    exact hcharacter (.three hc.1 hc.2 h₁ h₂ (by omega) (by omega)) hspelled.symm
  · obtain ⟨rfl, rfl, rfl⟩ : count = 3 ∧ bits = c.toNat % 8 ∧ minimum = 0x10000 := by
      simpa using heq
    obtain ⟨b₁, b₂, b₃, rfl⟩ := List.length_eq_three.mp hlength
    have h₁ := htail b₁ (by simp)
    have h₂ := htail b₂ (by simp)
    have h₃ := htail b₃ (by simp)
    have hspelled := spelled_three (c.toNat % 8) b₁ b₂ b₃
    have hbounds : 0x80 ≤ b₁.toNat ∧ b₁.toNat ≤ 0xBF := h₁
    exact hcharacter (.four hc.1 hc.2 h₁ h₂ h₃ (by omega) (by omega)) hspelled.symm

/-- Every character beyond ASCII is read. -/
theorem multibyte_complete (hd : 0x7F < d.toNat) (hinput : c :: input = utf8EncodeChar d ++ rest) :
    multibyte c input = some (utf8EncodeChar d, rest) := by
  refine multibyte_eq.mpr ?_
  have hsequence := sequence_encodeChar hd
  have hvalid : d.toNat < 0xD800 ∨ 0xDFFF < d.toNat ∧ d.toNat < 0x110000 := d.valid
  have hout := utf8_eq hvalid
  rw [Char.ofNat_toNat] at hout
  rw [← hout]
  generalize utf8EncodeChar d = encoded at hinput hsequence
  generalize d.toNat = n at hsequence hvalid
  cases hsequence with
  | @two _ b₁ h₀ h₀' h₁ =>
    obtain ⟨rfl, rfl⟩ := List.cons.inj hinput
    have hspelled : spelled (c.toNat % 32) [b₁] = c.toNat % 32 * 64 + b₁.toNat % 64 := rfl
    refine ⟨_, _, _, lead_iff.mpr (.inl ⟨⟨h₀, h₀'⟩, rfl⟩), [b₁], rfl, rfl, by simpa using h₁, ?_⟩
    rw [hspelled]
    exact ⟨by omega, by omega, by omega, rfl⟩
  | @three _ b₁ b₂ h₀ h₀' h₁ h₂ ho hs =>
    obtain ⟨rfl, rfl⟩ := List.cons.inj hinput
    have hbounds : 0x80 ≤ b₁.toNat ∧ b₁.toNat ≤ 0xBF := h₁
    refine ⟨_, _, _, lead_iff.mpr (.inr (.inl ⟨⟨h₀, h₀'⟩, rfl⟩)), [b₁, b₂], rfl, rfl,
      by simpa using ⟨h₁, h₂⟩, ?_⟩
    rw [spelled_two]
    exact ⟨by omega, by omega, by omega, rfl⟩
  | @four _ b₁ b₂ b₃ h₀ h₀' h₁ h₂ h₃ ho hl =>
    obtain ⟨rfl, rfl⟩ := List.cons.inj hinput
    have hbounds : 0x80 ≤ b₁.toNat ∧ b₁.toNat ≤ 0xBF := h₁
    refine ⟨_, _, _, lead_iff.mpr (.inr (.inr ⟨⟨h₀, h₀'⟩, rfl⟩)), [b₁, b₂, b₃], rfl, rfl,
      by simpa using ⟨h₁, h₂, h₃⟩, ?_⟩
    rw [spelled_three]
    exact ⟨by omega, by omega, by omega, rfl⟩

/-- A character of several bytes. -/
theorem multibyte_iff : multibyte c input = some (out, rest) ↔
    ∃ d : Char, 0x7F < d.toNat ∧ c :: input = utf8EncodeChar d ++ rest ∧
      out = utf8EncodeChar d := by
  constructor
  · exact multibyte_sound
  · rintro ⟨d, hd, hinput, rfl⟩
    exact multibyte_complete hd hinput

/-- How the reader takes a character of a string. -/
def readCharacter (c : UInt8) (input : Text) : Option (Text × Text) :=
  if c = 0x5C then escape input else if 128 ≤ c then multibyte c input else some ([c], input)

theorem isPlain_iff {c : Char} :
    Json.isPlain c = true ↔ 0x20 ≤ c.toNat ∧ c.toNat ≠ 0x22 ∧ c.toNat ≠ 0x5C := by
  have hne : ∀ d : Char, c ≠ d ↔ c.toNat ≠ d.toNat := fun d ↦ (Char.toNat_inj.not).symm
  simp only [Json.isPlain, Bool.and_eq_true, decide_eq_true_eq, hne, and_assoc]
  exact Iff.rfl

/-- What does not begin with a backslash stands for itself. -/
theorem isPlain_of_symbol (h : Symbol s d) (hc : c ≠ 0x5C)
    (hinput : c :: input = Utf8.encode s ++ rest) :
    Json.isPlain d = true ∧ c :: input = utf8EncodeChar d ++ rest := by
  cases h with
  | plain h =>
    rw [encode_cons, encode_nil, List.append_nil] at hinput
    exact ⟨h, hinput⟩
  | short h => exact absurd (List.cons.inj hinput).1 hc
  | unit h hn => exact absurd (List.cons.inj hinput).1 hc
  | pair h h' hn hm => exact absurd (List.cons.inj hinput).1 hc

theorem readCharacter_iff (hquote : c ≠ 0x22) (hcontrol : 32 ≤ c) :
    readCharacter c input = some (out, rest) ↔
      ∃ s d, c :: input = Utf8.encode s ++ rest ∧ Symbol s d ∧ out = utf8EncodeChar d := by
  have hsingle : ∀ d : Char, Utf8.encode [d] = utf8EncodeChar d := fun d ↦ List.append_nil _
  rw [readCharacter]
  split_ifs with hescape hbeyond
  · rw [hescape]
    exact escape_iff
  · have hbound : 0x80 ≤ c.toNat := UInt8.le_iff_toNat_le.mp hbeyond
    rw [multibyte_iff]
    constructor
    · rintro ⟨d, hd, hinput, rfl⟩
      refine ⟨[d], d, by rwa [hsingle], .plain (isPlain_iff.mpr ?_), rfl⟩
      omega
    · rintro ⟨s, d, hinput, hs, rfl⟩
      obtain ⟨-, hinput⟩ := isPlain_of_symbol hs hescape hinput
      refine ⟨d, not_le.mp fun hd ↦ ?_, hinput, rfl⟩
      rw [encodeChar_ascii hd] at hinput
      rw [(List.cons.inj hinput).1,
        UInt8.toNat_ofNat_of_lt' (show d.toNat < 256 by omega)] at hbound
      omega
  · have hascii : c.toNat ≤ 0x7F := by
      refine Nat.le_of_lt_succ (not_le.mp fun hle ↦ hbeyond ?_)
      exact UInt8.le_iff_toNat_le.mpr hle
    constructor
    · intro h
      obtain ⟨rfl, rfl⟩ := Prod.mk.inj (Option.some.inj h)
      have hencode := encodeChar_ofNat hascii
      have hnat : (Char.ofNat c.toNat).toNat = c.toNat := toNat_ofNat (.inl (by omega))
      refine ⟨[Char.ofNat c.toNat], _, by rw [hsingle, hencode]; rfl, .plain ?_, hencode.symm⟩
      rw [isPlain_iff, hnat]
      refine ⟨UInt8.le_iff_toNat_le.mp hcontrol, fun h ↦ hquote ?_, fun h ↦ hescape ?_⟩
      · exact UInt8.toNat_inj.mp h
      · exact UInt8.toNat_inj.mp h
    · rintro ⟨s, d, hinput, hs, rfl⟩
      obtain ⟨-, hinput⟩ := isPlain_of_symbol hs hescape hinput
      rcases Nat.lt_or_ge 0x7F d.toNat with hd | hd
      · obtain ⟨b, bytes, hbytes⟩ :=
          List.exists_cons_of_ne_nil (String.utf8EncodeChar_ne_nil (c := d))
        have hmem : b ∈ utf8EncodeChar d := hbytes ▸ List.mem_cons_self
        have hle := le_of_mem_encodeChar hd hmem
        rw [hbytes] at hinput
        rw [(List.cons.inj hinput).1] at hbeyond
        exact absurd hle hbeyond
      · rw [encodeChar_ascii hd] at hinput ⊢
        obtain ⟨rfl, rfl⟩ := List.cons.inj hinput
        rfl

/-! ### Strings -/

/-- A character of a string begins neither with a quotation mark nor with a control character. -/
theorem first_of_symbol (h : Symbol s d) :
    ∃ c bytes, Utf8.encode s = c :: bytes ∧ c ≠ 0x22 ∧ 32 ≤ c := by
  cases h with
  | plain h =>
    obtain ⟨hcontrol, hquote, -⟩ := isPlain_iff.mp h
    rw [encode_cons]
    rcases Nat.lt_or_ge 0x7F d.toNat with hd | hd
    · obtain ⟨b, bytes, hbytes⟩ :=
        List.exists_cons_of_ne_nil (String.utf8EncodeChar_ne_nil (c := d))
      have hle := le_of_mem_encodeChar hd (hbytes ▸ List.mem_cons_self : b ∈ utf8EncodeChar d)
      refine ⟨b, bytes ++ [], by rw [hbytes]; rfl, ?_, ?_⟩
      · rintro rfl
        exact absurd hle (by decide)
      · exact UInt8.le_trans (by decide) hle
    · have hnat : (UInt8.ofNat d.toNat).toNat = d.toNat :=
        UInt8.toNat_ofNat_of_lt' (show d.toNat < 256 by omega)
      refine ⟨_, _, by rw [encodeChar_ascii hd]; rfl, fun heq ↦ hquote ?_, ?_⟩
      · rw [← hnat, heq]
        rfl
      · rw [UInt8.le_iff_toNat_le, hnat]
        exact hcontrol
  | short h => exact ⟨_, _, rfl, by decide, by decide⟩
  | unit h hn => exact ⟨_, _, rfl, by decide, by decide⟩
  | pair h h' hn hm => exact ⟨_, _, rfl, by decide, by decide⟩

theorem stringLoop_succ (fuel : ℕ) (c : UInt8) (input out : Text) :
    stringLoop (fuel + 1) (c :: input) out =
      if c = 0x22 then some (out, input)
      else if c < 32 || 2048 ≤ out.length then none
      else
        match readCharacter c input with
        | none => none
        | some (character, input) =>
          if 2048 < (out ++ character).length then none
          else stringLoop fuel input (out ++ character) := rfl

/-- The rest of a string, and what it means. -/
theorem stringLoop_sound {fuel : ℕ} {input value : Text} (hout : out.length ≤ 2048)
    (h : stringLoop fuel input out = some (value, rest)) :
    ∃ body v, input = Utf8.encode body ++ 0x22 :: rest ∧ Spells body v ∧
      value = out ++ Utf8.encode v ∧ value.length ≤ 2048 := by
  induction fuel generalizing input out with
  | zero => exact nomatch h
  | succ fuel ih =>
    rcases input with _ | ⟨c, input⟩
    · exact nomatch h
    rw [stringLoop_succ] at h
    split_ifs at h with hquote hstop
    · obtain ⟨rfl, rfl⟩ := Prod.mk.inj (Option.some.inj h)
      exact ⟨[], [], by rw [hquote]; rfl, .nil, (List.append_nil _).symm, hout⟩
    · split at h
      · exact nomatch h
      · rename_i character tail hread
        split_ifs at h with hlong
        have hcontrol : 32 ≤ c := by
          rw [Bool.or_eq_true, decide_eq_true_eq, not_or] at hstop
          exact UInt8.not_lt.mp hstop.1
        obtain ⟨s, d, hinput, hs, rfl⟩ := (readCharacter_iff hquote hcontrol).mp hread
        obtain ⟨body, v, rfl, hbody, rfl, hlength⟩ := ih (not_lt.mp hlong) h
        refine ⟨s ++ body, d :: v, ?_, .cons hs hbody, ?_, hlength⟩
        · rw [hinput, encode_append, List.append_assoc]
        · rw [encode_cons, List.append_assoc]

/-- A string within the limit is read. -/
theorem stringLoop_complete {body v : List Char} (h : Spells body v) :
    ∀ {fuel : ℕ} {out : Text}, (Utf8.encode body).length < fuel →
      (out ++ Utf8.encode v).length ≤ 2048 →
      stringLoop fuel (Utf8.encode body ++ 0x22 :: rest) out =
        some (out ++ Utf8.encode v, rest) := by
  induction h with
  | nil =>
    intro fuel out hfuel hlength
    obtain ⟨fuel, rfl⟩ := Nat.exists_eq_succ_of_ne_zero hfuel.ne'
    rw [encode_nil, List.nil_append, List.append_nil, stringLoop_succ]
    exact if_pos rfl
  | @cons s body v d hs _ ih =>
    intro fuel out hfuel hlength
    obtain ⟨fuel, rfl⟩ := Nat.exists_eq_succ_of_ne_zero hfuel.ne_bot
    obtain ⟨c, bytes, hbytes, hquote, hcontrol⟩ := first_of_symbol hs
    have hread : readCharacter c (bytes ++ (Utf8.encode body ++ 0x22 :: rest)) =
        some (utf8EncodeChar d, Utf8.encode body ++ 0x22 :: rest) :=
      (readCharacter_iff hquote hcontrol).mpr ⟨s, d, by rw [hbytes]; rfl, hs, rfl⟩
    have hpos : 0 < (utf8EncodeChar d).length :=
      List.length_pos_iff.mpr String.utf8EncodeChar_ne_nil
    rw [encode_cons, ← List.append_assoc] at hlength ⊢
    rw [encode_append, hbytes, List.length_append, List.length_cons] at hfuel
    rw [List.length_append, List.length_append] at hlength
    rw [encode_append, hbytes, List.append_assoc, List.cons_append, stringLoop_succ,
      if_neg hquote, if_neg, hread]
    · show (if _ then _ else _) = _
      rw [if_neg (by rw [List.length_append]; omega)]
      exact ih (by omega) (by rw [List.length_append, List.length_append]; exact hlength)
    · rw [Bool.or_eq_true, decide_eq_true_eq, decide_eq_true_eq, not_or, UInt8.not_lt]
      exact ⟨hcontrol, by omega⟩

/-- What is read as a string is one that means something, and not too much. -/
theorem string_iff {value : Text} : string input = some (value, rest) ↔
    ∃ w body v, IsSpace w ∧ input = Utf8.encode (w ++ '"' :: body ++ ['"']) ++ rest ∧
      decodeString body = some v ∧ value = Utf8.encode v ∧ value.length ≤ 2048 := by
  have hencode : ∀ w body, Utf8.encode (w ++ '"' :: body ++ ['"']) ++ rest =
      Utf8.encode w ++ 0x22 :: (Utf8.encode body ++ 0x22 :: rest) := by
    intro w body
    rw [encode_append, encode_append, encode_cons, List.append_assoc,
      List.append_assoc, List.append_assoc]
    rfl
  constructor
  · intro h
    obtain ⟨tail, htail, hloop⟩ := Option.bind_eq_some_iff.mp h
    obtain ⟨w, hw, rfl⟩ := (consume_iff rfl).mp htail
    obtain ⟨body, v, rfl, hbody, rfl, hlength⟩ := stringLoop_sound (Nat.zero_le _) hloop
    exact ⟨w, body, v, hw, (hencode w body).symm, spells_iff.mp hbody, rfl, hlength⟩
  · rintro ⟨w, body, v, hw, rfl, hvalue, rfl, hlength⟩
    rw [hencode, string, (consume_iff rfl).mpr ⟨w, hw, rfl⟩]
    refine stringLoop_complete (spells_iff.mpr hvalue) ?_ hlength
    rw [List.length_append, List.length_cons]
    omega

/-! ### Numbers -/

/-- What is behind a run of such bytes does not go on with it. -/
def Stops (p : UInt8 → Bool) (rest : Text) : Prop := ∀ b ∈ rest.head?, p b = false

theorem Stops.mono {p q : UInt8 → Bool} (h : Stops p rest) (hpq : ∀ b, q b = true → p b = true) :
    Stops q rest := by
  intro b hb
  have hp := h b hb
  by_contra hq
  rw [hpq b (eq_true_of_ne_false hq)] at hp
  exact nomatch hp

theorem spans_isDigit : Spans isDigit IsDigit where
  ofByte := forall_byte (by unfold IsDigit; decide +kernel)
  ofChar := by
    rintro c ⟨hfirst, hlast⟩
    have hfirst : 0x30 ≤ c.toNat := UInt32.le_iff_toNat_le.mp hfirst
    have hlast : c.toNat ≤ 0x39 := UInt32.le_iff_toNat_le.mp hlast
    refine ⟨_, encodeChar_ascii (hlast.trans (by decide)), ?_⟩
    have hnat : (UInt8.ofNat c.toNat).toNat = c.toNat :=
      UInt8.toNat_ofNat_of_lt' (show c.toNat < 256 by omega)
    rw [isDigit, Bool.and_eq_true, decide_eq_true_eq, decide_eq_true_eq, UInt8.le_iff_toNat_le,
      UInt8.le_iff_toNat_le, hnat]
    exact ⟨hfirst, hlast⟩

theorem digits_sound (h : digits input = some rest) :
    ∃ ds, ds ≠ [] ∧ (∀ c ∈ ds, IsDigit c) ∧ input = Utf8.encode ds ++ rest := by
  unfold digits at h
  split at h
  · exact nomatch h
  · rename_i b tail
    split_ifs at h with hb
    obtain rfl := Option.some.inj h
    obtain ⟨hascii, hdigit⟩ := spans_isDigit.ofByte b hb
    obtain ⟨ds, hds, htail⟩ := spans_isDigit.exists_dropWhile tail
    refine ⟨Char.ofNat b.toNat :: ds, List.cons_ne_nil _ _,
      List.forall_mem_cons.mpr ⟨hdigit, hds⟩, ?_⟩
    rw [encode_cons, encodeChar_ofNat hascii, List.append_assoc, ← htail]
    rfl

theorem digits_complete {ds : List Char} (hne : ds ≠ []) (hds : ∀ c ∈ ds, IsDigit c)
    (hrest : Stops isDigit rest) : digits (Utf8.encode ds ++ rest) = some rest := by
  obtain ⟨d, ds, rfl⟩ := List.exists_cons_of_ne_nil hne
  obtain ⟨hd, hds⟩ := List.forall_mem_cons.mp hds
  obtain ⟨b, hencode, hb⟩ := spans_isDigit.ofChar d hd
  have hdrop : rest.dropWhile isDigit = rest := by
    cases rest with
    | nil => rfl
    | cons c rest =>
      refine List.dropWhile_cons_of_neg ?_
      rw [hrest c rfl]
      exact Bool.false_ne_true
  rw [encode_cons, hencode, List.append_assoc]
  show (if isDigit b then some ((Utf8.encode ds ++ rest).dropWhile isDigit) else none) = some rest
  rw [if_pos hb, spans_isDigit.dropWhile_append hds, hdrop]

/-- The first byte of some digits is one. -/
theorem head_digits {ds : List Char} (hne : ds ≠ []) (hds : ∀ c ∈ ds, IsDigit c) (rest : Text) :
    ∃ b, (Utf8.encode ds ++ rest).head? = some b ∧ isDigit b = true := by
  obtain ⟨d, ds, rfl⟩ := List.exists_cons_of_ne_nil hne
  obtain ⟨b, hencode, hb⟩ := spans_isDigit.ofChar d (hds d List.mem_cons_self)
  exact ⟨b, by rw [encode_cons, hencode]; rfl, hb⟩

/-- How the reader takes the integer of a number, -/
def readInt (input : Text) : Option Text :=
  if input.head? = some 0x30 then some (input.drop 1) else digits input

/-- its fraction -/
def readFrac (input : Text) : Option Text :=
  if input.head? = some 0x2E then digits (input.drop 1) else some input

/-- and its exponent. -/
def readExp (input : Text) : Option Text :=
  if input.head? = some 0x65 || input.head? = some 0x45 then
    let input := input.drop 1
    digits (if input.head? = some 0x2B || input.head? = some 0x2D then input.drop 1 else input)
  else some input

theorem number_eq (input : Text) : number input =
    (readInt (if input.head? = some 0x2D then input.drop 1 else input)).bind fun input ↦
      (readFrac input).bind readExp := by
  have hfrac : ∀ input : Text, (if input.head? = some 0x2E then
      (digits (input.drop 1)).bind readExp else (some input).bind readExp) =
        (readFrac input).bind readExp := by
    intro input
    rw [readFrac]
    split_ifs
    · rfl
    · rfl
  rw [readInt]
  generalize hsign : (if input.head? = some 0x2D then input.drop 1 else input) = unsigned
  unfold number
  dsimp only
  rw [hsign]
  split_ifs
  · exact congrArg (Option.bind _) (funext hfrac)
  · exact congrArg (Option.bind _) (funext hfrac)

theorem eq_cons_of_head {b : UInt8} (h : input.head? = some b) : input = b :: input.drop 1 := by
  rcases input with _ | ⟨c, input⟩
  · exact nomatch h
  · obtain rfl := Option.some.inj h
    rfl

theorem readInt_sound (h : readInt input = some rest) :
    ∃ s, IsInt s ∧ input = Utf8.encode s ++ rest := by
  rw [readInt] at h
  split_ifs at h with hzero
  · obtain rfl := Option.some.inj h
    exact ⟨['0'], .inl rfl, eq_cons_of_head hzero⟩
  · obtain ⟨ds, hne, hds, rfl⟩ := digits_sound h
    obtain ⟨d, ds, rfl⟩ := List.exists_cons_of_ne_nil hne
    obtain ⟨hd, hds⟩ := List.forall_mem_cons.mp hds
    refine ⟨d :: ds, .inr ⟨d, ds, rfl, hd, ?_, hds⟩, rfl⟩
    rintro rfl
    exact hzero rfl

theorem readInt_complete (h : IsInt s) (hrest : Stops isDigit rest) :
    readInt (Utf8.encode s ++ rest) = some rest := by
  rcases h with rfl | ⟨d, ds, rfl, hd, hne, hds⟩
  · rfl
  · rw [readInt, if_neg, digits_complete (List.cons_ne_nil _ _) (List.forall_mem_cons.mpr ⟨hd, hds⟩)
      hrest]
    intro hhead
    have hd' : d.toNat ≤ 0x39 := UInt32.le_iff_toNat_le.mp hd.2
    rw [encode_cons, encodeChar_ascii (hd'.trans (by decide))] at hhead
    have hnat := congrArg UInt8.toNat (Option.some.inj hhead)
    rw [UInt8.toNat_ofNat_of_lt' (show d.toNat < 256 by omega)] at hnat
    exact hne (Char.toNat_inj.mp hnat)

theorem readFrac_sound (h : readFrac input = some rest) :
    ∃ s, IsFrac s ∧ input = Utf8.encode s ++ rest := by
  rw [readFrac] at h
  split_ifs at h with hdot
  · obtain ⟨ds, hne, hds, htail⟩ := digits_sound h
    refine ⟨'.' :: ds, .inr ⟨ds, rfl, hne, hds⟩, ?_⟩
    rw [eq_cons_of_head hdot, htail]
    rfl
  · exact ⟨[], .inl rfl, Option.some.inj h⟩

theorem readFrac_complete (h : IsFrac s) (hrest : Stops (fun b ↦ isDigit b || b = 0x2E) rest) :
    readFrac (Utf8.encode s ++ rest) = some rest := by
  rcases h with rfl | ⟨ds, rfl, hne, hds⟩
  · refine if_neg fun hdot ↦ ?_
    exact nomatch hrest 0x2E hdot
  · show digits (Utf8.encode ds ++ rest) = some rest
    exact digits_complete hne hds (hrest.mono fun b hb ↦ by rw [hb]; rfl)

theorem readExp_sound (h : readExp input = some rest) :
    ∃ s, IsExp s ∧ input = Utf8.encode s ++ rest := by
  rw [readExp] at h
  split_ifs at h with he
  · obtain ⟨ds, hne, hds, htail⟩ := digits_sound h
    obtain ⟨e, he, hinput⟩ :
        ∃ e : Char, (e = 'e' ∨ e = 'E') ∧ input = utf8EncodeChar e ++ input.drop 1 := by
      rw [Bool.or_eq_true, decide_eq_true_eq, decide_eq_true_eq] at he
      rcases he with he | he
      · exact ⟨'e', .inl rfl, eq_cons_of_head he⟩
      · exact ⟨'E', .inr rfl, eq_cons_of_head he⟩
    obtain ⟨sign, hsign, hdrop⟩ : ∃ sign : List Char, (sign = [] ∨ sign = ['+'] ∨ sign = ['-']) ∧
        input.drop 1 = Utf8.encode sign ++ (Utf8.encode ds ++ rest) := by
      split_ifs at htail with hsign
      · rw [Bool.or_eq_true, decide_eq_true_eq, decide_eq_true_eq] at hsign
        rcases hsign with hsign | hsign
        · exact ⟨['+'], .inr (.inl rfl), by rw [eq_cons_of_head hsign, htail]; rfl⟩
        · exact ⟨['-'], .inr (.inr rfl), by rw [eq_cons_of_head hsign, htail]; rfl⟩
      · exact ⟨[], .inl rfl, htail⟩
    refine ⟨e :: sign ++ ds, .inr ⟨e, sign, ds, rfl, he, hsign, hne, hds⟩, ?_⟩
    rw [hinput, hdrop, encode_append, encode_cons, List.append_assoc, List.append_assoc]
  · exact ⟨[], .inl rfl, Option.some.inj h⟩

/-- The bytes that go on with a number. -/
def isNumeric (b : UInt8) : Bool := isDigit b || b = 0x2E || b = 0x65 || b = 0x45

theorem readExp_complete (h : IsExp s) (hrest : Stops isNumeric rest) :
    readExp (Utf8.encode s ++ rest) = some rest := by
  rcases h with rfl | ⟨e, sign, ds, rfl, he, hsign, hne, hds⟩
  · refine if_neg fun he ↦ ?_
    rw [Bool.or_eq_true, decide_eq_true_eq, decide_eq_true_eq] at he
    rcases he with he | he
    · exact nomatch hrest _ he
    · exact nomatch hrest _ he
  · have hdigits := digits_complete hne hds (hrest.mono fun b hb ↦ by rw [isNumeric, hb]; rfl)
    have hexp : ∀ tail : Text, readExp (utf8EncodeChar e ++ tail) =
        digits (if tail.head? = some 0x2B || tail.head? = some 0x2D then tail.drop 1
          else tail) := by
      intro tail
      rcases he with rfl | rfl
      · rfl
      · rfl
    rw [List.cons_append, encode_cons, encode_append, List.append_assoc,
      List.append_assoc, hexp]
    rcases hsign with rfl | rfl | rfl
    · obtain ⟨b, hhead, hb⟩ := head_digits hne hds rest
      rw [encode_nil, List.nil_append, hhead, if_neg]
      · exact hdigits
      · rw [Bool.or_eq_true, decide_eq_true_eq, decide_eq_true_eq]
        rintro (h | h)
        · exact absurd hb (by rw [Option.some.inj h]; decide)
        · exact absurd hb (by rw [Option.some.inj h]; decide)
    · exact hdigits
    · exact hdigits

/-- What is read as a number is one. -/
theorem number_sound (h : number input = some rest) :
    ∃ s, IsNumber s ∧ input = Utf8.encode s ++ rest := by
  rw [number_eq] at h
  obtain ⟨afterInt, hreadInt, h⟩ := Option.bind_eq_some_iff.mp h
  obtain ⟨afterFrac, hreadFrac, hreadExp⟩ := Option.bind_eq_some_iff.mp h
  obtain ⟨int, hint, hafter⟩ := readInt_sound hreadInt
  obtain ⟨frac, hfrac, rfl⟩ := readFrac_sound hreadFrac
  obtain ⟨exp, hexp, rfl⟩ := readExp_sound hreadExp
  split_ifs at hafter with hminus
  · refine ⟨_, ⟨['-'], int, frac, exp, rfl, .inr rfl, hint, hfrac, hexp⟩, ?_⟩
    rw [eq_cons_of_head hminus, hafter]
    simp only [encode_append, List.append_assoc]
    rfl
  · refine ⟨_, ⟨[], int, frac, exp, rfl, .inl rfl, hint, hfrac, hexp⟩, ?_⟩
    rw [hafter]
    simp only [encode_append, List.append_assoc]
    rfl

/-- The first byte of an integer is a digit. -/
theorem head_int (h : IsInt s) (rest : Text) :
    ∃ b, (Utf8.encode s ++ rest).head? = some b ∧ isDigit b = true := by
  rcases h with rfl | ⟨d, ds, rfl, hd, -, hds⟩
  · exact ⟨0x30, rfl, rfl⟩
  · exact head_digits (List.cons_ne_nil _ _) (List.forall_mem_cons.mpr ⟨hd, hds⟩) rest

/-- Every number is read. -/
theorem number_complete (h : IsNumber s) (hrest : Stops isNumeric rest) :
    number (Utf8.encode s ++ rest) = some rest := by
  obtain ⟨minus, int, frac, exp, rfl, hminus, hint, hfrac, hexp⟩ := h
  have hafterFrac : Stops (fun b ↦ isDigit b || b = 0x2E) (Utf8.encode exp ++ rest) := by
    rcases hexp with rfl | ⟨e, sign, ds, rfl, rfl | rfl, -⟩
    · exact hrest.mono fun b hb ↦ by rw [isNumeric, hb]; rfl
    · exact fun b hb ↦ Option.some.inj hb ▸ rfl
    · exact fun b hb ↦ Option.some.inj hb ▸ rfl
  have hafterInt : Stops isDigit (Utf8.encode frac ++ (Utf8.encode exp ++ rest)) := by
    rcases hfrac with rfl | ⟨ds, rfl, -⟩
    · exact hafterFrac.mono fun b hb ↦ by rw [hb]; rfl
    · exact fun b hb ↦ Option.some.inj hb ▸ rfl
  have hunsigned : Utf8.encode (minus ++ int ++ frac ++ exp) ++ rest = Utf8.encode minus ++
      (Utf8.encode int ++ (Utf8.encode frac ++ (Utf8.encode exp ++ rest))) := by
    simp only [encode_append, List.append_assoc]
  have hread : ∀ tail, readInt tail = some (Utf8.encode frac ++ (Utf8.encode exp ++ rest)) →
      ((readInt tail).bind fun input ↦ (readFrac input).bind readExp) = some rest := by
    intro tail htail
    rw [htail]
    show (readFrac _).bind readExp = _
    rw [readFrac_complete hfrac hafterFrac]
    exact readExp_complete hexp hrest
  rw [number_eq, hunsigned]
  rcases hminus with rfl | rfl
  · obtain ⟨b, hhead, hb⟩ := head_int hint (Utf8.encode frac ++ (Utf8.encode exp ++ rest))
    rw [encode_nil, List.nil_append, if_neg]
    · exact hread _ (readInt_complete hint hafterInt)
    · rw [hhead]
      intro h
      exact absurd hb (by rw [Option.some.inj h]; decide)
  · exact hread _ (readInt_complete hint hafterInt)

/-- The first byte of a number is numeric, or a minus sign. -/
theorem head_number (h : IsNumber s) :
    ∃ b bytes, Utf8.encode s = b :: bytes ∧ (isDigit b = true ∨ b = 0x2D) := by
  obtain ⟨minus, int, frac, exp, rfl, rfl | rfl, hint, -⟩ := h
  · obtain ⟨b, hhead, hb⟩ := head_int hint (Utf8.encode (frac ++ exp))
    refine ⟨b, (Utf8.encode int ++ Utf8.encode (frac ++ exp)).drop 1, ?_, .inl hb⟩
    rw [List.nil_append, List.append_assoc, encode_append]
    exact eq_cons_of_head hhead
  · exact ⟨0x2D, _, rfl, .inr rfl⟩

/-! ### Scalars -/

/-- What is read as a scalar is one. -/
theorem scalar_sound (h : scalar input = some rest) :
    ∃ s, Denotes .value s .scalar ∧ input = Utf8.encode s ++ rest := by
  unfold scalar at h
  split at h
  · rename_i word hfind
    obtain rfl := Option.some.inj h
    have hprefix := List.find?_some hfind
    have hinput := List.prefix_iff_eq_append.mp (List.isPrefixOf_iff_prefix.mp hprefix)
    have hword := List.mem_of_find?_eq_some hfind
    simp only [List.mem_cons, List.not_mem_nil, or_false] at hword
    rcases hword with rfl | rfl | rfl
    · exact ⟨_, .true, hinput.symm⟩
    · exact ⟨_, .false, hinput.symm⟩
    · exact ⟨_, .null, hinput.symm⟩
  · obtain ⟨s, hs, hinput⟩ := number_sound h
    exact ⟨s, .number hs, hinput⟩

theorem scalar_number (h : IsNumber s) (hrest : Stops isNumeric rest) :
    scalar (Utf8.encode s ++ rest) = some rest := by
  obtain ⟨b, bytes, hbytes, hb⟩ := head_number h
  have hfind : [literal "true", literal "false", literal "null"].find?
      (·.isPrefixOf (Utf8.encode s ++ rest)) = none := by
    rw [List.find?_eq_none, hbytes]
    intro word hword hprefix
    have hhead : ∀ {c : UInt8} {word : Text}, (c :: word).isPrefixOf (b :: bytes ++ rest) = true →
        isDigit c = false → c ≠ 0x2D → False := by
      intro c word h hdigit hminus
      obtain ⟨_, heq⟩ := List.isPrefixOf_iff_prefix.mp h
      obtain ⟨rfl, -⟩ := List.cons.inj heq
      rcases hb with hb | hb
      · exact Bool.false_ne_true (hdigit.symm.trans hb)
      · exact hminus hb
    simp only [List.mem_cons, List.not_mem_nil, or_false] at hword
    rcases hword with rfl | rfl | rfl
    · exact hhead (c := 0x74) hprefix rfl (by decide)
    · exact hhead (c := 0x66) hprefix rfl (by decide)
    · exact hhead (c := 0x6E) hprefix rfl (by decide)
  rw [scalar, hfind]
  exact number_complete h hrest

theorem scalar_literal (h : s = "null".toList ∨ s = "true".toList ∨ s = "false".toList)
    (rest : Text) : scalar (Utf8.encode s ++ rest) = some rest := by
  rcases h with rfl | rfl | rfl
  · rfl
  · rfl
  · rfl

end JsonReader

end Skan.Detect
