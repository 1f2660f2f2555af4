import Mathlib.Tactic.IntervalCases
import Skan.Library.Utf8

/-!
# The JSON grammar

RFC 8259 over lists of characters: what derives from `JSON-text` (`IsText`), and what a string
stands for (`decodeString`). A document is bytes, and well formed when they are the UTF-8 encoding
of a JSON text (`WellFormed`).

## A balance

Outside its strings a JSON text has no letters but those of `true`, `false`, `null` and of
exponents. `weigh` counts them so that these come to zero (`weighs_of_derives`): a cheap way to see
that a document is not well formed. It is defined on the bytes by a scanner for strings (`Mode`),
and adds up over pieces that close their strings (`Weighs`).

A printer is then checked piece by piece (`Writes`): a piece derives from its phrase, or it tilts
the balance to one side, and nothing that is printed around it makes up for that. -/

namespace Json

open Utf8

variable {bytes more w : List UInt8} {c : Char} {s : List Char} {phrase : Phrase}
  {good good' : Prop}

/-! ### Strings -/

/-- A part of a string: a character, or the number of an escaped code unit. -/
inductive Piece where
  | char (c : Char)
  | unit (n : ℕ)
  deriving DecidableEq

def hexValue (c : Char) : Option ℕ :=
  if '0' ≤ c ∧ c ≤ '9' then some (c.toNat - 0x30)
  else if 'a' ≤ c ∧ c ≤ 'f' then some (c.toNat - 0x57)
  else if 'A' ≤ c ∧ c ≤ 'F' then some (c.toNat - 0x37)
  else none

/-- The number of four hexadecimal digits. -/
def unitOf (a b c d : Char) : Option ℕ := do
  return (← hexValue a) * 4096 + (← hexValue b) * 256 + (← hexValue c) * 16 + (← hexValue d)

/-- What stands for a character after a backslash. -/
def shortEscape : Char → Option Char
  | '"' => some '"'
  | '\\' => some '\\'
  | '/' => some '/'
  | 'b' => some (Char.ofNat 0x08)
  | 'f' => some (Char.ofNat 0x0C)
  | 'n' => some '\n'
  | 'r' => some '\r'
  | 't' => some '\t'
  | _ => none

/-- A character that may stand for itself. -/
def isPlain (c : Char) : Bool := 0x20 ≤ c.toNat && c ≠ '"' && c ≠ '\\'

/-- The parts of what stands between the quotation marks; `none` where the grammar forbids it. -/
def pieces : List Char → Option (List Piece)
  | [] => some []
  | '\\' :: 'u' :: a :: b :: c :: d :: rest => do
    return .unit (← unitOf a b c d) :: (← pieces rest)
  | '\\' :: c :: rest => do return .char (← shortEscape c) :: (← pieces rest)
  | c :: rest => if isPlain c then (pieces rest).map (.char c :: ·) else none

/-- The characters of the parts; a code unit that is half of a surrogate pair needs the other
half. -/
def assemble : List Piece → Option (List Char)
  | [] => some []
  | .char c :: rest => (assemble rest).map (c :: ·)
  | .unit n :: .unit m :: rest =>
    if 0xD800 ≤ n ∧ n < 0xDC00 ∧ 0xDC00 ≤ m ∧ m < 0xE000 then
      (assemble rest).map (Char.ofNat (0x10000 + (n - 0xD800) * 0x400 + (m - 0xDC00)) :: ·)
    else if 0xD800 ≤ n ∧ n < 0xE000 then none
    else (assemble (.unit m :: rest)).map (Char.ofNat n :: ·)
  | .unit n :: rest =>
    if 0xD800 ≤ n ∧ n < 0xE000 then none else (assemble rest).map (Char.ofNat n :: ·)

/-- The value of what stands between the quotation marks. -/
def decodeString (body : List Char) : Option (List Char) := (pieces body).bind assemble

/-- `string`. -/
def IsString (s : List Char) : Prop := ∃ body, s = '"' :: body ++ ['"'] ∧ (pieces body).isSome

/-! ### Numbers -/

/-- `DIGIT`. -/
def IsDigit (c : Char) : Prop := '0' ≤ c ∧ c ≤ '9'

/-- `int`, without leading zeros. -/
def IsInt (s : List Char) : Prop :=
  s = ['0'] ∨ ∃ d ds, s = d :: ds ∧ IsDigit d ∧ d ≠ '0' ∧ ∀ c ∈ ds, IsDigit c

/-- `frac`, or nothing. -/
def IsFrac (s : List Char) : Prop := s = [] ∨ ∃ ds, s = '.' :: ds ∧ ds ≠ [] ∧ ∀ c ∈ ds, IsDigit c

/-- `exp`, or nothing. -/
def IsExp (s : List Char) : Prop :=
  s = [] ∨ ∃ e sign ds, s = e :: sign ++ ds ∧ (e = 'e' ∨ e = 'E') ∧
    (sign = [] ∨ sign = ['+'] ∨ sign = ['-']) ∧ ds ≠ [] ∧ ∀ c ∈ ds, IsDigit c

/-- `number`. -/
def IsNumber (s : List Char) : Prop :=
  ∃ minus int frac exp, s = minus ++ int ++ frac ++ exp ∧ (minus = [] ∨ minus = ['-']) ∧
    IsInt int ∧ IsFrac frac ∧ IsExp exp

/-! ### Values -/

/-- `ws`. -/
def IsSpace (s : List Char) : Prop := ∀ c ∈ s, c = ' ' ∨ c = '\t' ∨ c = '\n' ∨ c = '\r'

/-- What can be derived: a value, the elements of an array, the members of an object. -/
inductive Phrase where
  | value
  | elements
  | members

/-- The grammar. White space stands around values and names. -/
inductive Derives : Phrase → List Char → Prop
  | null : Derives .value "null".toList
  | true : Derives .value "true".toList
  | false : Derives .value "false".toList
  | number {s : List Char} (h : IsNumber s) : Derives .value s
  | string {s : List Char} (h : IsString s) : Derives .value s
  | emptyArray {w : List Char} (hw : IsSpace w) : Derives .value ('[' :: w ++ [']'])
  | array {es : List Char} (hes : Derives .elements es) : Derives .value ('[' :: es ++ [']'])
  | emptyObject {w : List Char} (hw : IsSpace w) : Derives .value ('{' :: w ++ ['}'])
  | object {ms : List Char} (hms : Derives .members ms) : Derives .value ('{' :: ms ++ ['}'])
  | element {w v w' : List Char} (hw : IsSpace w) (hv : Derives .value v) (hw' : IsSpace w') :
      Derives .elements (w ++ v ++ w')
  | elements {e es : List Char} (he : Derives .elements e) (hes : Derives .elements es) :
      Derives .elements (e ++ ',' :: es)
  | member {w s w' u v u' : List Char} (hw : IsSpace w) (hs : IsString s) (hw' : IsSpace w')
      (hu : IsSpace u) (hv : Derives .value v) (hu' : IsSpace u') :
      Derives .members (w ++ s ++ w' ++ ':' :: (u ++ v ++ u'))
  | members {m ms : List Char} (hm : Derives .members m) (hms : Derives .members ms) :
      Derives .members (m ++ ',' :: ms)

/-- `JSON-text`. -/
def IsText (s : List Char) : Prop :=
  ∃ w v w', s = w ++ v ++ w' ∧ IsSpace w ∧ Derives .value v ∧ IsSpace w'

/-- A document that is JSON in UTF-8. -/
def WellFormed (document : List UInt8) : Prop := ∃ s, document = Utf8.encode s ∧ IsText s

/-! ### The scanner for strings -/

/-- Where a scanner stands: outside of a string, in one, or behind its backslash. -/
inductive Mode where
  | outside
  | inside
  | escaped
  deriving DecidableEq

def Mode.next : Mode → UInt8 → Mode
  | .outside, b => if b = 0x22 then .inside else .outside
  | .inside, b => if b = 0x22 then .outside else if b = 0x5C then .escaped else .inside
  | .escaped, _ => .inside

def scan (mode : Mode) (bytes : List UInt8) : Mode := bytes.foldl Mode.next mode

/-- What a byte outside of strings counts: the letters `a`, `l` and `n`. -/
def weight (b : UInt8) : ℤ := if b = 0x61 then -1 else if b = 0x6C then 1 else if b =
    0x6E then -2 else 0

/-- The balance of some bytes. -/
def weigh : Mode → List UInt8 → ℤ
  | _, [] => 0
  | mode, b :: bytes => (if mode = .outside then weight b else 0) + weigh (mode.next b) bytes

theorem scan_append (mode : Mode) (bytes more : List UInt8) :
    scan mode (bytes ++ more) = scan (scan mode bytes) more := List.foldl_append

theorem weigh_append (mode : Mode) (bytes more : List UInt8) :
    weigh mode (bytes ++ more) = weigh mode bytes + weigh (scan mode bytes) more := by
  induction bytes generalizing mode with
  | nil => exact (zero_add _).symm
  | cons b bytes ih =>
    show _ + weigh (mode.next b) (bytes ++ more) = _ + weigh (mode.next b) bytes + _
    rw [ih, add_assoc]
    rfl

/-- Some bytes that leave every string they begin, and what they count. -/
structure Weighs (bytes : List UInt8) (w : ℤ) : Prop where
  closed : scan .outside bytes = .outside
  weigh_eq : weigh .outside bytes = w

theorem Weighs.append {w w' : ℤ} (h : Weighs bytes w) (h' : Weighs more w') :
    Weighs (bytes ++ more) (w + w') := by
  refine ⟨?_, ?_⟩
  · rw [scan_append, h.closed, h'.closed]
  · rw [weigh_append, h.closed, h.weigh_eq, h'.weigh_eq]

theorem Weighs.unique {w w' : ℤ} (h : Weighs bytes w) (h' : Weighs bytes w') :
    w = w' := h.weigh_eq.symm.trans h'.weigh_eq

theorem weighs_nil : Weighs [] 0 := ⟨rfl, rfl⟩

/-- Bytes outside of strings that count nothing. -/
theorem weighs_plain (h : ∀ b ∈ bytes, b ≠ 0x22 ∧ weight b = 0) : Weighs bytes 0 := by
  induction bytes with
  | nil => exact weighs_nil
  | cons b bytes ih =>
    obtain ⟨hquote, hweight⟩ := h b List.mem_cons_self
    obtain ⟨hclosed, hweigh⟩ := ih fun c hc ↦ h c (List.mem_cons_of_mem b hc)
    have hnext : Mode.outside.next b = .outside := if_neg hquote
    refine ⟨?_, ?_⟩
    · show scan (Mode.outside.next b) bytes = _
      rw [hnext, hclosed]
    · show weight b + weigh (Mode.outside.next b) bytes = 0
      rw [hnext, hweigh, hweight, add_zero]

/-- Bytes in a string that neither end it nor escape anything. -/
theorem scan_inside (h : ∀ b ∈ bytes, b ≠ 0x22 ∧ b ≠ 0x5C) :
    scan .inside bytes = .inside ∧ weigh .inside bytes = 0 := by
  induction bytes with
  | nil => exact ⟨rfl, rfl⟩
  | cons b bytes ih =>
    obtain ⟨hquote, hescape⟩ := h b List.mem_cons_self
    obtain ⟨hscan, hweigh⟩ := ih fun c hc ↦ h c (List.mem_cons_of_mem b hc)
    have hnext : Mode.inside.next b = .inside := by rw [Mode.next, if_neg hquote, if_neg hescape]
    refine ⟨?_, ?_⟩
    · show scan (Mode.inside.next b) bytes = _
      rw [hnext, hscan]
    · show 0 + weigh (Mode.inside.next b) bytes = 0
      rw [hnext, hweigh, add_zero]

/-! ### What a JSON text counts -/

/-- A character that stands for itself in the scanner's eyes. -/
theorem bytes_of_ne (hquote : c ≠ '"') (hescape : c ≠ '\\') :
    ∀ b ∈ String.utf8EncodeChar c, b ≠ 0x22 ∧ b ≠ 0x5C := by
  intro b hb
  by_cases hascii : c.toNat ≤ 0x7F
  · rw [encodeChar_ascii hascii, List.mem_singleton] at hb
    have hbyte : ∀ d : Char, d.toNat ≤ 0x7F → b = UInt8.ofNat d.toNat → c = d := by
      intro d hd hbd
      have hnat := congrArg UInt8.toNat (hb.symm.trans hbd)
      rw [UInt8.toNat_ofNat_of_lt' (hascii.trans_lt (by decide)),
        UInt8.toNat_ofNat_of_lt' (hd.trans_lt (by decide))] at hnat
      exact Char.toNat_inj.mp hnat
    exact ⟨fun h ↦ hquote (hbyte '"' (by decide) h), fun h ↦ hescape (hbyte '\\' (by decide) h)⟩
  · have hge := le_of_mem_encodeChar (not_le.mp hascii) hb
    refine ⟨fun h ↦ ?_, fun h ↦ ?_⟩
    · exact absurd (h ▸ hge) (by decide)
    · exact absurd (h ▸ hge) (by decide)

theorem ne_of_hexValue {n : ℕ} (h : hexValue c = some n) : c ≠ '"' ∧ c ≠ '\\' := by
  constructor
  · rintro rfl
    exact nomatch h
  · rintro rfl
    exact nomatch h

theorem ascii_of_shortEscape {e : Char} (h : shortEscape c = some e) : c.toNat ≤ 0x7F := by
  rw [shortEscape.eq_def] at h
  split at h
  all_goals first | decide | exact nomatch h

/-- What holds of plain characters and of escapes, and of texts put together, holds of everything
that can stand between quotation marks. -/
theorem pieces_induction {P : List Char → Prop} (nil : P [])
    (plain : ∀ {c}, c ≠ '"' → c ≠ '\\' → P [c]) (escape : ∀ {c}, c.toNat ≤ 0x7F → P ['\\', c])
    (append : ∀ {front back}, P front → P back → P (front ++ back)) {body : List Char}
    (h : (pieces body).isSome) : P body := by
  induction body using pieces.induct with
  | case1 => exact nil
  | case2 a b c d rest ih =>
    obtain ⟨parts, hparts⟩ := Option.isSome_iff_exists.mp h
    simp only [pieces, unitOf, Option.pure_def, Option.bind_eq_bind, Option.bind_eq_some_iff,
      Option.some.injEq] at hparts
    obtain ⟨n, ⟨na, ha, nb, hb, nc, hc, nd, hd, -⟩, rest', hrest, -⟩ := hparts
    have hdigit : ∀ {x n}, hexValue x = some n → P [x] :=
      fun hx ↦ plain (ne_of_hexValue hx).1 (ne_of_hexValue hx).2
    have htail := ih (Option.isSome_iff_exists.mpr ⟨rest', hrest⟩)
    have hletter : P ['\\', 'u'] := escape (by decide)
    exact append hletter (append (hdigit ha) (append (hdigit hb) (append (hdigit hc)
      (append (hdigit hd) htail))))
  | case3 c rest hnot ih =>
    obtain ⟨parts, hparts⟩ := Option.isSome_iff_exists.mp h
    rw [pieces.eq_3 c rest hnot] at hparts
    simp only [Option.pure_def, Option.bind_eq_bind, Option.bind_eq_some_iff,
      Option.some.injEq] at hparts
    obtain ⟨e, he, rest', hrest, -⟩ := hparts
    have hshort : P ['\\', c] := escape (ascii_of_shortEscape he)
    exact append hshort (ih (Option.isSome_iff_exists.mpr ⟨rest', hrest⟩))
  | case4 c rest hnot hnot' hplain ih =>
    rw [pieces.eq_4 c rest hnot hnot', if_pos hplain, Option.isSome_map] at h
    simp only [isPlain, Bool.and_eq_true, decide_eq_true_eq] at hplain
    exact append (plain hplain.1.2 hplain.2) (ih h)
  | case5 c rest hnot hnot' hplain =>
    rw [pieces.eq_4 c rest hnot hnot', if_neg hplain] at h
    exact absurd h Bool.false_ne_true

/-- Some bytes that stay within the string they are in. -/
def Stays (bytes : List UInt8) : Prop :=
  scan .inside bytes = .inside ∧ weigh .inside bytes = 0

theorem Stays.append (h : Stays bytes) (h' : Stays more) : Stays (bytes ++ more) := by
  refine ⟨?_, ?_⟩
  · rw [scan_append, h.1, h'.1]
  · rw [weigh_append, h.1, h.2, h'.2, zero_add]

theorem stays_char (hquote : c ≠ '"') (hescape : c ≠ '\\') :
    Stays (String.utf8EncodeChar c) := scan_inside (bytes_of_ne hquote hescape)

/-- The two bytes of a backslash and of what it escapes. -/
theorem stays_escape (h : c.toNat ≤ 0x7F) :
    Stays (String.utf8EncodeChar '\\' ++ String.utf8EncodeChar c) := by
  rw [encodeChar_ascii h]
  exact ⟨rfl, rfl⟩

/-- What stands between quotation marks stays there. -/
theorem stays_of_pieces {body : List Char} (h : (pieces body).isSome) :
    Stays (encode body) := by
  refine pieces_induction (P := fun body ↦ Stays (encode body)) ⟨rfl, rfl⟩ ?_ ?_ ?_ h
  · intro c hquote hescape
    simpa [encode_cons] using stays_char hquote hescape
  · intro c hascii
    simpa [encode_cons] using stays_escape hascii
  · intro front back hfront hback
    rw [encode_append]
    exact hfront.append hback

theorem weighs_string (h : IsString s) : Weighs (encode s) 0 := by
  obtain ⟨body, rfl, hbody⟩ := h
  obtain ⟨hscan, hweigh⟩ := stays_of_pieces hbody
  have hquote : String.utf8EncodeChar '"' = [0x22] := rfl
  rw [List.cons_append, encode_cons, encode_append, encode_cons, hquote]
  refine ⟨?_, ?_⟩
  · show scan .inside (encode body ++ [0x22]) = .outside
    rw [scan_append, hscan]
    rfl
  · show 0 + weigh .inside (encode body ++ [0x22]) = 0
    rw [weigh_append, hscan, hweigh]
    rfl

/-- The characters of numbers and of white space count nothing, and neither do the structural
ones. -/
def IsNeutral (c : Char) : Prop :=
  c.toNat ≤ 0x7F ∧ UInt8.ofNat c.toNat ≠ 0x22 ∧ weight (UInt8.ofNat c.toNat) = 0

instance (c : Char) : Decidable (IsNeutral c) := inferInstanceAs (Decidable (_ ∧ _))

theorem weighs_neutral (h : ∀ c ∈ s, IsNeutral c) : Weighs (encode s) 0 := by
  rw [encode_ascii fun c hc ↦ (h c hc).1]
  refine weighs_plain fun b hb ↦ ?_
  obtain ⟨c, hc, rfl⟩ := List.mem_map.mp hb
  exact (h c hc).2

theorem isNeutral_of_isDigit (h : IsDigit c) : IsNeutral c := by
  obtain ⟨hge, hle⟩ := h
  have hlow : 0x30 ≤ c.toNat := hge
  have hhigh : c.toNat ≤ 0x39 := hle
  refine ⟨hhigh.trans (by decide), ?_⟩
  generalize c.toNat = n at hlow hhigh
  interval_cases n <;> decide

/-- A number is written with digits, signs, a point and the letter of an exponent. -/
theorem mem_number (h : IsNumber s) : ∀ c ∈ s, IsDigit c ∨ c ∈ ['-', '+', '.', 'e', 'E'] := by
  obtain ⟨minus, int, frac, exp, rfl, hminus, hint, hfrac, hexp⟩ := h
  intro c hc
  simp only [List.mem_append] at hc
  rcases hc with ((hc | hc) | hc) | hc
  · rcases hminus with rfl | rfl
    · exact absurd hc List.not_mem_nil
    · rw [List.mem_singleton.mp hc]
      exact .inr (by decide)
  · rcases hint with rfl | ⟨d, ds, rfl, hd, -, hds⟩
    · rw [List.mem_singleton.mp hc]
      exact .inl ⟨by decide, by decide⟩
    · exact .inl ((List.forall_mem_cons.mpr ⟨hd, hds⟩) c hc)
  · rcases hfrac with rfl | ⟨ds, rfl, -, hds⟩
    · exact absurd hc List.not_mem_nil
    · rcases List.mem_cons.mp hc with rfl | hc
      · exact .inr (by decide)
      · exact .inl (hds c hc)
  · rcases hexp with rfl | ⟨e, sign, ds, rfl, he, hsign, -, hds⟩
    · exact absurd hc List.not_mem_nil
    · rcases List.mem_cons.mp hc with rfl | hc
      · rcases he with rfl | rfl
        · exact .inr (by decide)
        · exact .inr (by decide)
      · rcases List.mem_append.mp hc with hc | hc
        · rcases hsign with rfl | rfl | rfl
          · exact absurd hc List.not_mem_nil
          · rw [List.mem_singleton.mp hc]
            exact .inr (by decide)
          · rw [List.mem_singleton.mp hc]
            exact .inr (by decide)
        · exact .inl (hds c hc)

/-- What holds of digits and of the other characters holds of all characters of a number. -/
theorem forall_mem_number {P : Char → Prop} (h : IsNumber s) (digit : ∀ {c}, IsDigit c → P c)
    (other : P '-' ∧ P '+' ∧ P '.' ∧ P 'e' ∧ P 'E') : ∀ c ∈ s, P c := by
  have hother : ∀ c ∈ ['-', '+', '.', 'e', 'E'], P c := by simpa using other
  exact fun c hc ↦ (mem_number h c hc).elim digit (hother c)

theorem weighs_space {w : List Char} (h : IsSpace w) : Weighs (encode w) 0 := by
  refine weighs_neutral fun c hc ↦ ?_
  rcases h c hc with rfl | rfl | rfl | rfl
  · decide
  · decide
  · decide
  · decide

/-- **Whatever the grammar derives counts nothing.** -/
theorem weighs_of_derives (h : Derives phrase s) : Weighs (encode s) 0 := by
  have hmark : ∀ {c : Char}, IsNeutral c → Weighs (String.utf8EncodeChar c) 0 := by
    intro c hc
    have hone := weighs_neutral (s := [c]) fun d hd ↦ List.mem_singleton.mp hd ▸ hc
    rwa [encode_cons, encode_nil, List.append_nil] at hone
  have henclosed : ∀ {c d : Char} {s : List Char}, IsNeutral c → IsNeutral d →
      Weighs (encode s) 0 → Weighs (encode (c :: s ++ [d])) 0 := by
    intro c d s hc hd hs
    rw [List.cons_append, encode_cons, encode_append, encode_cons, encode_nil,
      List.append_nil]
    exact (hmark hc).append (hs.append (hmark hd))
  have hjoined : ∀ {s t : List Char} {c : Char}, IsNeutral c → Weighs (encode s) 0 →
      Weighs (encode t) 0 → Weighs (encode (s ++ c :: t)) 0 := by
    intro s t c hc hs ht
    rw [encode_append, encode_cons]
    exact hs.append ((hmark hc).append ht)
  have hpadded : ∀ {w s w' : List Char}, IsSpace w → Weighs (encode s) 0 → IsSpace w' →
      Weighs (encode (w ++ s ++ w')) 0 := by
    intro w s w' hw hs hw'
    rw [encode_append, encode_append]
    exact ((weighs_space hw).append hs).append (weighs_space hw')
  induction h with
  | null => exact ⟨by decide, by decide⟩
  | true => exact ⟨by decide, by decide⟩
  | false => exact ⟨by decide, by decide⟩
  | number h => exact weighs_neutral (forall_mem_number h isNeutral_of_isDigit (by decide))
  | string h => exact weighs_string h
  | emptyArray hw => exact henclosed (by decide) (by decide) (weighs_space hw)
  | array hes ih => exact henclosed (by decide) (by decide) ih
  | emptyObject hw => exact henclosed (by decide) (by decide) (weighs_space hw)
  | object hms ih => exact henclosed (by decide) (by decide) ih
  | element hw hv hw' ih => exact hpadded hw ih hw'
  | elements he hes ihe ihes => exact hjoined (by decide) ihe ihes
  | member hw hs hw' hu hv hu' ih =>
    exact hjoined (by decide) (hpadded hw (weighs_string hs) hw') (hpadded hu ih hu')
  | members hm hms ihm ihms => exact hjoined (by decide) ihm ihms

theorem weighs_of_wellFormed {document : List UInt8} (h : WellFormed document) :
    Weighs document 0 := by
  obtain ⟨s, rfl, w, v, w', rfl, hw, hv, hw'⟩ := h
  rw [encode_append, encode_append]
  exact ((weighs_space hw).append (weighs_of_derives hv)).append (weighs_space hw')

/-! ### Writing a document -/

/-- Some bytes that count nothing if they are `good`, and less than nothing otherwise. -/
def Tilts (bytes : List UInt8) (good : Prop) : Prop :=
  ∃ w ≤ 0, Weighs bytes w ∧ (w = 0 ↔ good)

theorem Weighs.tilts (h : Weighs bytes 0) : Tilts bytes True :=
  ⟨0, le_rfl, h, iff_of_true rfl trivial⟩

theorem Tilts.append (h : Tilts bytes good) (h' : Tilts more good') :
    Tilts (bytes ++ more) (good ∧ good') := by
  obtain ⟨w, hw, hweighs, hgood⟩ := h
  obtain ⟨w', hw', hweighs', hgood'⟩ := h'
  refine ⟨w + w', add_nonpos hw hw', hweighs.append hweighs', ?_⟩
  rw [← hgood, ← hgood']
  omega

theorem Tilts.congr (h : Tilts bytes good) (hiff : good ↔ good') : Tilts bytes good' := by
  obtain ⟨w, hw, hweighs, hgood⟩ := h
  exact ⟨w, hw, hweighs, hgood.trans hiff⟩

/-- Bytes that derive from a phrase of the grammar. -/
def IsPhrase (phrase : Phrase) (bytes : List UInt8) : Prop :=
  ∃ s, bytes = Utf8.encode s ∧ Derives phrase s

/-- Bytes that derive from a phrase exactly if they are `good`: otherwise they tilt the balance of
every document that they are a part of. -/
structure Writes (phrase : Phrase) (bytes : List UInt8) (good : Prop) : Prop where
  tilts : Tilts bytes good
  isPhrase : good → IsPhrase phrase bytes

section

variable (h : Writes phrase bytes good)

include h

theorem Writes.congr (hiff : good ↔ good') : Writes phrase bytes good' :=
  ⟨h.tilts.congr hiff, fun hgood ↦ h.isPhrase (hiff.mpr hgood)⟩

theorem Writes.isPhrase_iff : IsPhrase phrase bytes ↔ good := by
  refine ⟨?_, h.isPhrase⟩
  rintro ⟨s, rfl, hs⟩
  obtain ⟨w, -, hweighs, hgood⟩ := h.tilts
  exact hgood.mp (hweighs.unique (weighs_of_derives hs))

/-- What is written says itself whether it is good. -/
theorem Writes.self : Writes phrase bytes (IsPhrase phrase bytes) :=
  h.congr h.isPhrase_iff.symm

end

theorem Derives.writes (h : Derives phrase s) : Writes phrase (encode s) True :=
  ⟨(weighs_of_derives h).tilts, fun _ ↦ ⟨s, rfl, h⟩⟩

/-- White space may stand behind elements and members. -/
theorem Derives.append_space {w : List Char} (h : Derives phrase s) (hphrase : phrase ≠ .value)
    (hw : IsSpace w) : Derives phrase (s ++ w) := by
  have hspace : ∀ {u : List Char}, IsSpace u → IsSpace (u ++ w) := by
    intro u hu c hc
    rcases List.mem_append.mp hc with hc | hc
    · exact hu c hc
    · exact hw c hc
  induction h with
  | null => exact absurd rfl hphrase
  | true => exact absurd rfl hphrase
  | false => exact absurd rfl hphrase
  | number => exact absurd rfl hphrase
  | string => exact absurd rfl hphrase
  | emptyArray => exact absurd rfl hphrase
  | array => exact absurd rfl hphrase
  | emptyObject => exact absurd rfl hphrase
  | object => exact absurd rfl hphrase
  | element hu hv hu' =>
    rw [List.append_assoc]
    exact .element hu hv (hspace hu')
  | elements he hes _ ih =>
    rw [List.append_assoc, List.cons_append]
    exact .elements he (ih hphrase)
  | member hu hs hu' ht hv ht' =>
    simp only [List.append_assoc, List.cons_append]
    have hmember := Derives.member hu hs hu' ht hv (hspace ht')
    simpa only [List.append_assoc, List.cons_append] using hmember
  | members hm hms _ ih =>
    rw [List.append_assoc, List.cons_append]
    exact .members hm (ih hphrase)

/-- Elements and members follow each other with a comma between them. -/
theorem Writes.comma (hphrase : phrase ≠ .value) (h : Writes phrase bytes good)
    (h' : Writes phrase more good') : Writes phrase (bytes ++ 0x2C :: more) (good ∧ good') := by
  have hcomma : Weighs [0x2C] 0 := ⟨rfl, rfl⟩
  refine ⟨(h.tilts.append (hcomma.tilts.append h'.tilts)).congr (by rw [true_and]), ?_⟩
  rintro ⟨hgood, hgood'⟩
  obtain ⟨s, rfl, hs⟩ := h.isPhrase hgood
  obtain ⟨t, rfl, ht⟩ := h'.isPhrase hgood'
  have hencode : encode s ++ 0x2C :: encode t = encode (s ++ ',' :: t) := by
    rw [encode_append, encode_cons]
    rfl
  refine ⟨s ++ ',' :: t, hencode, ?_⟩
  cases phrase with
  | value => exact absurd rfl hphrase
  | elements => exact .elements hs ht
  | members => exact .members hs ht

theorem Writes.element (h : Writes .value bytes good) (hw : ∃ s, w = encode s ∧ IsSpace s) :
    Writes .elements (w ++ bytes) good := by
  obtain ⟨s, rfl, hs⟩ := hw
  refine ⟨((weighs_space hs).tilts.append h.tilts).congr (by rw [true_and]), fun hgood ↦ ?_⟩
  obtain ⟨v, rfl, hv⟩ := h.isPhrase hgood
  refine ⟨s ++ v ++ [], ?_, .element hs hv fun _ hc ↦ absurd hc List.not_mem_nil⟩
  rw [List.append_nil, encode_append]

/-- A member: its name is followed by a colon and a blank. -/
theorem Writes.member {name : List UInt8} (h : Writes .value bytes good)
    (hw : ∃ s, w = encode s ∧ IsSpace s) (hname : ∃ s, name = encode s ∧ IsString s) :
    Writes .members (w ++ name ++ 0x3A :: 0x20 :: bytes) good := by
  obtain ⟨s, rfl, hs⟩ := hw
  obtain ⟨t, rfl, ht⟩ := hname
  have hcolon : Weighs [0x3A, 0x20] 0 := ⟨rfl, rfl⟩
  have hfront := ((weighs_space hs).append (weighs_string ht)).append hcolon
  refine ⟨?_, fun hgood ↦ ?_⟩
  · have hall := hfront.tilts.append h.tilts
    rw [List.append_assoc] at hall
    exact hall.congr (by rw [true_and])
  · obtain ⟨v, rfl, hv⟩ := h.isPhrase hgood
    have hnone : IsSpace [] := fun _ hc ↦ absurd hc List.not_mem_nil
    have hblank : IsSpace [' '] := fun _ hc ↦ .inl (List.mem_singleton.mp hc)
    refine ⟨_, ?_, .member hs ht hnone hblank hv hnone⟩
    rw [List.append_nil, List.append_nil, encode_append, encode_append, encode_cons,
      encode_append]
    rfl

/-- An array with elements, and an object with members. -/
theorem Writes.container {left right : UInt8}
    (hkind : phrase = .elements ∧ left = 0x5B ∧ right = 0x5D ∨
      phrase = .members ∧ left = 0x7B ∧ right = 0x7D) (h : Writes phrase bytes good)
    (hw : ∃ s, w = encode s ∧ IsSpace s) :
    Writes .value (left :: bytes ++ w ++ [right]) good := by
  obtain ⟨s, rfl, hs⟩ := hw
  refine ⟨?_, fun hgood ↦ ?_⟩
  · have hleft : Weighs [left] 0 := by
      rcases hkind with ⟨-, rfl, -⟩ | ⟨-, rfl, -⟩
      · exact ⟨rfl, rfl⟩
      · exact ⟨rfl, rfl⟩
    have hright : Weighs [right] 0 := by
      rcases hkind with ⟨-, -, rfl⟩ | ⟨-, -, rfl⟩
      · exact ⟨rfl, rfl⟩
      · exact ⟨rfl, rfl⟩
    exact (((hleft.tilts.append h.tilts).append (weighs_space hs).tilts).append
      hright.tilts).congr (by rw [true_and, and_true, and_true])
  · obtain ⟨t, rfl, ht⟩ := h.isPhrase hgood
    rcases hkind with ⟨rfl, rfl, rfl⟩ | ⟨rfl, rfl, rfl⟩
    · refine ⟨_, ?_, .array (ht.append_space Phrase.noConfusion hs)⟩
      rw [List.cons_append, List.cons_append, List.cons_append, encode_cons,
        encode_append, encode_append]
      rfl
    · refine ⟨_, ?_, .object (ht.append_space Phrase.noConfusion hs)⟩
      rw [List.cons_append, List.cons_append, List.cons_append, encode_cons,
        encode_append, encode_append]
      rfl

/-- A value with a line feed behind it is a document, if it is good. -/
theorem Writes.wellFormed_iff (h : Writes .value bytes good) :
    WellFormed (bytes ++ [0x0A]) ↔ good := by
  constructor
  · intro hwell
    obtain ⟨w, hw, hweighs, hgood⟩ := h.tilts
    have hfeed : Weighs [0x0A] 0 := ⟨rfl, rfl⟩
    have hsum := (hweighs.append hfeed).unique (weighs_of_wellFormed hwell)
    exact hgood.mp (by omega)
  · intro hgood
    obtain ⟨s, rfl, hs⟩ := h.isPhrase hgood
    refine ⟨s ++ ['\n'], by rw [encode_append]; rfl, [], s, ['\n'], rfl, ?_, hs, ?_⟩
    · exact fun _ hc ↦ absurd hc List.not_mem_nil
    · exact fun _ hc ↦ .inr (.inr (.inl (List.mem_singleton.mp hc)))

end Json
