import Skan.Db.OsBlocks
import Skan.Library.Strings
import Skan.Output.Double

/-!
# Reading an OS database that was written down

A fingerprint may be written down line by line (`Written.lines`): what it is called, its id and its
specificity if they are not left to the parser, its `Class` line and its fields. If what is written
can be read at all (`Written.Readable`), then `OSFingerprintDatabase::parse` makes of a list of such
fingerprints the ones that they stand for, in their order, unless the text is too large
(`parse_textOf`). How the parts of a `Class` line are separated and what stands between two
fingerprints is left open.
-/

namespace Skan.Db.OsDb

open Skan.Core Skan.Detect Utf8

variable {expectedFamily : AddressFamily} {text front back key name : Text} {s before : OsState}
  {ws : List Written} {c : UInt8} {n : ℕ}

/-! ### Phrases -/

/-- Text that is read as it stands when it is the whole content of a line, or of its end. -/
structure Phrase (text : Text) : Prop where
  ne : text ≠ []
  head : ∀ c ∈ text.head?, isBlank c = false
  last : ∀ c ∈ text.getLast?, isBlank c = false
  comment : 0x23 ∉ text
  line : 0x0A ∉ text

theorem trim_eq_strip (text : Text) : trim text = Strings.strip isBlank text := rfl

theorem Phrase.trim_append (h : Phrase text) (hfront : ∀ c ∈ front, isBlank c = true)
    (hback : ∀ c ∈ back, isBlank c = true) : trim (front ++ text ++ back) = text :=
  Strings.strip_append hfront hback h.ne (fun c hc ↦ by rw [h.head c hc]; exact Bool.false_ne_true)
    fun c hc ↦ by rw [h.last c hc]; exact Bool.false_ne_true

theorem Phrase.trim (h : Phrase text) : OsDb.trim text = text := by
  have htrim := @Phrase.trim_append text [] [] h (fun _ hc ↦ absurd hc List.not_mem_nil)
    fun _ hc ↦ absurd hc List.not_mem_nil
  rwa [List.nil_append, List.append_nil] at htrim

theorem Phrase.content {line : Text} (h : Phrase line) : OsDb.content line = line := by
  rw [OsDb.content, h.trim]
  exact if_neg h.comment

/-- A phrase behind text that begins a phrase. -/
theorem Phrase.append (hne : front ≠ []) (hhead : ∀ c ∈ front.head?, isBlank c = false)
    (hcomment : 0x23 ∉ front) (hline : 0x0A ∉ front) (h : Phrase back) :
    Phrase (front ++ back) where
  ne := List.append_ne_nil_of_left_ne_nil hne _
  head := by
    rw [List.head?_append_of_ne_nil _ hne]
    exact hhead
  last := by
    rw [List.getLast?_append_of_ne_nil _ h.ne]
    exact h.last
  comment hmem := (List.mem_append.mp hmem).elim hcomment h.comment
  line hmem := (List.mem_append.mp hmem).elim hline h.line

/-- A phrase of which no character is a blank, a comment or the end of a line. -/
theorem phrase_of_forall (hne : text ≠ [])
    (h : ∀ c ∈ text, isBlank c = false ∧ c ≠ 0x23 ∧ c ≠ 0x0A) : Phrase text where
  ne := hne
  head c hc := (h c (List.mem_of_mem_head? hc)).1
  last c hc := (h c (List.mem_of_mem_getLast? hc)).1
  comment hmem := (h _ hmem).2.1 rfl
  line hmem := (h _ hmem).2.2 rfl

theorem phrase_of_all (text : Text) (h : text ≠ [] ∧
    text.all (fun c ↦ !isBlank c && c ≠ 0x23 && c ≠ 0x0A) = true) : Phrase text := by
  refine phrase_of_forall h.1 fun c hc ↦ ?_
  simpa [and_assoc] using List.all_eq_true.mp h.2 c hc

/-- Whether text begins a phrase. -/
def isOpening (front : Text) : Bool :=
  (front.head?.map isBlank).any (!·) && front.all fun c ↦ c ≠ 0x23 && c ≠ 0x0A

/-- A phrase behind a word and a space. -/
theorem Phrase.behind (hfront : isOpening front = true) (h : Phrase back) :
    Phrase (front ++ back) := by
  rw [isOpening, Bool.and_eq_true, List.all_eq_true] at hfront
  obtain ⟨hhead, hall⟩ := hfront
  rcases front with _ | ⟨first, front⟩
  · exact nomatch hhead
  · simp only [Bool.and_eq_true, decide_eq_true_eq] at hall
    refine Phrase.append (List.cons_ne_nil first front) (fun c hc ↦ ?_)
      (fun hmem ↦ (hall _ hmem).1 rfl) (fun hmem ↦ (hall _ hmem).2 rfl) h
    obtain rfl := Option.some.inj hc
    simpa using hhead

/-! ### Numbers -/

/-- The number that digits stand for. -/
def numberOf (digits : Text) : ℕ := digits.foldl (fun n c ↦ n * 10 + (c.toNat - 0x30)) 0

theorem digitValue_digit (h : isDigit c = true) :
    (digitValue c).filter (· < 10) = some (c.toNat - 0x30) := by
  have hall : ∀ b, isDigit b = true →
      (digitValue b).filter (· < 10) = some (b.toNat - 0x30) :=
    Utf8.forall_byte (by decide +kernel)
  exact hall c h

theorem isDigit_of_digitValue (h : (digitValue c).filter (· < 10) = some n) : isDigit c = true := by
  have hall : ∀ b, ((digitValue b).filter (· < 10)).isSome = true → isDigit b = true :=
    Utf8.forall_byte (by decide +kernel)
  exact hall c (Option.isSome_of_eq_some h)

theorem mapM_digits {digits : Text} (h : ∀ c ∈ digits, isDigit c = true) :
    digits.mapM (fun c ↦ (digitValue c).filter (· < 10)) =
      some (digits.map fun c ↦ c.toNat - 0x30) := by
  induction digits with
  | nil => rfl
  | cons c digits ih =>
    rw [List.mapM_cons, digitValue_digit (h c List.mem_cons_self),
      ih fun d hd ↦ h d (List.mem_cons_of_mem c hd)]
    rfl

theorem digits_of_mapM {values : List ℕ}
    (h : text.mapM (fun c ↦ (digitValue c).filter (· < 10)) = some values) :
    ∀ c ∈ text, isDigit c = true := by
  induction text generalizing values with
  | nil => exact fun c hc ↦ absurd hc List.not_mem_nil
  | cons c text ih =>
    rw [List.mapM_cons, Option.bind_eq_bind, Option.bind_eq_some_iff] at h
    obtain ⟨n, hn, h⟩ := h
    obtain ⟨rest, hrest, -⟩ := Option.bind_eq_some_iff.mp h
    exact List.forall_mem_cons.mpr ⟨isDigit_of_digitValue hn, ih hrest⟩

/-- **What `unsigned_number` reads**: digits, as the number that they stand for if it fits. -/
theorem unsignedNumber_eq_some_iff :
    unsignedNumber 10 text = some n ↔
      text ≠ [] ∧ (∀ c ∈ text, isDigit c = true) ∧ numberOf text = n ∧ n < 2 ^ 64 := by
  rw [unsignedNumber, Option.bind_eq_bind, Option.bind_eq_some_iff]
  constructor
  · rintro ⟨values, hvalues, h⟩
    have hdigits := digits_of_mapM hvalues
    rw [mapM_digits hdigits] at hvalues
    obtain rfl := Option.some.inj hvalues
    rw [List.foldl_map] at h
    dsimp only at h
    split_ifs at h with hnil hlt
    exact ⟨hnil, hdigits, Option.some.inj h, Option.some.inj h ▸ hlt⟩
  · rintro ⟨hne, hdigits, rfl, hlt⟩
    refine ⟨_, mapM_digits hdigits, ?_⟩
    rw [List.foldl_map]
    dsimp only
    rw [if_neg hne]
    exact if_pos hlt

theorem phrase_of_digits (hne : text ≠ []) (h : ∀ c ∈ text, isDigit c = true) : Phrase text := by
  have hall : ∀ b, isDigit b = true → isBlank b = false ∧ b ≠ 0x23 ∧ b ≠ 0x0A :=
    Utf8.forall_byte (by decide +kernel)
  exact phrase_of_forall hne fun c hc ↦ hall c (h c hc)

/-- Digits begin with no sign. -/
theorem parseInteger_digits (hne : text ≠ []) (h : ∀ c ∈ text, isDigit c = true)
    (hlt : numberOf text < 2 ^ 63) : parseInteger text = some (numberOf text : ℤ) := by
  have hphrase := phrase_of_digits hne h
  have hnumber : unsignedNumber 10 text = some (numberOf text) :=
    unsignedNumber_eq_some_iff.mpr ⟨hne, h, rfl, lt_trans hlt (by decide)⟩
  rw [parseInteger, hphrase.trim]
  split
  · exact absurd (h 0x2D List.mem_cons_self) (by decide)
  · rw [hnumber, Option.filter_some, if_pos (decide_eq_true hlt)]
    rfl

/-- A positive number is written with digits only. -/
theorem digits_of_parseInteger (h : Phrase text) {m : ℤ} (hread : parseInteger text = some m)
    (hpos : 0 < m) : (∀ c ∈ text, isDigit c = true) ∧ (numberOf text : ℤ) = m := by
  rw [parseInteger, h.trim] at hread
  split at hread
  · obtain ⟨k, hk, rfl⟩ := Option.map_eq_some_iff.mp hread
    obtain ⟨n, -, hn⟩ := Option.bind_eq_some_iff.mp hk
    obtain rfl := Option.some.inj hn
    exact absurd hpos (by omega)
  · obtain ⟨k, hk, rfl⟩ := Option.map_eq_some_iff.mp hread
    obtain ⟨n, hn, hk⟩ := Option.bind_eq_some_iff.mp hk
    obtain rfl := Option.some.inj hk
    obtain ⟨-, hdigits, hnumber, -⟩ :=
      unsignedNumber_eq_some_iff.mp (Option.filter_eq_some_iff.mp hn).1
    exact ⟨hdigits, by rw [hnumber]⟩

theorem numberOf_encode {cs : List Char} (h : ∀ c ∈ cs, c.toNat ≤ 0x7F) :
    numberOf (encode cs) = Nat.ofDigitChars 10 cs 0 := by
  rw [numberOf, encode_ascii h, List.foldl_map, Nat.ofDigitChars]
  refine List.foldl_ext _ _ _ fun n c hc ↦ ?_
  rw [UInt8.toNat_ofNat_of_lt' (show c.toNat < 256 from lt_of_le_of_lt (h c hc) (by decide)),
    Nat.mul_comm]
  rfl

theorem isDigit_of_mem_decimal (h : c ∈ Output.decimal n) : isDigit c = true := by
  have hascii : ∀ d ∈ Nat.toDigits 10 n, d.toNat ≤ 0x7F := fun d hd ↦
    le_trans (Char.le_def.mp (Output.isDigit_of_mem_toDigits d hd).2) (by decide)
  rw [Output.decimal, encode_ascii hascii] at h
  obtain ⟨d, hd, rfl⟩ := List.mem_map.mp h
  obtain ⟨hlow, hhigh⟩ := Output.isDigit_of_mem_toDigits d hd
  have hall : ∀ k ≤ 0x39, 0x30 ≤ k → isDigit (UInt8.ofNat k) = true := by decide
  exact hall d.toNat hhigh hlow

theorem decimal_ne_nil (n : ℕ) : Output.decimal n ≠ [] := by
  rw [Output.decimal, Ne, encode, List.flatMap_eq_nil_iff]
  intro h
  obtain ⟨c, cs, hcs⟩ := List.exists_cons_of_ne_nil (Nat.toDigits_ne_nil (b := 10) (n := n))
  exact String.utf8EncodeChar_ne_nil (h c (hcs ▸ List.mem_cons_self))

theorem length_decimal_le (h : n < 10 ^ 5) : (Output.decimal n).length ≤ 5 := by
  have hascii : ∀ d ∈ Nat.toDigits 10 n, d.toNat ≤ 0x7F := fun d hd ↦
    le_trans (Char.le_def.mp (Output.isDigit_of_mem_toDigits d hd).2) (by decide)
  rw [Output.decimal, encode_ascii hascii, List.length_map]
  exact (Nat.length_toDigits_le_iff (by decide) (by decide)).mpr h

/-- A number is read back. -/
theorem numberOf_decimal (n : ℕ) : numberOf (Output.decimal n) = n := by
  rw [Output.decimal, numberOf_encode, Nat.ofDigitChars_ten_toDigits]
  exact fun d hd ↦ le_trans (Char.le_def.mp (Output.isDigit_of_mem_toDigits d hd).2) (by decide)

/-! ### Lines -/

/-- The characters of keys: capital letters, digits and underscores. -/
def isKeyChar (c : UInt8) : Bool := (0x41 ≤ c && c ≤ 0x5A) || isDigit c || c = 0x5F

/-- What may be written in front of `=`. -/
structure IsKey (key : Text) : Prop where
  ne : key ≠ []
  chars : ∀ c ∈ key, isKeyChar c = true

theorem isKey_of_all (key : Text) (h : key ≠ [] ∧ key.all isKeyChar = true) : IsKey key :=
  ⟨h.1, List.all_eq_true.mp h.2⟩

theorem isKeyChar_facts : ∀ b, isKeyChar b = true →
    isBlank b = false ∧ b ≠ 0x23 ∧ b ≠ 0x0A ∧ b ≠ 0x3D ∧ b ≠ 0x69 ∧ b ≠ 0x6C :=
  Utf8.forall_byte (by decide +kernel)

theorem IsKey.phrase (h : IsKey key) : Phrase key :=
  phrase_of_forall h.ne fun c hc ↦
    have hfacts := isKeyChar_facts c (h.chars c hc)
    ⟨hfacts.1, hfacts.2.1, hfacts.2.2.1⟩

theorem IsKey.equals_notMem (h : IsKey key) : 0x3D ∉ key := fun hmem ↦
  (isKeyChar_facts _ (h.chars _ hmem)).2.2.2.1 rfl

theorem phrase_field {value : Text} (hkey : IsKey key) (hvalue : Phrase value) :
    Phrase (key ++ 0x3D :: value) := by
  have hequals : Phrase (0x3D :: value) :=
    @Phrase.behind [0x3D] value (by decide) hvalue
  exact Phrase.append hkey.ne hkey.phrase.head hkey.phrase.comment hkey.phrase.line hequals

/-- The second character of a key, or what stands behind its only one, is no small letter. -/
theorem not_prefix_field (hkey : IsKey key) (value : Text) {first second : UInt8} {rest : Text}
    (hsecond : second = 0x69 ∨ second = 0x6C) :
    (first :: second :: rest).isPrefixOf (key ++ 0x3D :: value) = false := by
  rw [Bool.eq_false_iff]
  intro h
  obtain ⟨back, hback⟩ := List.isPrefixOf_iff_prefix.mp h
  rcases key with _ | ⟨c, _ | ⟨d, key⟩⟩
  · exact hkey.ne rfl
  · obtain ⟨-, hback⟩ := List.cons.inj hback
    obtain ⟨rfl, -⟩ := List.cons.inj hback
    exact absurd hsecond (by decide)
  · obtain ⟨-, hback⟩ := List.cons.inj hback
    obtain ⟨rfl, -⟩ := List.cons.inj hback
    have hfacts := isKeyChar_facts second (hkey.chars _ (by simp))
    exact hsecond.elim hfacts.2.2.2.2.1 hfacts.2.2.2.2.2

variable (expectedFamily) in
/-- **A line `key=value`** is read as it is written. -/
theorem osLine_field {current : OSFingerprint} (hcurrent : s.current = some current)
    {value : Text} (hkey : IsKey key) (hvalue : Phrase value)
    (hlength : (key ++ 0x3D :: value).length ≤ maximumLineBytes) :
    osLine expectedFamily s (key ++ 0x3D :: value) =
      (fieldLine expectedFamily s.hasFamilyMetadata current key value).map
        fun (current, hasFamilyMetadata) ↦
          { s with current := some current, hasFamilyMetadata } := by
  have hphrase := phrase_field hkey hvalue
  have hheader : (literal "Fingerprint ").isPrefixOf (key ++ 0x3D :: value) = false :=
    not_prefix_field hkey value (.inl rfl)
  have hclass : (literal "Class ").isPrefixOf (key ++ 0x3D :: value) = false :=
    not_prefix_field hkey value (.inr rfl)
  have hspan : (key ++ 0x3D :: value).span (· ≠ 0x3D) = (key, 0x3D :: value) := by
    have hkeep : ∀ c ∈ key, decide (c ≠ 0x3D) = true := fun c hc ↦
      decide_eq_true fun heq ↦ hkey.equals_notMem (heq ▸ hc)
    rw [List.span_eq_takeWhile_dropWhile, List.takeWhile_append_of_pos hkeep,
      List.dropWhile_append_of_pos hkeep]
    simp
  rw [osLine, if_neg (not_lt.mpr hlength)]
  simp only [hphrase.content, hphrase.ne, hheader, hclass, hcurrent, hspan, if_false,
    Bool.false_eq_true]
  obtain ⟨c, rest, rfl⟩ := List.exists_cons_of_ne_nil hkey.ne
  dsimp only
  rw [hkey.phrase.trim, hvalue.trim, decide_eq_false hkey.ne, decide_eq_false hvalue.ne]
  rfl

variable (expectedFamily) in
/-- A `Class` line whose parts can be read. -/
theorem osLine_class {current next : OSFingerprint} (hcurrent : s.current = some current)
    (hclass : s.hasClass = false) {parts : Text} (hparts : Phrase parts)
    (hlength : (literal "Class " ++ parts).length ≤ maximumLineBytes)
    (hnext : classLine current (literal "Class " ++ parts) = some next) :
    osLine expectedFamily s (literal "Class " ++ parts) =
      some { s with current := some next, hasClass := true } := by
  have hphrase : Phrase (literal "Class " ++ parts) :=
    Phrase.behind (by decide) hparts
  have hheader : (literal "Fingerprint ").isPrefixOf (literal "Class " ++ parts) = false := rfl
  have hprefix : (literal "Class ").isPrefixOf (literal "Class " ++ parts) = true :=
    List.isPrefixOf_iff_prefix.mpr ⟨parts, rfl⟩
  rw [osLine, if_neg (not_lt.mpr hlength)]
  simp only [hphrase.content, hphrase.ne, hheader, hprefix, hcurrent, hclass, hnext, if_false,
    if_true, Bool.false_eq_true, Option.map_some]

theorem phrase_header (h : Phrase name) : Phrase (literal "Fingerprint " ++ name) :=
  Phrase.behind (by decide) h

/-- The line that opens a fingerprint is a header. -/
theorem isHeader_name (h : Phrase name) : isHeader (literal "Fingerprint " ++ name) = true := by
  rw [isHeader, (phrase_header h).content]
  exact List.isPrefixOf_iff_prefix.mpr ⟨name, rfl⟩

/-- The fingerprint that it opens. -/
theorem opened_name (hexpected : expectedFamily = .ipv4 ∨ expectedFamily = .ipv6)
    (h : Phrase name) :
    opened expectedFamily (literal "Fingerprint " ++ name) =
      { name, id := name, addressFamily := expectedFamily } := by
  have hdrop : (literal "Fingerprint " ++ name).drop 11 = [0x20] ++ name ++ [] := by
    rw [List.append_nil]
    rfl
  have htrim := @Phrase.trim_append name [0x20] [] h (List.forall_mem_singleton.mpr rfl)
    fun _ hc ↦ absurd hc List.not_mem_nil
  rw [opened, (phrase_header h).content, hdrop, htrim,
    if_neg (by rcases hexpected with rfl | rfl <;> decide)]

theorem osLine_blank {line : Text} (hblank : content line = [])
    (hlength : line.length ≤ maximumLineBytes) : osLine expectedFamily s line = some s := by
  rw [osLine, if_neg (not_lt.mpr hlength)]
  exact if_pos hblank

/-! ### Fingerprints that are written down -/

/-- What may stand around the bars of a `Class` line, and between two fingerprints. -/
structure Layout where
  left : Text
  right : Text
  gap : List Text
  left_blank : ∀ c ∈ left, isBlank c = true
  right_blank : ∀ c ∈ right, isBlank c = true
  short : left.length + right.length ≤ 64
  gap_blank : ∀ line ∈ gap, line = []

/-- As the emitter has it: a space at both sides of a bar, and an empty line. -/
def Layout.spaced : Layout where
  left := [0x20]
  right := [0x20]
  gap := [[]]
  left_blank := List.forall_mem_singleton.mpr rfl
  right_blank := List.forall_mem_singleton.mpr rfl
  short := by decide
  gap_blank := List.forall_mem_singleton.mpr rfl

/-- Nothing where nothing has to stand. -/
def Layout.tight : Layout where
  left := []
  right := []
  gap := []
  left_blank := List.forall_mem_nil _
  right_blank := List.forall_mem_nil _
  short := by decide
  gap_blank := List.forall_mem_nil _

structure Written where
  name : Text
  id : Option Text := none
  specificity : Option ℕ := none
  vendor : Text
  family : Text
  generation : Text
  deviceType : Text
  fields : List (Text × Text)

namespace Written

variable (layout : Layout) (w : Written)

/-- What stands behind `Class `. -/
def parts : Text :=
  let bar := layout.left ++ 0x7C :: layout.right
  w.vendor ++ bar ++ w.family ++ bar ++ w.generation ++ bar ++ w.deviceType

def fieldText (field : Text × Text) : Text := field.1 ++ 0x3D :: field.2

/-- The lines of a fingerprint. -/
def lines (expectedFamily : AddressFamily) : List Text :=
  [literal "Fingerprint " ++ w.name] ++
    (w.id.map fun id ↦ fieldText (literal "ID", id)).toList ++
    (w.specificity.map fun n ↦ fieldText (literal "SPECIFICITY", Output.decimal n)).toList ++
    (if expectedFamily = .ipv6 then [literal "ADDRESS_FAMILY=IPv6"] else []) ++
    [literal "Class " ++ w.parts layout] ++ w.fields.map fieldText

/-- The signatures of the fields. -/
def signatures : List FingerprintSignature :=
  w.fields.filterMap fun (key, value) ↦ signature key value

/-- The fingerprint as it is before it is closed. -/
def current (expectedFamily : AddressFamily) : OSFingerprint where
  name := w.name
  vendor := w.vendor
  family := w.family
  generation := w.generation
  deviceType := w.deviceType
  signatures := w.signatures
  addressFamily := expectedFamily
  id := w.id.getD w.name
  specificity := w.specificity.getD 0

/-- The fingerprint that is written down. -/
def fingerprint (expectedFamily : AddressFamily) : OSFingerprint :=
  completed (w.current expectedFamily)

end Written

/-- A field that can be read. -/
structure ReadableField (field : Text × Text) : Prop where
  key : IsKey field.1
  reserved : field.1 ∉ [literal "ID", literal "SPECIFICITY", literal "ADDRESS_FAMILY"]
  value : Phrase field.2
  length : (Written.fieldText field).length ≤ maximumLineBytes
  signature : ∃ added, signature field.1 field.2 = some added ∧
    added.text.length ≤ maximumStringBytes ∧ added.options.length ≤ maximumSignatures

/-- A part of a `Class` line that can be read. -/
structure ReadablePart (part : Text) : Prop where
  phrase : Phrase part
  bar : 0x7C ∉ part
  length : part.length ≤ maximumStringBytes

/-- A fingerprint that can be read where it is written down. -/
structure Written.Readable (w : Written) : Prop where
  name : Phrase w.name
  name_le : w.name.length ≤ maximumStringBytes
  id : ∀ id ∈ w.id, Phrase id ∧ id.length ≤ maximumStringBytes
  specificity : ∀ n ∈ w.specificity, 0 < n ∧ n ≤ 65535
  vendor : ReadablePart w.vendor
  family : ReadablePart w.family
  generation : ReadablePart w.generation
  deviceType : ReadablePart w.deviceType
  fields : ∀ field ∈ w.fields, ReadableField field
  fields_ne : w.fields ≠ []
  fields_le : w.fields.length ≤ maximumSignatures
  distinct : (w.signatures.map (·.field)).Nodup

/-! ### The `Class` line -/

variable {layout : Layout} {w : Written}

open Written (fieldText)

theorem bar_notMem_blanks {blanks : Text} (h : ∀ c ∈ blanks, isBlank c = true) : 0x7C ∉ blanks :=
  fun hmem ↦ absurd (h _ hmem) (by decide)

theorem phrase_bar (hfront : Phrase front) (hback : Phrase back) :
    Phrase (front ++ (layout.left ++ 0x7C :: layout.right) ++ back) := by
  have hclear : ∀ b, isBlank b = true → b ≠ 0x23 ∧ b ≠ 0x0A :=
    Utf8.forall_byte (by decide +kernel)
  have hmiddle : ∀ c ∈ layout.left ++ 0x7C :: layout.right, c ≠ 0x23 ∧ c ≠ 0x0A := by
    rw [List.forall_mem_append, List.forall_mem_cons]
    exact ⟨fun c hc ↦ hclear c (layout.left_blank c hc), by decide,
      fun c hc ↦ hclear c (layout.right_blank c hc)⟩
  refine Phrase.append (List.append_ne_nil_of_left_ne_nil hfront.ne _) ?_ ?_ ?_ hback
  · rw [List.head?_append_of_ne_nil _ hfront.ne]
    exact hfront.head
  · exact fun hmem ↦ (List.mem_append.mp hmem).elim hfront.comment fun h ↦ (hmiddle _ h).1 rfl
  · exact fun hmem ↦ (List.mem_append.mp hmem).elim hfront.line fun h ↦ (hmiddle _ h).2 rfl

variable (layout) in
theorem Written.Readable.phrase_parts (h : w.Readable) : Phrase (w.parts layout) :=
  phrase_bar (phrase_bar (phrase_bar h.vendor.phrase h.family.phrase) h.generation.phrase)
    h.deviceType.phrase

variable (layout) in
theorem Written.Readable.length_parts (h : w.Readable) :
    (literal "Class " ++ w.parts layout).length ≤ maximumLineBytes := by
  have hvendor := h.vendor.length
  have hfamily := h.family.length
  have hgeneration := h.generation.length
  have hdeviceType := h.deviceType.length
  have hshort := layout.short
  have hclass : (literal "Class ").length = 6 := by decide
  simp only [parts, List.length_append, List.length_cons, hclass, maximumStringBytes,
    maximumLineBytes] at *
  omega

variable (layout) in
/-- **The parts of a `Class` line** are read back without the blanks around them. -/
theorem Written.Readable.splitTrimmed_parts (h : w.Readable) :
    splitTrimmed 0x7C (w.parts layout) = [w.vendor, w.family, w.generation, w.deviceType] := by
  have hleft := bar_notMem_blanks layout.left_blank
  have hright := bar_notMem_blanks layout.right_blank
  have hpieces : w.parts layout = [0x7C].intercalate [w.vendor ++ layout.left,
      layout.right ++ w.family ++ layout.left, layout.right ++ w.generation ++ layout.left,
      layout.right ++ w.deviceType] := by
    simp [parts, List.intercalate_cons_cons]
  have hnil : ∀ c ∈ ([] : Text), isBlank c = true := fun _ hc ↦ absurd hc List.not_mem_nil
  have hvendor := h.vendor.phrase.trim_append hnil layout.left_blank
  have hdeviceType := h.deviceType.phrase.trim_append layout.right_blank hnil
  rw [List.nil_append] at hvendor
  rw [List.append_nil] at hdeviceType
  rw [splitTrimmed, hpieces, List.splitOn_intercalate]
  · simp only [List.map_cons, List.map_nil, hvendor, hdeviceType,
      h.family.phrase.trim_append layout.right_blank layout.left_blank,
      h.generation.phrase.trim_append layout.right_blank layout.left_blank]
  · simp only [List.forall_mem_cons, List.mem_append, not_or]
    exact ⟨⟨h.vendor.bar, hleft⟩, ⟨⟨hright, h.family.bar⟩, hleft⟩,
      ⟨⟨hright, h.generation.bar⟩, hleft⟩, ⟨hright, h.deviceType.bar⟩,
      fun _ hc ↦ absurd hc List.not_mem_nil⟩
  · exact List.cons_ne_nil _ _

variable (layout) in
theorem Written.Readable.classLine (h : w.Readable) (current : OSFingerprint) :
    OsDb.classLine current (literal "Class " ++ w.parts layout) =
      some { current with
        vendor := w.vendor
        family := w.family
        generation := w.generation
        deviceType := w.deviceType } := by
  have hdrop : (literal "Class " ++ w.parts layout).drop 6 = w.parts layout := rfl
  have hne : ([] : Text) ∉ [w.vendor, w.family, w.generation, w.deviceType] := by
    simp [Ne.symm h.vendor.phrase.ne, Ne.symm h.family.phrase.ne, Ne.symm h.generation.phrase.ne,
      Ne.symm h.deviceType.phrase.ne]
  rw [OsDb.classLine, hdrop, h.splitTrimmed_parts layout, decide_eq_false hne]
  rfl

/-! ### The lines of a fingerprint -/

variable (expectedFamily) in
/-- An identifier is set if the line is there. -/
theorem foldlM_idLine (h : w.Readable) {current : OSFingerprint}
    (hcurrent : s.current = some current) (hid : current.id = current.name)
    (hname : current.name = w.name) :
    ((w.id.map fun id ↦ fieldText (literal "ID", id)).toList).foldlM (osLine expectedFamily) s =
      some { s with current := some { current with id := w.id.getD w.name } } := by
  rcases hcase : w.id with _ | id
  · have hsame : w.name = current.id := hname.symm.trans hid.symm
    refine congrArg some ?_
    rw [Option.getD_none, hsame]
    show s = { s with current := some current }
    rw [← hcurrent]
  · obtain ⟨hphrase, hle⟩ := h.id id hcase
    have hlength : (literal "ID" ++ 0x3D :: id).length ≤ maximumLineBytes := by
      have htwo : (literal "ID").length = 2 := by decide
      rw [List.length_append, List.length_cons, htwo]
      exact le_trans (Nat.add_le_add_left (Nat.succ_le_succ hle) 2) (by decide)
    have hread : fieldLine expectedFamily s.hasFamilyMetadata current (literal "ID") id =
        some ({ current with id }, s.hasFamilyMetadata) := by
      rw [fieldLine, if_pos rfl, if_neg]
      simp only [Bool.or_eq_true, decide_eq_true_eq, not_or, not_lt]
      exact ⟨hle, not_not.mpr hid⟩
    have hline := osLine_field expectedFamily hcurrent
      (isKey_of_all (literal "ID") (by decide)) hphrase hlength
    rw [hread] at hline
    rw [Option.map_some, Option.toList_some, List.foldlM_cons, fieldText, hline]
    rfl

variable (expectedFamily) in
theorem foldlM_specificityLine (h : w.Readable) {current : OSFingerprint}
    (hcurrent : s.current = some current) (hnone : current.specificity = 0) :
    ((w.specificity.map fun n ↦ fieldText (literal "SPECIFICITY", Output.decimal n)).toList).foldlM
        (osLine expectedFamily) s =
      some { s with current := some { current with specificity := w.specificity.getD 0 } } := by
  rcases hcase : w.specificity with _ | n
  · refine congrArg some ?_
    rw [Option.getD_none, ← hnone, ← hcurrent]
  · obtain ⟨hpos, hle⟩ := h.specificity n hcase
    have hdigits : ∀ c ∈ Output.decimal n, isDigit c = true := fun c hc ↦ isDigit_of_mem_decimal hc
    have hphrase := phrase_of_digits (decimal_ne_nil n) hdigits
    have hlength :
        (literal "SPECIFICITY" ++ 0x3D :: Output.decimal n).length ≤ maximumLineBytes := by
      have heleven : (literal "SPECIFICITY").length = 11 := by decide
      have hfive : (Output.decimal n).length ≤ 5 :=
        length_decimal_le (lt_of_le_of_lt hle (by decide))
      rw [List.length_append, List.length_cons, heleven]
      exact le_trans (Nat.add_le_add_left (Nat.succ_le_succ hfive) 11) (by decide)
    have hvalue : parseInteger (Output.decimal n) = some (n : ℤ) := by
      have hread := parseInteger_digits (decimal_ne_nil n) hdigits
      rw [numberOf_decimal] at hread
      exact hread (lt_of_le_of_lt hle (by decide))
    have hfits : (0 < (n : ℤ) && (n : ℤ) ≤ 65535) = true := by
      rw [Bool.and_eq_true, decide_eq_true_eq, decide_eq_true_eq]
      exact ⟨Int.natCast_pos.mpr hpos, by exact_mod_cast hle⟩
    have hread : fieldLine expectedFamily s.hasFamilyMetadata current (literal "SPECIFICITY")
        (Output.decimal n) = some ({ current with specificity := n }, s.hasFamilyMetadata) := by
      have hne : literal "SPECIFICITY" ≠ literal "ID" := by decide
      rw [fieldLine, if_neg hne, if_pos rfl, hvalue, Option.filter_some, if_pos hfits]
      rfl
    have hline := osLine_field expectedFamily hcurrent
      (isKey_of_all (literal "SPECIFICITY") (by decide)) hphrase hlength
    rw [hread] at hline
    rw [Option.map_some, Option.toList_some, List.foldlM_cons, fieldText, hline]
    rfl

theorem foldlM_familyLine (hexpected : expectedFamily = .ipv4 ∨ expectedFamily = .ipv6)
    {current : OSFingerprint} (hcurrent : s.current = some current)
    (hfamily : current.addressFamily = expectedFamily) (hnone : s.hasFamilyMetadata = false) :
    (if expectedFamily = .ipv6 then [literal "ADDRESS_FAMILY=IPv6"] else []).foldlM
        (osLine expectedFamily) s =
      some { s with hasFamilyMetadata := decide (expectedFamily = .ipv6) } := by
  rcases hexpected with rfl | rfl
  · refine congrArg some ?_
    rw [decide_eq_false (by decide), ← hnone]
  · have hread : fieldLine .ipv6 s.hasFamilyMetadata current (literal "ADDRESS_FAMILY")
        (literal "IPv6") = some (current, true) := by
      have hparse : parseFamily (literal "IPv6") = some .ipv6 := by decide
      rw [fieldLine, if_neg (by decide), if_neg (by decide), if_pos rfl, hparse, hnone]
      dsimp only
      rw [if_neg (by decide), ← hfamily]
    have hline := osLine_field .ipv6 hcurrent
      (isKey_of_all (literal "ADDRESS_FAMILY") (by decide))
      (phrase_of_all (literal "IPv6") (by decide)) (by decide)
    rw [hread] at hline
    rw [if_pos rfl, List.foldlM_cons]
    show (osLine .ipv6 s (literal "ADDRESS_FAMILY" ++ 0x3D :: literal "IPv6")).bind _ = _
    rw [hline, decide_eq_true rfl, hcurrent]
    rfl

variable (expectedFamily) in
/-- What a field that can be read adds. -/
theorem osLine_readable {field : Text × Text} (h : ReadableField field) {current : OSFingerprint}
    (hcurrent : s.current = some current) {added : FingerprintSignature}
    (hadded : signature field.1 field.2 = some added)
    (hnew : hasField current added.field = false)
    (hroom : current.signatures.length < maximumSignatures) :
    osLine expectedFamily s (fieldText field) =
      some { s with
        current := some { current with signatures := current.signatures ++ [added] } } := by
  obtain ⟨found, hfound, htext, hoptions⟩ := h.signature
  obtain rfl := Option.some.inj (hfound.symm.trans hadded)
  have hreserved := h.reserved
  simp only [List.mem_cons, List.not_mem_nil, or_false, not_or] at hreserved
  obtain ⟨hid, hspecificity, hfamily⟩ := hreserved
  have hread : fieldLine expectedFamily s.hasFamilyMetadata current field.1 field.2 =
      some ({ current with signatures := current.signatures ++ [found] }, s.hasFamilyMetadata) := by
    rw [fieldLine, if_neg hid, if_neg hspecificity, if_neg hfamily, hadded]
    dsimp only
    rw [if_neg]
    simp only [Bool.or_eq_true, decide_eq_true_eq, not_or, not_lt, not_le, Bool.not_eq_true]
    exact ⟨⟨⟨hnew, htext⟩, hoptions⟩, hroom⟩
  rw [fieldText, osLine_field expectedFamily hcurrent h.key h.value h.length, hread]
  rfl

variable (expectedFamily) in
/-- **The fields add their signatures**, in their order. -/
theorem foldlM_fields {fields : List (Text × Text)} (h : ∀ field ∈ fields, ReadableField field)
    {current : OSFingerprint} (hcurrent : s.current = some current)
    (hdistinct : ((current.signatures ++ fields.filterMap fun (key, value) ↦
      signature key value).map (·.field)).Nodup)
    (hroom : current.signatures.length + fields.length ≤ maximumSignatures) :
    (fields.map fieldText).foldlM (osLine expectedFamily) s =
      some { s with
        current := some { current with
          signatures := current.signatures ++
            fields.filterMap fun (key, value) ↦ signature key value } } := by
  induction fields generalizing s current with
  | nil =>
    refine congrArg some ?_
    rw [List.filterMap_nil, List.append_nil, ← hcurrent]
  | cons field fields ih =>
    obtain ⟨hfield, hfields⟩ := List.forall_mem_cons.mp h
    obtain ⟨added, hadded, -⟩ := hfield.signature
    have hfilter : ((field :: fields).filterMap fun (key, value) ↦ signature key value) =
        added :: fields.filterMap fun (key, value) ↦ signature key value :=
      List.filterMap_cons_some hadded
    rw [hfilter] at hdistinct ⊢
    rw [List.append_cons] at hdistinct
    have hnew : hasField current added.field = false := by
      rw [hasField, List.any_eq_false]
      intro old hold
      rw [List.map_append, List.map_append, List.nodup_append'] at hdistinct
      have hapart := (List.nodup_append'.mp hdistinct.1).2.2
      rw [decide_eq_true_eq]
      exact fun heq ↦ hapart (List.mem_map_of_mem hold) (heq ▸ List.mem_singleton_self _)
    have hone := osLine_readable expectedFamily hfield hcurrent hadded hnew
      (lt_of_lt_of_le (Nat.lt_add_of_pos_right (Nat.succ_pos _)) hroom)
    rw [List.map_cons, List.foldlM_cons, hone]
    refine (ih hfields rfl hdistinct ?_).trans ?_
    · rw [List.length_append, List.length_singleton, Nat.add_assoc, Nat.add_comm 1]
      exact hroom
    · rw [List.append_assoc, List.singleton_append]

variable (layout) in
/-- **The lines of a fingerprint open it**, behind what was open before them. -/
theorem foldlM_lines (h : w.Readable)
    (hexpected : expectedFamily = .ipv4 ∨ expectedFamily = .ipv6)
    (hbefore : finalize expectedFamily s = some before) (hclass : before.hasClass = false) :
    (w.lines layout expectedFamily).foldlM (osLine expectedFamily) s =
      some { before with
        current := some (w.current expectedFamily)
        hasClass := true
        hasFamilyMetadata := decide (expectedFamily = .ipv6) } := by
  have hlength : (literal "Fingerprint " ++ w.name).length ≤ maximumLineBytes := by
    have htwelve : (literal "Fingerprint ").length = 12 := by decide
    rw [List.length_append, htwelve]
    exact le_trans (Nat.add_le_add_left h.name_le 12) (by decide)
  have hopen : osLine expectedFamily s (literal "Fingerprint " ++ w.name) = some { before with
      current := some { name := w.name, id := w.name, addressFamily := expectedFamily }
      hasFamilyMetadata := false } := by
    rw [osLine_header (isHeader_name h.name), opened_name hexpected h.name]
    exact ⟨hlength, h.name.ne, before, hbefore, rfl⟩
  -- each line is read behind what the ones before it have left
  have hid := foldlM_idLine expectedFamily h (s := { before with
    current := some { name := w.name, id := w.name, addressFamily := expectedFamily }
    hasFamilyMetadata := false }) rfl rfl rfl
  have hspecificity := foldlM_specificityLine expectedFamily h (s := { before with
    current := some
      { name := w.name, id := w.id.getD w.name, addressFamily := expectedFamily }
    hasFamilyMetadata := false }) rfl rfl
  have hmetadata := foldlM_familyLine hexpected (s := { before with
    current := some
      { name := w.name, id := w.id.getD w.name, addressFamily := expectedFamily
        specificity := w.specificity.getD 0 }
    hasFamilyMetadata := false }) rfl rfl rfl
  have hparts := osLine_class expectedFamily (s := { before with
    current := some
      { name := w.name, id := w.id.getD w.name, addressFamily := expectedFamily
        specificity := w.specificity.getD 0 }
    hasFamilyMetadata := decide (expectedFamily = .ipv6) }) rfl hclass
    (h.phrase_parts layout) (h.length_parts layout) (h.classLine layout _)
  have hfields := foldlM_fields expectedFamily h.fields (s := { before with
    current := some
      { name := w.name, id := w.id.getD w.name, addressFamily := expectedFamily
        specificity := w.specificity.getD 0, vendor := w.vendor, family := w.family
        generation := w.generation, deviceType := w.deviceType }
    hasClass := true
    hasFamilyMetadata := decide (expectedFamily = .ipv6) }) rfl h.distinct
    (by rw [List.length_nil, Nat.zero_add]; exact h.fields_le)
  rw [Written.lines, List.foldlM_append, List.foldlM_append, List.foldlM_append,
    List.foldlM_append, List.foldlM_append, List.foldlM_cons, hopen]
  simp only [Option.bind_eq_bind, Option.bind_some, List.foldlM_nil, Option.pure_def, hid,
    hspecificity, hmetadata, List.foldlM_cons, hparts, hfields]
  rfl

/-! ### The lines of a database -/

/-- The lines of several fingerprints. -/
def writtenLines (layout : Layout) (expectedFamily : AddressFamily) (ws : List Written) :
    List Text :=
  layout.gap.intercalate (ws.map (·.lines layout expectedFamily))

/-- The fingerprints are new, and there is room for them. -/
structure Fresh (expectedFamily : AddressFamily) (s : OsState) (ws : List Written) : Prop where
  names : (ws.map (·.name)).Nodup
  ids : (ws.map fun w ↦ (w.fingerprint expectedFamily).id).Nodup
  name_new : ∀ w ∈ ws, w.name ∉ s.names
  id_new : ∀ w ∈ ws, (w.fingerprint expectedFamily).id ∉ s.ids
  room : s.fingerprints.length + ws.length ≤ maximumFingerprints

theorem Written.Readable.signatures_ne (h : w.Readable) : w.signatures ≠ [] := by
  obtain ⟨field, fields, hfields⟩ := List.exists_cons_of_ne_nil h.fields_ne
  have hfield := h.fields field (hfields ▸ List.mem_cons_self)
  obtain ⟨added, hadded, -⟩ := hfield.signature
  have hcons := List.filterMap_cons_some (f := fun (key, value) ↦ signature key value) (l := fields)
    hadded
  rw [signatures, hfields, hcons]
  exact List.cons_ne_nil _ _

/-- The fingerprint that is open behind its lines can be closed. -/
theorem Written.Readable.closes (h : w.Readable)
    (hroom : before.fingerprints.length < maximumFingerprints) (hname : w.name ∉ before.names)
    (hid : (w.fingerprint expectedFamily).id ∉ before.ids) :
    Closes expectedFamily { before with
      current := some (w.current expectedFamily)
      hasClass := true
      hasFamilyMetadata := decide (expectedFamily = .ipv6) } (w.current expectedFamily) where
  hasClass := rfl
  signatures_ne := h.signatures_ne
  vendor_ne := h.vendor.phrase.ne
  family_ne := h.family.phrase.ne
  name_le := h.name_le
  vendor_le := h.vendor.length
  family_le := h.family.length
  generation_le := h.generation.length
  deviceType_le := h.deviceType.length
  signatures_le := (List.length_filterMap_le _ _).trans h.fields_le
  hasFamilyMetadata := fun heq ↦ decide_eq_true heq
  addressFamily := fun _ ↦ rfl
  room := hroom
  name_new := hname
  id_new := hid

/-- Empty lines change nothing. -/
theorem foldlM_gap {gap : List Text} (h : ∀ line ∈ gap, line = []) (s : OsState) :
    gap.foldlM (osLine expectedFamily) s = some s := by
  induction gap with
  | nil => rfl
  | cons line gap ih =>
    obtain ⟨rfl, hgap⟩ := List.forall_mem_cons.mp h
    rw [List.foldlM_cons, osLine_blank (by decide) (by decide)]
    exact ih hgap

variable (layout) in
/-- **The lines of several fingerprints** add them in their order. -/
theorem foldlM_writtenLines (h : ∀ w ∈ ws, w.Readable)
    (hexpected : expectedFamily = .ipv4 ∨ expectedFamily = .ipv6)
    (hbefore : finalize expectedFamily s = some before) (hclass : before.hasClass = false)
    (hfresh : Fresh expectedFamily before ws) :
    ∃ after, ((writtenLines layout expectedFamily ws).foldlM (osLine expectedFamily) s).bind
        (finalize expectedFamily) = some after ∧
      after.fingerprints = before.fingerprints ++ ws.map (·.fingerprint expectedFamily) := by
  induction ws generalizing s before with
  | nil => exact ⟨before, hbefore, (List.append_nil _).symm⟩
  | cons w ws ih =>
    obtain ⟨hw, hws⟩ := List.forall_mem_cons.mp h
    obtain ⟨hname, hnames⟩ := List.nodup_cons.mp hfresh.names
    obtain ⟨hid, hids⟩ := List.nodup_cons.mp hfresh.ids
    have hroom := hfresh.room
    rw [List.length_cons] at hroom
    have hlines := foldlM_lines layout hw hexpected hbefore hclass
    have hcloses := hw.closes (lt_of_lt_of_le (Nat.lt_add_of_pos_right (Nat.succ_pos _))
      hroom) (hfresh.name_new w List.mem_cons_self) (hfresh.id_new w List.mem_cons_self)
    have hclosed := (finalize_eq_some_iff rfl).mpr ⟨hcloses, rfl⟩
    have hrest : Fresh expectedFamily (closed
        { before with
          current := some (w.current expectedFamily)
          hasClass := true
          hasFamilyMetadata := decide (expectedFamily = .ipv6) } (w.current expectedFamily)) ws :=
      { names := hnames
        ids := hids
        name_new := fun other hother hmem ↦ by
          rcases List.mem_cons.mp hmem with heq | hmem
          · exact hname (List.mem_map.mpr ⟨other, hother, heq⟩)
          · exact hfresh.name_new other (List.mem_cons_of_mem w hother) hmem
        id_new := fun other hother hmem ↦ by
          rcases List.mem_cons.mp hmem with heq | hmem
          · exact hid (List.mem_map.mpr ⟨other, hother, heq⟩)
          · exact hfresh.id_new other (List.mem_cons_of_mem w hother) hmem
        room := by
          show (before.fingerprints ++ [_]).length + ws.length ≤ _
          rw [List.length_append, List.length_singleton, Nat.add_assoc, Nat.add_comm 1]
          exact hroom }
    obtain ⟨after, hafter, hfingerprints⟩ := ih hws hclosed rfl hrest
    refine ⟨after, ?_, ?_⟩
    · rcases ws with _ | ⟨next, ws⟩
      · rw [writtenLines, List.map_singleton, List.intercalate_singleton, hlines, Option.bind_some,
          ← hafter]
        rfl
      · rw [writtenLines, List.map_cons, List.map_cons, List.intercalate_cons_cons,
          List.foldlM_append, List.foldlM_append, hlines]
        simp only [Option.bind_eq_bind, Option.bind_some, foldlM_gap layout.gap_blank]
        exact hafter
    · rw [hfingerprints, List.map_cons, closed, List.append_assoc, List.singleton_append]
      rfl

/-! ### The text of a database -/

/-- The text with these lines. -/
def textOf (lines : List Text) : Text := [0x0A].intercalate lines ++ [0x0A]

theorem lines_textOf {lines : List Text} (hne : lines ≠ []) (h : ∀ line ∈ lines, 0x0A ∉ line) :
    ServiceDb.lines (textOf lines) = lines := by
  rw [ServiceDb.lines, textOf, Strings.splitOn_terminated hne h, List.getLast?_concat, if_pos rfl,
    List.dropLast_concat]

/-- How many bytes there are in lines and their ends. -/
def bytes (lines : List Text) : ℕ := (lines.map (·.length + 1)).sum

@[simp]
theorem bytes_nil : bytes [] = 0 := rfl

@[simp]
theorem bytes_cons (line : Text) (lines : List Text) :
    bytes (line :: lines) = line.length + 1 + bytes lines := rfl

@[simp]
theorem bytes_append (front back : List Text) :
    bytes (front ++ back) = bytes front + bytes back := by
  rw [bytes, List.map_append, List.sum_append]
  rfl

theorem length_textOf {lines : List Text} (hne : lines ≠ []) :
    (textOf lines).length = bytes lines := by
  induction lines with
  | nil => exact absurd rfl hne
  | cons line lines ih =>
    rcases lines with _ | ⟨next, lines⟩
    · simp [textOf]
    · have hrest := ih (List.cons_ne_nil next lines)
      rw [textOf, List.length_append] at hrest
      rw [textOf, List.intercalate_cons_cons, List.length_append, List.length_append,
        List.length_append, Nat.add_assoc, hrest]
      rfl

theorem bytes_intercalate {gap : List Text} {parts : List (List Text)} (hne : parts ≠ []) :
    bytes (gap.intercalate parts) + bytes gap =
      (parts.map fun part ↦ bytes part + bytes gap).sum := by
  induction parts with
  | nil => exact absurd rfl hne
  | cons part parts ih =>
    rcases parts with _ | ⟨next, parts⟩
    · simp
    · rw [List.intercalate_cons_cons, bytes_append, bytes_append, Nat.add_assoc,
        ih (List.cons_ne_nil next parts)]
      rfl

variable (layout expectedFamily) in
theorem bytes_writtenLines (hne : ws ≠ []) :
    bytes (writtenLines layout expectedFamily ws) + bytes layout.gap =
      (ws.map fun w ↦ bytes (w.lines layout expectedFamily) + bytes layout.gap).sum := by
  rw [writtenLines, bytes_intercalate (List.map_eq_nil_iff.not.mpr hne), List.map_map]
  rfl

variable (layout) in
theorem Written.Readable.newline_notMem (h : w.Readable) :
    ∀ line ∈ w.lines layout expectedFamily, 0x0A ∉ line := by
  rw [lines]
  simp only [List.forall_mem_append, List.forall_mem_singleton, List.forall_mem_map]
  refine ⟨⟨⟨⟨⟨(phrase_header h.name).line, ?_⟩, ?_⟩, ?_⟩, ?_⟩, fun field hfield ↦ ?_⟩
  · rcases hcase : w.id with _ | id
    · exact fun line hline ↦ absurd hline List.not_mem_nil
    · exact List.forall_mem_singleton.mpr
        (phrase_field (isKey_of_all (literal "ID") (by decide)) (h.id id hcase).1).line
  · rcases w.specificity with _ | n
    · exact fun line hline ↦ absurd hline List.not_mem_nil
    · exact List.forall_mem_singleton.mpr
        (phrase_field (isKey_of_all (literal "SPECIFICITY") (by decide))
          (phrase_of_digits (decimal_ne_nil n) fun c hc ↦ isDigit_of_mem_decimal hc)).line
  · split_ifs
    · decide
    · exact fun line hline ↦ absurd hline List.not_mem_nil
  · exact (Phrase.behind (by decide) (h.phrase_parts layout)).line
  · have hreadable := h.fields field hfield
    exact (phrase_field hreadable.key hreadable.value).line

variable (layout) in
theorem newline_notMem_writtenLines (h : ∀ w ∈ ws, w.Readable) :
    ∀ line ∈ writtenLines layout expectedFamily ws, 0x0A ∉ line := by
  refine (Strings.forall_mem_intercalate (fun line hline ↦ ?_) _).mpr
    (List.forall_mem_map.mpr fun w hw ↦ ?_)
  · rw [layout.gap_blank line hline]
    exact List.not_mem_nil
  · exact (h w hw).newline_notMem layout

variable (layout) in
/-- **What is written down is read.** A text with fingerprints that can be read, all of them new, is
accepted exactly if it is not too large, and then they are the fingerprints of the database. -/
theorem parse_textOf (hne : ws ≠ []) (h : ∀ w ∈ ws, w.Readable)
    (hexpected : expectedFamily = .ipv4 ∨ expectedFamily = .ipv6)
    (hfresh : Fresh expectedFamily {} ws) :
    let text := textOf (writtenLines layout expectedFamily ws)
    ((parse expectedFamily text).status = .ok ↔ text.length ≤ maximumDatabaseBytes) ∧
      ((parse expectedFamily text).status = .ok →
        (parse expectedFamily text).database.fingerprints =
          ws.map (·.fingerprint expectedFamily)) := by
  intro text
  obtain ⟨after, hafter, hfingerprints⟩ :=
    foldlM_writtenLines layout h hexpected (s := {}) rfl rfl hfresh
  have hfound : ¬ after.fingerprints = [] := by
    rw [hfingerprints]
    exact List.map_eq_nil_iff.not.mpr hne
  have hlines : ServiceDb.lines text = writtenLines layout expectedFamily ws := by
    refine lines_textOf (fun hnil ↦ hfound ?_) (newline_notMem_writtenLines layout h)
    rw [hnil] at hafter
    obtain rfl := Option.some.inj hafter
    rfl
  rw [parse]
  by_cases hlarge : maximumDatabaseBytes < text.length
  · rw [if_pos hlarge]
    exact ⟨iff_of_false (by decide) (not_le.mpr hlarge), fun hok ↦ absurd hok (by decide)⟩
  · rw [if_neg hlarge]
    simp only [hlines, hafter, if_neg hfound]
    exact ⟨iff_of_true trivial (not_lt.mp hlarge), fun _ ↦ hfingerprints⟩

end Skan.Db.OsDb
