import Skan.Core.TextRepair
import Skan.Library.Xml

/-!
# Strings in the XML output

`xml_escape` of `src/output/output_writer.cpp`, and the two ways in which
`src/output/output_xml.cpp` writes a string: as the value of an attribute and as the text of an
element.

The escape covers the characters of markup. It copies tabs and line ends as they are, and a reader
of XML normalizes these: in the text of an element it makes line feeds of all line ends, in the
value of an attribute it makes spaces of them and of tabs. So a string is read back as it was
written exactly if it has none of the characters that are normalized where it stands
(`xml_preserved_iff`). The JSON and the grepable writers escape all three.
-/

namespace Skan.Output

open Skan.Core Skan.Core.Text Utf8 Xml

variable {value : Text} {cs name : List Char}

/-- What `xml_escape` makes of a byte. -/
def xmlEscapeByte (character : UInt8) : Text :=
  if character = 0x26 then literal "&amp;"
  else if character = 0x3C then literal "&lt;"
  else if character = 0x3E then literal "&gt;"
  else if character = 0x22 then literal "&quot;"
  else if character = 0x27 then literal "&apos;"
  else if character < 0x20 && character ≠ 0x0A && character ≠ 0x0D && character ≠ 0x09 then [0x3F]
  else [character]

/-- `xml_escape`. -/
def xmlEscape (value : Text) : Text := (sanitizeXml10 value).flatMap xmlEscapeByte

/-- `XmlWriter`. -/
structure XmlWriter where
  pretty : Bool

namespace XmlWriter

variable (xml : XmlWriter)

def indent (depth : ℕ) : Text := if xml.pretty then List.replicate (depth * 2) 0x20 else []

def newline : Text := if xml.pretty then [0x0A] else []

/-- `element`. -/
def element (depth : ℕ) (name value : Text) : Text :=
  xml.indent depth ++ literal "<" ++ name ++ literal ">" ++ xmlEscape value ++ literal "</" ++
    name ++ literal ">" ++ xml.newline

end XmlWriter

/-- The function `attribute`. -/
def xmlAttribute (name value : Text) : Text :=
  literal " " ++ name ++ literal "=\"" ++ xmlEscape value ++ literal "\""

/-! ### What is written -/

theorem isChar_of_xml10Character {c : Char} (h : xml10Character c.val = true) :
    isChar c = true := by
  rw [xml10Character] at h
  simp only [Bool.or_eq_true, Bool.and_eq_true, decide_eq_true_eq, UInt32.le_iff_toNat_le] at h
  rw [isChar]
  simp only [Bool.or_eq_true, Bool.and_eq_true, decide_eq_true_eq]
  rcases h with ((((h | h) | h) | h) | h) | h
  · exact .inl (.inl (.inl (.inl (.inl (Char.ext h)))))
  · exact .inl (.inl (.inl (.inl (.inr (Char.ext h)))))
  · exact .inl (.inl (.inl (.inr (Char.ext h))))
  · exact .inl (.inl (.inr h))
  · exact .inl (.inr h)
  · exact .inr h.1

/-- **What is written is the escaped text**, and all of it may stand in a document. -/
theorem exists_xmlEscape (value : Text) :
    ∃ cs, sanitizeXml10 value = encode cs ∧ xmlEscape value = encode (escape cs) ∧
      ∀ c ∈ cs, isChar c = true := by
  obtain ⟨cs, hcs, hallowed⟩ := @clean_sanitize xml10Character (by decide) value
  refine ⟨cs, hcs, ?_, fun c hc ↦ isChar_of_xml10Character (hallowed c hc)⟩
  have hascii : ∀ n < 0x80, xml10Character (Char.ofNat n).val = true →
      xmlEscapeByte (UInt8.ofNat n) = encode (escapeChar (Char.ofNat n)) := by
    decide +kernel
  rw [xmlEscape, sanitizeXml10, hcs]
  refine flatMap_encode (fun b hb ↦ ?_) (fun c hc ↦ ?_) fun c hc hle ↦ ?_
  · have hne : ∀ x : UInt8, x.toNat < 0x80 → b ≠ x := by
      rintro x hx rfl
      exact absurd (UInt8.le_iff_toNat_le.mp hb) (Nat.not_le.mpr hx)
    have hcontrol : ¬ (b < 0x20 && b ≠ 0x0A && b ≠ 0x0D && b ≠ 0x09) = true := by
      have hlow : ¬ b < 0x20 := fun hlt ↦
        absurd (UInt8.lt_iff_toNat_lt.mp hlt) (Nat.not_lt.mpr
          (Nat.le_trans (by decide) (UInt8.le_iff_toNat_le.mp hb)))
      rw [decide_eq_false hlow]
      exact Bool.false_ne_true
    rw [xmlEscapeByte, if_neg (hne _ (by decide)), if_neg (hne _ (by decide)),
      if_neg (hne _ (by decide)), if_neg (hne _ (by decide)), if_neg (hne _ (by decide)),
      if_neg hcontrol]
  · have hne : ∀ d : Char, d.toNat ≤ 0x7F → c ≠ d := fun d hd heq ↦
      absurd (heq ▸ hc) (not_lt.mpr hd)
    rw [escapeChar, if_neg (hne _ (by decide)), if_neg (hne _ (by decide)),
      if_neg (hne _ (by decide)), if_neg (hne _ (by decide)), if_neg (hne _ (by decide))]
  · have h := hascii c.toNat (by omega)
    rw [Char.ofNat_toNat] at h
    exact h (hallowed c hc)

/-! ### What is read back -/

/-- An ASCII character is in what is sanitized exactly if its byte is in the bytes. -/
theorem mem_chars_iff (hcs : sanitizeXml10 value = encode cs) {b : UInt8}
    (hb : b.toNat ≤ 0x7F) (hne : b ≠ 0x3F)
    (hallowed : xml10Character (Char.ofNat b.toNat).val = true) :
    Char.ofNat b.toNat ∈ cs ↔ b ∈ value := by
  have hmem : b ∈ encode cs ↔ Char.ofNat b.toNat ∈ cs := by
    rw [encode, List.mem_flatMap]
    constructor
    · rintro ⟨c, hc, hbyte⟩
      exact (mem_encodeChar_iff hb).mp hbyte ▸ hc
    · exact fun hc ↦ ⟨_, hc, (mem_encodeChar_iff hb).mpr rfl⟩
  rw [← hmem, ← hcs, sanitizeXml10, mem_sanitize_iff hb hne hallowed]

/-- What was read, as the name and the bytes of the text. -/
def readBack (read : Option (List Char × List Char)) : Option (List Char × Text) :=
  read.map fun (name, cs) ↦ (name, Utf8.encode cs)

theorem readBack_eq_iff {read : Option (List Char × List Char)} {ds : List Char}
    (h : read = some (name, ds)) : readBack read = some (name, encode cs) ↔ ds = cs := by
  rw [h, readBack, Option.map_some, Option.some_inj, Prod.mk.injEq, eq_self, true_and]
  exact encode_injective.eq_iff

theorem readAttribute_xmlAttribute (hname : IsName name)
    (hescape : xmlEscape value = encode (escape cs))
    (hchars : ∀ c ∈ cs, isChar c = true) :
    readAttribute (xmlAttribute (encode name) value) =
      some (name, Place.attributeValue.normalize cs) := by
  have hbytes : xmlAttribute (encode name) value =
      encode (' ' :: name ++ '=' :: '"' :: (escape cs ++ ['"'])) := by
    rw [xmlAttribute, hescape]
    simp only [encode_append, encode_cons, List.cons_append, List.append_assoc]
    rfl
  rw [readAttribute, hbytes, decode_encode, Option.bind_some]
  exact attributeOf_escape hname hchars

theorem XmlWriter.indent_eq_encode (xml : XmlWriter) (depth : ℕ) :
    ∃ indent, xml.indent depth = encode indent ∧ ∀ c ∈ indent, c = ' ' := by
  by_cases hpretty : xml.pretty = true
  · refine ⟨List.replicate (depth * 2) ' ', ?_, fun c hc ↦ List.eq_of_mem_replicate hc⟩
    rw [indent, if_pos hpretty, encode_ascii fun c hc ↦ by
      rw [List.eq_of_mem_replicate hc]; decide, List.map_replicate]
    rfl
  · exact ⟨[], if_neg hpretty, fun c hc ↦ absurd hc List.not_mem_nil⟩

theorem XmlWriter.newline_eq_encode (xml : XmlWriter) :
    ∃ rest, xml.newline = encode rest ∧ ∀ c ∈ rest, c = '\n' := by
  by_cases hpretty : xml.pretty = true
  · exact ⟨['\n'], if_pos hpretty, fun c hc ↦ List.mem_singleton.mp hc⟩
  · exact ⟨[], if_neg hpretty, fun c hc ↦ absurd hc List.not_mem_nil⟩

theorem readElement_element (hname : IsName name)
    (hescape : xmlEscape value = encode (escape cs))
    (hchars : ∀ c ∈ cs, isChar c = true) (xml : XmlWriter) (depth : ℕ) :
    readElement (xml.element depth (encode name) value) =
      some (name, Place.content.normalize cs) := by
  obtain ⟨indent, hindent, hspaces⟩ := xml.indent_eq_encode depth
  obtain ⟨rest, hrest, hlines⟩ := xml.newline_eq_encode
  have hbytes : xml.element depth (encode name) value =
      encode (indent ++ '<' :: name ++ '>' :: (escape cs ++
        '<' :: ('/' :: name ++ '>' :: rest))) := by
    rw [XmlWriter.element, hescape, hindent, hrest]
    simp only [encode_append, encode_cons, List.cons_append, List.append_assoc]
    rfl
  rw [readElement, hbytes, decode_encode, Option.bind_some]
  exact elementOf_escape hspaces hlines hname hchars

/-- **When a string is preserved.** The value of an attribute is read back exactly if the string has
no tab and no line end, the text of an element exactly if it has no carriage return. -/
theorem xml_preserved_iff {name : List Char} (hname : Xml.IsName name) (value : Text) :
    (readBack (Xml.readAttribute (xmlAttribute (Utf8.encode name) value)) =
        some (name, sanitizeXml10 value) ↔
      0x09 ∉ value ∧ 0x0A ∉ value ∧ 0x0D ∉ value) ∧
    ∀ (xml : XmlWriter) (depth : ℕ),
      readBack (Xml.readElement (xml.element depth (Utf8.encode name) value)) =
        some (name, sanitizeXml10 value) ↔ 0x0D ∉ value := by
  obtain ⟨cs, hcs, hescape, hchars⟩ := exists_xmlEscape value
  have htab := @mem_chars_iff value cs hcs 0x09 (by decide) (by decide) (by decide)
  have hlf := @mem_chars_iff value cs hcs 0x0A (by decide) (by decide) (by decide)
  have hcr := @mem_chars_iff value cs hcs 0x0D (by decide) (by decide) (by decide)
  rw [← htab, ← hlf, ← hcr, hcs]
  refine ⟨?_, fun xml depth ↦ ?_⟩
  · rw [readBack_eq_iff (readAttribute_xmlAttribute hname hescape hchars)]
    exact Xml.normalize_attributeValue_eq_self_iff
  · rw [readBack_eq_iff (readElement_element hname hescape hchars xml depth)]
    exact Xml.normalize_content_eq_self_iff

theorem xml_preserved_iff_state :
    (readBack (Xml.readAttribute (xmlAttribute (Utf8.encode ['s', 't', 'a', 't', 'e']) [0x41])) =
        some (['s', 't', 'a', 't', 'e'], sanitizeXml10 [0x41]) ↔
      0x09 ∉ ([0x41] : Text) ∧ 0x0A ∉ ([0x41] : Text) ∧ 0x0D ∉ ([0x41] : Text)) ∧
    ∀ (xml : XmlWriter) (depth : ℕ),
      readBack (Xml.readElement
        (xml.element depth (Utf8.encode ['s', 't', 'a', 't', 'e']) [0x41])) =
        some (['s', 't', 'a', 't', 'e'], sanitizeXml10 [0x41]) ↔ 0x0D ∉ ([0x41] : Text) :=
  xml_preserved_iff ⟨by decide, by decide⟩ [0x41]

/-- A carriage return is read back as a space from an attribute, and as a line feed from an
element. -/
theorem not_xml_preserved :
    ¬ (readBack (Xml.readAttribute (xmlAttribute (literal "reason") [0x0D])) =
          some ("reason".toList, sanitizeXml10 [0x0D]) ∨
        readBack (Xml.readElement (XmlWriter.element ⟨true⟩ 1 (literal "warning") [0x0D])) =
          some ("warning".toList, sanitizeXml10 [0x0D])) := by
  decide +kernel

end Skan.Output
