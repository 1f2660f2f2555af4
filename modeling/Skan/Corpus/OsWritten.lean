import Skan.Corpus.OsReaders

/-!
# Reading back what the tools can read

A fingerprint that is written down line by line is read by `parse_os_db` as well, if its name and
its keys are what the tools allow (`Legible`). Several of them are read in their order
(`parseLines_textOf`).
-/

namespace Skan.Corpus.RuntimeOsDb

open Skan.Core Skan.Db Skan.Db.OsDb
open Skan.Db.OsDb.Written (fieldText)

/-! ### Lines -/

section Lines

variable (path addressFamily : Text) {p before : Parsing} {family : AddressFamily} {layout : Layout}
  {ws : List Written} {number : ℕ} {key : Text}

/-- What the loop makes of lines, the first of which has this number. -/
def readLines (p : Parsing) (number : ℕ) (lines : List Text) : Except ValueError Parsing :=
  (lines.zipIdx number).foldlM (parseLine path addressFamily) p

variable {path addressFamily}

theorem readLines_append {front : List Text}
    (h : readLines path addressFamily p number front = .ok before) (back : List Text) :
    readLines path addressFamily p number (front ++ back) =
      readLines path addressFamily before (number + front.length) back := by
  rw [readLines, List.zipIdx_append, List.foldlM_append]
  rw [readLines] at h
  rw [h]
  rfl

theorem readLines_cons {line : Text}
    (h : parseLine path addressFamily p (line, number) = .ok before) (lines : List Text) :
    readLines path addressFamily p number (line :: lines) =
      readLines path addressFamily before (number + 1) lines := by
  rw [readLines, List.zipIdx_cons, List.foldlM_cons, h]
  rfl

theorem content_phrase {line : Text} (h : Phrase line) (hclear : Clear line) :
    content line = line :=
  hclear.content_eq.trans h.content

theorem Clear.append {front back : Text} (hfront : Clear front) (hback : Clear back) :
    Clear (front ++ back) := by
  rw [Clear, List.forall_mem_append]
  exact ⟨hfront, hback⟩

theorem clear_literal {text : Text} (h : text.all (fun c ↦ 0x20 ≤ c && c < 0x7F) = true) :
    Clear text := by
  intro c hc
  have hchar := List.all_eq_true.mp h c hc
  rw [Bool.and_eq_true, decide_eq_true_eq, decide_eq_true_eq] at hchar
  exact ⟨hchar.2, fun hcontrol ↦ absurd hcontrol (UInt8.not_lt.mpr hchar.1)⟩

theorem clear_of_isKey (h : IsKey key) : Clear key := by
  have hall : ∀ b, isKeyChar b = true → b < 0x7F ∧ (b < 0x20 → b = 0x09) :=
    Utf8.forall_byte (by decide +kernel)
  exact fun c hc ↦ hall c (h.chars c hc)

theorem clear_of_isName {name : Text} (h : isName name = true) : Clear name := by
  rw [isName, Bool.and_eq_true] at h
  have hall : ∀ b, isNameChar b = true → b < 0x7F ∧ (b < 0x20 → b = 0x09) :=
    Utf8.forall_byte (by decide +kernel)
  exact fun c hc ↦ hall c (List.all_eq_true.mp h.2 c hc)

theorem clear_of_digits {text : Text} (h : ∀ c ∈ text, isDigit c = true) : Clear text := by
  have hall : ∀ b, isDigit b = true → b < 0x7F ∧ (b < 0x20 → b = 0x09) :=
    Utf8.forall_byte (by decide +kernel)
  exact fun c hc ↦ hall c (h c hc)

theorem clear_field {value : Text} (hkey : IsKey key) (hvalue : Clear value) :
    Clear (fieldText (key, value)) :=
  (clear_of_isKey hkey).append (List.forall_mem_cons.mpr ⟨by decide, hvalue⟩)

variable (path addressFamily) in
/-- **A line `key=value`** is read as it is written. -/
theorem parseLine_field {raw : RawRecord} (hcurrent : p.current = some raw) {value : Text}
    (hkey : IsKey key) (hvalue : Phrase value) (hclear : Clear value) (number : ℕ) :
    parseLine path addressFamily p (fieldText (key, value), number) =
      (featureLine path addressFamily number p.nativeIds raw key value).map
        fun (raw, nativeIds) ↦ { p with current := some raw, nativeIds } := by
  have hphrase : Phrase (fieldText (key, value)) := phrase_field hkey hvalue
  have hheader : (literal "Fingerprint ").isPrefixOf (fieldText (key, value)) = false :=
    not_prefix_field hkey value (.inl rfl)
  have hclass : (literal "Class ").isPrefixOf (fieldText (key, value)) = false :=
    not_prefix_field hkey value (.inr rfl)
  have hsplit : Strings.partition 0x3D (fieldText (key, value)) = (key, some value) :=
    Strings.partition_append hkey.equals_notMem value
  have hstripKey : strip key = key := (clear_of_isKey hkey).strip_eq.trans hkey.phrase.trim
  have hstripValue : strip value = value := hclear.strip_eq.trans hvalue.trim
  obtain ⟨first, key, rfl⟩ := List.exists_cons_of_ne_nil hkey.ne
  obtain ⟨second, value, rfl⟩ := List.exists_cons_of_ne_nil hvalue.ne
  simp only [parseLine, content_phrase hphrase (clear_field hkey hclear), hphrase.ne, hheader,
    hclass, hcurrent, hsplit, hstripKey, hstripValue, Bool.false_eq_true, if_false]

variable (addressFamily) in
/-- A `Class` line. -/
theorem parseLine_class {raw next : RawRecord} (hcurrent : p.current = some raw) {parts : Text}
    (hparts : Phrase parts) (hclear : Clear parts)
    (hnext : classLine path number raw (literal "Class " ++ parts) = .ok next) :
    parseLine path addressFamily p (literal "Class " ++ parts, number) =
      .ok { p with current := some next } := by
  have hphrase : Phrase (literal "Class " ++ parts) :=
    Phrase.behind (by decide) hparts
  have hheader : (literal "Fingerprint ").isPrefixOf (literal "Class " ++ parts) = false := rfl
  have hclass : (literal "Class ").isPrefixOf (literal "Class " ++ parts) = true :=
    List.isPrefixOf_iff_prefix.mpr ⟨parts, rfl⟩
  have hline : Clear (literal "Class " ++ parts) := (clear_literal (by decide)).append hclear
  simp only [parseLine, content_phrase hphrase hline, hphrase.ne, hheader, hclass, hcurrent, hnext,
    Bool.false_eq_true, if_false, if_true]
  rfl

variable (addressFamily) in
/-- A `Fingerprint` line behind what can be closed. -/
theorem parseLine_header (hflush : flush path p = .ok before) {name : Text}
    (hname : isName name = true) (hnew : name ∉ before.names) (number : ℕ) :
    parseLine path addressFamily p (literal "Fingerprint " ++ name, number) =
      .ok { before with
        names := name :: before.names
        current := some { name, line := number, order := before.rawRecords.length } } := by
  have hphrase := phrase_header (phrase_of_isName hname)
  have hline : Clear (literal "Fingerprint " ++ name) :=
    (clear_literal (by decide)).append (clear_of_isName hname)
  have hheader : (literal "Fingerprint ").isPrefixOf (literal "Fingerprint " ++ name) = true :=
    List.isPrefixOf_iff_prefix.mpr ⟨name, rfl⟩
  have hdrop : (literal "Fingerprint " ++ name).drop 12 = name := rfl
  have hstrip : strip name = name :=
    (clear_of_isName hname).strip_eq.trans (phrase_of_isName hname).trim
  simp only [parseLine, content_phrase hphrase hline, hphrase.ne, hheader, fingerprintLine, hflush,
    if_false, if_true]
  simp only [bind, Except.bind, hdrop, hstrip, hname, hnew, Bool.not_true, Bool.false_eq_true,
    if_false]
  rfl

/-! ### The lines of a fingerprint -/

/-- A fingerprint that the tools can read too where it is written down. -/
structure Legible (w : Written) : Prop where
  readable : w.Readable
  name : isName w.name = true
  id : ∀ id ∈ w.id, Clear id
  classParts : ∀ part ∈ [w.vendor, w.family, w.generation, w.deviceType], Clear part
  fields : ∀ field ∈ w.fields, isFeature field.1 = true ∧ Clear field.2
  keys : (w.fields.map (·.1)).Nodup

/-- The class of a fingerprint. -/
def classOf (w : Written) : ClassParts where
  vendor := w.vendor
  osFamily := w.family
  osGeneration := w.generation
  deviceType := w.deviceType

/-- The dictionary of a fingerprint. -/
def rawOf (w : Written) (line order : ℕ) : RawRecord where
  name := w.name
  nativeId := w.id
  specificity := w.specificity.map Nat.cast
  classParts := some (classOf w)
  features := w.fields
  line := line
  order := order

theorem written_rawOf (w : Written) (line order : ℕ) :
    (rawOf w line order).written (classOf w) = w := by
  have hspecificity : (w.specificity.map (Nat.cast : ℕ → ℤ)).map Int.toNat = w.specificity := by
    rw [Option.map_map]
    exact Option.map_id'
  rw [RawRecord.written, rawOf, hspecificity]
  rfl

variable {w : Written} {p : Parsing} {raw : RawRecord}

/-- **The fields are read** as features, in their order. -/
theorem readLines_fields {fields : List (Text × Text)}
    (h : ∀ field ∈ fields, ReadableField field)
    (hfeatures : ∀ field ∈ fields, isFeature field.1 = true ∧ Clear field.2)
    (hcurrent : p.current = some raw) (hkeys : ((raw.features ++ fields).map (·.1)).Nodup)
    (number : ℕ) :
    readLines path addressFamily p number (fields.map fieldText) =
      .ok { p with current := some { raw with features := raw.features ++ fields } } := by
  induction fields generalizing p raw number with
  | nil =>
    refine congrArg Except.ok ?_
    rw [List.append_nil, ← hcurrent]
  | cons field fields ih =>
    obtain ⟨hfield, hfields⟩ := List.forall_mem_cons.mp h
    obtain ⟨⟨hfeature, hclear⟩, hrest⟩ := List.forall_mem_cons.mp hfeatures
    rw [List.append_cons] at hkeys
    have hnew : field.1 ∉ raw.features.map (·.1) := by
      rw [List.map_append, List.map_append, List.nodup_append'] at hkeys
      have hapart := (List.nodup_append'.mp hkeys.1).2.2
      exact fun hmem ↦ hapart hmem (List.mem_singleton_self _)
    have hreserved := hfield.reserved
    simp only [List.mem_cons, List.not_mem_nil, or_false, not_or] at hreserved
    obtain ⟨hid, hspecificity, hfamily⟩ := hreserved
    have hread : featureLine path addressFamily number p.nativeIds raw field.1 field.2 =
        .ok ({ raw with features := raw.features ++ [field] }, p.nativeIds) := by
      rw [featureLine, if_neg hid, if_neg hspecificity, if_neg hfamily, hfeature, if_neg hnew]
      rfl
    have hone := parseLine_field path addressFamily hcurrent hfield.key hfield.value hclear number
    rw [hread] at hone
    rw [List.map_cons, readLines_cons hone]
    refine (ih hfields hrest rfl hkeys (number + 1)).trans ?_
    rw [List.append_assoc, List.singleton_append]

variable (path addressFamily) in
/-- The identifier is read. -/
theorem readLines_id (h : Legible w) (hcurrent : p.current = some raw) (hnone : raw.nativeId = none)
    (hnew : ∀ id ∈ w.id, id ∉ p.nativeIds) (number : ℕ) :
    readLines path addressFamily p number
        (w.id.map fun id ↦ fieldText (literal "ID", id)).toList =
      .ok { p with
        nativeIds := w.id.toList ++ p.nativeIds
        current := some { raw with nativeId := w.id } } := by
  rcases hcase : w.id with _ | id
  · refine congrArg Except.ok ?_
    rw [Option.toList_none, List.nil_append, ← hnone, ← hcurrent]
  · have hphrase := (h.readable.id id hcase).1
    have hread : featureLine path addressFamily number p.nativeIds raw (literal "ID") id =
        .ok ({ raw with nativeId := some id }, id :: p.nativeIds) := by
      rw [featureLine, if_pos rfl, hnone, if_neg hphrase.ne, if_neg (hnew id hcase)]
      rfl
    have hone := parseLine_field path addressFamily hcurrent
      (isKey_of_all (literal "ID") (by decide)) hphrase (h.id id hcase) number
    rw [hread] at hone
    rw [Option.map_some, Option.toList_some, readLines_cons hone]
    rfl

/-- The number that digits stand for is read back. -/
theorem int_decimal {n : ℕ} (h : n < 10 ^ 5) : int (Output.decimal n) = some (n : ℤ) := by
  have hdigits : ∀ c ∈ Output.decimal n, isDigit c = true := fun c hc ↦
    isDigit_of_mem_decimal hc
  have hne := decimal_ne_nil n
  have hstrip : strip (Output.decimal n) = Output.decimal n :=
    (clear_of_digits hdigits).strip_eq.trans (phrase_of_digits hne hdigits).trim
  have hshort : (Output.decimal n).length ≤ 4300 := (length_decimal_le h).trans (by decide)
  rw [int, hstrip, signed_digits hdigits]
  dsimp only
  rw [digits_self hne hdigits, Option.filter_some, if_pos (decide_eq_true hshort), Option.map_some]
  exact congrArg (fun m : ℕ ↦ some (m : ℤ)) (numberOf_decimal n)

/-- The specificity is read. -/
theorem readLines_specificity (h : Legible w) (hcurrent : p.current = some raw)
    (hnone : raw.specificity = none) (number : ℕ) :
    readLines path addressFamily p number
        (w.specificity.map fun n ↦ fieldText (literal "SPECIFICITY", Output.decimal n)).toList =
      .ok { p with current := some { raw with specificity := w.specificity.map Nat.cast } } := by
  rcases hcase : w.specificity with _ | n
  · refine congrArg Except.ok ?_
    rw [Option.map_none, ← hnone, ← hcurrent]
  · have hdigits : ∀ c ∈ Output.decimal n, isDigit c = true := fun c hc ↦
      isDigit_of_mem_decimal hc
    have hread : featureLine path addressFamily number p.nativeIds raw (literal "SPECIFICITY")
        (Output.decimal n) = .ok ({ raw with specificity := some (n : ℤ) }, p.nativeIds) := by
      have hvalue := int_decimal (lt_of_le_of_lt (h.readable.specificity n hcase).2 (by decide))
      have hne : literal "SPECIFICITY" ≠ literal "ID" := by decide
      have hfirst : ¬ raw.specificity.isSome = true := by
        rw [hnone]
        exact Bool.false_ne_true
      rw [featureLine, if_neg hne, if_pos rfl, if_neg hfirst, hvalue]
      dsimp only
      rw [if_neg (not_lt.mpr (Int.natCast_nonneg n))]
    have hone := parseLine_field path addressFamily hcurrent
      (isKey_of_all (literal "SPECIFICITY") (by decide))
      (phrase_of_digits (decimal_ne_nil n) hdigits) (clear_of_digits hdigits) number
    rw [hread] at hone
    rw [Option.map_some, Option.toList_some, readLines_cons hone]
    rfl

/-- The family is read. -/
theorem readLines_family (hfamily : lower addressFamily = Output.addressFamilyName family)
    (hcurrent : p.current = some raw) (number : ℕ) :
    readLines path addressFamily p number
        (if family = .ipv6 then [literal "ADDRESS_FAMILY=IPv6"] else []) = .ok p := by
  split_ifs with hipv6
  · subst hipv6
    have hread : featureLine path addressFamily number p.nativeIds raw (literal "ADDRESS_FAMILY")
        (literal "IPv6") = .ok (raw, p.nativeIds) := by
      have hdeclared : normalizedFamily path (literal "IPv6") number =
          .ok (Output.addressFamilyName .ipv6) := rfl
      rw [featureLine, if_neg (by decide), if_neg (by decide), if_pos rfl, hdeclared, hfamily]
      dsimp only [bind, Except.bind]
      exact if_neg (not_not.mpr rfl)
    have hone := parseLine_field path addressFamily hcurrent
      (isKey_of_all (literal "ADDRESS_FAMILY") (by decide))
      (phrase_of_all (literal "IPv6") (by decide)) (clear_literal (by decide))
      number
    rw [hread] at hone
    have hsame : ({ p with current := some raw, nativeIds := p.nativeIds } : Parsing) = p := by
      rw [← hcurrent]
    exact (readLines_cons hone []).trans (congrArg Except.ok hsame)
  · rfl

theorem clear_parts (h : Legible w) (hleft : Clear layout.left) (hright : Clear layout.right) :
    Clear (w.parts layout) := by
  have hclass := h.classParts
  simp only [List.forall_mem_cons] at hclass
  have hbar : Clear (layout.left ++ 0x7C :: layout.right) :=
    hleft.append (List.forall_mem_cons.mpr ⟨by decide, hright⟩)
  exact ((((((hclass.1.append hbar).append hclass.2.1).append hbar).append hclass.2.2.1).append
    hbar).append hclass.2.2.2.1)

/-- The class is read. -/
theorem classLine_parts (h : Legible w) (hleft : Clear layout.left) (hright : Clear layout.right)
    (hnone : raw.classParts = none) (number : ℕ) :
    classLine path number raw (literal "Class " ++ w.parts layout) =
      .ok { raw with classParts := some (classOf w) } := by
  have hclear := clear_parts h hleft hright
  have hdrop : (literal "Class " ++ w.parts layout).drop 6 = w.parts layout := rfl
  have hpieces : ((w.parts layout).splitOn 0x7C).map strip =
      [w.vendor, w.family, w.generation, w.deviceType] := by
    rw [← h.readable.splitTrimmed_parts layout]
    refine List.map_congr_left fun piece hpiece ↦ Clear.strip_eq fun c hc ↦ ?_
    exact hclear c (Strings.of_mem_splitOn hpiece hc).1
  have hfirst : ¬ raw.classParts.isSome = true := by
    rw [hnone]
    exact Bool.false_ne_true
  rw [classLine, if_neg hfirst, hdrop, hpieces]
  dsimp only
  rw [decide_eq_false h.readable.vendor.phrase.ne, decide_eq_false h.readable.family.phrase.ne,
    decide_eq_false h.readable.generation.phrase.ne,
    decide_eq_false h.readable.deviceType.phrase.ne]
  rfl

/-- **The lines of a fingerprint open it**, behind what was open before them. -/
theorem readLines_lines (h : Legible w) (hleft : Clear layout.left) (hright : Clear layout.right)
    (hfamily : lower addressFamily = Output.addressFamilyName family)
    (hflush : flush path p = .ok before) (hname : w.name ∉ before.names)
    (hid : ∀ id ∈ w.id, id ∉ before.nativeIds) (number : ℕ) :
    readLines path addressFamily p number (w.lines layout family) =
      .ok { before with
        names := w.name :: before.names
        nativeIds := w.id.toList ++ before.nativeIds
        current := some (rawOf w number before.rawRecords.length) } := by
  have hheader := parseLine_header addressFamily hflush h.name hname number
  rw [Written.lines, List.append_assoc, List.append_assoc, List.append_assoc, List.append_assoc,
    List.singleton_append, List.singleton_append, readLines_cons hheader]
  -- each line is read behind what the ones before it have left
  have hids := readLines_id path addressFamily h (p := { before with
    names := w.name :: before.names
    current := some { name := w.name, line := number, order := before.rawRecords.length } })
    rfl rfl hid (number + 1)
  refine Eq.trans (readLines_append hids _) ?_
  refine Eq.trans (readLines_append (readLines_specificity h rfl rfl _) _) ?_
  refine Eq.trans (readLines_append (readLines_family hfamily rfl _) _) ?_
  refine Eq.trans (readLines_cons (parseLine_class addressFamily rfl
    (h.readable.phrase_parts layout) (clear_parts h hleft hright)
    (classLine_parts h hleft hright rfl _)) _) ?_
  refine readLines_fields h.readable.fields h.fields (p := { before with
    names := w.name :: before.names
    nativeIds := w.id.toList ++ before.nativeIds
    current := some { rawOf w number before.rawRecords.length with features := [] } }) rfl ?_ _
  exact h.keys

/-! ### The lines of a database -/

/-- What the dictionaries that are closed stand for. -/
def writtenOf (entries : List (RawRecord × ClassParts)) : List Written :=
  entries.map fun entry ↦ entry.1.written entry.2

theorem readLines_gap {gap : List Text} (h : ∀ line ∈ gap, line = []) (p : Parsing)
    (number : ℕ) : readLines path addressFamily p number gap = .ok p := by
  induction gap generalizing number with
  | nil => rfl
  | cons line gap ih =>
    obtain ⟨rfl, hgap⟩ := List.forall_mem_cons.mp h
    have hblank : parseLine path addressFamily p ([], number) = .ok p := rfl
    rw [readLines_cons hblank]
    exact ih hgap (number + 1)

/-- The fingerprint that is open behind its lines can be closed. -/
theorem flush_rawOf (h : Legible w) {line order : ℕ}
    (hcurrent : p.current = some (rawOf w line order)) :
    flush path p = .ok { p with
      rawRecords := p.rawRecords ++ [(rawOf w line order, classOf w)]
      current := none } := by
  rw [flush, hcurrent]
  exact if_neg h.readable.fields_ne

/-- The fingerprints are new to the tools. -/
structure Unread (p : Parsing) (ws : List Written) : Prop where
  names : (ws.map (·.name)).Nodup
  ids : (ws.filterMap (·.id)).Nodup
  name_new : ∀ w ∈ ws, w.name ∉ p.names
  id_new : ∀ w ∈ ws, ∀ id ∈ w.id, id ∉ p.nativeIds

theorem Unread.tail (h : Unread p (w :: ws)) :
    Unread { p with names := w.name :: p.names, nativeIds := w.id.toList ++ p.nativeIds } ws := by
  obtain ⟨hname, hnames⟩ := List.nodup_cons.mp h.names
  have hids := h.ids
  rw [List.filterMap_cons] at hids
  exact {
    names := hnames
    ids := by
      split at hids
      · exact hids
      · exact hids.of_cons
    name_new := fun other hother hmem ↦ by
      rcases List.mem_cons.mp hmem with heq | hmem
      · exact hname (List.mem_map.mpr ⟨other, hother, heq⟩)
      · exact h.name_new other (List.mem_cons_of_mem w hother) hmem
    id_new := fun other hother id hid hmem ↦ by
      rcases List.mem_append.mp hmem with hmem | hmem
      · rw [Option.mem_toList.mp hmem] at hids
        exact (List.nodup_cons.mp hids).1 (List.mem_filterMap.mpr ⟨other, hother, hid⟩)
      · exact h.id_new other (List.mem_cons_of_mem w hother) id hid hmem }

variable (path) in
/-- **The lines of several fingerprints** are read in their order. -/
theorem readLines_writtenLines (hleft : Clear layout.left) (hright : Clear layout.right)
    (hfamily : lower addressFamily = Output.addressFamilyName family) (h : ∀ w ∈ ws, Legible w)
    (hflush : flush path p = .ok before) (hunread : Unread before ws) (number : ℕ) :
    ∃ after, (readLines path addressFamily p number (writtenLines layout family ws)).bind
        (flush path) = .ok after ∧
      writtenOf after.rawRecords = writtenOf before.rawRecords ++ ws := by
  induction ws generalizing p before number with
  | nil => exact ⟨before, hflush, (List.append_nil _).symm⟩
  | cons w ws ih =>
    obtain ⟨hw, hws⟩ := List.forall_mem_cons.mp h
    have hlines := readLines_lines hw hleft hright hfamily hflush
      (hunread.name_new w List.mem_cons_self) (hunread.id_new w List.mem_cons_self) number
    have hclosed := @flush_rawOf path w { before with
      names := w.name :: before.names
      nativeIds := w.id.toList ++ before.nativeIds
      current := some (rawOf w number before.rawRecords.length) } hw _ _ rfl
    have hrest := hunread.tail
    obtain ⟨after, hafter, hwritten⟩ := ih hws hclosed ⟨hrest.names, hrest.ids, hrest.name_new,
      hrest.id_new⟩ (number + (w.lines layout family).length + layout.gap.length)
    refine ⟨after, ?_, ?_⟩
    · rcases ws with _ | ⟨next, ws⟩
      · rw [writtenLines, List.map_singleton, List.intercalate_singleton, hlines]
        exact hafter
      · rw [writtenLines, List.map_cons, List.map_cons, List.intercalate_cons_cons,
          List.append_assoc, readLines_append hlines,
          readLines_append (readLines_gap layout.gap_blank _ _)]
        exact hafter
    · rw [hwritten, writtenOf, writtenOf, List.map_append, List.map_singleton, written_rawOf,
        List.append_assoc, List.singleton_append]

/-! ### The text of a database -/

/-- The lines of text that is clear between its ends of lines. -/
theorem allowed_textOf {lines : List Text} (h : ∀ line ∈ lines, Clear line) :
    Allowed (textOf lines) := by
  have hend : ∀ c ∈ [(0x0A : UInt8)], c < 0x7F ∧ (c < 0x20 → c = 0x09 ∨ c = 0x0A) :=
    List.forall_mem_singleton.mpr (by decide)
  rw [Allowed, textOf, List.forall_mem_append]
  refine ⟨(Strings.forall_mem_intercalate hend _).mpr fun line hline c hc ↦ ?_, hend⟩
  exact ⟨(h line hline c hc).1, fun hcontrol ↦ .inl ((h line hline c hc).2 hcontrol)⟩

/-- Every written line is clear. -/
theorem clear_lines (h : Legible w) (hleft : Clear layout.left) (hright : Clear layout.right)
    (family : AddressFamily) : ∀ line ∈ w.lines layout family, Clear line := by
  rw [Written.lines]
  simp only [List.forall_mem_append, List.forall_mem_singleton, List.forall_mem_map]
  refine ⟨⟨⟨⟨⟨(clear_literal (by decide)).append (clear_of_isName h.name), ?_⟩, ?_⟩, ?_⟩,
    (clear_literal (by decide)).append (clear_parts h hleft hright)⟩, fun field hfield ↦ ?_⟩
  · rcases hcase : w.id with _ | id
    · exact fun line hline ↦ absurd hline List.not_mem_nil
    · exact List.forall_mem_singleton.mpr
        (clear_field (isKey_of_all (literal "ID") (by decide)) (h.id id hcase))
  · rcases w.specificity with _ | n
    · exact fun line hline ↦ absurd hline List.not_mem_nil
    · exact List.forall_mem_singleton.mpr
        (clear_field (isKey_of_all (literal "SPECIFICITY") (by decide))
          (clear_of_digits fun c hc ↦ isDigit_of_mem_decimal hc))
  · split_ifs
    · exact List.forall_mem_singleton.mpr (clear_literal (by decide))
    · exact fun line hline ↦ absurd hline List.not_mem_nil
  · exact clear_field (h.readable.fields field hfield).key (h.fields field hfield).2

theorem allowed_writtenLines (hleft : Clear layout.left) (hright : Clear layout.right)
    (family : AddressFamily) (h : ∀ w ∈ ws, Legible w) :
    Allowed (textOf (writtenLines layout family ws)) := by
  refine allowed_textOf ((Strings.forall_mem_intercalate (fun line hline ↦ ?_) _).mpr
    (List.forall_mem_map.mpr fun w hw ↦ clear_lines (h w hw) hleft hright family))
  rw [layout.gap_blank line hline]
  exact fun c hc ↦ absurd hc List.not_mem_nil

variable (path) in
/-- **What is written down is read by the tools.** -/
theorem parseLines_textOf (layout : Layout) (hleft : Clear layout.left)
    (hright : Clear layout.right)
    (hfamily : lower addressFamily = Output.addressFamilyName family) (hne : ws ≠ [])
    (h : ∀ w ∈ ws, Legible w) (hunread : Unread {} ws) :
    ∃ entries, parseLines path addressFamily (textOf (writtenLines layout family ws)) =
      .ok entries ∧ writtenOf entries = ws := by
  obtain ⟨after, hafter, hwritten⟩ := readLines_writtenLines path (p := {}) hleft hright
    hfamily h rfl hunread 1
  have hsplit : splitLines (textOf (writtenLines layout family ws)) =
      writtenLines layout family ws := by
    rw [(allowed_writtenLines hleft hright family h).splitLines_eq, lines_textOf]
    · rintro hnil
      rw [hnil] at hafter
      obtain rfl := Except.ok.inj hafter
      exact hne hwritten.symm
    · exact newline_notMem_writtenLines layout fun w hw ↦ (h w hw).readable
  refine ⟨after.rawRecords, ?_, hwritten⟩
  rw [parseLines, hsplit]
  rcases hread : readLines path addressFamily {} 1 (writtenLines layout family ws) with error | p
  · rw [hread] at hafter
    exact nomatch hafter
  · rw [hread] at hafter
    rw [readLines] at hread
    rw [hread]
    dsimp only [Except.bind] at hafter
    dsimp only [bind, Except.bind]
    rw [hafter]
    rfl

end Lines

end Skan.Corpus.RuntimeOsDb
