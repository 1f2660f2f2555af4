import Skan.Corpus.OsEmission
import Skan.Corpus.OsWritten

/-!
# The migration of OS fingerprint databases

What both readers accept is emitted again. The scanner reads it back as it was, up to the order in
which a fingerprint has its signatures, if it is not too large for it (`emitOsDb_parseOsDb`): the
emitter has its own spaces and blank lines, and these count too (`largeText_not_migrated`).
-/

namespace Skan.Corpus.RuntimeOsDb

open Skan.Core Skan.Db
open Skan.Db.OsDb (Written ReadableField writtenLines textOf)

variable {stableRecordId : CanonicalRecord → Text} {family : AddressFamily} {n : ℕ}

/-! ### Reading what was emitted -/

/-- No id is empty, so none is replaced when the fingerprint is closed. -/
theorem RawRecord.Readable.id {raw : RawRecord} (h : raw.Readable) (parts : ClassParts) :
    ((raw.written parts).fingerprint family).id = raw.nativeId.getD raw.name := by
  have hne : raw.nativeId.getD raw.name ≠ [] := by
    rcases hcase : raw.nativeId with _ | nativeId
    · exact (phrase_of_isName h.name).ne
    · exact (h.nativeId nativeId hcase).1.ne
  exact if_neg hne

variable {path addressFamily text : Text} {entries : List (RawRecord × ClassParts)}

/-- **What both readers accept** is the same, and it can be emitted. -/
theorem read_by_both (hallowed : Allowed text) (hknown : family = .ipv4 ∨ family = .ipv6)
    (hread : parseLines path addressFamily text = .ok entries)
    (haccepted : (OsDb.parse family text).status = .ok) :
    (OsDb.parse family text).database.fingerprints =
        entries.map (fun (raw, parts) ↦ (raw.written parts).fingerprint family) ∧
      Emittable entries ∧ entries.map (·.1.order) = List.range entries.length := by
  have hwell := OsDb.parse_wellFormed haccepted
  -- the state of either reader behind the last line, and behind what is closed at the end
  rw [parseLines] at hread
  rcases hp : ((splitLines text).zipIdx 1).foldlM (parseLine path addressFamily) {} with error | p
  · rw [hp] at hread
    cases hread
  rw [hp] at hread
  dsimp only [bind, Except.bind] at hread
  rcases hflush : flush path p with error | p'
  · rw [hflush] at hread
    cases hread
  rw [hflush] at hread
  obtain rfl := Except.ok.inj hread
  obtain ⟨s, s', hs, hfinalize, hfingerprints⟩ : ∃ s s',
      (Detect.ServiceDb.lines text).foldlM (OsDb.osLine family) {} = some s ∧
        OsDb.finalize family s = some s' ∧
        (OsDb.parse family text).database.fingerprints = s'.fingerprints := by
    rw [OsDb.parse] at haccepted ⊢
    split_ifs at haccepted ⊢
    dsimp only at haccepted ⊢
    split at haccepted
    · cases haccepted
    · rename_i s' hboth
      obtain ⟨s, hs, hs'⟩ := Option.bind_eq_some_iff.mp hboth
      split_ifs at haccepted ⊢
      exact ⟨s, s', hs, hs', rfl⟩
  obtain ⟨hagree, -, -, -⟩ := (agree_of_read hallowed hknown hp hs).flush hflush hfinalize
  rw [hfingerprints, hagree.fingerprints] at hwell ⊢
  refine ⟨rfl, ⟨fun entry hentry ↦ (hagree.closed entry hentry).2.1, fun entry hentry ↦ ?_, ?_, ?_⟩,
    hagree.orders⟩
  · obtain ⟨hparts, hreadable, hne⟩ := hagree.closed entry hentry
    exact hreadable.emitted hparts hne (hwell.accepted _ (List.mem_map_of_mem hentry))
  · have hnames := hwell.names
    rw [List.map_map] at hnames
    exact hnames
  · have hids := hwell.ids
    rw [List.map_map] at hids
    rwa [← List.map_congr_left fun entry hentry ↦ (hagree.closed entry hentry).2.1.id entry.2]

variable (stableRecordId) in
/-- **The migration**: what both readers accept is emitted, and then the scanner reads the
fingerprints as they were emitted, unless the text is too large. -/
theorem emit_of_read_by_both (hallowed : Allowed text) (hknown : family = .ipv4 ∨ family = .ipv6)
    (hread : parseLines path addressFamily text = .ok entries)
    (haccepted : (OsDb.parse family text).status = .ok) :
    let emitted := textOf (emittedLines family entries)
    emitOsDb (entries.map (recordOf stableRecordId family)) = .ok emitted ∧
      ((OsDb.parse family emitted).status = .ok ↔
        emitted.length ≤ OsDb.maximumDatabaseBytes) ∧
      ((OsDb.parse family emitted).status = .ok →
        (OsDb.parse family emitted).database.fingerprints =
          entries.map fun (raw, parts) ↦ (raw.emitted parts).fingerprint family) := by
  obtain ⟨hfingerprints, hemittable, horders⟩ := read_by_both hallowed hknown hread haccepted
  have hwell := OsDb.parse_wellFormed haccepted
  rw [hfingerprints] at hwell
  have hne : entries ≠ [] := by
    rintro rfl
    exact Nat.not_succ_le_zero 0 hwell.nonempty
  have hcount := hwell.count
  rw [List.length_map] at hcount
  have hfresh : OsDb.Fresh family {} (entries.map fun entry ↦ entry.1.emitted entry.2) :=
    { names := by
        rw [List.map_map]
        exact hemittable.names
      ids := by
        have hids := hwell.ids
        rw [List.map_map] at hids ⊢
        exact hids
      name_new := fun _ _ ↦ List.not_mem_nil
      id_new := fun _ _ ↦ List.not_mem_nil
      room := by
        rw [List.length_map, List.length_nil, Nat.zero_add]
        exact hcount }
  obtain ⟨hsize, hreread⟩ := OsDb.parse_textOf .spaced (List.map_eq_nil_iff.not.mpr hne)
    (List.forall_mem_map.mpr hemittable.emitted) hknown hfresh
  rw [List.map_map] at hreread
  exact ⟨emitOsDb_records stableRecordId hknown hne hemittable horders, hsize, hreread⟩

/-- The records of a database are made of raw ones. -/
theorem of_parseOsDb {records : List CanonicalRecord}
    (hfamily : lower addressFamily = Output.addressFamilyName family)
    (h : parseOsDb stableRecordId path addressFamily text = .ok records) :
    (family = .ipv4 ∨ family = .ipv6) ∧ ∃ entries,
      parseLines path addressFamily text = .ok entries ∧
        records = entries.map (recordOf stableRecordId family) := by
  have hknown : Output.addressFamilyName family ∈ allowedFamilies →
      family = .ipv4 ∨ family = .ipv6 := by
    cases family <;> decide
  simp only [parseOsDb, hfamily] at h
  by_cases hallowed : Output.addressFamilyName family ∈ allowedFamilies
  · refine ⟨hknown hallowed, ?_⟩
    simp only [hallowed, not_true_eq_false, if_false] at h
    rcases hread : parseLines path addressFamily text with error | entries
    · rw [hread] at h
      exact nomatch h
    · rw [hread] at h
      dsimp only [bind, Except.bind] at h
      split_ifs at h
      exact ⟨entries, rfl, (Except.ok.inj h).symm⟩
  · simp only [hallowed, not_false_eq_true, if_true] at h
    exact nomatch h

theorem parseOsDb_of_read (hfamily : lower addressFamily = Output.addressFamilyName family)
    (hknown : family = .ipv4 ∨ family = .ipv6)
    (hread : parseLines path addressFamily text = .ok entries) (hne : entries ≠ []) :
    parseOsDb stableRecordId path addressFamily text =
      .ok (entries.map (recordOf stableRecordId family)) := by
  have hallowed : Output.addressFamilyName family ∈ allowedFamilies := by
    rcases hknown with rfl | rfl <;> decide
  simp only [parseOsDb, hfamily, hallowed, hread, not_true_eq_false, if_false]
  dsimp only [bind, Except.bind]
  rw [if_neg hne]
  rfl

/-- **Migration loses nothing but room.** Of a text that both readers accept for one family, the
emitter makes a text that the scanner accepts exactly if it is not too large; and then it has the
same fingerprints in the same order, each with the same signatures. -/
theorem emitOsDb_parseOsDb {records : List CanonicalRecord} (hallowed : Allowed text)
    (hfamily : lower addressFamily = Output.addressFamilyName family)
    (hread : parseOsDb stableRecordId path addressFamily text = .ok records)
    (haccepted : (OsDb.parse family text).status = .ok) :
    ∃ emitted, emitOsDb records = .ok emitted ∧
      ((OsDb.parse family emitted).status = .ok ↔
        emitted.length ≤ OsDb.maximumDatabaseBytes) ∧
      ((OsDb.parse family emitted).status = .ok →
        List.Forall₂ SameFingerprint (OsDb.parse family text).database.fingerprints
          (OsDb.parse family emitted).database.fingerprints) := by
  obtain ⟨hknown, entries, hentries, rfl⟩ := of_parseOsDb hfamily hread
  obtain ⟨hfingerprints, -, -⟩ := read_by_both hallowed hknown hentries haccepted
  obtain ⟨hemit, hsize, hreread⟩ :=
    emit_of_read_by_both stableRecordId hallowed hknown hentries haccepted
  refine ⟨_, hemit, hsize, fun hok ↦ ?_⟩
  rw [hfingerprints, hreread hok, List.forall₂_map_left_iff, List.forall₂_map_right_iff]
  exact List.forall₂_same.mpr fun entry _ ↦ same_emitted family entry.1 entry.2

/-- Two fingerprints, of which only one has an id and a specificity. -/
def migratedText : Text :=
  literal ("Fingerprint a # first\nClass V|F | G|D\nTTL=064\nMSS=1460\nID=x\nSPECIFICITY=07\n" ++
    "Fingerprint b\n\tTTL_RANGE = 60-64\nClass W | F | G | D")

theorem emitOsDb_parseOsDb_two : ∃ records emitted,
    parseOsDb (fun _ ↦ []) [] (literal "IPv4") migratedText = .ok records ∧
      emitOsDb records = .ok emitted ∧
      ((OsDb.parse .ipv4 emitted).status = .ok ↔
        emitted.length ≤ OsDb.maximumDatabaseBytes) ∧
      ((OsDb.parse .ipv4 emitted).status = .ok →
        List.Forall₂ SameFingerprint (OsDb.parse .ipv4 migratedText).database.fingerprints
          (OsDb.parse .ipv4 emitted).database.fingerprints) := by
  obtain ⟨records, hrecords⟩ : ∃ records,
      parseOsDb (fun _ ↦ []) [] (literal "IPv4") migratedText = .ok records := ⟨_, rfl⟩
  have hallowed : Allowed migratedText := by
    rw [Allowed]
    decide +kernel
  have hfamily : lower (literal "IPv4") = Output.addressFamilyName .ipv4 := by decide
  have haccepted : (OsDb.parse .ipv4 migratedText).status = .ok := by decide +kernel
  obtain ⟨emitted, hemitted⟩ := emitOsDb_parseOsDb hallowed hfamily hrecords haccepted
  exact ⟨records, emitted, hrecords, hemitted⟩

/-! ### A database without room -/

/-- The keys of the fields, and how many zeros there are in their numbers. -/
def largeKeys : List (Text × ℕ) :=
  [(literal "ICMP_CODE", 4084), (literal "ICMP_TTL", 4084), (literal "ICMP_TYPE", 4084),
    (literal "MSS", 4084), (literal "TCP_FLAGS", 4084), (literal "TTL", 4084),
    (literal "WINDOW", 4084), (literal "WSCALE", 4082)]

/-- A fingerprint of 32768 bytes where it is written without spaces, named by two digits. -/
def largeFingerprint (n : ℕ) : Written where
  name := [UInt8.ofNat (0x30 + n / 10), UInt8.ofNat (0x30 + n % 10)]
  vendor := literal "a"
  family := literal "b"
  generation := literal "c"
  deviceType := literal "d"
  fields := largeKeys.map fun (key, zeros) ↦ (key, List.replicate zeros 0x30)

def largeFingerprints : List Written := (List.range 32).map largeFingerprint

/-- A database of 1048576 bytes, as many as the scanner takes. -/
def largeText : Text := textOf (writtenLines .tight .ipv4 largeFingerprints)

theorem numberOf_zeros (n : ℕ) : OsDb.numberOf (List.replicate n 0x30) = 0 := by
  induction n with
  | zero => rfl
  | succ n ih => exact ih

theorem digits_zeros (n : ℕ) : ∀ c ∈ List.replicate n (0x30 : UInt8), isDigit c = true := by
  intro c hc
  rw [List.eq_of_mem_replicate hc]
  decide

theorem signature_zeros {key : Text} {field : FingerprintField}
    (hkey : OsDb.numberField key = some field) (hpos : 0 < n) :
    OsDb.signature key (List.replicate n 0x30) = some { field, number := some 0 } := by
  have hne : List.replicate n (0x30 : UInt8) ≠ [] := by
    rw [Ne, List.replicate_eq_nil_iff]
    exact hpos.ne'
  have hnumber : OsDb.parseInteger (List.replicate n 0x30) = some 0 := by
    rw [OsDb.parseInteger_digits hne (digits_zeros n), numberOf_zeros]
    · rfl
    · rw [numberOf_zeros]
      decide
  rw [OsDb.signature, hkey]
  dsimp only
  rw [hnumber]
  rfl

theorem largeKeys_facts : ∀ entry ∈ largeKeys, isFeature entry.1 = true ∧
    entry.1 ∉ [literal "ID", literal "SPECIFICITY", literal "ADDRESS_FAMILY"] ∧
    (OsDb.numberField entry.1).isSome = true ∧ 0 < entry.2 ∧
    entry.1.length + entry.2 < OsDb.maximumLineBytes := by
  decide +kernel

theorem readableField_zeros {entry : Text × ℕ} (h : entry ∈ largeKeys) :
    ReadableField (entry.1, List.replicate entry.2 0x30) := by
  obtain ⟨hfeature, hreserved, hnumber, hpos, hlength⟩ := largeKeys_facts entry h
  obtain ⟨field, hfield⟩ := Option.isSome_iff_exists.mp hnumber
  have hne : List.replicate entry.2 (0x30 : UInt8) ≠ [] := by
    rw [Ne, List.replicate_eq_nil_iff]
    exact hpos.ne'
  refine ⟨isKey_of_isFeature hfeature, hreserved, OsDb.phrase_of_digits hne (digits_zeros _), ?_,
    _, signature_zeros hfield hpos, Nat.zero_le _, Nat.zero_le _⟩
  rw [Written.fieldText, List.length_append, List.length_cons, List.length_replicate]
  exact hlength

theorem readablePart_of_all (part : Text)
    (h : part ≠ [] ∧ part.all (fun c ↦ !OsDb.isBlank c && c ≠ 0x23 && c ≠ 0x0A) = true)
    (hbar : 0x7C ∉ part ∧ part.length ≤ OsDb.maximumStringBytes) : OsDb.ReadablePart part :=
  ⟨OsDb.phrase_of_all part h, hbar.1, hbar.2⟩

theorem signatures_large (n : ℕ) : (largeFingerprint n).signatures.map (·.field) =
    largeKeys.filterMap fun entry ↦ OsDb.numberField entry.1 := by
  rw [Written.signatures, largeFingerprint, List.filterMap_map, List.map_filterMap]
  refine List.filterMap_congr fun entry hentry ↦ ?_
  obtain ⟨-, -, hnumber, hpos, -⟩ := largeKeys_facts entry hentry
  obtain ⟨field, hfield⟩ := Option.isSome_iff_exists.mp hnumber
  show (OsDb.signature entry.1 (List.replicate entry.2 0x30)).map (·.field) = _
  rw [signature_zeros hfield hpos, hfield]
  rfl

theorem readable_large (h : isName (largeFingerprint n).name = true) :
    (largeFingerprint n).Readable where
  name := phrase_of_isName h
  name_le := (by decide : 2 ≤ OsDb.maximumStringBytes)
  id _ hid := nomatch hid
  specificity _ hn := nomatch hn
  vendor := readablePart_of_all (literal "a") (by decide) (by decide)
  family := readablePart_of_all (literal "b") (by decide) (by decide)
  generation := readablePart_of_all (literal "c") (by decide) (by decide)
  deviceType := readablePart_of_all (literal "d") (by decide) (by decide)
  fields := List.forall_mem_map.mpr fun _ hentry ↦ readableField_zeros hentry
  fields_ne := List.cons_ne_nil _ _
  fields_le := (by decide : 8 ≤ OsDb.maximumSignatures)
  distinct := by
    rw [signatures_large]
    decide

theorem legible_large (hn : n < 32) : Legible (largeFingerprint n) := by
  have hnames : ∀ n < 32, isName (largeFingerprint n).name = true := by decide
  exact {
    readable := readable_large (hnames n hn)
    name := hnames n hn
    id := fun _ hid ↦ nomatch hid
    classParts := by
      show ∀ part ∈ [literal "a", literal "b", literal "c", literal "d"], Clear part
      simp only [List.forall_mem_cons]
      exact ⟨clear_literal (by decide), clear_literal (by decide), clear_literal (by decide),
        clear_literal (by decide), List.forall_mem_nil _⟩
    fields := List.forall_mem_map.mpr fun entry hentry ↦
      ⟨(largeKeys_facts entry hentry).1, clear_of_digits (digits_zeros entry.2)⟩
    keys := by
      rw [largeFingerprint, List.map_map]
      exact (by decide : (largeKeys.map (·.1)).Nodup) }

theorem forall_large {p : Written → Prop} (h : ∀ n < 32, p (largeFingerprint n)) :
    ∀ w ∈ largeFingerprints, p w :=
  List.forall_mem_map.mpr fun n hn ↦ h n (List.mem_range.mp hn)

theorem bytes_large (n : ℕ) (layout : OsDb.Layout) :
    OsDb.bytes ((largeFingerprint n).lines layout .ipv4) =
      32768 + 3 * (layout.left.length + layout.right.length) := by
  have hfields : OsDb.bytes ((largeFingerprint n).fields.map Written.fieldText) =
      (largeKeys.map fun entry ↦ entry.1.length + entry.2 + 2).sum := by
    rw [OsDb.bytes, largeFingerprint, List.map_map, List.map_map]
    refine congrArg List.sum (List.map_congr_left fun entry _ ↦ ?_)
    show (entry.1 ++ 0x3D :: List.replicate entry.2 0x30).length + 1 = _
    rw [List.length_append, List.length_cons, List.length_replicate]
    omega
  have hsum : (largeKeys.map fun entry ↦ entry.1.length + entry.2 + 2).sum = 32739 := by decide
  have hheader : (literal "Fingerprint " ++ (largeFingerprint n).name).length = 14 := rfl
  have hclass : (literal "Class " ++ (largeFingerprint n).parts layout).length =
      13 + 3 * (layout.left.length + layout.right.length) := by
    have hkey : (literal "Class ").length = 6 := by decide
    have hparts : (literal "a").length = 1 ∧ (literal "b").length = 1 ∧ (literal "c").length = 1 ∧
        (literal "d").length = 1 := by decide
    simp only [Written.parts, largeFingerprint, List.length_append, List.length_cons, hkey, hparts]
    omega
  have hid : (largeFingerprint n).id = none := rfl
  have hspecificity : (largeFingerprint n).specificity = none := rfl
  rw [Written.lines, OsDb.bytes_append, hfields, hsum, hid, hspecificity, if_neg (by decide)]
  simp only [Option.map_none, Option.toList_none, List.append_nil, OsDb.bytes_append,
    OsDb.bytes_cons, OsDb.bytes_nil, hheader, hclass]
  omega

theorem bytes_emitted (raw : RawRecord) (parts : ClassParts) (layout : OsDb.Layout)
    (family : AddressFamily) : OsDb.bytes ((raw.emitted parts).lines layout family) =
      OsDb.bytes ((raw.written parts).lines layout family) := by
  have hperm := ((sortedFeatures_perm raw.features).map Written.fieldText).map (·.length + 1)
  have hfields : OsDb.bytes ((sortedFeatures raw.features).map Written.fieldText) =
      OsDb.bytes (raw.features.map Written.fieldText) := hperm.sum_nat
  simp only [Written.lines, RawRecord.emitted, OsDb.bytes_append, hfields]
  rfl

/-- The order of the features does not change how much is emitted. -/
theorem bytes_emittedLines (family : AddressFamily) {entries : List (RawRecord × ClassParts)}
    (hne : entries ≠ []) : OsDb.bytes (emittedLines family entries) =
      OsDb.bytes (writtenLines .spaced family (writtenOf entries)) := by
  refine Nat.add_right_cancel ((OsDb.bytes_writtenLines family .spaced
    (List.map_eq_nil_iff.not.mpr hne)).trans (Eq.trans ?_ (OsDb.bytes_writtenLines family .spaced
      (List.map_eq_nil_iff.not.mpr hne)).symm))
  rw [List.map_map, List.map_map]
  refine congrArg List.sum (List.map_congr_left fun entry _ ↦ ?_)
  exact congrArg (· + _) (bytes_emitted entry.1 entry.2 .spaced family)

theorem bytes_largeLines (layout : OsDb.Layout) :
    OsDb.bytes (writtenLines layout .ipv4 largeFingerprints) + OsDb.bytes layout.gap =
      32 * (32768 + 3 * (layout.left.length + layout.right.length) + OsDb.bytes layout.gap) := by
  have hne : largeFingerprints ≠ [] := List.cons_ne_nil (largeFingerprint 0) _
  rw [OsDb.bytes_writtenLines .ipv4 layout hne, largeFingerprints, List.map_map]
  have hconst : (List.range 32).map ((fun w ↦ OsDb.bytes (w.lines layout .ipv4) +
      OsDb.bytes layout.gap) ∘ largeFingerprint) =
      (List.range 32).map fun _ ↦
        32768 + 3 * (layout.left.length + layout.right.length) + OsDb.bytes layout.gap :=
    List.map_congr_left fun n _ ↦ by rw [Function.comp_apply, bytes_large]
  rw [hconst, List.map_const', List.sum_replicate_nat, List.length_range]

theorem length_textOf_large (layout : OsDb.Layout) :
    (textOf (writtenLines layout .ipv4 largeFingerprints)).length =
      OsDb.bytes (writtenLines layout .ipv4 largeFingerprints) := by
  refine OsDb.length_textOf fun hnil ↦ ?_
  have hbytes := bytes_largeLines layout
  rw [hnil, OsDb.bytes_nil] at hbytes
  omega

theorem length_largeText : largeText.length = 1048576 := by
  have hbytes := bytes_largeLines .tight
  have hgap : OsDb.bytes OsDb.Layout.tight.gap = 0 := rfl
  have hsides : OsDb.Layout.tight.left.length + OsDb.Layout.tight.right.length = 0 := rfl
  rw [hgap, hsides, Nat.add_zero] at hbytes
  rw [largeText, length_textOf_large, hbytes]

theorem fresh_large : OsDb.Fresh .ipv4 {} largeFingerprints where
  names := by decide
  ids := by decide
  name_new := fun _ _ ↦ List.not_mem_nil
  id_new := fun _ _ ↦ List.not_mem_nil
  room := by decide

theorem unread_large : Unread {} largeFingerprints where
  names := by decide
  ids := by decide
  name_new := fun _ _ ↦ List.not_mem_nil
  id_new := fun _ _ _ _ ↦ List.not_mem_nil

/-- **What both readers accept need not be accepted again**: the spaces and the blank lines of the
emitter leave no room for the database. -/
theorem largeText_not_migrated :
    Allowed largeText ∧ (OsDb.parse .ipv4 largeText).status = .ok ∧
      ∃ records emitted,
        parseOsDb (fun _ ↦ []) [] (literal "ipv4") largeText = .ok records ∧
          emitOsDb records = .ok emitted ∧ (OsDb.parse .ipv4 emitted).status ≠ .ok := by
  have hnil : Clear [] := fun _ hc ↦ absurd hc List.not_mem_nil
  have hne : largeFingerprints ≠ [] := List.cons_ne_nil (largeFingerprint 0) _
  have hlegible : ∀ w ∈ largeFingerprints, Legible w := forall_large fun n hn ↦ legible_large hn
  have hfamily : lower (literal "ipv4") = Output.addressFamilyName .ipv4 := by decide
  have hallowed : Allowed largeText := allowed_writtenLines hnil hnil .ipv4 hlegible
  obtain ⟨hsize, -⟩ := OsDb.parse_textOf .tight hne (fun w hw ↦ (hlegible w hw).readable)
    (.inl rfl) fresh_large
  have haccepted : (OsDb.parse .ipv4 largeText).status = .ok := hsize.mpr length_largeText.le
  obtain ⟨entries, hread, hwritten⟩ :=
    parseLines_textOf [] .tight hnil hnil hfamily hne hlegible unread_large
  have hentries : entries ≠ [] := by
    rintro rfl
    exact hne hwritten.symm
  obtain ⟨hemitted, hroom, -⟩ :=
    emit_of_read_by_both (fun _ ↦ []) hallowed (.inl rfl) hread haccepted
  refine ⟨hallowed, haccepted, _, _, parseOsDb_of_read hfamily (.inl rfl) hread hentries, hemitted,
    fun hok ↦ ?_⟩
  -- the spaces and the blank lines come to 223 bytes
  have hbytes := bytes_largeLines .spaced
  have hgap : OsDb.bytes OsDb.Layout.spaced.gap = 1 := rfl
  have hsides : OsDb.Layout.spaced.left.length + OsDb.Layout.spaced.right.length = 2 := rfl
  rw [hgap, hsides, ← hwritten, ← bytes_emittedLines .ipv4 hentries] at hbytes
  have hlines : emittedLines .ipv4 entries ≠ [] := by
    intro hnil
    rw [hnil, OsDb.bytes_nil] at hbytes
    omega
  have hlength := hroom.mp hok
  rw [OsDb.length_textOf hlines, OsDb.maximumDatabaseBytes] at hlength
  omega

end Skan.Corpus.RuntimeOsDb
