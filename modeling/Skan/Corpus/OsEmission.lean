import Skan.Corpus.OsReaders

/-!
# Emitting OS fingerprint databases

Fingerprints that both readers have read are emitted line by line, with the features of each in the
order of their keys, and none of the checks of `emit_os_db` fails (`emitOsDb_records`). What is
emitted is the same fingerprint, up to the order of its signatures (`same_emitted`).
-/

namespace Skan.Corpus.RuntimeOsDb

open Skan.Core Skan.Db
open Skan.Db.OsDb (Written ReadableField writtenLines textOf)

variable {parts : ClassParts} {raw : RawRecord}

/-! ### What is emitted -/

/-- The features in the order in which they are emitted. -/
def sortedFeatures (features : List (Text × Text)) : List (Text × Text) :=
  (features.mergeSort tupleLe).mergeSort fun left right ↦ left.1 ≤ right.1

theorem sortedFeatures_perm (features : List (Text × Text)) :
    (sortedFeatures features).Perm features :=
  (List.mergeSort_perm _ _).trans (List.mergeSort_perm _ _)

namespace RawRecord

/-- The fingerprint as it is emitted. -/
def emitted (raw : RawRecord) (parts : ClassParts) : Written :=
  { raw.written parts with fields := sortedFeatures raw.features }

theorem signatures_perm (raw : RawRecord) (parts : ClassParts) :
    (raw.written parts).signatures.Perm (raw.emitted parts).signatures :=
  ((sortedFeatures_perm raw.features).filterMap _).symm

end RawRecord

/-- The same fingerprint but for the order of its signatures. -/
structure SameFingerprint (original reread : OSFingerprint) : Prop where
  fields : reread = { original with signatures := reread.signatures }
  signatures : original.signatures.Perm reread.signatures

/-- **What is emitted is the same fingerprint**: a specificity that is left to the parser depends on
how many signatures there are, but not on their order. -/
theorem same_emitted (family : AddressFamily) (raw : RawRecord) (parts : ClassParts) :
    SameFingerprint ((raw.written parts).fingerprint family)
      ((raw.emitted parts).fingerprint family) where
  fields := by
    have hlength := (raw.signatures_perm parts).length_eq
    simp only [Written.fingerprint, OsDb.completed, Written.current, hlength]
    rfl
  signatures := raw.signatures_perm parts

theorem RawRecord.Readable.emitted {family : AddressFamily} (h : raw.Readable)
    (hparts : raw.classParts = some parts) (hne : raw.features ≠ [])
    (haccepted : OsDb.Accepted family ((raw.written parts).fingerprint family)) :
    (raw.emitted parts).Readable := by
  have hperm := sortedFeatures_perm raw.features
  have hclass := h.classParts parts hparts
  simp only [ClassParts.Readable, List.forall_mem_cons] at hclass
  obtain ⟨hvendor, hfamily, hgeneration, hdevice, -⟩ := hclass
  have hlength : (raw.written parts).signatures.length = raw.features.length := by
    refine List.filterMap_length_eq_length.mpr fun field hfield ↦ ?_
    obtain ⟨added, hadded, -⟩ := (h.features field hfield).2.signature
    exact Option.isSome_of_eq_some hadded
  exact {
    name := phrase_of_isName h.name
    name_le := haccepted.name_le
    id := h.nativeId
    specificity := by
      intro n hn
      obtain ⟨m, hm, rfl⟩ := Option.map_eq_some_iff.mp hn
      obtain ⟨hpos, hle⟩ := h.specificity m hm
      omega
    vendor := ⟨hvendor.1, hvendor.2, haccepted.vendor_le⟩
    family := ⟨hfamily.1, hfamily.2, haccepted.family_le⟩
    generation := ⟨hgeneration.1, hgeneration.2, haccepted.generation_le⟩
    deviceType := ⟨hdevice.1, hdevice.2, haccepted.deviceType_le⟩
    fields := fun field hfield ↦ (h.features field (hperm.mem_iff.mp hfield)).2
    fields_ne := fun hnil ↦ hne (List.Perm.eq_nil (hperm.symm.trans (.of_eq hnil)))
    fields_le := by
      show (sortedFeatures raw.features).length ≤ _
      rw [hperm.length_eq, ← hlength]
      exact haccepted.signatures_le
    distinct := (((raw.signatures_perm parts).map _).nodup_iff).mp haccepted.sound.fields }

/-! ### Emitting -/

/-- **The features of a fingerprint are emitted** as its fields. -/
theorem featureLines_eq (name : Text) {features : List (Text × Text)} {seen : List Text}
    (h : ∀ field ∈ features, isFeature field.1 = true ∧ field.2 ≠ [])
    (hkeys : (features.map (·.1)).Nodup) (hnew : ∀ field ∈ features, field.1 ∉ seen) :
    featureLines name seen features = .ok (features.map Written.fieldText) := by
  induction features generalizing seen with
  | nil => rfl
  | cons field features ih =>
    obtain ⟨hfield, hfeatures⟩ := List.forall_mem_cons.mp h
    obtain ⟨hkey, hkeys⟩ := List.nodup_cons.mp hkeys
    obtain ⟨hunseen, hrest⟩ := List.forall_mem_cons.mp hnew
    have hnext : ∀ other ∈ features, other.1 ∉ field.1 :: seen := by
      intro other hother hmem
      rcases List.mem_cons.mp hmem with heq | hmem
      · exact hkey (List.mem_map.mpr ⟨other, hother, heq⟩)
      · exact hrest other hother hmem
    rw [featureLines, hfield.1, decide_eq_false hunseen, decide_eq_false hfield.2,
      ih hfeatures hkeys hnext]
    rfl

theorem integer_pos {n : ℤ} (h : 0 < n) : integer n = Output.decimal n.toNat := by
  have hsame : n.natAbs = n.toNat := by omega
  rw [integer, if_neg (not_lt.mpr h.le), hsame]

/-- The record that is made of a raw one. -/
def recordOf (stableRecordId : CanonicalRecord → Text) (family : AddressFamily)
    (entry : RawRecord × ClassParts) : CanonicalRecord :=
  entry.1.record stableRecordId (Output.addressFamilyName family) entry.2

variable {stableRecordId : CanonicalRecord → Text} {family : AddressFamily}

theorem classText_record (h : (raw.emitted parts).Readable) :
    classText (recordOf stableRecordId family (raw, parts)) =
      some (literal "Class " ++ (raw.emitted parts).parts .spaced) := by
  have hvendor : parts.vendor ≠ [] := h.vendor.phrase.ne
  have hfamily : parts.osFamily ≠ [] := h.family.phrase.ne
  have hgeneration : parts.osGeneration ≠ [] := h.generation.phrase.ne
  have hdevice : parts.deviceType ≠ [] := h.deviceType.phrase.ne
  simp only [classText, recordOf, RawRecord.record, hvendor, hfamily, hgeneration, hdevice,
    decide_false, Bool.or_self, Bool.false_eq_true, if_false, Option.some_inj]
  simp only [Written.parts, RawRecord.emitted, RawRecord.written, List.append_assoc]
  rfl

variable (stableRecordId family) in
/-- **A record is emitted** as the lines of its fingerprint. -/
theorem emitRecord_eq (h : raw.Readable) (hemitted : (raw.emitted parts).Readable) {s : Emission}
    (hname : raw.name ∉ s.names) (hid : ∀ nativeId ∈ raw.nativeId, nativeId ∉ s.nativeIds)
    (count index : ℕ) :
    emitRecord (Output.addressFamilyName family) count s
        (recordOf stableRecordId family (raw, parts), index) =
      .ok {
        names := raw.name :: s.names
        nativeIds := raw.nativeId.toList ++ s.nativeIds
        lines := s.lines ++ (raw.emitted parts).lines .spaced family ++
          if index + 1 < count then [[]] else [] } := by
  have hperm := sortedFeatures_perm raw.features
  have hfeatures : featureLines raw.name [] (sortedFeatures raw.features) =
      .ok ((raw.emitted parts).fields.map Written.fieldText) := by
    refine featureLines_eq raw.name (fun field hfield ↦ ?_) ?_ fun _ _ ↦ List.not_mem_nil
    · obtain ⟨hkey, hreadable⟩ := h.features field (hperm.mem_iff.mp hfield)
      exact ⟨hkey, hreadable.value.ne⟩
    · exact ((hperm.map _).nodup_iff).mpr h.keys
  have hids : nativeIdLines s.nativeIds raw.nativeId =
      .ok ((raw.nativeId.map fun id ↦ Written.fieldText (literal "ID", id)).toList,
        raw.nativeId.toList ++ s.nativeIds) := by
    rcases hcase : raw.nativeId with _ | nativeId
    · rfl
    · have hne : nativeId ≠ [] := (h.nativeId nativeId hcase).1.ne
      rw [nativeIdLines, decide_eq_false hne, decide_eq_false (hid nativeId hcase)]
      rfl
  have hspecificity : specificityLines raw.name raw.specificity =
      .ok (((raw.emitted parts).specificity.map fun n ↦
        Written.fieldText (literal "SPECIFICITY", Output.decimal n)).toList) := by
    show _ = Except.ok (((raw.specificity.map Int.toNat).map _).toList)
    rcases hcase : raw.specificity with _ | n
    · rfl
    · have hpos := (h.specificity n hcase).1
      rw [specificityLines, if_neg (not_lt.mpr hpos.le), integer_pos hpos]
      rfl
  have hfeatures_ne : (recordOf stableRecordId family (raw, parts)).osFeatures ≠ [] := fun hnil ↦
    hemitted.fields_ne ((congrArg (List.mergeSort · _) hnil).trans (List.mergeSort_nil))
  have hname_get : (recordOf stableRecordId family (raw, parts)).fingerprintName.getD [] =
      raw.name := rfl
  have hfamily : Output.addressFamilyName family = literal "ipv6" ↔ family = .ipv6 := by
    cases family <;> decide
  simp only [emitRecord, hname_get, h.name, hname, classText_record hemitted, hfeatures_ne,
    Bool.not_true, Bool.false_eq_true, if_false, hfamily]
  show (nativeIdLines s.nativeIds raw.nativeId >>= fun ids ↦
    specificityLines raw.name raw.specificity >>= fun specificity ↦
      featureLines raw.name [] (sortedFeatures raw.features) >>= fun features ↦ _) = _
  rw [hids, hspecificity, hfeatures, Written.lines]
  simp only [← List.append_assoc]
  rfl

/-- Fingerprints that can be emitted together. -/
structure Emittable (entries : List (RawRecord × ClassParts)) : Prop where
  readable : ∀ entry ∈ entries, entry.1.Readable
  emitted : ∀ entry ∈ entries, (entry.1.emitted entry.2).Readable
  names : (entries.map (·.1.name)).Nodup
  ids : (entries.map fun entry ↦ entry.1.nativeId.getD entry.1.name).Nodup

/-- The lines of all fingerprints. -/
def emittedLines (family : AddressFamily) (entries : List (RawRecord × ClassParts)) : List Text :=
  writtenLines .spaced family (entries.map fun entry ↦ entry.1.emitted entry.2)

variable (stableRecordId family) in
/-- **The records are emitted** in their order, with a blank line between two of them. -/
theorem foldlM_emitRecord {entries : List (RawRecord × ClassParts)} (h : Emittable entries)
    {s : Emission} (hname : ∀ entry ∈ entries, entry.1.name ∉ s.names)
    (hid : ∀ entry ∈ entries, entry.1.nativeId.getD entry.1.name ∉ s.nativeIds) (index count : ℕ)
    (hcount : index + entries.length = count) :
    ∃ s', ((entries.map (recordOf stableRecordId family)).zipIdx index).foldlM
        (emitRecord (Output.addressFamilyName family) count) s = .ok s' ∧
      s'.lines = s.lines ++ emittedLines family entries := by
  induction entries generalizing s index with
  | nil => exact ⟨s, rfl, (List.append_nil _).symm⟩
  | cons entry entries ih =>
    obtain ⟨hreadable, hreadables⟩ := List.forall_mem_cons.mp h.readable
    obtain ⟨hemitted, hemitteds⟩ := List.forall_mem_cons.mp h.emitted
    obtain ⟨hfirst, hnames⟩ := List.nodup_cons.mp h.names
    obtain ⟨hfirstId, hids⟩ := List.nodup_cons.mp h.ids
    obtain ⟨hunseen, hnames_new⟩ := List.forall_mem_cons.mp hname
    obtain ⟨hunused, hids_new⟩ := List.forall_mem_cons.mp hid
    have hrest : index + 1 + entries.length = count := by
      rw [← hcount, List.length_cons, Nat.add_right_comm, Nat.add_assoc]
    -- an id that is written down is the one that the fingerprint has
    have hown : ∀ nativeId ∈ entry.1.nativeId, entry.1.nativeId.getD entry.1.name = nativeId :=
      fun nativeId hnative ↦ by rw [Option.mem_def.mp hnative, Option.getD_some]
    have hone := emitRecord_eq stableRecordId family hreadable hemitted hunseen
      (fun nativeId hnative ↦ hown nativeId hnative ▸ hunused) count index
    obtain ⟨s', hs', hlines⟩ := ih ⟨hreadables, hemitteds, hnames, hids⟩ (s := {
        names := entry.1.name :: s.names
        nativeIds := entry.1.nativeId.toList ++ s.nativeIds
        lines := s.lines ++ (entry.1.emitted entry.2).lines .spaced family ++
          if index + 1 < count then [[]] else [] })
      (fun other hother hmem ↦ by
        rcases List.mem_cons.mp hmem with heq | hmem
        · exact hfirst (List.mem_map.mpr ⟨other, hother, heq⟩)
        · exact hnames_new other hother hmem)
      (fun other hother hmem ↦ by
        rcases List.mem_append.mp hmem with hmem | hmem
        · refine hfirstId (List.mem_map.mpr ⟨other, hother, ?_⟩)
          exact (hown _ (Option.mem_toList.mp hmem)).symm
        · exact hids_new other hother hmem)
      (index + 1) hrest
    refine ⟨s', ?_, ?_⟩
    · rw [List.map_cons, List.zipIdx_cons, List.foldlM_cons, hone]
      exact hs'
    · rw [hlines]
      rcases entries with _ | ⟨next, entries⟩
      · have hlast : ¬ index + 1 < count := not_lt.mpr hrest.ge
        rw [if_neg hlast]
        simp [emittedLines, writtenLines]
      · have hmore : index + 1 < count :=
          lt_of_lt_of_eq (Nat.lt_add_of_pos_right (Nat.succ_pos _)) hrest
        rw [if_pos hmore]
        simp [emittedLines, writtenLines, List.intercalate_cons_cons, OsDb.Layout.spaced]

variable (stableRecordId) in
/-- **A migrated database is emitted**: its records are in order, and nothing is wrong with them. -/
theorem emitOsDb_records (hknown : family = .ipv4 ∨ family = .ipv6)
    {entries : List (RawRecord × ClassParts)} (hne : entries ≠ []) (h : Emittable entries)
    (horders : entries.map (·.1.order) = List.range entries.length) :
    emitOsDb (entries.map (recordOf stableRecordId family)) =
      .ok (textOf (emittedLines family entries)) := by
  have hkinds : (entries.map (recordOf stableRecordId family)).any
      (·.kind ≠ literal "os_fingerprint") = false := by
    simp [recordOf, RawRecord.record]
  have hfamilies : (entries.map (recordOf stableRecordId family)).any
      (·.addressFamily ≠ Output.addressFamilyName family) = false := by
    simp [recordOf, RawRecord.record]
  have hallowed : Output.addressFamilyName family ∈ allowedFamilies := by
    rcases hknown with rfl | rfl <;> decide
  have hprobes : (entries.map (recordOf stableRecordId family)).any
      (·.probeOrder.isNone) = false := by
    simp [recordOf, RawRecord.record]
  have hmap : (entries.map (recordOf stableRecordId family)).map (·.probeOrder.getD 0) =
      List.range entries.length := by
    rw [List.map_map, ← horders]
    rfl
  have hsorted : (entries.map (recordOf stableRecordId family)).mergeSort (fun left right ↦
      tupleLe (left.probeOrder.getD 0, left.id) (right.probeOrder.getD 0, right.id)) =
      entries.map (recordOf stableRecordId family) := by
    refine List.mergeSort_of_pairwise ?_
    have hincreasing := List.pairwise_lt_range (n := entries.length)
    rw [← hmap, List.pairwise_map] at hincreasing
    refine hincreasing.imp fun hlt ↦ ?_
    rw [tupleLe, decide_eq_true hlt, Bool.true_or]
  obtain ⟨s, hs, hlines⟩ := foldlM_emitRecord stableRecordId family h (s := {})
    (fun _ _ ↦ List.not_mem_nil) (fun _ _ ↦ List.not_mem_nil) 0 _ (Nat.zero_add entries.length)
  have hlength : (entries.map (recordOf stableRecordId family)).length = entries.length :=
    List.length_map _
  rcases entries with _ | ⟨first, rest⟩
  · exact absurd rfl hne
  have hfirst : (recordOf stableRecordId family first).addressFamily =
      Output.addressFamilyName family := rfl
  rw [List.map_cons] at hkinds hfamilies hprobes hmap hsorted hs hlength ⊢
  simp only [emitOsDb, hkinds, hfirst, hfamilies, hallowed, hprobes, hsorted, hmap, hlength, hs,
    List.nodup_range, ne_eq, not_true_eq_false, decide_false, Bool.or_self, Bool.false_eq_true,
    if_false]
  rw [textOf, ← List.nil_append (emittedLines family (first :: rest)), ← hlines]
  rfl

end Skan.Corpus.RuntimeOsDb
