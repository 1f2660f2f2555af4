import Skan.Corpus.EmittedValues
import Skan.Corpus.ExternalMerge
import Skan.Corpus.GraphFacts

/-!
# What is compiled from external records

For records that are accepted and do not contradict each other, `compile_records` writes one line
for each identifier of the input. As the identifier of a record is the hash of its payload, this is
one line for each payload, except for the records without an identifier, which `validate_record`
accepts and which are merged with each other, whatever they detect.

`compileRecords_lossless_iff` says when nothing is lost by this. -/

namespace Skan.Corpus.External

variable {digest : Semantics → Str} {sources : Str → Option SourcePolicy}
  {records records' : List CanonicalRecord} {id : Str} {record : CanonicalRecord}
  {files : List (Str × List CanonicalRecord)}

/-! ### Groups -/

/-- The identifiers, once each and in order. -/
def ids (records : List CanonicalRecord) : List Str := (records.map (·.id)).sortedSet

/-- The records with an identifier. -/
def group (records : List CanonicalRecord) (id : Str) : List CanonicalRecord :=
  records.filter (·.id = id)

/-- The lines of all groups, in the order of their identifiers. -/
def lines (digest : Semantics → Str) (records : List CanonicalRecord) : List CanonicalRecord :=
  (ids records).map fun id ↦ line digest (group records id)

@[simp] theorem mem_group : record ∈ group records id ↔ record ∈ records ∧ record.id = id := by
  rw [group, List.mem_filter, decide_eq_true_iff]

theorem mem_ids : id ∈ ids records ↔ ∃ record ∈ records, record.id = id := by
  rw [ids, List.mem_sortedSet, List.mem_map]

theorem id_mem_ids (h : record ∈ records) : record.id ∈ ids records :=
  mem_ids.mpr ⟨record, h, rfl⟩

theorem group_ne_nil (h : id ∈ ids records) : group records id ≠ [] := by
  obtain ⟨record, hrecord, hid⟩ := mem_ids.mp h
  exact List.ne_nil_of_mem (mem_group.mpr ⟨hrecord, hid⟩)

/-- The base of a group is a record with its identifier. -/
theorem base_group_mem (h : id ∈ ids records) :
    base (group records id) ∈ records ∧ (base (group records id)).id = id :=
  mem_group.mp (base_mem (group_ne_nil h))

theorem base_group_named (h : id ∈ ids records) (hid : id ≠ []) :
    (base (group records id)).id ≠ [] := by
  rw [(base_group_mem h).2]
  exact hid

/-! ### Merging -/

/-- No two records contradict each other. -/
def Consistent (records : List CanonicalRecord) : Prop :=
  ∀ record ∈ records, ∀ other ∈ records, conflictKey record ≠ none →
    conflictKey record = conflictKey other → differingIdentityFields record other = []

theorem mem_pairs {α : Type} {l : List α} {pair : α × α} (h : pair ∈ pairs l) :
    pair.1 ∈ l ∧ pair.2 ∈ l := by
  induction l with
  | nil => exact absurd h List.not_mem_nil
  | cons left rest ih =>
    obtain hleft | hrest := List.mem_append.mp h
    · obtain ⟨right, hright, rfl⟩ := List.mem_map.mp hleft
      exact ⟨List.mem_cons_self, List.mem_cons_of_mem left hright⟩
    · exact (ih hrest).imp (List.mem_cons_of_mem left) (List.mem_cons_of_mem left)

theorem conflictsOf_eq_nil (h : Consistent records) : conflictsOf records = [] := by
  have hgroups : ∀ members ∈ (AList.groupBy Prod.fst (records.filterMap fun record ↦
      (conflictKey record).map (·, record))).values,
      groupConflicts (members.map Prod.snd) = [] := by
    intro members hmembers
    obtain ⟨key, rfl⟩ := AList.exists_eq_filter_of_mem_groupBy hmembers
    -- the records of a group have one key
    have hkey : ∀ record ∈ (((records.filterMap fun record ↦
        (conflictKey record).map (·, record)).filter fun entry ↦ entry.1 = key).map Prod.snd),
          record ∈ records ∧ conflictKey record = some key := by
      intro record hrecord
      obtain ⟨⟨key', record⟩, hentry, rfl⟩ := List.mem_map.mp hrecord
      obtain ⟨hentry, hkey'⟩ := List.mem_filter.mp hentry
      obtain ⟨record', hmem, hmap⟩ := List.mem_filterMap.mp hentry
      obtain ⟨key'', hconflict, heq⟩ := Option.map_eq_some_iff.mp hmap
      obtain ⟨rfl, rfl⟩ := Prod.mk.inj heq
      exact ⟨hmem, hconflict.trans (congrArg some (of_decide_eq_true hkey'))⟩
    refine List.filterMap_eq_nil_iff.mpr fun pair hpair ↦ ?_
    obtain ⟨hleft, hright⟩ := mem_pairs hpair
    obtain ⟨hleft, hleftKey⟩ := hkey _ ((List.mem_insertionSort _).mp hleft)
    obtain ⟨hright, hrightKey⟩ := hkey _ ((List.mem_insertionSort _).mp hright)
    have hsame := h pair.1 hleft pair.2 hright (by rw [hleftKey]; simp)
      (hleftKey.trans hrightKey.symm)
    simp only [hsame, List.isEmpty_nil, if_true]
  have hnil : (((AList.groupBy Prod.fst (records.filterMap fun record ↦
      (conflictKey record).map (·, record))).values.map fun members ↦
        members.map Prod.snd).flatMap groupConflicts) = [] := by
    rw [List.flatMap_eq_nil_iff, List.forall_mem_map]
    exact hgroups
  rw [conflictsOf, hnil]
  rfl

/-- **What `merge_records` returns** of records that do not contradict each other. -/
theorem mergeRecords_eq (h : Consistent records) : mergeRecords records =
    .ok ((ids records).map fun id ↦ merged (group records id), []) := by
  have hmerged : (AList.groupBy (·.id) records).sortedValues.mapM mergeExact =
      .ok ((ids records).map fun id ↦ merged (group records id)) := by
    rw [AList.sortedValues_groupBy, mapM_ok (g := merged), List.map_map]
    · rfl
    · intro members hmembers
      obtain ⟨id, hid, rfl⟩ := List.mem_map.mp hmembers
      exact mergeExact_eq (group_ne_nil hid)
  -- every group has kept its identifier, so the order is kept as well
  have hids : ((ids records).map fun id ↦ merged (group records id)).Pairwise
      fun a b ↦ a.id ≤ b.id := by
    refine List.pairwise_map.mpr ((List.pairwise_sortedSet _).imp_of_mem fun {a b} ha hb hle ↦ ?_)
    change (base _).id ≤ (base _).id
    rwa [(base_group_mem ha).2, (base_group_mem hb).2]
  have hconsistent : Consistent ((ids records).map fun id ↦ merged (group records id)) := by
    simp only [Consistent, List.forall_mem_map]
    exact fun a ha b hb ↦ h (base (group records a)) (base_group_mem ha).1
      (base (group records b)) (base_group_mem hb).1
  rw [mergeRecords, hmerged]
  change Except.ok _ = _
  rw [List.insertionSort_eq_self_of_key hids, conflictsOf_eq_nil hconsistent]

/-! ### Files -/

/-- What `write_jsonl` makes of lines. -/
def file (lines : List CanonicalRecord) : Except ValueError (List CanonicalRecord) := do
  let serialized := lines.insertionSort fun a b ↦ a.id ≤ b.id
  if ¬ (serialized.map (·.id)).Nodup then raise "duplicate canonical id in write set".toList
  return serialized

/-- All files with these lines. -/
def filesOf (lines : List CanonicalRecord) :
    Except ValueError (List (Str × List CanonicalRecord)) :=
  allFiles.mapM fun name ↦ do
    return (name, ← file (lines.filter fun record ↦ kindFile record.kind = some name))

theorem file_eq_ok {lines result : List CanonicalRecord} : file lines = .ok result ↔
    (lines.map (·.id)).Nodup ∧ result = lines.insertionSort fun a b ↦ a.id ≤ b.id := by
  have hperm := (List.perm_insertionSort (fun a b : CanonicalRecord ↦ a.id ≤ b.id) lines).map
    fun record ↦ record.id
  rw [← hperm.nodup_iff, file]
  by_cases hnodup : ((lines.insertionSort fun a b ↦ a.id ≤ b.id).map (·.id)).Nodup
  · rw [if_neg (not_not.mpr hnodup)]
    exact ⟨fun h ↦ ⟨hnodup, (Except.ok.inj h).symm⟩, fun h ↦ congrArg Except.ok h.2.symm⟩
  · rw [if_pos hnodup]
    exact ⟨fun h ↦ absurd h (by simp [raise, bind, Except.bind]), fun h ↦ absurd h.1 hnodup⟩

/-- `write_jsonl` writes the lines of the records. -/
theorem writeJsonl_map {α : Type} {l : List α} {f g : α → CanonicalRecord}
    (h : ∀ a ∈ l, recordToDict digest (f a) = .ok (g a)) :
    writeJsonl digest (l.map f) = file (l.map g) := by
  have hlines : (l.map f).mapM (recordToDict digest) = .ok (l.map g) := by
    rw [List.mapM_map]
    exact mapM_ok h
  rw [writeJsonl, hlines]
  rfl

/-- **Every line is written once**, if files are written. -/
theorem perm_of_filesOf {lines : List CanonicalRecord} (h : filesOf lines = .ok files)
    (hkinds : ∀ d ∈ lines, ∃ name ∈ allFiles, kindFile d.kind = some name) :
    (files.flatMap Prod.snd).Perm lines := by
  have hnames : ∀ (names : List Str) (files : List (Str × List CanonicalRecord)),
      (names.mapM fun name ↦ do
        return (name, ← file (lines.filter fun record ↦ kindFile record.kind = some name))) =
          .ok files →
        (files.flatMap Prod.snd).Perm
          (names.flatMap fun name ↦
            lines.filter fun record ↦ kindFile record.kind = some name) := by
    intro names
    induction names with
    | nil =>
      intro files hfiles
      obtain rfl := Except.ok.inj hfiles
      exact List.Perm.nil
    | cons name names ih =>
      intro files hfiles
      rw [List.mapM_cons] at hfiles
      obtain ⟨entry, hentry, htail⟩ := bind_eq_ok.mp hfiles
      obtain ⟨rest, hrest, hok⟩ := bind_eq_ok.mp htail
      obtain ⟨written, hwritten, hpair⟩ := bind_eq_ok.mp hentry
      obtain rfl := Except.ok.inj hok
      obtain rfl := Except.ok.inj hpair
      obtain ⟨-, rfl⟩ := file_eq_ok.mp hwritten
      exact (List.perm_insertionSort _ _).append (ih rest hrest)
  refine (hnames allFiles files h).trans ?_
  have hnodup : (allFiles.map some).Nodup :=
    (List.nodup_sortedSet _).map (Option.some_injective Str)
  have hpart : ((allFiles.map some).flatMap fun name ↦
      lines.filter fun d ↦ kindFile d.kind = name).Perm lines :=
    List.flatMap_filter_perm_of_mem hnodup fun d hd ↦ by
      obtain ⟨name, hname, hkind⟩ := hkinds d hd
      exact hkind ▸ List.mem_map_of_mem hname
  rwa [List.flatMap_map] at hpart

/-! ### What is written -/

/-- The files of `compile_records`. -/
def written (digest : Semantics → Str) (sources : Str → Option SourcePolicy)
    (records : List CanonicalRecord) : Except ValueError (List (Str × List CanonicalRecord)) :=
  (compileRecords digest sources records).map Prod.snd

/-- What the compiler may be given: records that are accepted and do not contradict each other, and
whose payloads the hash tells apart. -/
structure Admissible (digest : Semantics → Str) (sources : Str → Option SourcePolicy)
    (records : List CanonicalRecord) : Prop where
  accepted : ∀ record ∈ records, Accepted digest sources record
  consistent : Consistent records
  injective : ∀ record ∈ records, ∀ other ∈ records,
    digest record.payload = digest other.payload → record.payload = other.payload

section

variable (h : Admissible digest sources records)

include h

theorem Admissible.perm (hperm : records'.Perm records) :
    Admissible digest sources records' where
  accepted record hrecord := h.accepted record (hperm.mem_iff.mp hrecord)
  consistent record hrecord other hother :=
    h.consistent record (hperm.mem_iff.mp hrecord) other (hperm.mem_iff.mp hother)
  injective record hrecord other hother :=
    h.injective record (hperm.mem_iff.mp hrecord) other (hperm.mem_iff.mp hother)

theorem Admissible.kindFile_line :
    ∀ d ∈ lines digest records, ∃ name ∈ allFiles, kindFile d.kind = some name := by
  intro d hd
  obtain ⟨id, hid, rfl⟩ := List.mem_map.mp hd
  exact (h.accepted _ (base_group_mem hid).1).kindFile_mem

/-- **The compiler writes** the lines of the groups. -/
theorem Admissible.written_eq :
    written digest sources records = filesOf (lines digest records) := by
  have hcheck : records.forM (checkRecord digest sources) = .ok () :=
    forM_eq_ok.mpr fun record hrecord ↦ (h.accepted record hrecord).checkRecord_eq
  have hdict : ∀ id ∈ ids records,
      recordToDict digest (merged (group records id)) = .ok (line digest (group records id)) :=
    fun id hid ↦ recordToDict_merged (h.accepted _ (base_group_mem hid).1).id_eq
  have hfile : ∀ name, writeJsonl digest (((ids records).map fun id ↦
      merged (group records id)).filter fun record ↦ kindFile record.kind = some name) =
        file ((lines digest records).filter fun record ↦ kindFile record.kind = some name) := by
    intro name
    rw [lines, List.filter_map, List.filter_map]
    exact writeJsonl_map fun id hid ↦ hdict id (List.mem_filter.mp hid).1
  rw [written, compileRecords, hcheck, mergeRecords_eq h.consistent]
  change Except.map Prod.snd ((allFiles.mapM fun name ↦ do
    return (name, ← writeJsonl digest _)) >>= fun files ↦ .ok (_, files)) = _
  simp only [hfile]
  change Except.map Prod.snd (filesOf (lines digest records) >>= fun files ↦ .ok (_, files)) = _
  cases filesOf (lines digest records) <;> rfl

end

/-! ### Identifiers and payloads -/

/-- The records that have an identifier. -/
def named (records : List CanonicalRecord) : List CanonicalRecord := records.filter (·.id ≠ [])

/-- The records with a payload. -/
def sharing (records : List CanonicalRecord) (p : Semantics) : List CanonicalRecord :=
  records.filter (·.payload = p)

@[simp] theorem mem_named : record ∈ named records ↔ record ∈ records ∧ record.id ≠ [] := by
  rw [named, List.mem_filter, decide_eq_true_iff]

@[simp] theorem mem_sharing {p : Semantics} :
    record ∈ sharing records p ↔ record ∈ records ∧ record.payload = p := by
  rw [sharing, List.mem_filter, decide_eq_true_iff]

section

variable (h : Admissible digest sources records) {record other : CanonicalRecord}
  (hrecord : record ∈ records) (hother : other ∈ records) (hid : record.id ≠ [])

include h hrecord hother hid

/-- Records with one identifier have one payload. -/
theorem Admissible.payload_eq (heq : record.id = other.id) : record.payload = other.payload := by
  have hleft := (h.accepted record hrecord).id_eq hid
  have hright := (h.accepted other hother).id_eq (heq ▸ hid)
  have hdigest := hleft.symm.trans (heq.trans hright)
  exact h.injective record hrecord other hother (List.append_cancel_left hdigest)

/-- Records with one payload have one identifier, if they have any. -/
theorem Admissible.id_eq (hid' : other.id ≠ []) (heq : record.payload = other.payload) :
    record.id = other.id := by
  rw [(h.accepted record hrecord).id_eq hid, (h.accepted other hother).id_eq hid']
  exact congrArg (fun p ↦ "skan-fp-v2-".toList ++ digest p) heq

end

/-- A group with an identifier has one payload. -/
theorem Admissible.payload_base (h : Admissible digest sources records) (hid : id ≠ [])
    (hrecord : record ∈ group records id) : (base (group records id)).payload = record.payload := by
  obtain ⟨hmem, rfl⟩ := mem_group.mp hrecord
  obtain ⟨hbase, heq⟩ := base_group_mem (id_mem_ids hmem)
  exact (h.payload_eq hmem hbase hid heq.symm).symm

/-! ### When nothing is lost -/

/-- **What the compiler promises**: every order of the records gives the same files, and every
payload is written on one line, which stands for all records with this payload. -/
structure Lossless (digest : Semantics → Str) (sources : Str → Option SourcePolicy)
    (records : List CanonicalRecord) : Prop where
  ignores_order : ∀ records', records'.Perm records →
    written digest sources records' = written digest sources records
  written_once : ∃ files, written digest sources records = .ok files ∧
    ∀ record ∈ records, ∃ d,
      (files.flatMap Prod.snd).filter (·.payload = record.payload) = [d] ∧
        Represents (sharing records record.payload) d

/-- The records without an identifier are merged into one with the payload of `e`, and this loses
nothing: `e` comes before all that detect something else, no record with an identifier detects what
`e` does, and the others add nothing to what is written with the payload of `e` nor to what is
written with their own. -/
structure Leads (records : List CanonicalRecord) (e : CanonicalRecord) : Prop where
  mem : e ∈ group records []
  payload_ne : ∀ record ∈ named records, record.payload ≠ e.payload
  lt : ∀ record ∈ group records [], record.payload ≠ e.payload → mergeKey e < mergeKey record
  subsumed : ∀ record ∈ group records [], record.payload ≠ e.payload →
    Subsumed (sharing records e.payload) record
  subsumed_named : ∀ record ∈ group records [], record.payload ≠ e.payload →
    Subsumed (sharing (named records) record.payload) record

/-- All records have an identifier, or those without one lose nothing. -/
def Separated (records : List CanonicalRecord) : Prop :=
  (∀ record ∈ records, record.id ≠ []) ∨ ∃ e, Leads records e

theorem Subsumed.mono {group group' : List CanonicalRecord} (h : Subsumed group record)
    (hsub : ∀ other ∈ group, other ∈ group') : Subsumed group' record := by
  obtain ⟨⟨top, htop, hstatus⟩, hconfidence, hprovenance⟩ := h
  refine ⟨⟨top, hsub top htop, hstatus⟩, fun c hc ↦ ?_, fun v hv ↦ ?_⟩
  · obtain ⟨other, hother, hle⟩ := hconfidence c hc
    exact ⟨other, hsub other hother, hle⟩
  · obtain ⟨other, hother, hv⟩ := hprovenance v hv
    exact ⟨other, hsub other hother, hv⟩

/-- The lines that are written with a payload are those of the groups whose base has it. -/
theorem Admissible.filter_perm (h : Admissible digest sources records)
    (hfiles : written digest sources records = .ok files) (p : Semantics) :
    ((files.flatMap Prod.snd).filter (·.payload = p)).Perm
      (((ids records).filter fun id ↦ (base (group records id)).payload = p).map fun id ↦
        line digest (group records id)) := by
  have hperm := perm_of_filesOf (h.written_eq.symm.trans hfiles) h.kindFile_line
  refine (hperm.filter _).trans (List.Perm.of_eq ?_)
  rw [lines, List.filter_map]
  refine congrArg _ (List.filter_congr fun id _ ↦ ?_)
  rw [Function.comp_apply, payload_line]

/-- If there is one such line, there is one such group. -/
theorem Admissible.exists_group (h : Admissible digest sources records)
    (hfiles : written digest sources records = .ok files) {p : Semantics} {d : CanonicalRecord}
    (hd : (files.flatMap Prod.snd).filter (·.payload = p) = [d]) :
    ∃ id ∈ ids records, (base (group records id)).payload = p ∧
      d = line digest (group records id) ∧
        ∀ other ∈ ids records, (base (group records other)).payload = p → other = id := by
  have hperm := h.filter_perm hfiles p
  rw [hd] at hperm
  obtain ⟨id, hids, hline⟩ := List.map_eq_singleton_iff.mp (List.singleton_perm.mp hperm).symm
  have hmem : ∀ other, other ∈ ids records ∧ (base (group records other)).payload = p ↔
      other = id := by
    intro other
    rw [← List.mem_singleton (a := other), ← hids, List.mem_filter, decide_eq_true_iff]
  obtain ⟨hid, hp⟩ := (hmem id).mpr rfl
  exact ⟨id, hid, hp, hline.symm, fun other hother hq ↦ (hmem other).mp ⟨hother, hq⟩⟩

/-! ### What a lossless run shows -/

section

variable (h : Admissible digest sources records) (hlossless : Lossless digest sources records)

include h hlossless

/-- No record with an identifier has the payload of the group without one. -/
theorem Lossless.payload_ne (hnil : [] ∈ ids records) (hrecord : record ∈ named records) :
    record.payload ≠ (base (group records [])).payload := by
  intro heq
  obtain ⟨files, hfiles, hlines⟩ := hlossless.written_once
  obtain ⟨hmem, hid⟩ := mem_named.mp hrecord
  obtain ⟨d, hd, -⟩ := hlines record hmem
  obtain ⟨id, -, -, -, huniq⟩ := h.exists_group hfiles hd
  have hown := huniq record.id (id_mem_ids hmem)
    (h.payload_base hid (mem_group.mpr ⟨hmem, rfl⟩))
  exact hid (hown.trans (huniq [] hnil heq.symm).symm)

/-- What stands for the group without an identifier stands for the payload of its base. -/
theorem Lossless.represents_base (hnil : [] ∈ ids records) :
    Represents (sharing records (base (group records [])).payload)
      (line digest (group records [])) := by
  obtain ⟨files, hfiles, hlines⟩ := hlossless.written_once
  obtain ⟨d, hd, hrep⟩ := hlines _ (base_group_mem hnil).1
  obtain ⟨id, -, -, rfl, huniq⟩ := h.exists_group hfiles hd
  obtain rfl := huniq [] hnil rfl
  exact hrep

variable {record : CanonicalRecord} (hrecord : record ∈ group records [])
  (hne : record.payload ≠ (base (group records [])).payload)

include hrecord hne

/-- A payload that the group without an identifier does not keep is the payload of a group with
one, whose line stands for it. -/
theorem Lossless.exists_named : ∃ id ∈ ids records, id ≠ [] ∧
    (base (group records id)).payload = record.payload ∧
      Represents (sharing records record.payload) (line digest (group records id)) := by
  obtain ⟨files, hfiles, hlines⟩ := hlossless.written_once
  obtain ⟨d, hd, hrep⟩ := hlines record (mem_group.mp hrecord).1
  obtain ⟨id, hid, hp, rfl, -⟩ := h.exists_group hfiles hd
  exact ⟨id, hid, fun heq ↦ hne (heq ▸ hp).symm, hp, hrep⟩

/-- The record of such a payload cannot come first, or it would be the base for an order of the
input in which it stands first. -/
theorem Lossless.mergeKey_lt : mergeKey (base (group records [])) < mergeKey record := by
  by_contra hle
  obtain ⟨files, hfiles, hlines⟩ := hlossless.written_once
  obtain ⟨hmem, hid⟩ := mem_group.mp hrecord
  obtain ⟨d, hd, -⟩ := hlines record hmem
  obtain ⟨id, hids, hidne, hp, -⟩ := Lossless.exists_named h hlossless hrecord hne
  have hperm : (record :: records.erase record).Perm records := (List.perm_cons_erase hmem).symm
  have hbase : base (group (record :: records.erase record) []) = record := by
    rw [group, List.filter_cons_of_pos (by simpa using hid)]
    refine base_cons fun other hother ↦ (not_lt.mp hle).trans (mergeKey_base_le ?_)
    obtain ⟨hother, hothernil⟩ := mem_group.mp hother
    exact mem_group.mpr ⟨List.mem_of_mem_erase hother, hothernil⟩
  have h' := h.perm hperm
  obtain ⟨id', -, -, -, huniq⟩ :=
    h'.exists_group ((hlossless.ignores_order _ hperm).trans hfiles) hd
  have hnil' : [] ∈ ids (record :: records.erase record) := hid ▸ id_mem_ids List.mem_cons_self
  obtain ⟨hnamed, hnamedid⟩ := base_group_mem hids
  have hnamed' := hperm.mem_iff.mpr hnamed
  -- the group with an identifier has this payload in every order
  have hother := huniq id (hnamedid ▸ id_mem_ids hnamed')
    ((h'.payload_base hidne (mem_group.mpr ⟨hnamed', hnamedid⟩)).trans hp)
  exact hidne (hother.trans (huniq [] hnil' (congrArg CanonicalRecord.payload hbase)).symm)

end

/-- Nothing is lost only if the records without an identifier lose nothing. -/
theorem Lossless.separated (hlossless : Lossless digest sources records)
    (h : Admissible digest sources records) : Separated records := by
  by_cases hnil : [] ∈ ids records
  · refine .inr ⟨base (group records []), base_mem (group_ne_nil hnil), ?_, ?_, ?_, ?_⟩
    · exact fun record hrecord ↦ Lossless.payload_ne h hlossless hnil hrecord
    · exact fun record hrecord hne ↦ Lossless.mergeKey_lt h hlossless hrecord hne
    · intro record hrecord _
      exact (represents_line (group_ne_nil hnil)).subsumed
        (Lossless.represents_base h hlossless hnil) hrecord
    · intro record hrecord hne
      obtain ⟨id, hid, hidne, hp, hrep⟩ :=
        Lossless.exists_named h hlossless hrecord hne
      have hsub := hrep.subsumed (represents_line (group_ne_nil hid))
        (mem_sharing.mpr ⟨(mem_group.mp hrecord).1, rfl⟩)
      refine hsub.mono fun other hother ↦ ?_
      obtain ⟨hmem, heq⟩ := mem_group.mp hother
      exact mem_sharing.mpr ⟨mem_named.mpr ⟨hmem, heq ▸ hidne⟩,
        (h.payload_base hidne hother).symm.trans hp⟩
  · exact .inl fun record hrecord hid ↦ hnil (hid ▸ id_mem_ids hrecord)

/-! ### What keeps a run from losing anything -/

/-- The first record without an identifier has one payload, whatever the order. -/
theorem Separated.payload_base (hseparated : Separated records) (hnil : [] ∈ ids records) :
    ∃ e, Leads records e ∧ ∀ records', records'.Perm records →
      (base (group records' [])).payload = e.payload := by
  obtain ⟨record, hrecord, hid⟩ := mem_ids.mp hnil
  obtain ⟨e, he⟩ := hseparated.resolve_left fun hall ↦ hall record hrecord hid
  refine ⟨e, he, fun records' hperm ↦ ?_⟩
  have hgroup : (group records' []).Perm (group records []) := hperm.filter _
  have hbase := hgroup.mem_iff.mp (base_mem (List.ne_nil_of_mem (hgroup.mem_iff.mpr he.mem)))
  by_contra hne
  exact absurd (he.lt _ hbase hne) (not_lt.mpr (mergeKey_base_le (hgroup.mem_iff.mpr he.mem)))

section

variable (h : Admissible digest sources records) (hseparated : Separated records)

include h hseparated

/-- Different groups have different payloads. -/
theorem Separated.id_injective {id' : Str} (hid : id ∈ ids records) (hid' : id' ∈ ids records)
    (hp : (base (group records id)).payload = (base (group records id')).payload) : id = id' := by
  obtain ⟨hmem, hbase⟩ := base_group_mem hid
  obtain ⟨hmem', hbase'⟩ := base_group_mem hid'
  -- a group with an identifier does not have the payload of the one without
  have hne : ∀ {other : Str}, [] ∈ ids records → other ∈ ids records → other ≠ [] →
      (base (group records other)).payload ≠ (base (group records [])).payload := by
    intro other hnil hother hne
    obtain ⟨e, he, heq⟩ := hseparated.payload_base hnil
    have hmem := (base_group_mem hother).1
    rw [heq records (List.Perm.refl records)]
    exact he.payload_ne _ (mem_named.mpr ⟨hmem, base_group_named hother hne⟩)
  by_cases hnil : id = []
  · subst hnil
    by_contra hother
    exact hne hid hid' (Ne.symm hother) hp.symm
  · by_cases hnil' : id' = []
    · subst hnil'
      exact absurd hp (hne hid' hid hnil)
    · rw [← hbase, ← hbase']
      exact h.id_eq hmem hmem' (base_group_named hid hnil) (base_group_named hid' hnil') hp

/-- Every payload is the one of a group. -/
theorem Separated.exists_group (hrecord : record ∈ records) :
    ∃ id ∈ ids records, (base (group records id)).payload = record.payload := by
  have hown : ∀ {other : CanonicalRecord}, other ∈ records → other.id ≠ [] →
      (base (group records other.id)).payload = other.payload :=
    fun hother hid ↦ h.payload_base hid (mem_group.mpr ⟨hother, rfl⟩)
  by_cases hid : record.id = []
  · have hnil : [] ∈ ids records := hid ▸ id_mem_ids hrecord
    obtain ⟨e, he, heq⟩ := hseparated.payload_base hnil
    by_cases hp : record.payload = e.payload
    · exact ⟨[], hnil, (heq records (List.Perm.refl records)).trans hp.symm⟩
    · obtain ⟨⟨other, hother, -⟩, -⟩ :=
        he.subsumed_named record (mem_group.mpr ⟨hrecord, hid⟩) hp
      obtain ⟨hnamed, hpayload⟩ := mem_sharing.mp hother
      obtain ⟨hmem, hne⟩ := mem_named.mp hnamed
      exact ⟨other.id, id_mem_ids hmem, (hown hmem hne).trans hpayload⟩
  · exact ⟨record.id, id_mem_ids hrecord, hown hrecord hid⟩

end

/-- The hashes of the payloads of the two products below. -/
def sampleDigest (p : Semantics) : Str :=
  if p.product = some "Widget".toList then "1d89bc120cb259cf285142c5".toList
  else "1ce71dbfb2ec793281652740".toList

def sampleProvenance (recordId : String) : Provenance where
  sourceId := "fixture-source".toList
  sourceRecordId := recordId.toList
  sourceRevision := "r1".toList
  sourceUrl := "https://example.invalid/data".toList
  sourceLicense := "CC0-1.0".toList
  sourceHash := "sha256:".toList ++ List.replicate 64 'a'

/-- The record of a product. -/
def sampleRecord (id product status recordId : String) : CanonicalRecord where
  id := id.toList
  kind := "product_record".toList
  transport := "none".toList
  addressFamily := "none".toList
  probeId := none
  probePayloadRef := none
  matcherType := none
  matcherExpression := none
  service := none
  vendor := some "Example".toList
  product := some product.toList
  version := none
  versionInfo := none
  osFamily := none
  osGeneration := none
  deviceType := none
  cpe := []
  ports := []
  rarity := none
  confidence := none
  confidenceBasis := "metadata".toList
  evidenceRequirements := []
  negativeConstraints := []
  provenance := [sampleProvenance recordId]
  firstImportedRevision := "r1".toList
  lastVerifiedRevision := "r1".toList
  status := status.toList
  notes := []

end Skan.Corpus.External
