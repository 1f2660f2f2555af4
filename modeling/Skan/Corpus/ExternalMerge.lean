import Skan.Corpus.ExternalCompiler
import Skan.Corpus.RecordFacts

/-!
# Merging a group of external records

What `_merge_exact` and `record_to_dict` make of a group: a line with the payload of the group's
base, the record that comes first in the order of `_merge_exact`, which stands for all records of
the group (`Represents`). The payload apart, the line does not depend on the base, nor on the order
of the group (`line_congr`). -/

namespace Skan.Corpus.External

variable {record d' : CanonicalRecord}

/-! ### Accepted records -/

section

variable {digest : Semantics → Str} {sources : Str → Option SourcePolicy} {record : CanonicalRecord}

/-- `validate_record` finds nothing. -/
def Accepted (digest : Semantics → Str) (sources : Str → Option SourcePolicy)
    (record : CanonicalRecord) : Prop := validateRecord digest sources record = []

instance : Decidable (Accepted digest sources record) :=
  inferInstanceAs (Decidable (validateRecord digest sources record = []))

theorem complain_eq_nil {bad : Bool} {message : Str} :
    complain bad message = [] ↔ bad = false := by
  cases bad <;> simp [complain]

section

variable (h : Accepted digest sources record)

include h

theorem Accepted.kind_and_status_mem :
    record.kind ∈ allowedKinds ∧ record.status ∈ allowedStatuses := by
  rw [Accepted, validateRecord] at h
  simp only [List.append_eq_nil_iff] at h
  have hfields := h.1.1.1.1
  unfold fieldErrors at hfields
  simp only [List.append_eq_nil_iff, and_assoc] at hfields
  obtain ⟨hkind, -, -, hstatus, -⟩ := hfields
  exact ⟨not_not.mp (of_decide_eq_false (complain_eq_nil.mp hkind)),
    not_not.mp (of_decide_eq_false (complain_eq_nil.mp hstatus))⟩

/-- An accepted record has the identifier of what it detects, or none. -/
theorem Accepted.id_eq (hid : record.id ≠ []) :
    record.id = stableRecordId digest record.toSemantics := by
  rw [Accepted, validateRecord] at h
  have hids := complain_eq_nil.mp (List.append_eq_nil_iff.mp h).2
  simpa [hid] using hids

/-- Every kind that is accepted has a file. -/
theorem Accepted.kindFile_mem : ∃ name ∈ allFiles, kindFile record.kind = some name := by
  have hfiles : ∀ kind ∈ allowedKinds, ∃ name ∈ kindFiles.map Prod.snd,
      kindFile kind = some name := by decide
  obtain ⟨name, hname, hkind⟩ := hfiles _ h.kind_and_status_mem.1
  exact ⟨name, List.mem_sortedSet.mpr hname, hkind⟩

theorem Accepted.checkRecord_eq : checkRecord digest sources record = .ok () := by
  obtain ⟨name, -, hkind⟩ := h.kindFile_mem
  have herrors : validateRecord digest sources record = [] := h
  rw [checkRecord, herrors, hkind]
  rfl

end

end

/-- Different statuses have different ranks. -/
theorem statusRank_injOn {status status' : Str} (hstatus : status ∈ allowedStatuses)
    (hstatus' : status' ∈ allowedStatuses) (h : statusRank status = statusRank status') :
    status = status' := by
  have hall : ∀ s ∈ allowedStatuses, ∀ s' ∈ allowedStatuses,
      statusRank s = statusRank s' → s = s' := by decide
  exact hall status hstatus status' hstatus' h

/-! ### Payloads -/

/-- What a record detects. -/
def CanonicalRecord.payload (record : CanonicalRecord) : Semantics :=
  semanticPayload record.toSemantics

theorem toLower_toLower (c : Char) : c.toLower.toLower = c.toLower := by
  by_cases h : c.val ≥ 'A'.val ∧ c.val ≤ 'Z'.val
  · have hlower : c.toLower.val = c.val + ('a'.val - 'A'.val) := congrArg Char.val (dif_pos h)
    -- 'Z' + 32 comes after 'A' + 32, which comes after 'Z'
    have hval : ¬ (c.toLower.val ≥ 'A'.val ∧ c.toLower.val ≤ 'Z'.val) := by
      rw [hlower]
      grind [UInt32.le_iff_toNat_le, UInt32.toNat_add]
    exact dif_neg hval
  · have hc : c.toLower = c := dif_neg h
    rw [hc, hc]

theorem normalizedPayloadHex_normalizedPayloadHex (value : Option Str) :
    normalizedPayloadHex (normalizedPayloadHex value) = normalizedPayloadHex value := by
  have hlower : Char.toLower ∘ Char.toLower = Char.toLower := funext toLower_toLower
  cases value with
  | none => rfl
  | some text =>
    change some ((text.map Char.toLower).map Char.toLower) = some (text.map Char.toLower)
    rw [List.map_map, hlower]

/-- A payload is its own payload. -/
theorem semanticPayload_semanticPayload (record : Semantics) :
    semanticPayload (semanticPayload record) = semanticPayload record := by
  simp only [semanticPayload, normalizedStrings, List.sortedSet_sortedSet,
    normalizedPayloadHex_normalizedPayloadHex, normalizedOsFeatures,
    List.insertionSort_eq_self_of_key (List.pairwise_insertionSort_key _ _)]

/-! ### What stands for a group -/

variable {group group' : List CanonicalRecord} {d : CanonicalRecord}

/-- A record that stands for a group: it has the highest status and the highest confidence of the
group, and the union of its provenances. -/
structure Represents (group : List CanonicalRecord) (d : CanonicalRecord) : Prop where
  status_mem : ∃ record ∈ group, record.status = d.status
  le_status : ∀ record ∈ group, statusRank record.status ≤ statusRank d.status
  confidence_mem : ∀ c, d.confidence = some c → ∃ record ∈ group, record.confidence = some c
  le_confidence : ∀ record ∈ group, ∀ c, record.confidence = some c →
    ∃ c', d.confidence = some c' ∧ c ≤ c'
  mem_provenance : ∀ v, v ∈ d.provenance ↔ ∃ record ∈ group, v ∈ record.provenance
  nodup_provenance : d.provenance.Nodup

/-- A record that adds nothing to a group: the group has its status or a higher one, its confidence
or a higher one, and its provenances. -/
def Subsumed (group : List CanonicalRecord) (record : CanonicalRecord) : Prop :=
  (∃ other ∈ group, statusRank record.status ≤ statusRank other.status) ∧
    (∀ c, record.confidence = some c → ∃ other ∈ group, ∃ c', other.confidence = some c' ∧ c ≤ c') ∧
      ∀ v ∈ record.provenance, ∃ other ∈ group, v ∈ other.provenance

section

variable (h : Represents group d)

include h

/-- What stands for two groups shows that neither adds anything to the other. -/
theorem Represents.subsumed (h' : Represents group' d) (hrecord : record ∈ group) :
    Subsumed group' record := by
  refine ⟨?_, fun c hc ↦ ?_, fun v hv ↦ ?_⟩
  · obtain ⟨other, hother, hstatus⟩ := h'.status_mem
    exact ⟨other, hother, hstatus ▸ h.le_status record hrecord⟩
  · obtain ⟨c', hc', hle⟩ := h.le_confidence record hrecord c hc
    obtain ⟨other, hother, hconfidence⟩ := h'.confidence_mem c' hc'
    exact ⟨other, hother, c', hconfidence, hle⟩
  · exact (h'.mem_provenance v).mp ((h.mem_provenance v).mpr ⟨record, hrecord, hv⟩)

/-- And the other way round: what stands for a group stands for every group that adds nothing to
it and to which it adds nothing. -/
theorem Represents.congr (hstatus : ∀ record ∈ group, record.status ∈ allowedStatuses)
    (hstatus' : ∀ record ∈ group', record.status ∈ allowedStatuses)
    (hsub : ∀ record ∈ group', Subsumed group record)
    (hsub' : ∀ record ∈ group, Subsumed group' record) : Represents group' d where
  status_mem := by
    obtain ⟨record, hrecord, hd⟩ := h.status_mem
    obtain ⟨other, hother, hle⟩ := (hsub' record hrecord).1
    obtain ⟨third, hthird, hle'⟩ := (hsub other hother).1
    have heq : statusRank other.status = statusRank d.status :=
      le_antisymm (hle'.trans (h.le_status third hthird)) (hd ▸ hle)
    exact ⟨other, hother, statusRank_injOn (hstatus' other hother)
      (hd ▸ hstatus record hrecord) heq⟩
  le_status record hrecord := by
    obtain ⟨other, hother, hle⟩ := (hsub record hrecord).1
    exact hle.trans (h.le_status other hother)
  confidence_mem c hc := by
    obtain ⟨record, hrecord, hd⟩ := h.confidence_mem c hc
    obtain ⟨other, hother, c', hc', hle⟩ := (hsub' record hrecord).2.1 c hd
    obtain ⟨third, hthird, c₃, hc₃, hle₃⟩ := (hsub other hother).2.1 c' hc'
    obtain ⟨c₄, hc₄, hle₄⟩ := h.le_confidence third hthird c₃ hc₃
    -- the two confidences bound each other
    have hmax : c₄ = c := Option.some.inj (hc₄.symm.trans hc)
    have heq : c' = c := le_antisymm (hle₃.trans (hmax ▸ hle₄)) hle
    exact ⟨other, hother, heq ▸ hc'⟩
  le_confidence record hrecord c hc := by
    obtain ⟨other, hother, c', hc', hle⟩ := (hsub record hrecord).2.1 c hc
    obtain ⟨c₃, hc₃, hle₃⟩ := h.le_confidence other hother c' hc'
    exact ⟨c₃, hc₃, hle.trans hle₃⟩
  mem_provenance v := by
    rw [h.mem_provenance]
    exact ⟨fun ⟨record, hrecord, hv⟩ ↦ (hsub' record hrecord).2.2 v hv,
      fun ⟨record, hrecord, hv⟩ ↦ (hsub record hrecord).2.2 v hv⟩
  nodup_provenance := h.nodup_provenance

section

variable (h' : Represents group d')

include h'

end

end

/-! ### The base of a group -/

deriving instance Inhabited for Semantics, CanonicalRecord

/-- The record that `_merge_exact` starts from. -/
def base (group : List CanonicalRecord) : CanonicalRecord :=
  (group.insertionSort fun a b ↦ mergeKey a ≤ mergeKey b).headI

theorem exists_insertionSort_eq_base_cons (hne : group ≠ []) : ∃ rest,
    (group.insertionSort fun a b ↦ mergeKey a ≤ mergeKey b) = base group :: rest := by
  have hperm := List.perm_insertionSort (fun a b ↦ mergeKey a ≤ mergeKey b) group
  cases hsorted : group.insertionSort fun a b ↦ mergeKey a ≤ mergeKey b with
  | nil => exact absurd (List.perm_nil.mp (hsorted ▸ hperm).symm) hne
  | cons b rest => exact ⟨rest, by rw [base, hsorted]; rfl⟩

theorem base_mem (hne : group ≠ []) : base group ∈ group := by
  obtain ⟨rest, hsorted⟩ := exists_insertionSort_eq_base_cons hne
  exact (List.mem_insertionSort fun a b ↦ mergeKey a ≤ mergeKey b).mp
    (hsorted ▸ List.mem_cons_self)

/-- No record of the group comes before the base. -/
theorem mergeKey_base_le (h : record ∈ group) : mergeKey (base group) ≤ mergeKey record := by
  obtain ⟨rest, hsorted⟩ := exists_insertionSort_eq_base_cons (List.ne_nil_of_mem h)
  have hpairwise := hsorted ▸ List.pairwise_insertionSort_key mergeKey group
  have hmem : record ∈ base group :: rest :=
    hsorted ▸ (List.mem_insertionSort _).mpr h
  obtain rfl | hrest := List.mem_cons.mp hmem
  · exact le_rfl
  · exact (List.pairwise_cons.mp hpairwise).1 record hrest

/-- A record that is the first of its group, and before which none comes, is the base. -/
theorem base_cons (h : ∀ other ∈ group, mergeKey record ≤ mergeKey other) :
    base (record :: group) = record := by
  rw [base, List.insertionSort_cons_of_le h]
  rfl

/-! ### The line of a group -/

/-- What `_merge_exact` makes of a group with a record. -/
def merged (group : List CanonicalRecord) : CanonicalRecord :=
  { base group with
    status := (highest group).elim (base group).status (·.status)
    confidence := (group.filterMap (·.confidence)).max?
    confidenceBasis := joined (group.map (·.confidenceBasis))
    provenance := mergeProvenance group
    firstImportedRevision := (revisions (group.map (·.firstImportedRevision))).head?.getD []
    lastVerifiedRevision := (revisions (group.map (·.lastVerifiedRevision))).getLast?.getD []
    notes := joined (group.map (·.notes)) }

theorem mergeExact_eq (hne : group ≠ []) : mergeExact group = .ok (merged group) := by
  obtain ⟨rest, hsorted⟩ := exists_insertionSort_eq_base_cons hne
  rw [mergeExact, hsorted]
  rfl

variable {digest : Semantics → Str}

/-- What is written of a group. -/
def line (digest : Semantics → Str) (group : List CanonicalRecord) : CanonicalRecord :=
  { (base group).payload, merged group with
    id := "skan-fp-v2-".toList ++ digest (base group).payload
    provenance := (mergeProvenance group).insertionSort fun a b ↦
      writtenProvenanceKey a ≤ writtenProvenanceKey b }

theorem recordToDict_merged
    (hid : (base group).id ≠ [] →
      (base group).id = stableRecordId digest (base group).toSemantics) :
    recordToDict digest (merged group) = .ok (line digest group) := by
  have hexpected : (!(merged group).id.isEmpty &&
      (merged group).id ≠ stableRecordId digest (merged group).toSemantics) = false := by
    change (!(base group).id.isEmpty &&
      (base group).id ≠ stableRecordId digest (base group).toSemantics) = false
    by_cases hnil : (base group).id = []
    · simp [hnil]
    · simp [← hid hnil]
  rw [recordToDict, hexpected]
  rfl

theorem payload_line : (line digest group).payload = (base group).payload :=
  semanticPayload_semanticPayload _

theorem provenanceKey_injective : Function.Injective provenanceKey := by
  rintro ⟨⟩ ⟨⟩ h
  simp only [provenanceKey, EmbeddingLike.apply_eq_iff_eq, Prod.mk.injEq] at h
  simp [h]

theorem mem_mergeProvenance {v : Provenance} :
    v ∈ mergeProvenance group ↔ ∃ record ∈ group, v ∈ record.provenance := by
  rw [mergeProvenance, AList.mem_sortedValues_collect provenanceKey_injective, List.mem_flatMap]

/-- **The line of a group** stands for the group. -/
theorem represents_line (hne : group ≠ []) : Represents group (line digest group) := by
  obtain ⟨top, htop⟩ := highest_isSome hne
  have hstatus : (line digest group).status = top.status := by
    change (highest group).elim _ _ = _
    rw [htop]
    rfl
  have hprovenance : (line digest group).provenance = (mergeProvenance group).insertionSort
    fun a b ↦ writtenProvenanceKey a ≤ writtenProvenanceKey b := rfl
  have hconfidence : ∀ c, (line digest group).confidence = some c ↔
      (∃ record ∈ group, record.confidence = some c) ∧
        ∀ record ∈ group, ∀ c', record.confidence = some c' → c' ≤ c := by
    intro c
    change (group.filterMap (·.confidence)).max? = some c ↔ _
    rw [List.max?_eq_some_iff]
    simp only [List.mem_filterMap, forall_exists_index, and_imp]
    exact and_congr_right fun _ ↦ ⟨fun h record hrecord c' hc' ↦ h c' record hrecord hc',
      fun h c' record hrecord hc' ↦ h record hrecord c' hc'⟩
  constructor
  · exact ⟨top, highest_mem htop, hstatus.symm⟩
  · intro record hrecord
    rw [hstatus]
    exact statusRank_le_of_highest htop hrecord
  · exact fun c hc ↦ ((hconfidence c).mp hc).1
  · intro record hrecord c hc
    have hmem : c ∈ group.filterMap (·.confidence) := List.mem_filterMap.mpr ⟨record, hrecord, hc⟩
    obtain ⟨c', hc'⟩ := Option.isSome_iff_exists.mp
      (List.isSome_max?_iff.mpr (List.ne_nil_of_mem hmem))
    exact ⟨c', hc', ((hconfidence c').mp hc').2 record hrecord c hc⟩
  · intro v
    rw [hprovenance, List.mem_insertionSort, mem_mergeProvenance]
  · rw [hprovenance, (List.perm_insertionSort _ _).nodup_iff]
    exact AList.nodup_sortedValues_collect provenanceKey_injective

end Skan.Corpus.External
