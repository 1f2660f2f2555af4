import Mathlib.Data.List.MinMax
import Mathlib.Data.Prod.Lex
import Skan.Corpus.ExternalModel

/-!
# The compiler for external records

`tools/corpus/dedupe.py`, `record_to_dict` and `write_jsonl` of `tools/corpus/external_io.py`, and
`tools/corpus/compile_external.py`. Records with one identifier are merged, records that contradict
each other are refused, and the others are written to a file for each group of kinds.

What is written of a record is a mapping with the fields of a record, so it is a record here as
well. A file is the list of its lines. -/

namespace Skan.Corpus.External

variable {records : List CanonicalRecord}

/-- `ValueError`. -/
structure ValueError where
  message : Str
  deriving DecidableEq

/-- `raise ValueError(message)`. -/
def raise {α : Type} (message : Str) : Except ValueError α := .error ⟨message⟩

/-! ### Merging -/

/-- `_STATUS_RANK`. -/
def statusRanks : List (Str × ℤ) :=
  [("suppressed".toList, 0), ("deprecated".toList, 1), ("experimental".toList, 2),
    ("imported".toList, 3), ("verified".toList, 4)]

/-- `_STATUS_RANK.get(status, -1)`. -/
def statusRank (status : Str) : ℤ := (statusRanks.lookup status).getD (-1)

/-- `_provenance_key`. -/
def provenanceKey (value : Provenance) : Str ×ₗ Str ×ₗ Str ×ₗ Str ×ₗ Str ×ₗ Str :=
  toLex (value.sourceId, toLex (value.sourceRecordId, toLex (value.sourceRevision,
    toLex (value.sourceHash, toLex (value.sourceUrl, value.sourceLicense)))))

/-- `_merge_provenance`. -/
def mergeProvenance (records : List CanonicalRecord) : List Provenance :=
  (AList.collect provenanceKey (fun _ item ↦ item)
    (records.flatMap (·.provenance))).sortedValues

/-- What `_merge_exact` sorts by. -/
def mergeKey (record : CanonicalRecord) : ℤ ×ₗ ℚ ×ₗ Str ×ₗ Str ×ₗ Str :=
  toLex (-statusRank record.status, toLex (-record.confidence.getD (-1),
    toLex (record.firstImportedRevision, toLex (record.lastVerifiedRevision, record.notes))))

/-- The texts that are not blank, once each and in order, with semicolons between them. -/
def joined (texts : List Str) : Str :=
  "; ".toList.intercalate ((texts.map (Strings.strip isSpace)).filter (!·.isEmpty)).sortedSet

/-- The revisions that are given, once each and in order. -/
def revisions (texts : List Str) : List Str := (texts.filter (!·.isEmpty)).sortedSet

/-- The first of the records whose status ranks highest. The order of the ranks is the computable
one. -/
def highest (records : List CanonicalRecord) : Option CanonicalRecord :=
  let _ : Preorder ℤ := Int.instLinearOrder.toPreorder
  records.argmax fun record ↦ statusRank record.status

theorem highest_isSome (hne : records ≠ []) : ∃ top, highest records = some top :=
  Option.ne_none_iff_exists'.mp fun h ↦ hne (List.argmax_eq_none.mp h)

theorem highest_mem {top : CanonicalRecord} (h : highest records = some top) :
    top ∈ records := List.argmax_mem h

theorem statusRank_le_of_highest {top record : CanonicalRecord} (h : highest records = some top)
    (hrecord : record ∈ records) : statusRank record.status ≤ statusRank top.status :=
  List.le_of_mem_argmax (f := fun record : CanonicalRecord ↦ statusRank record.status)
    hrecord h

/-- `_merge_exact`. -/
def mergeExact (records : List CanonicalRecord) : Except ValueError CanonicalRecord :=
  match records.insertionSort fun a b ↦ mergeKey a ≤ mergeKey b with
  | [] => raise "cannot merge an empty exact-record group".toList
  | base :: _ => .ok { base with
      status := (highest records).elim base.status (·.status)
      confidence := (records.filterMap (·.confidence)).max?
      confidenceBasis := joined (records.map (·.confidenceBasis))
      provenance := mergeProvenance records
      firstImportedRevision := (revisions (records.map (·.firstImportedRevision))).head?.getD []
      lastVerifiedRevision := (revisions (records.map (·.lastVerifiedRevision))).getLast?.getD []
      notes := joined (records.map (·.notes)) }

/-! ### Conflicts -/

structure Conflict where
  leftId : Str
  rightId : Str
  differingFields : List Str
  deriving DecidableEq

/-- What `_conflict_key` makes of a record. -/
structure ConflictKey where
  kind : Str
  transport : Str
  addressFamily : Str
  probeId : Option Str
  matcherType : Option Str
  matcherExpression : Option Str
  ports : List ℤ
  deriving DecidableEq

/-- `_conflict_key`. -/
def conflictKey (record : CanonicalRecord) : Option ConflictKey :=
  if record.kind ∉ ["service_matcher".toList, "os_fingerprint".toList] then none
  else some ⟨record.kind, record.transport, record.addressFamily, record.probeId,
    record.matcherType, record.matcherExpression, record.ports.sortedSet⟩

/-- `_identity`, in the order of the names. -/
def identity (record : CanonicalRecord) : List (Str × Option Str) :=
  [("device_type".toList, record.deviceType), ("os_family".toList, record.osFamily),
    ("product".toList, record.product), ("service".toList, record.service),
    ("vendor".toList, record.vendor), ("version".toList, record.version)]

/-- `_differing_identity_fields`. -/
def differingIdentityFields (left right : CanonicalRecord) : List Str :=
  ((identity left).zip (identity right)).filterMap fun (field, other) ↦
    if field.2 ≠ other.2 then some field.1 else none

/-- The pairs of a list, the left one before the right one. -/
def pairs {α : Type} : List α → List (α × α)
  | [] => []
  | left :: rest => rest.map (left, ·) ++ pairs rest

/-- The pairs of a group that contradict each other. -/
def groupConflicts (group : List CanonicalRecord) : List Conflict :=
  (pairs (group.insertionSort fun a b ↦ a.id ≤ b.id)).filterMap fun (left, right) ↦
    let differing := differingIdentityFields left right
    if differing.isEmpty then none else some ⟨left.id, right.id, differing⟩

/-- `if pair in seen_pairs: continue`. -/
def unseen (conflicts : List Conflict) (conflict : Conflict) : List Conflict :=
  if conflicts.any fun seen ↦ seen.leftId = conflict.leftId ∧ seen.rightId = conflict.rightId then
    conflicts
  else conflicts ++ [conflict]

/-- The conflicts of the merged records. -/
def conflictsOf (merged : List CanonicalRecord) : List Conflict :=
  let keyed := merged.filterMap fun record ↦ (conflictKey record).map (·, record)
  let groups := (AList.groupBy Prod.fst keyed).values.map fun group ↦ group.map Prod.snd
  ((groups.flatMap groupConflicts).foldl unseen []).insertionSort fun a b ↦
    toLex (a.leftId, a.rightId) ≤ toLex (b.leftId, b.rightId)

/-- `merge_records`. -/
def mergeRecords (records : List CanonicalRecord) :
    Except ValueError (List CanonicalRecord × List Conflict) := do
  let merged ← (AList.groupBy (·.id) records).sortedValues.mapM mergeExact
  let merged := merged.insertionSort fun a b ↦ a.id ≤ b.id
  return (merged, conflictsOf merged)

/-! ### Writing -/

/-- `_provenance_key` of `external_io.py`. -/
def writtenProvenanceKey (value : Provenance) : Str ×ₗ Str ×ₗ Str ×ₗ Str :=
  toLex (value.sourceId, toLex (value.sourceRecordId,
    toLex (value.sourceRevision, value.sourceHash)))

/-- `_sorted_unique_strings`. -/
def sortedUniqueStrings (values : List Str) : List Str := values.sortedSet

/-- `_serialized_os_features`. -/
def serializedOsFeatures (values : List (Str × Str)) : List (Str × Str) :=
  values.insertionSort fun a b ↦ a.1 ≤ b.1

variable (digest : Semantics → Str)

/-- `record_to_dict`. -/
def recordToDict (record : CanonicalRecord) : Except ValueError CanonicalRecord :=
  let expected := stableRecordId digest record.toSemantics
  if !record.id.isEmpty && record.id ≠ expected then
    raise ("id does not match semantic fingerprint: expected ".toList ++ expected)
  else .ok { record with
    id := expected
    cpe := sortedUniqueStrings record.cpe
    ports := record.ports.sortedSet
    evidenceRequirements := sortedUniqueStrings record.evidenceRequirements
    negativeConstraints := sortedUniqueStrings record.negativeConstraints
    provenance := record.provenance.insertionSort fun a b ↦
      writtenProvenanceKey a ≤ writtenProvenanceKey b
    probePayloadHex := record.probePayloadHex.map (·.map Char.toLower)
    osFeatures := serializedOsFeatures record.osFeatures }

/-- `write_jsonl`, as the lines of the file. -/
def writeJsonl (records : List CanonicalRecord) : Except ValueError (List CanonicalRecord) := do
  let serialized ← records.mapM (recordToDict digest)
  let serialized := serialized.insertionSort fun a b ↦ a.id ≤ b.id
  if ¬ (serialized.map (·.id)).Nodup then raise "duplicate canonical id in write set".toList
  return serialized

/-- `_KIND_FILES`. -/
def kindFiles : List (Str × Str) :=
  [("service_matcher".toList, "services.jsonl".toList),
    ("active_probe".toList, "services.jsonl".toList),
    ("os_fingerprint".toList, "os.jsonl".toList), ("udp_probe".toList, "udp.jsonl".toList),
    ("web_fingerprint".toList, "web.jsonl".toList),
    ("device_fingerprint".toList, "devices.jsonl".toList),
    ("port_registry".toList, "registry.jsonl".toList),
    ("product_record".toList, "products.jsonl".toList),
    ("product_alias".toList, "products.jsonl".toList),
    ("product_vocab".toList, "products.jsonl".toList),
    ("registry".toList, "products.jsonl".toList), ("cpe_record".toList, "cpe.jsonl".toList)]

/-- `_KIND_FILES[kind]`. -/
def kindFile (kind : Str) : Option Str := kindFiles.lookup kind

/-- `_ALL_FILES`. -/
def allFiles : List Str := (kindFiles.map Prod.snd).sortedSet

/-- What `compile_records` returns. -/
structure Summary where
  totalRecords : ℕ
  recordsByKind : List (Str × ℕ)
  files : List (Str × ℕ)
  conflictCount : ℕ
  deriving DecidableEq

/-- The records of each kind, in the order of the kinds. -/
def countKinds (records : List CanonicalRecord) : List (Str × ℕ) :=
  (records.map (·.kind)).sortedSet.map fun kind ↦
    (kind, (records.map (·.kind)).count kind)

/-- What `compile_records` asks of a record. -/
def checkRecord (sources : Str → Option SourcePolicy) (record : CanonicalRecord) :
    Except ValueError Unit :=
  let errors := validateRecord digest sources record
  if !errors.isEmpty then
    raise ("invalid external record ".toList ++ record.id ++ ": ".toList ++
      "; ".toList.intercalate errors)
  else if (kindFile record.kind).isNone then
    raise ("no external output group for kind: ".toList ++ record.kind)
  else .ok ()

/-- `compile_records`, with the files that it writes. -/
def compileRecords (sources : Str → Option SourcePolicy) (records : List CanonicalRecord) :
    Except ValueError (Summary × List (Str × List CanonicalRecord)) := do
  records.forM (checkRecord digest sources)
  let (merged, conflicts) ← mergeRecords records
  if !conflicts.isEmpty then
    raise ("unresolved external corpus conflict: ".toList ++ ", ".toList.intercalate
      (conflicts.map fun item ↦ item.leftId ++ '|' :: item.rightId))
  let grouped := fun name ↦ merged.filter fun record ↦ kindFile record.kind = some name
  let files ← allFiles.mapM fun name ↦ do return (name, ← writeJsonl digest (grouped name))
  return ({ totalRecords := merged.length, recordsByKind := countKinds merged,
            files := allFiles.map fun name ↦ (name, (grouped name).length),
            conflictCount := 0 }, files)

end Skan.Corpus.External
