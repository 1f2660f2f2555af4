import Skan.Corpus.Compiler
import Skan.Corpus.RecordFacts

/-!
# What a validated graph is known to satisfy

`GraphFacts` collects what `validate_runtime_graph` has checked when it accepts canonical records,
one field for each check that the compiler relies on. From it, the sorted lists that the emitters
run over are numbered from zero (`orders_orderedProbes`, `orders_rulesOf`, `orders_udp`). -/

namespace Skan.Corpus

/-! ### Checks -/

@[simp] theorem insist_eq_ok {condition : Bool} {message : String} {u : Unit} :
    insist condition message = .ok u ↔ condition = true := by
  cases condition
  · simp [insist]
  · simp [insist]

theorem insist_of {condition : Bool} (h : condition = true) (message : String) :
    insist condition message = .ok () := insist_eq_ok.mpr h

/-- A loop without a result succeeds if each pass does. -/
theorem forM_eq_ok {ε α : Type} {f : α → Except ε Unit} {l : List α} {u : Unit} :
    l.forM f = .ok u ↔ ∀ x ∈ l, f x = .ok () := by
  induction l with
  | nil => exact ⟨fun _ ↦ by simp, fun _ ↦ rfl⟩
  | cons x l ih =>
    change (f x >>= fun _ ↦ l.forM f) = .ok u ↔ _
    rw [bind_eq_ok, List.forall_mem_cons]
    exact ⟨fun ⟨_, hx, hl⟩ ↦ ⟨hx, ih.mp hl⟩, fun ⟨hx, hl⟩ ↦ ⟨(), hx, ih.mpr hl⟩⟩

/-! ### Canonical records -/

section

variable {py : Platform} {record : CanonicalRecord}

/-- What is needed of a canonical record. -/
theorem Canonical.body (h : Canonical py sources record) :
    parseBody py record.body = .ok record.body ∧ record.id = stableRecordId py record.body := by
  simp only [Canonical, parseRecord, bind_eq_ok, require_eq_ok, exists_const, pure_eq_ok,
    decide_eq_true_eq] at h
  obtain ⟨-, -, -, body, hbody, -, _, -, -, _, -, _, -, _, -, hid, heq⟩ := h
  obtain rfl : body = record.body := congrArg CanonicalRecord.body heq
  exact ⟨hbody, hid⟩

theorem parseBody_serviceMatcher {body : ServiceMatcherSemantics} :
    parseBody py (.serviceMatcher body) = .ok (.serviceMatcher body) ↔
      parseService py body = .ok body := by
  rw [parseBody, bind_eq_ok]
  refine ⟨fun ⟨parsed, h, heq⟩ ↦ ?_, fun h ↦ ⟨body, h, rfl⟩⟩
  rwa [RecordBody.serviceMatcher.inj (pure_eq_ok.mp heq)] at h

theorem parseBody_activeProbe {body : ActiveProbeSemantics} :
    parseBody py (.activeProbe body) = .ok (.activeProbe body) ↔
      parseActive py body = .ok body := by
  rw [parseBody, bind_eq_ok]
  refine ⟨fun ⟨parsed, h, heq⟩ ↦ ?_, fun h ↦ ⟨body, h, rfl⟩⟩
  rwa [RecordBody.activeProbe.inj (pure_eq_ok.mp heq)] at h

theorem parseBody_udpProbe {body : UDPProbeSemantics} :
    parseBody py (.udpProbe body) = .ok (.udpProbe body) ↔ parseUdp py body = .ok body := by
  rw [parseBody, bind_eq_ok]
  refine ⟨fun ⟨parsed, h, heq⟩ ↦ ?_, fun h ↦ ⟨body, h, rfl⟩⟩
  rwa [RecordBody.udpProbe.inj (pure_eq_ok.mp heq)] at h

theorem parseBody_osFingerprint {body : OSFingerprintSemantics} :
    parseBody py (.osFingerprint body) = .ok (.osFingerprint body) ↔
      parseOs py body = .ok body := by
  rw [parseBody, bind_eq_ok]
  refine ⟨fun ⟨parsed, h, heq⟩ ↦ ?_, fun h ↦ ⟨body, h, rfl⟩⟩
  rwa [RecordBody.osFingerprint.inj (pure_eq_ok.mp heq)] at h

/-- A pass over canonical records returns them. -/
theorem foldlM_checkRecord {records front checked : List CanonicalRecord}
    (hcanonical : ∀ record ∈ records, Canonical py sources record)
    (h : records.foldlM (checkRecord py) front = .ok checked) : checked = front ++ records := by
  induction records generalizing front with
  | nil => exact (pure_eq_ok.mp h).symm.trans (List.append_nil _).symm
  | cons record records ih =>
    rw [List.foldlM_cons, bind_eq_ok] at h
    obtain ⟨next, hnext, h⟩ := h
    have hparsed : parseRecord py record sources = .ok record :=
      hcanonical record List.mem_cons_self
    simp only [checkRecord, hparsed, bind_eq_ok, insist_eq_ok, exists_const, pure_eq_ok] at hnext
    obtain ⟨-, -, rfl⟩ := hnext
    rw [ih (fun r hr ↦ hcanonical r (List.mem_cons_of_mem record hr)) h, List.append_assoc]
    rfl

/-- A pass over verified canonical records with distinct identifiers succeeds. -/
theorem foldlM_checkRecord_ok {records front : List CanonicalRecord}
    (hcanonical : ∀ record ∈ records, Canonical py sources record)
    (hverified : ∀ record ∈ records, record.status = .verified)
    (hids : ((front ++ records).map (·.id)).Nodup) :
    records.foldlM (checkRecord py) front = .ok (front ++ records) := by
  induction records generalizing front with
  | nil => exact congrArg Except.ok (List.append_nil front).symm
  | cons record records ih =>
    have hassoc : front ++ record :: records = (front ++ [record]) ++ records := by simp
    have hfresh : record.id ∉ front.map (·.id) := by
      rw [List.map_append, List.map_cons] at hids
      exact fun hmem ↦ (List.nodup_append.mp hids).2.2 _ hmem _ List.mem_cons_self rfl
    have hparsed : parseRecord py record sources = .ok record :=
      hcanonical record List.mem_cons_self
    have hstep : checkRecord py front record = .ok (front ++ [record]) := by
      rw [checkRecord, hparsed]
      refine bind_eq_ok.mpr ⟨(), insist_of (decide_eq_true hfresh) _, ?_⟩
      exact bind_eq_ok.mpr ⟨(), insist_of (decide_eq_true (hverified record List.mem_cons_self)) _,
        rfl⟩
    rw [List.foldlM_cons, hassoc]
    refine bind_eq_ok.mpr ⟨_, hstep, ?_⟩
    exact ih (fun r hr ↦ hcanonical r (List.mem_cons_of_mem record hr))
      (fun r hr ↦ hverified r (List.mem_cons_of_mem record hr)) (hassoc ▸ hids)

end

/-! ### Graphs -/

/-- What is known of a graph of canonical records that is valid. -/
structure GraphFacts (py : Platform) (records : List CanonicalRecord) : Prop where
  canonical : ∀ record ∈ records, Canonical py sources record
  active : activeProbes records ≠ []
  udp : udpProbes records ≠ []
  probeNames : ((activeProbes records).map (·.probeName)).Nodup
  probeCount : (activeProbes records).length ≤ maxRecords
  probeOrders : contiguous ((activeProbes records).map (·.declarationOrder))
  fallbacks : ∀ probe ∈ activeProbes records,
    checkFallbacks (activeProbes records) probe = .ok ()
  resolved : ∀ matcher ∈ serviceMatchers records,
    ∃ probe ∈ activeProbes records, probe.probeName = matcher.probeName
  cpe : ∀ matcher ∈ serviceMatchers records, matcher.cpe = []
  ruleCount : ∀ probe ∈ activeProbes records,
    (ruleOrders (serviceMatchers records) probe).length ≤ maxRecords
  ruleOrders : ∀ probe ∈ activeProbes records, contiguous
    (ruleOrders (serviceMatchers records) probe)
  udpNames : ((udpProbes records).map (·.name)).Nodup
  udpCount : (udpProbes records).length ≤ maxRecords
  udpOrders : contiguous ((udpProbes records).map (·.declarationOrder))
  udpPorts : (((udpProbes records).filter (·.destinationPort ≠ 0)).map (·.destinationPort)).Nodup
  udpDefault : ((udpProbes records).filter (·.destinationPort = 0)).map (·.name) = [defaultName]
  runtimeIds : ((osFingerprints records).map (·.runtimeId)).Nodup
  fingerprintNames : ((osFingerprints records).map (·.name)).Nodup
  fingerprintCount : (osFingerprints records).length ≤ maxRecords
  families : ∀ family, ∃ fingerprint ∈ osFingerprints records, fingerprint.addressFamily = family

variable {py : Platform} {records : List CanonicalRecord}

/-- **A valid graph** of canonical records is returned as it is. -/
theorem graph_of_validate (hcanonical : ∀ record ∈ records, Canonical py sources record)
    {validated : List CanonicalRecord} (h : validateRuntimeGraph py records = .ok validated) :
    validated = records ∧ GraphFacts py records := by
  simp only [validateRuntimeGraph, bind_eq_ok, insist_eq_ok, exists_const, pure_eq_ok] at h
  obtain ⟨checked, hchecked, hkinds, _, hactive, _, hmatchers, _, hudp, _, hos, rfl⟩ := h
  obtain rfl : checked = records := foldlM_checkRecord hcanonical hchecked
  simp only [Bool.and_eq_true, Bool.not_eq_true', List.isEmpty_eq_false_iff] at hkinds
  simp only [checkActiveProbes, bind_eq_ok, insist_eq_ok, exists_const, decide_eq_true_eq,
    forM_eq_ok] at hactive
  simp only [checkMatchers, bind_eq_ok, insist_eq_ok, exists_const, decide_eq_true_eq, forM_eq_ok,
    List.any_eq_true, List.isEmpty_iff, Bool.or_eq_true] at hmatchers
  simp only [checkUdpProbes, bind_eq_ok, insist_eq_ok, exists_const, decide_eq_true_eq] at hudp
  simp only [checkFingerprints, bind_eq_ok, insist_eq_ok, exists_const, decide_eq_true_eq,
    forM_eq_ok,
    List.any_eq_true] at hos
  obtain ⟨hnames, hcount, horders, hfallbacks⟩ := hactive
  obtain ⟨hresolved, hrules⟩ := hmatchers
  obtain ⟨hudpNames, hudpCount, hudpOrders, hudpPorts, hdefault⟩ := hudp
  obtain ⟨hids, hosNames, hosCount, hfamilies⟩ := hos
  refine ⟨rfl, hcanonical, hkinds.1.1.1, hkinds.1.2, hnames, hcount, horders, hfallbacks,
    fun matcher hm ↦ (hresolved matcher hm).1, fun matcher hm ↦ (hresolved matcher hm).2,
    fun probe hp ↦ (hrules probe hp).1, fun probe hp ↦
      ?_, hudpNames, hudpCount, hudpOrders, hudpPorts,
    hdefault, hids, hosNames, hosCount, fun family ↦ hfamilies family ?_⟩
  · rcases (hrules probe hp).2 with hnone | hsome
    · rw [hnone]
      rfl
    · exact hsome
  · cases family <;> simp

/-! ### Orders -/

/-- Sorting by numbers that are contiguous leaves the numbers from zero. -/
theorem map_insertionSort_of_contiguous {α : Type} {order : α → ℕ} {l : List α}
    (h : contiguous (l.map order)) :
    (l.insertionSort fun a b ↦ order a ≤ order b).map order = List.range l.length := by
  rw [contiguous, decide_eq_true_iff, List.length_map] at h
  rw [List.map_insertionSort _ (· ≤ ·) order l fun a _ b _ ↦ Iff.rfl, h]

/-- The probes are declared in order. -/
theorem GraphFacts.orders_orderedProbes (h : GraphFacts py records) :
    (orderedProbes (activeProbes records)).map (·.declarationOrder) =
      List.range (activeProbes records).length := map_insertionSort_of_contiguous h.probeOrders

/-- So are the rules of a probe. -/
theorem GraphFacts.orders_rulesOf (h : GraphFacts py records) {probe : ActiveProbeSemantics}
    (hprobe : probe ∈ activeProbes records) :
    (rulesOf (serviceMatchers records) probe).map (·.ruleOrder) =
      List.range (rulesOf (serviceMatchers records) probe).length := by
  rw [rulesOf, map_insertionSort_of_contiguous (h.ruleOrders probe hprobe),
    List.length_insertionSort]

/-! ### Bodies -/

theorem mem_activeProbes {body : ActiveProbeSemantics} :
    body ∈ activeProbes records ↔ ∃ record ∈ records, record.body = .activeProbe body := by
  rw [activeProbes, List.mem_filterMap]
  refine exists_congr fun record ↦ and_congr_right fun _ ↦ ?_
  cases hbody : record.body <;> simp

theorem mem_serviceMatchers {body : ServiceMatcherSemantics} :
    body ∈ serviceMatchers records ↔ ∃ record ∈ records, record.body = .serviceMatcher body := by
  rw [serviceMatchers, List.mem_filterMap]
  refine exists_congr fun record ↦ and_congr_right fun _ ↦ ?_
  cases hbody : record.body <;> simp

theorem mem_udpProbes {body : UDPProbeSemantics} :
    body ∈ udpProbes records ↔ ∃ record ∈ records, record.body = .udpProbe body := by
  rw [udpProbes, List.mem_filterMap]
  refine exists_congr fun record ↦ and_congr_right fun _ ↦ ?_
  cases hbody : record.body <;> simp

theorem mem_osFingerprints {body : OSFingerprintSemantics} :
    body ∈ osFingerprints records ↔ ∃ record ∈ records, record.body = .osFingerprint body := by
  rw [osFingerprints, List.mem_filterMap]
  refine exists_congr fun record ↦ and_congr_right fun _ ↦ ?_
  cases hbody : record.body <;> simp

section

variable (h : GraphFacts py records)

include h

theorem GraphFacts.parse_active {body : ActiveProbeSemantics}
    (hbody : body ∈ activeProbes records) : parseActive py body = .ok body := by
  obtain ⟨record, hrecord, heq⟩ := mem_activeProbes.mp hbody
  have hparsed := (h.canonical record hrecord).body.1
  rw [heq] at hparsed
  exact parseBody_activeProbe.mp hparsed

theorem GraphFacts.parse_matcher {body : ServiceMatcherSemantics}
    (hbody : body ∈ serviceMatchers records) : parseService py body = .ok body := by
  obtain ⟨record, hrecord, heq⟩ := mem_serviceMatchers.mp hbody
  have hparsed := (h.canonical record hrecord).body.1
  rw [heq] at hparsed
  exact parseBody_serviceMatcher.mp hparsed

theorem GraphFacts.parse_udp {body : UDPProbeSemantics} (hbody : body ∈ udpProbes records) :
    parseUdp py body = .ok body := by
  obtain ⟨record, hrecord, heq⟩ := mem_udpProbes.mp hbody
  have hparsed := (h.canonical record hrecord).body.1
  rw [heq] at hparsed
  exact parseBody_udpProbe.mp hparsed

theorem GraphFacts.parse_os {body : OSFingerprintSemantics}
    (hbody : body ∈ osFingerprints records) : parseOs py body = .ok body := by
  obtain ⟨record, hrecord, heq⟩ := mem_osFingerprints.mp hbody
  have hparsed := (h.canonical record hrecord).body.1
  rw [heq] at hparsed
  exact parseBody_osFingerprint.mp hparsed

end

end Skan.Corpus
