import Skan.Corpus.OsLossless
import Skan.Corpus.UdpLossless

/-!
# The compiler does not lose a record

A valid graph of canonical records is always emitted, and what is emitted is imported again with the
bodies of the records, so that `compile_corpus` returns it: unless a rule of the graph is misread,
when the import of the service database fails (`lossless_iff`). -/

namespace Skan.Corpus

open Skan.Output (Double)

variable {py : Platform} {records : List CanonicalRecord}

/-! ### Bodies -/

/-- The bodies of a graph by their kinds. -/
theorem bodies_perm (records : List CanonicalRecord) :
    (((activeProbes records).map RecordBody.activeProbe ++
        (serviceMatchers records).map RecordBody.serviceMatcher) ++
      ((udpProbes records).map RecordBody.udpProbe ++
        (osFingerprints records).map RecordBody.osFingerprint)).Perm
      (records.map (·.body)) := by
  induction records with
  | nil => exact List.Perm.refl _
  | cons record records ih =>
    rw [List.map_cons]
    -- the body of the record stands in front of the bodies of its kind
    cases hbody : record.body with
    | activeProbe body =>
      simp only [activeProbes, serviceMatchers, udpProbes, osFingerprints, List.filterMap_cons,
        hbody,
        List.map_cons, List.cons_append] at ih ⊢
      exact ih.cons _
    | serviceMatcher body =>
      simp only [activeProbes, serviceMatchers, udpProbes, osFingerprints, List.filterMap_cons,
        hbody,
        List.map_cons, List.append_assoc, List.cons_append] at ih ⊢
      exact List.perm_middle.trans (ih.cons _)
    | udpProbe body =>
      simp only [activeProbes, serviceMatchers, udpProbes, osFingerprints, List.filterMap_cons,
        hbody,
        List.map_cons, List.append_assoc, List.cons_append] at ih ⊢
      rw [← List.append_assoc] at ih ⊢
      exact List.perm_middle.trans (ih.cons _)
    | osFingerprint body =>
      simp only [activeProbes, serviceMatchers, udpProbes, osFingerprints, List.filterMap_cons,
        hbody,
        List.map_cons] at ih ⊢
      rw [← List.append_assoc] at ih ⊢
      exact List.perm_middle.trans (ih.cons _)

/-- The fingerprints of the two families are the fingerprints of the graph. -/
theorem orderedFingerprints_perm (fingerprints : List OSFingerprintSemantics) :
    (orderedFingerprints fingerprints .ipv4 ++ orderedFingerprints fingerprints .ipv6).Perm
      fingerprints := by
  have hfamilies : fingerprints.filter (·.addressFamily = .ipv6) =
      fingerprints.filter fun body ↦ !decide (body.addressFamily = .ipv4) := by
    refine List.filter_congr fun body _ ↦ ?_
    cases body.addressFamily <;> rfl
  refine ((List.perm_insertionSort _ _).append (List.perm_insertionSort _ _)).trans ?_
  rw [hfamilies]
  exact List.filter_append_perm _ _

/-! ### Emission -/

/-- The artifacts that a graph is emitted as. -/
def emitted (py : Platform) (records : List CanonicalRecord) : CompiledCorpus where
  serviceProbes := service py records
  udpProbes := Utf8.encode (linesText (udpLines records))
  ipv4Os := Utf8.encode (linesText (osLines .ipv4 records))
  ipv6Os := Utf8.encode (linesText (osLines .ipv6 records))

/-- **A valid graph is emitted.** -/
theorem emitArtifacts_ok (h : GraphFacts py records) :
    emitArtifacts py records = .ok (emitted py records) := by
  refine bind_eq_ok.mpr ⟨_, compileLegacyUdp_ok h, ?_⟩
  refine bind_eq_ok.mpr ⟨_, os_ok h, ?_⟩
  exact bind_eq_ok.mpr ⟨_, os_ok h, rfl⟩

/-! ### Import -/

/-- What is asked of the artifacts of a graph: they are imported with the bodies of its records, and
the compiler returns them. -/
structure Lossless (py : Platform) (records : List CanonicalRecord) (artifacts : CompiledCorpus) :
    Prop where
  imported : ∃ service udp ipv4 ipv6, importArtifacts py artifacts =
    .ok (service, udp, ipv4, ipv6) ∧
    ((service ++ udp ++ ipv4 ++ ipv6).map (·.body)).Perm (records.map (·.body))
  compiled : compileCorpus py records = .ok artifacts

/-- **The four databases are imported** with the identifiers and the bodies of the records. -/
theorem importArtifacts_ok (hpy : py.Lawful) (h : GraphFacts py records)
    (hlimits : (emitted py records).withinLimits)
    (hread : ∀ matcher ∈ serviceMatchers records, misread matcher = false) :
    ∃ service udp ipv4 ipv6,
      importArtifacts py (emitted py records) = .ok (service, udp, ipv4, ipv6) ∧
        ((service ++ udp ++ ipv4 ++ ipv6).map (·.semantics)).Perm (records.map (·.semantics)) ∧
        ipv4.length + ipv6.length ≤ maxRecords := by
  simp only [CompiledCorpus.withinLimits, Bool.and_eq_true] at hlimits
  obtain ⟨⟨⟨hservice, hudp⟩, hipv4⟩, hipv6⟩ := hlimits
  obtain ⟨service, hservice, hserviceBodies⟩ := parseServiceRuntime_ok hpy h hservice hread
  obtain ⟨udp, hudp, hudpBodies⟩ := parseUdpRuntime_ok hpy h hudp
  obtain ⟨ipv4, hipv4, hipv4Bodies⟩ := parseOsRuntime_ok hpy h hipv4
  obtain ⟨ipv6, hipv6, hipv6Bodies⟩ := parseOsRuntime_ok hpy h hipv6
  refine ⟨service, udp, ipv4, ipv6, ?_, ?_, ?_⟩
  · refine bind_eq_ok.mpr ⟨service, hservice, ?_⟩
    refine bind_eq_ok.mpr ⟨udp, hudp, ?_⟩
    refine bind_eq_ok.mpr ⟨ipv4, hipv4, ?_⟩
    exact bind_eq_ok.mpr ⟨ipv6, hipv6, rfl⟩
  · have hsemantics : records.map (·.semantics) = (records.map (·.body)).map (semanticsOf py) := by
      rw [List.map_map]
      refine List.map_congr_left fun record hrecord ↦ ?_
      rw [CanonicalRecord.semantics, (h.canonical record hrecord).body.2]
      rfl
    have hfingerprints := ((orderedFingerprints_perm (osFingerprints records)).map
      RecordBody.osFingerprint).map (semanticsOf py)
    have hserviceRecords := (serviceBodies_perm h).map (semanticsOf py)
    have hudpRecords := ((@orderedUdp_perm records).map RecordBody.udpProbe).map
      (semanticsOf py)
    rw [hsemantics]
    refine List.Perm.trans ?_ ((bodies_perm records).map (semanticsOf py))
    simp only [List.map_append, hserviceBodies, hudpBodies, hipv4Bodies, hipv6Bodies, List.map_map,
      List.append_assoc] at hfingerprints hserviceRecords hudpRecords ⊢
    have hall := hserviceRecords.append (hudpRecords.append hfingerprints)
    rwa [List.append_assoc] at hall
  · have hlengths := (orderedFingerprints_perm (osFingerprints records)).length_eq
    have hipv4Length := congrArg List.length hipv4Bodies
    have hipv6Length := congrArg List.length hipv6Bodies
    simp only [List.length_map] at hipv4Length hipv6Length
    rw [List.length_append] at hlengths
    rw [hipv4Length, hipv6Length, hlengths]
    exact h.fingerprintCount

/-- Records that are the same up to their order have the same identifiers in order. -/
theorem sortedIds_eq {others : List CanonicalRecord}
    (h : (others.map (·.semantics)).Perm (records.map (·.semantics))) :
    sortedIds others = sortedIds records := by
  have hids := h.map Prod.fst
  rw [List.map_map, List.map_map] at hids
  have hperm : (sortedIds others).Perm (sortedIds records) :=
    ((List.perm_insertionSort _ _).trans hids).trans (List.perm_insertionSort _ _).symm
  have hsorted : ∀ l : List CanonicalRecord, (sortedIds l).Pairwise (· ≤ ·) :=
    fun l ↦ List.pairwise_insertionSort (fun a b : Str ↦ a ≤ b) (l.map CanonicalRecord.id)
  exact hperm.eq_of_pairwise (fun _ _ _ _ ↦ le_antisymm) (hsorted others) (hsorted records)

/-- **Artifacts within the limits are imported** behind the checks. -/
theorem reimportArtifacts_ok {artifacts : CompiledCorpus} (hlimits : artifacts.withinLimits)
    {service udp ipv4 ipv6 : List CanonicalRecord}
    (h : importArtifacts py artifacts = .ok (service, udp, ipv4, ipv6))
    (hcount : ipv4.length + ipv6.length ≤ maxRecords) :
    reimportArtifacts py artifacts = .ok (service ++ udp ++ ipv4 ++ ipv6) := by
  have hcheck : ∀ {name : String} {value : Bytes} {maximum : ℕ}, withinLimits value maximum →
      checkLimits name value maximum = .ok () := by
    intro name value maximum hvalue
    rw [withinLimits, Bool.and_eq_true] at hvalue
    exact bind_eq_ok.mpr ⟨(), insist_of hvalue.1 _, insist_of hvalue.2 _⟩
  simp only [CompiledCorpus.withinLimits, Bool.and_eq_true] at hlimits
  obtain ⟨⟨⟨hservice, hudp⟩, hipv4⟩, hipv6⟩ := hlimits
  refine bind_eq_ok.mpr ⟨(), hcheck hservice, ?_⟩
  refine bind_eq_ok.mpr ⟨(), hcheck hudp, ?_⟩
  refine bind_eq_ok.mpr ⟨(), hcheck hipv4, ?_⟩
  refine bind_eq_ok.mpr ⟨(), hcheck hipv6, ?_⟩
  rw [h]
  exact bind_eq_ok.mpr ⟨(), insist_of (decide_eq_true hcount) _, rfl⟩

/-- What the compiler returns is what the graph is emitted as, and it has been imported. -/
theorem import_of_compileCorpus {artifacts : CompiledCorpus}
    (h : compileCorpus py records = .ok artifacts) :
    ∃ validated imported, validateRuntimeGraph py records = .ok validated ∧
      emitArtifacts py validated = .ok artifacts ∧ importArtifacts py artifacts = .ok imported := by
  obtain ⟨validated, hvalid, h⟩ := bind_eq_ok.mp h
  obtain ⟨emitted, hemitted, h⟩ := bind_eq_ok.mp h
  obtain ⟨regenerated, hregenerated, h⟩ := bind_eq_ok.mp h
  obtain ⟨_, -, h⟩ := bind_eq_ok.mp h
  obtain rfl := pure_eq_ok.mp h
  obtain ⟨_, -, hregenerated⟩ := bind_eq_ok.mp hregenerated
  obtain ⟨_, -, hregenerated⟩ := bind_eq_ok.mp hregenerated
  obtain ⟨_, -, hregenerated⟩ := bind_eq_ok.mp hregenerated
  obtain ⟨_, -, hregenerated⟩ := bind_eq_ok.mp hregenerated
  cases himported : importArtifacts py emitted with
  | ok imported => exact ⟨validated, imported, hvalid, hemitted, rfl⟩
  | error error =>
    rw [himported] at hregenerated
    exact absurd hregenerated (by simp)

/-- **The compiler returns what it emits** exactly if no rule of the graph is misread, and it always
emits something. -/
theorem lossless_iff (hpy : py.Lawful)
    (hcanonical : ∀ record ∈ records, Canonical py sources record)
    {validated : List CanonicalRecord} (hvalid : validateRuntimeGraph py records = .ok validated) :
    ∃ artifacts, emitArtifacts py validated = .ok artifacts ∧
      (artifacts.withinLimits →
        (Lossless py records artifacts ↔
          ∀ matcher ∈ serviceMatchers records, misread matcher = false)) := by
  obtain ⟨rfl, h⟩ := graph_of_validate hcanonical hvalid
  refine ⟨emitted py validated, emitArtifacts_ok h,
    fun hlimits ↦ ⟨fun hlossless ↦ ?_, fun hread ↦ ?_⟩⟩
  · obtain ⟨service, _, _, _, himported, -⟩ := hlossless.imported
    obtain ⟨_, hservice, -⟩ := bind_eq_ok.mp himported
    simp only [CompiledCorpus.withinLimits, Bool.and_eq_true] at hlimits
    exact misread_of_parseServiceRuntime hpy h hlimits.1.1.1 hservice
  · obtain ⟨service, udp, ipv4, ipv6, himported, hsemantics, hcount⟩ :=
      importArtifacts_ok hpy h hlimits hread
    have hbodies := hsemantics.map Prod.snd
    rw [List.map_map, List.map_map] at hbodies
    refine ⟨⟨service, udp, ipv4, ipv6, himported, hbodies⟩, ?_⟩
    refine bind_eq_ok.mpr ⟨validated, hvalid, ?_⟩
    refine bind_eq_ok.mpr ⟨_, emitArtifacts_ok h, ?_⟩
    refine bind_eq_ok.mpr ⟨_, reimportArtifacts_ok hlimits himported hcount, ?_⟩
    exact bind_eq_ok.mpr ⟨(), insist_of (decide_eq_true (sortedIds_eq hsemantics)) _, rfl⟩

/-! ### A graph -/

section

variable {text : Str}

/-- A composition of `NFC`. -/
def sampleNfc : Str → Str
  | 'e' :: '\u0301' :: rest => 'é' :: sampleNfc rest
  | c :: rest => c :: sampleNfc rest
  | [] => []

/-- A half as `repr` writes it, and other numbers as their numerator and denominator. -/
def sampleText (q : ℚ≥0) : Str :=
  if q = 0.5 then "0.5".toList else decimal q.num ++ '.' :: decimal q.den

def sampleRepr : Double → Str
  | .finite true q => '-' :: sampleText q
  | .finite false q => sampleText q
  | _ => "nan".toList

/-- The number of a `sampleText`. -/
def sampleMagnitude (text : Str) : ℚ≥0 :=
  if text = "0.5".toList then 0.5
  else
    (Nat.ofDigitChars 10 (text.takeWhile (· ≠ '.')) 0 : ℚ≥0) /
      Nat.ofDigitChars 10 ((text.dropWhile (· ≠ '.')).drop 1) 0

def sampleFloat : Str → Option Double
  | '-' :: text => some (.finite true (sampleMagnitude text))
  | text => some (.finite false (sampleMagnitude text))

/-- A body, its mapping and its digest. -/
structure SampleBody where
  body : RecordBody
  json : List String
  digest : String

def SampleBody.bytes (sample : SampleBody) : Bytes := Utf8.encode (sample.json.flatMap (·.toList))

def SampleBody.hash (sample : SampleBody) : Vector (Fin 16) 64 :=
  .ofFn fun i ↦
    ⟨(Strings.hexValue (sample.digest.toList.getD i '0')).getD 0 % 16, Nat.mod_lt _ (by decide)⟩

def sampleProbe : SampleBody where
  body := .activeProbe {
    probeName := "NULL".toList, transport := .tcp, payloadHex := [], rarity := 1, priority := 1
    timeoutMs := none, ports := [], fallbackProbeNames := [], declarationOrder := 0 }
  json := [
    "\x7b\"body\":\x7b\"declaration_order\":0,", "\"fallback_probe_names\":[],",
    "\"payload_hex\":\"\",", "\"ports\":[],", "\"priority\":1,", "\"probe_name\":\"NULL\",",
    "\"rarity\":1,", "\"timeout_ms\":null,", "\"transport\":\"tcp\"\x7d,",
    "\"kind\":\"active_probe\",", "\"schema_version\":2\x7d"]
  digest := "10934d8e9833869c874495e7015d5f76621276a8e010612eefad59fb6e358780"

/-- A matcher of the probe. -/
def sampleRule (matcherType : MatcherType) (patternHex : String) : ServiceMatcherSemantics where
  probeName := "NULL".toList
  matcherType := matcherType
  pattern := none
  patternHex := some patternHex.toList
  strength := .hard
  service := ['a']
  product := none
  versionTemplate := none
  extra := none
  hostnameTemplate := none
  tunnel := none
  confidence := .finite false 0.5
  ruleOrder := 0
  cpe := []

def sampleMatcher : SampleBody where
  body := .serviceMatcher (sampleRule .exact "61")
  json := [
    "\x7b\"body\":\x7b\"confidence\":0.5,", "\"cpe\":[],", "\"extra\":null,",
    "\"hostname_template\":null,", "\"matcher_type\":\"exact\",", "\"pattern\":null,",
    "\"pattern_hex\":\"61\",", "\"probe_name\":\"NULL\",", "\"product\":null,",
    "\"rule_order\":0,", "\"service\":\"a\",", "\"strength\":\"hard\",", "\"tunnel\":null,",
    "\"version_template\":null\x7d,", "\"kind\":\"service_matcher\",", "\"schema_version\":2\x7d"]
  digest := "69a817e67a5c4994815f57821540faa97c468680c051ad41068bda0373c3f1fe"

/-- The letter `e` and a combining accent: text that is not in normal form. -/
def sampleMisread : SampleBody where
  body := .serviceMatcher (sampleRule .regex "65cc81")
  json := [
    "\x7b\"body\":\x7b\"confidence\":0.5,", "\"cpe\":[],", "\"extra\":null,",
    "\"hostname_template\":null,", "\"matcher_type\":\"regex\",", "\"pattern\":null,",
    "\"pattern_hex\":\"65cc81\",", "\"probe_name\":\"NULL\",", "\"product\":null,",
    "\"rule_order\":0,", "\"service\":\"a\",", "\"strength\":\"hard\",", "\"tunnel\":null,",
    "\"version_template\":null\x7d,", "\"kind\":\"service_matcher\",", "\"schema_version\":2\x7d"]
  digest := "789cc5e8540734c27e50d5c2a7387908e666860a89f4da42a7be42a8d645a26a"

def sampleUdp : SampleBody where
  body := .udpProbe {
    name := defaultName, destinationPort := 0, protocolHint := ['x'], maxResponseBytes := 1
    payloadHex := "00".toList, declarationOrder := 0 }
  json := [
    "\x7b\"body\":\x7b\"declaration_order\":0,", "\"destination_port\":0,",
    "\"max_response_bytes\":1,", "\"name\":\"DEFAULT\",", "\"payload_hex\":\"00\",",
    "\"protocol_hint\":\"x\"\x7d,", "\"kind\":\"udp_probe\",", "\"schema_version\":2\x7d"]
  digest := "bb98191fa809b204730799a556a73f844a6f0c64e64f3cf0f4f63cc376bb08b2"

def sampleFingerprint (name : Str) (family : OSAddressFamily) : RecordBody :=
  .osFingerprint {
    runtimeId := name, name, vendor := ['v'], osFamily := ['f'], osGeneration := [], deviceType :=
      []
    addressFamily := family, specificity := 1
    signatures := [{ field := .mss, operator := .eq, value := .number 1 }] }

def sampleIPv4 : SampleBody where
  body := sampleFingerprint ['a'] .ipv4
  json := [
    "\x7b\"body\":\x7b\"address_family\":\"ipv4\",", "\"device_type\":\"\",", "\"name\":\"a\",",
    "\"os_family\":\"f\",", "\"os_generation\":\"\",", "\"runtime_id\":\"a\",",
    "\"signatures\":[\x7b\"field\":\"mss\",", "\"operator\":\"eq\",", "\"value\":1\x7d],",
    "\"specificity\":1,", "\"vendor\":\"v\"\x7d,", "\"kind\":\"os_fingerprint\",",
    "\"schema_version\":2\x7d"]
  digest := "c3b230a80ecc33f75fcb01517686fb2529e46b0269d0d30a663b62a3b60e754e"

def sampleIPv6 : SampleBody where
  body := sampleFingerprint ['b'] .ipv6
  json := [
    "\x7b\"body\":\x7b\"address_family\":\"ipv6\",", "\"device_type\":\"\",", "\"name\":\"b\",",
    "\"os_family\":\"f\",", "\"os_generation\":\"\",", "\"runtime_id\":\"b\",",
    "\"signatures\":[\x7b\"field\":\"mss\",", "\"operator\":\"eq\",", "\"value\":1\x7d],",
    "\"specificity\":1,", "\"vendor\":\"v\"\x7d,", "\"kind\":\"os_fingerprint\",",
    "\"schema_version\":2\x7d"]
  digest := "0a9fe363705ff9ffbc749330f1bd4e0dbe9811e8fa4424156fa8be73bbe0419f"

def sampleBodies : List SampleBody :=
  [sampleProbe, sampleMatcher, sampleMisread, sampleUdp, sampleIPv4, sampleIPv6]

/-- Digits in which every byte counts: they stand for the digest of a line, of which only the length
and the alphabet matter. -/
def sampleDigest (value : Bytes) : Vector (Fin 16) 64 :=
  let digits := value.foldl (fun n b ↦ 257 * n + b.toNat + 1) 0
  Vector.ofFn fun i ↦ ⟨digits / 16 ^ (63 - i.val) % 16, Nat.mod_lt _ (Nat.succ_pos 15)⟩

/-- The standard library, as far as the graph needs it. -/
def samplePlatform : Platform where
  normalizeNfc := sampleNfc
  reCompiles _ := true
  repr := sampleRepr
  float := sampleFloat
  sha256 value := ((sampleBodies.find? (·.bytes = value)).map (·.hash)).getD (sampleDigest value)
  jsonDumps body := ((sampleBodies.find? (·.body = body)).map (·.bytes)).getD []

/-- The record of a body. -/
def sampleRecord (sample : SampleBody) : CanonicalRecord where
  schemaVersion := 2
  id := "skan-db-v2-".toList ++ sample.digest.toList
  body := sample.body
  provenance := [
    { sourceId := skanFirstParty.id
      sourceRecordId := ['r']
      sourceRevision := skanFirstParty.pinnedRevision
      sourceUrl := skanFirstParty.sourceUrl
      sourceLicense := skanFirstParty.licenseSpdxOrPolicy
      snapshotHash := none
      recordHash := "sha256:".toList ++ sample.digest.toList }]
  firstImportedRevision := skanFirstParty.pinnedRevision
  lastVerifiedRevision := skanFirstParty.pinnedRevision
  status := .verified
  notes := []

/-- A graph with one rule. -/
def sampleGraph (rule : SampleBody) : List CanonicalRecord :=
  [sampleProbe, rule, sampleUdp, sampleIPv4, sampleIPv6].map sampleRecord

/-! ### Its laws -/

theorem point_notMem_decimal {n : ℕ} {c : Char} (h : c ∈ decimal n) : decide (c ≠ '.') = true := by
  refine decide_eq_true fun heq ↦ ?_
  have hdigit := isDecimal_of_mem_decimal h
  rw [heq] at hdigit
  exact absurd hdigit (by decide)

theorem takeWhile_fraction (n d : ℕ) :
    (decimal n ++ '.' :: decimal d).takeWhile (· ≠ '.') = decimal n := by
  rw [List.takeWhile_append_of_pos fun c hc ↦ point_notMem_decimal hc]
  simp

theorem dropWhile_fraction (n d : ℕ) :
    ((decimal n ++ '.' :: decimal d).dropWhile (· ≠ '.')).drop 1 = decimal d := by
  rw [List.dropWhile_append_of_pos fun c hc ↦ point_notMem_decimal hc]
  simp

theorem ofDigitChars_decimal (n : ℕ) : Nat.ofDigitChars 10 (decimal n) 0 = n := by
  simp [decimal, Nat.ofDigitChars_toDigits]

/-- A written fraction is read back. -/
theorem sampleMagnitude_sampleText (q : ℚ≥0) : sampleMagnitude (sampleText q) = q := by
  rw [sampleText]
  split
  · rename_i hhalf
    rw [sampleMagnitude, if_pos rfl, hhalf]
  have hne : decimal q.num ++ '.' :: decimal q.den ≠ "0.5".toList := by
    -- the numerator would be zero, and the denominator of zero is one
    intro heq
    have hnum : decimal q.num = ['0'] := by
      rw [← takeWhile_fraction q.num q.den, heq]
      decide
    have hzero : q.num = 0 := by
      rw [← ofDigitChars_decimal q.num, hnum]
      decide
    obtain rfl : q = 0 := by
      rw [← NNRat.num_div_den q, hzero, Nat.cast_zero, zero_div]
    exact absurd heq (by decide)
  rw [sampleMagnitude, if_neg hne, takeWhile_fraction, dropWhile_fraction, ofDigitChars_decimal,
    ofDigitChars_decimal, NNRat.num_div_den]

theorem isMagnitude_sampleText (q : ℚ≥0) : isMagnitude (sampleText q) := by
  rw [sampleText]
  split
  · decide
  have hall : ∀ c ∈ decimal q.num, isDecimal c = true := fun c hc ↦ isDecimal_of_mem_decimal hc
  have hfraction : ∀ c ∈ decimal q.den, isDecimal c = true := fun c hc ↦ isDecimal_of_mem_decimal hc
  rw [isMagnitude, List.takeWhile_append_of_pos hall, List.dropWhile_append_of_pos hall]
  have hpoint : isDecimal '.' = false := by decide
  have hne : decimal q.num ≠ [] := Nat.toDigits_ne_nil
  simp [hpoint, fractionOf, hne, List.dropWhile_eq_nil_iff.mpr hfraction, isExponent]

theorem isFloat_of_isMagnitude (h : isMagnitude text) : isFloat text := by
  rw [isFloat.eq_def]
  split
  · exact absurd h (by simp [isMagnitude, isDecimal, fractionOf])
  · exact h

theorem sampleFloat_of_isMagnitude (h : isMagnitude text) :
    sampleFloat text = some (.finite false (sampleMagnitude text)) := by
  rw [sampleFloat.eq_def]
  split
  · exact absurd h (by simp [isMagnitude, isDecimal, fractionOf])
  · rfl

theorem sampleNfc_cons {c : Char} {rest : Str} (h : rest.head? ≠ some '\u0301') :
    sampleNfc (c :: rest) = c :: sampleNfc rest := by
  rw [sampleNfc.eq_def]
  split
  · rename_i heq
    rw [(List.cons.inj heq).2] at h
    exact absurd rfl h
  · rename_i heq
    rw [(List.cons.inj heq).1, (List.cons.inj heq).2]
  · rename_i heq
    exact absurd heq (List.cons_ne_nil _ _)

theorem sampleNfc_colon {front back : Str} (h : ∀ c ∈ front, c.toNat ≤ 0x7F)
    (hback : sampleNfc back = back) : sampleNfc (front ++ ':' :: back) = front ++ ':' :: back := by
  induction front with
  | nil =>
    rw [List.nil_append, sampleNfc.eq_def]
    exact congrArg (':' :: ·) hback
  | cons c front ih =>
    rw [List.cons_append, sampleNfc_cons, ih fun d hd ↦ h d (List.mem_cons_of_mem c hd)]
    intro hhead
    cases front with
    | nil => exact absurd (Option.some.inj hhead) (by decide)
    | cons d front =>
      have hd := h d (List.mem_cons_of_mem c List.mem_cons_self)
      rw [Option.some.inj hhead] at hd
      exact absurd hd (by decide)

theorem sampleNfc_ascii (h : ∀ c ∈ text, c.toNat ≤ 0x7F) : sampleNfc text = text := by
  induction text with
  | nil => rfl
  | cons c text ih =>
    rw [sampleNfc_cons, ih fun d hd ↦ h d (List.mem_cons_of_mem c hd)]
    intro hhead
    have hd := h _ (List.mem_cons_of_mem c (List.mem_of_mem_head? hhead))
    exact absurd hd (by decide)

/-- The sample platform keeps the laws. -/
theorem samplePlatform_lawful : samplePlatform.Lawful where
  nfc_ascii _ := sampleNfc_ascii
  nfc_colon _ _ := sampleNfc_colon
  isFloat_repr
    | .finite true q, _ => isMagnitude_sampleText q
    | .finite false q, _ => isFloat_of_isMagnitude (isMagnitude_sampleText q)
  float_repr
    | .finite true q, _ => by
      change some (Double.finite true (sampleMagnitude (sampleText q))) = _
      rw [sampleMagnitude_sampleText]
    | .finite false q, _ => by
      change sampleFloat (sampleText q) = _
      rw [sampleFloat_of_isMagnitude (isMagnitude_sampleText q), sampleMagnitude_sampleText]

/-! ### The graph is valid -/

theorem canonical_sampleBodies :
    ∀ sample ∈ sampleBodies, Canonical samplePlatform sources (sampleRecord sample) := by
  -- each record is evaluated by itself
  simp only [sampleBodies, List.forall_mem_cons, Canonical]
  refine ⟨?_, ?_, ?_, ?_, ?_, ?_, fun _ h ↦ absurd h List.not_mem_nil⟩
  all_goals decide +kernel

theorem canonical_sampleGraph {rule : SampleBody} (hrule : rule ∈ sampleBodies) :
    ∀ record ∈ sampleGraph rule, Canonical samplePlatform sources record := by
  intro record hrecord
  obtain ⟨sample, hsample, rfl⟩ := List.mem_map.mp hrecord
  refine canonical_sampleBodies sample ?_
  simp only [sampleBodies, List.mem_cons, List.not_mem_nil, or_false] at hsample hrule ⊢
  rcases hsample with rfl | rfl | rfl | rfl | rfl
  all_goals simp [hrule]

theorem validate_sampleMatcher :
    validateRuntimeGraph samplePlatform (sampleGraph sampleMatcher) =
      .ok (sampleGraph sampleMatcher) := by
  have hrecords := @foldlM_checkRecord_ok samplePlatform (sampleGraph sampleMatcher) []
    (canonical_sampleGraph (by simp [sampleBodies]))
    (by decide +kernel) (by decide +kernel)
  refine bind_eq_ok.mpr ⟨_, hrecords, ?_⟩
  decide +kernel

theorem validate_sampleMisread :
    validateRuntimeGraph samplePlatform (sampleGraph sampleMisread) =
      .ok (sampleGraph sampleMisread) := by
  have hrecords := @foldlM_checkRecord_ok samplePlatform (sampleGraph sampleMisread) []
    (canonical_sampleGraph (by simp [sampleBodies]))
    (by decide +kernel) (by decide +kernel)
  refine bind_eq_ok.mpr ⟨_, hrecords, ?_⟩
  decide +kernel

theorem withinLimits_sampleMatcher :
    (emitted samplePlatform (sampleGraph sampleMatcher)).withinLimits := by decide +kernel

theorem withinLimits_sampleMisread :
    (emitted samplePlatform (sampleGraph sampleMisread)).withinLimits := by decide +kernel

theorem lossless_sampleMatcher : ∃ artifacts,
    emitArtifacts samplePlatform (sampleGraph sampleMatcher) = .ok artifacts ∧
      artifacts.withinLimits ∧ Lossless samplePlatform (sampleGraph sampleMatcher) artifacts := by
  have hcanonical := @canonical_sampleGraph sampleMatcher (by simp [sampleBodies])
  obtain ⟨-, h⟩ := graph_of_validate hcanonical validate_sampleMatcher
  obtain ⟨artifacts, hemitted, hiff⟩ :=
    lossless_iff samplePlatform_lawful hcanonical validate_sampleMatcher
  obtain rfl := Except.ok.inj ((emitArtifacts_ok h).symm.trans hemitted)
  exact ⟨_, hemitted, withinLimits_sampleMatcher,
    (hiff withinLimits_sampleMatcher).mpr (by decide +kernel)⟩

/-- A canonical graph that is valid and within the limits, and that the compiler rejects because it
cannot import what it has emitted. -/
theorem compileCorpus_sampleMisread :
    samplePlatform.Lawful ∧
      (∀ record ∈ sampleGraph sampleMisread, Canonical samplePlatform sources record) ∧
      validateRuntimeGraph samplePlatform (sampleGraph sampleMisread) =
        .ok (sampleGraph sampleMisread) ∧
      ∃ artifacts, emitArtifacts samplePlatform (sampleGraph sampleMisread) = .ok artifacts ∧
        artifacts.withinLimits ∧
        (∀ imported, parseServiceRuntime samplePlatform artifacts.serviceProbes serviceContext ≠
          .ok imported) ∧
        ∀ compiled, compileCorpus samplePlatform (sampleGraph sampleMisread) ≠ .ok compiled := by
  have hcanonical := @canonical_sampleGraph sampleMisread (by simp [sampleBodies])
  obtain ⟨-, h⟩ := graph_of_validate hcanonical validate_sampleMisread
  have hlimits := withinLimits_sampleMisread
  simp only [CompiledCorpus.withinLimits, Bool.and_eq_true] at hlimits
  have hfails : ∀ imported, parseServiceRuntime samplePlatform
      (emitted samplePlatform (sampleGraph sampleMisread)).serviceProbes serviceContext ≠
        .ok imported := by
    intro imported himported
    have hread := misread_of_parseServiceRuntime samplePlatform_lawful h hlimits.1.1.1 himported
    exact absurd hread (by decide +kernel)
  refine ⟨samplePlatform_lawful, hcanonical, validate_sampleMisread, _, emitArtifacts_ok h,
    withinLimits_sampleMisread, hfails, fun compiled hcompiled ↦ ?_⟩
  obtain ⟨validated, imported, hvalid, hemitted, himported⟩ := import_of_compileCorpus hcompiled
  obtain rfl := Except.ok.inj (validate_sampleMisread.symm.trans hvalid)
  obtain rfl := Except.ok.inj ((emitArtifacts_ok h).symm.trans hemitted)
  obtain ⟨service, hservice, -⟩ := bind_eq_ok.mp himported
  exact hfails service hservice

end

end Skan.Corpus
