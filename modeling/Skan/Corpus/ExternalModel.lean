import Skan.Corpus.Records
import Skan.Library.Collecting

/-!
# External canonical records

`tools/corpus/external_model.py`: the records that are imported from other sources, what makes two
of them the same, and what is checked of one.

The fields that say what a record detects are its `Semantics`; the others say where it comes from
and how far it is trusted. A confidence is a rational number. The hash of a payload is a parameter
(`digest`), which is SHA-256 of its JSON, cut to 24 digits. -/

namespace Skan.Corpus.External

structure Provenance where
  sourceId : Str
  sourceRecordId : Str
  sourceRevision : Str
  sourceUrl : Str
  sourceLicense : Str
  sourceHash : Str
  deriving DecidableEq

/-- The part of `CanonicalRecord` that `_semantic_payload` reads. -/
structure Semantics where
  kind : Str
  transport : Str
  addressFamily : Str
  probeId : Option Str
  probePayloadRef : Option Str
  matcherType : Option Str
  matcherExpression : Option Str
  service : Option Str
  vendor : Option Str
  product : Option Str
  version : Option Str
  versionInfo : Option Str
  osFamily : Option Str
  osGeneration : Option Str
  deviceType : Option Str
  cpe : List Str
  ports : List ℤ
  rarity : Option ℤ
  evidenceRequirements : List Str
  negativeConstraints : List Str
  probePayloadHex : Option Str := none
  probePriority : Option ℤ := none
  probeTimeoutMs : Option ℤ := none
  fallbackProbeIds : List Str := []
  matchStrength : Option Str := none
  extraTemplate : Option Str := none
  hostnameTemplate : Option Str := none
  tunnelTemplate : Option Str := none
  protocolHint : Option Str := none
  maxResponseBytes : Option ℤ := none
  fingerprintName : Option Str := none
  fingerprintNativeId : Option Str := none
  specificity : Option ℤ := none
  osFeatures : List (Str × Str) := []
  probeOrder : Option ℤ := none
  ruleOrder : Option ℤ := none
  evidenceDimension : Option Str := none
  aliasName : Option Str := none
  deriving DecidableEq

/-- `CanonicalRecord`. -/
structure CanonicalRecord extends Semantics where
  id : Str
  confidence : Option ℚ
  confidenceBasis : Str
  provenance : List Provenance
  firstImportedRevision : Str
  lastVerifiedRevision : Str
  status : Str
  notes : Str
  deriving DecidableEq

/-- What is read of a `SourcePolicy`. -/
structure SourcePolicy where
  licenseSpdxOrPolicy : Str
  redistributionAllowed : Bool
  approvedDataClasses : List Str
  blockedDataClasses : List Str

/-! ### Vocabularies -/

def allowedKinds : List Str :=
  ["service_matcher".toList, "active_probe".toList, "os_fingerprint".toList, "udp_probe".toList,
    "product_vocab".toList, "registry".toList, "web_fingerprint".toList,
    "device_fingerprint".toList, "port_registry".toList, "product_record".toList,
    "product_alias".toList, "cpe_record".toList]

def metadataOnlyKinds : List Str :=
  ["port_registry".toList, "product_record".toList, "product_alias".toList, "cpe_record".toList]

def allowedTransports : List Str :=
  ["tcp".toList, "udp".toList, "sctp".toList, "dccp".toList, "any".toList, "none".toList]

def allowedAddressFamilies : List Str :=
  ["ipv4".toList, "ipv6".toList, "any".toList, "none".toList]

def allowedStatuses : List Str :=
  ["verified".toList, "imported".toList, "experimental".toList, "suppressed".toList,
    "deprecated".toList]

def allowedMatchStrengths : List Str := ["hard".toList, "soft".toList]

def allowedEvidenceDimensions : List Str :=
  ["banner".toList, "http_header".toList, "http_cookie".toList, "http_html".toList,
    "http_script".toList, "http_url".toList, "http_meta".toList, "http_js".toList,
    "http_dom".toList, "http_css".toList, "tls".toList, "protocol".toList, "device".toList,
    "os".toList]

/-! ### What makes two records the same -/

/-- `_normalized_strings`. -/
def normalizedStrings (values : List Str) : List Str := values.sortedSet

/-- `_normalized_os_features`. -/
def normalizedOsFeatures (values : List (Str × Str)) : List (Str × Str) :=
  values.insertionSort fun a b ↦ a.1 ≤ b.1

/-- `_normalized_payload_hex`. What is not hexadecimal is refused, so only ASCII letters count. -/
def normalizedPayloadHex (value : Option Str) : Option Str := value.map (·.map Char.toLower)

/-- `_semantic_payload`. -/
def semanticPayload (record : Semantics) : Semantics :=
  { record with
    cpe := normalizedStrings record.cpe
    ports := record.ports.sortedSet
    evidenceRequirements := normalizedStrings record.evidenceRequirements
    negativeConstraints := normalizedStrings record.negativeConstraints
    probePayloadHex := normalizedPayloadHex record.probePayloadHex
    osFeatures := normalizedOsFeatures record.osFeatures }

/-- `stable_record_id`. -/
def stableRecordId (digest : Semantics → Str) (record : Semantics) : Str :=
  "skan-fp-v2-".toList ++ digest (semanticPayload record)

/-! ### Checks -/

/-- `_valid_sha256`. -/
def validSha256 (value : Str) : Bool :=
  "sha256:".toList.isPrefixOf value && (value.drop 7).length = 64 && isLowerHex (value.drop 7)

/-- `_HEX_CHARS`. -/
def hexChars : List Char := "0123456789abcdefABCDEF".toList

/-- `_valid_payload_hex`. -/
def validPayloadHex (value : Str) : Bool :=
  value.length % 2 = 0 && value.all fun character ↦ character ∈ hexChars

/-- `not value.strip()`. -/
def isBlankText (value : Str) : Bool := (Strings.strip isSpace value).isEmpty

/-- `not value` of a text that may be missing. -/
def isMissing (value : Option Str) : Bool := (value.getD []).isEmpty

/-- `if bad: errors.append(message)`. -/
def complain (bad : Bool) (message : Str) : List Str := if bad then [message] else []

/-- `_validate_os_features`. -/
def validateOsFeatures (values : List (Str × Str)) : List Str :=
  if values.any fun item ↦ isBlankText item.1 then
    ["os_features must contain non-empty string keys and string values".toList]
  else complain (!decide (values.map Prod.fst).Nodup)
    "os_features must not contain duplicate keys".toList

/-- `_validate_order`. -/
def validateOrder (value : Option ℤ) (name : String) : List Str :=
  complain (value.any fun n ↦ n < 0)
    (name.toList ++ " must be a non-negative integer or null".toList)

/-- A number that is negative. -/
def isNegative (value : Option ℤ) : Bool := value.any fun n ↦ n < 0

/-- A number that is not positive. -/
def isNotPositive (value : Option ℤ) : Bool := value.any fun n ↦ n ≤ 0

/-- `validate_record`, up to the features. -/
def fieldErrors (record : CanonicalRecord) : List Str :=
  complain (record.kind ∉ allowedKinds) ("unsupported kind: ".toList ++ record.kind) ++
  complain (record.transport ∉ allowedTransports)
    ("unsupported transport: ".toList ++ record.transport) ++
  complain (record.addressFamily ∉ allowedAddressFamilies)
    ("unsupported address_family: ".toList ++ record.addressFamily) ++
  complain (record.status ∉ allowedStatuses) ("unsupported status: ".toList ++ record.status) ++
  complain (record.confidence.any fun c ↦ !(0 ≤ c && c ≤ 1))
    "confidence must be within [0.0, 1.0]".toList ++
  complain (record.kind ∈ metadataOnlyKinds && record.confidence.isSome)
    ("metadata kind ".toList ++ record.kind ++ " cannot carry detection confidence".toList) ++
  complain (isNegative record.rarity) "rarity must be a non-negative integer or null".toList ++
  complain (record.ports.any fun port ↦ !(0 ≤ port && port ≤ 65535))
    "ports must contain integers in range 0..65535".toList ++
  complain (record.probePayloadHex.any fun value ↦ !validPayloadHex value)
    "probe_payload_hex must be even-length hexadecimal text or null".toList ++
  complain (isNegative record.probePriority)
    "probe_priority must be a non-negative integer or null".toList ++
  complain (isNotPositive record.probeTimeoutMs)
    "probe_timeout_ms must be a positive integer or null".toList ++
  complain (record.fallbackProbeIds.any isBlankText || !decide record.fallbackProbeIds.Nodup)
    "fallback_probe_ids must contain unique non-empty strings".toList ++
  complain (record.matchStrength.any fun value ↦ value ∉ allowedMatchStrengths)
    "match_strength must be hard, soft, or null".toList ++
  complain (record.protocolHint.any isBlankText)
    "protocol_hint must be a non-empty string or null".toList ++
  complain (isNotPositive record.maxResponseBytes)
    "max_response_bytes must be a positive integer or null".toList ++
  complain (isNegative record.specificity)
    "specificity must be a non-negative integer or null".toList ++
  complain (record.evidenceDimension.any fun value ↦ value ∉ allowedEvidenceDimensions)
    ("unsupported evidence_dimension: ".toList ++ record.evidenceDimension.getD []) ++
  complain (record.aliasName.any isBlankText) "alias must be a non-empty string or null".toList ++
  validateOrder record.probeOrder "probe_order" ++ validateOrder record.ruleOrder "rule_order" ++
  validateOsFeatures record.osFeatures

/-- `f"source {provenance.source_id}` and what follows. -/
def sourceError (provenance : Provenance) (message : Str) : Str :=
  "source ".toList ++ provenance.sourceId ++ message

/-- What `validate_record` finds of one provenance. -/
def provenanceErrors (record : CanonicalRecord) (sources : Str → Option SourcePolicy)
    (provenance : Provenance) : List Str :=
  match sources provenance.sourceId with
  | none => ["unknown source_id: ".toList ++ provenance.sourceId]
  | some source =>
    complain (record.kind ∉ source.approvedDataClasses)
      (sourceError provenance (" is not approved for data class ".toList ++ record.kind)) ++
    complain (record.kind ∈ source.blockedDataClasses)
      (sourceError provenance (" is blocked for data class ".toList ++ record.kind)) ++
    complain (!source.redistributionAllowed && record.status ≠ "suppressed".toList)
      (sourceError provenance " does not allow redistribution".toList) ++
    complain (isBlankText provenance.sourceRecordId)
      (sourceError provenance ": source_record_id is required".toList) ++
    complain (isBlankText provenance.sourceRevision)
      (sourceError provenance ": source_revision is required".toList) ++
    complain (isBlankText provenance.sourceUrl)
      (sourceError provenance ": source_url is required".toList) ++
    complain (provenance.sourceLicense ≠ source.licenseSpdxOrPolicy)
      (sourceError provenance ": source_license does not match manifest".toList) ++
    complain (!validSha256 provenance.sourceHash)
      (sourceError provenance ": source_hash must be sha256:<64 lowercase hex chars>".toList)

/-- What `validate_record` finds of the fields that a kind requires. -/
def kindErrors (record : CanonicalRecord) : List Str :=
  if record.kind = "service_matcher".toList then
    complain (isMissing record.probeId) "service_matcher requires probe_id".toList ++
    complain (isMissing record.matcherType) "service_matcher requires matcher_type".toList ++
    complain (isMissing record.matcherExpression)
      "service_matcher requires matcher_expression".toList ++
    complain (isMissing record.service) "service_matcher requires service".toList ++
    complain (!record.matchStrength.any fun value ↦ value ∈ allowedMatchStrengths)
      "service_matcher requires match_strength hard or soft".toList
  else if record.kind = "active_probe".toList then
    complain (isMissing record.probeId) "active_probe requires probe_id".toList ++
    complain record.probePayloadHex.isNone "active_probe requires probe_payload_hex".toList ++
    complain record.probeTimeoutMs.isNone "active_probe requires probe_timeout_ms".toList
  else if record.kind = "udp_probe".toList then
    complain (isMissing record.probeId) "udp_probe requires probe_id".toList ++
    complain (record.ports.length ≠ 1) "udp_probe requires exactly one port".toList ++
    complain (isMissing record.protocolHint) "udp_probe requires protocol_hint".toList ++
    complain record.maxResponseBytes.isNone "udp_probe requires max_response_bytes".toList ++
    complain record.probePayloadHex.isNone "udp_probe requires probe_payload_hex".toList
  else if record.kind = "os_fingerprint".toList then
    complain (isMissing record.fingerprintName) "os_fingerprint requires fingerprint_name".toList ++
    complain (isMissing record.osFamily) "os_fingerprint requires os_family".toList ++
    complain record.osFeatures.isEmpty "os_fingerprint requires os_features".toList
  else if record.kind = "web_fingerprint".toList then
    complain (isMissing record.matcherType || isMissing record.matcherExpression)
      "web_fingerprint requires matcher_type and matcher_expression".toList ++
    complain (isMissing record.evidenceDimension)
      "web_fingerprint requires evidence_requirements evidence dimension".toList ++
    complain record.evidenceRequirements.isEmpty
      "web_fingerprint requires evidence_requirements".toList
  else if record.kind = "device_fingerprint".toList then
    complain (isMissing record.matcherType || isMissing record.matcherExpression)
      "device_fingerprint requires matcher_type and matcher_expression".toList ++
    complain (isMissing record.deviceType && isMissing record.product)
      "device_fingerprint requires device_type or product".toList
  else if record.kind = "port_registry".toList then
    complain (isMissing record.service) "port_registry requires service".toList ++
    complain record.ports.isEmpty "port_registry requires at least one port".toList
  else if record.kind = "product_record".toList then
    complain (isMissing record.product) "product_record requires product".toList
  else if record.kind = "product_alias".toList then
    complain (isMissing record.product || isMissing record.aliasName)
      "product_alias requires product and alias".toList
  else if record.kind = "cpe_record".toList then
    complain record.cpe.isEmpty "cpe_record requires at least one CPE 2.3 name".toList
  else []

/-- What `validate_record` finds of the identifier. A record without one passes. -/
def idErrors (digest : Semantics → Str) (record : CanonicalRecord) : List Str :=
  complain (!record.id.isEmpty && record.id ≠ stableRecordId digest record.toSemantics)
    ("id does not match semantic fingerprint: expected ".toList ++
      stableRecordId digest record.toSemantics)

/-- `validate_record`. -/
def validateRecord (digest : Semantics → Str) (sources : Str → Option SourcePolicy)
    (record : CanonicalRecord) : List Str :=
  fieldErrors record ++
    complain record.provenance.isEmpty
      "provenance must contain at least one source contribution".toList ++
    record.provenance.flatMap (provenanceErrors record sources) ++ kindErrors record ++
    idErrors digest record

end Skan.Corpus.External
