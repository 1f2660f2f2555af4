import Skan.Corpus.RuntimeRegex

/-!
# Validation of canonical records

`parse_record` of `tools/corpus/model.py`, from the checks of single texts up to the whole record.
What is parsed here is a mapping with the fields and the types of a record, which is what
`record_to_mapping` makes of a record and what the importers build.

A parser returns the record in its canonical form: ports and signatures are sorted, and a pattern
is kept as text or in hexadecimal, whichever is its only form. A record is `Canonical` if this is
the form that it has. -/

namespace Skan.Corpus

open Skan.Output (Double)

/-- `CanonicalRecordError`. -/
structure CanonicalRecordError where
  message : String
  deriving DecidableEq

/-- `if not condition: raise CanonicalRecordError(message)`. -/
def require (condition : Bool) (message : String) : Except CanonicalRecordError Unit :=
  if condition then .ok () else .error ⟨message⟩

/-! ### Limits -/

def generalTextBytes : ℕ := 4096
def shortTextBytes : ℕ := 128
def patternBytes : ℕ := 4096
def activePayloadBytes : ℕ := 4000
def udpPayloadBytes : ℕ := 512
def maxPorts : ℕ := 256
def maxFallbacks : ℕ := 16
def maxCpe : ℕ := 64
def maxSignatures : ℕ := 64
def maxProvenance : ℕ := 32

/-! ### Texts -/

/-- The category `Cc`. -/
def isControl (c : Char) : Bool := c.toNat < 0x20 || (0x7F ≤ c.toNat && c.toNat < 0xA0)

/-- `str.isspace` of one character, which is what `strip` removes. -/
def isSpace (c : Char) : Bool :=
  let n := c.toNat
  (9 ≤ n && n ≤ 13) || (0x1C ≤ n && n ≤ 0x20) || n = 0x85 || n = 0xA0 || n = 0x1680 ||
    (0x2000 ≤ n && n ≤ 0x200A) || n = 0x2028 || n = 0x2029 || n = 0x202F || n = 0x205F || n = 0x3000

def isDecimal (c : Char) : Bool := '0' ≤ c && c ≤ '9'

def isAsciiLetter (c : Char) : Bool := ('A' ≤ c && c ≤ 'Z') || ('a' ≤ c && c ≤ 'z')

/-- `[A-Za-z0-9_-]`. -/
def isProbeNameChar (c : Char) : Bool := isAsciiLetter c || isDecimal c || c = '_' || c = '-'

/-- `_PROBE_NAME`. -/
def isProbeName (name : Str) : Bool :=
  !name.isEmpty && name.length ≤ 128 && name.all isProbeNameChar

/-- `[A-Za-z0-9._-]`. -/
def isRuntimeTokenChar (c : Char) : Bool := isProbeNameChar c || c = '.'

/-- `_RUNTIME_TOKEN`. -/
def isRuntimeToken : Str → Bool
  | [] => false
  | c :: cs => isAsciiLetter c && cs.length ≤ 127 && cs.all isRuntimeTokenChar

def isLowerHex (text : Str) : Bool := text.all (· ∈ Strings.lowerHexDigits)

/-- `_SHA256`. -/
def isSha256 (text : Str) : Bool :=
  "sha256:".toList.isPrefixOf text && (text.drop 7).length = 64 && isLowerHex (text.drop 7)

/-- `_ID`. -/
def isRecordId (text : Str) : Bool :=
  "skan-db-v2-".toList.isPrefixOf text && (text.drop 11).length = 64 && isLowerHex (text.drop 11)

/-- `[A-Za-z0-9][A-Za-z0-9._+-]{0,127}`. -/
def isVersion : Str → Bool
  | [] => false
  | c :: cs =>
    (isAsciiLetter c || isDecimal c) && cs.length ≤ 127 &&
      cs.all fun c ↦ isAsciiLetter c || isDecimal c || c = '.' || c = '_' || c = '+' || c = '-'

/-- `[1-9][0-9]*`. -/
def isPositiveNumeral : Str → Bool
  | [] => false
  | c :: cs => isDecimal c && c ≠ '0' && cs.all isDecimal

/-- `_IMMUTABLE_REVISION`. -/
def isImmutableRevision (text : Str) : Bool :=
  ("git:".toList.isPrefixOf text && (text.drop 4).length = 40 && isLowerHex (text.drop 4)) ||
    ("rfc:".toList.isPrefixOf text && isPositiveNumeral (text.drop 4)) ||
      ("version:".toList.isPrefixOf text && isVersion (text.drop 8))

/-- `math.isfinite(confidence)` and `0.0 <= confidence <= 1.0`. -/
def isUnit (confidence : Double) : Bool :=
  confidence.isFinite && Double.le (.finite false 0) confidence &&
    confidence.le (.finite false 1)

section

variable (py : Platform)

/-- `_checked_text`. -/
def checkedText (value : Str) (field : String) (maximumBytes : ℕ) (allowEmpty : Bool) :
    Except CanonicalRecordError Str := do
  require (allowEmpty || !value.isEmpty) s!"{field} must be a non-empty string"
  require (py.normalizeNfc value = value) s!"{field} must be NFC-normalized"
  require (!value.any isControl) s!"{field} contains unsafe control characters"
  require ((Utf8.encode value).length ≤ maximumBytes) s!"{field} exceeds {maximumBytes} bytes"
  return value

/-- `_text`. -/
def text (value : Str) (key context : String) (maximumBytes : ℕ) :
    Except CanonicalRecordError Str :=
  checkedText py value s!"{context}.{key}" maximumBytes false

/-- `_optional_text`. -/
def optionalText (value : Option Str) (key context : String) (maximumBytes : ℕ) :
    Except CanonicalRecordError (Option Str) :=
  match value with
  | none => return none
  | some item => return some (← text py item key context maximumBytes)

/-- `_integer`. -/
def integer (value : ℕ) (key context : String) (minimum maximum : ℕ) :
    Except CanonicalRecordError ℕ := do
  require (minimum ≤ value && value ≤ maximum)
    s!"{context}.{key} must be an integer in range {minimum}..{maximum}"
  return value

/-- `_optional_integer`. -/
def optionalInteger (value : Option ℕ) (key context : String) (minimum maximum : ℕ) :
    Except CanonicalRecordError (Option ℕ) :=
  match value with
  | none => return none
  | some item => return some (← integer item key context minimum maximum)

/-- `_runtime_token`. -/
def runtimeToken (value : Str) (field : String) : Except CanonicalRecordError Str := do
  let token ← checkedText py value field shortTextBytes false
  require (isRuntimeToken token) s!"{field} must be a runtime token"
  return token

/-- `_probe_name`. -/
def probeName (value : Str) (field : String) : Except CanonicalRecordError Str := do
  let name ← checkedText py value field shortTextBytes false
  require (isProbeName name) s!"{field}: fallback probe name is not runtime-compatible"
  return name

/-- `_runtime_line_text`. -/
def runtimeLineText (value : Str) (field : String) (allowEmpty classComponent : Bool) :
    Except CanonicalRecordError Str := do
  let text ← checkedText py value field shortTextBytes allowEmpty
  require (Strings.strip isSpace text = text) s!"{field} must not have edge whitespace"
  require (!text.any fun c ↦ c = '#' || (classComponent && c = '|'))
    s!"{field} contains a runtime delimiter"
  return text

/-- `_immutable_revision`. -/
def immutableRevision (value : Str) (key context : String) : Except CanonicalRecordError Str := do
  let revision ← text py value key context 256
  require (isImmutableRevision revision) s!"{key} must identify an immutable revision"
  return revision

/-- `_string_list`. -/
def stringList (value : List Str) (key context : String) (maximumCount maximumTextBytes : ℕ)
    (sortValues : Bool) : Except CanonicalRecordError (List Str) := do
  require (value.length ≤ maximumCount) s!"{key} exceeds {maximumCount} entries"
  let result ← value.zipIdx.mapM fun (entry, index) ↦
    checkedText py entry s!"{context}.{key}[{index}]" maximumTextBytes false
  require result.Nodup s!"{key} contains duplicates"
  return if sortValues then result.insertionSort (· ≤ ·) else result

/-- `_ports`. -/
def ports (value : List ℕ) (key : String) : Except CanonicalRecordError (List ℕ) := do
  require (value.length ≤ maxPorts) s!"{key} exceeds {maxPorts} entries"
  require (value.all fun port ↦ 1 ≤ port && port ≤ 65535)
    s!"{key} must contain integers in range 1..65535"
  require value.Nodup s!"{key} contains duplicates"
  return value.insertionSort (· ≤ ·)

/-- `_hex_payload`. -/
def hexPayload (value : Str) (key context : String) (maximumBytes : ℕ) (allowEmpty : Bool) :
    Except CanonicalRecordError Str := do
  require ((allowEmpty || !value.isEmpty) && value.length % 2 = 0 && isLowerHex value)
    s!"{context}.{key} must be lowercase even-length hexadecimal"
  require (value.length / 2 ≤ maximumBytes) s!"{context}.{key} exceeds {maximumBytes} decoded bytes"
  return value

/-! ### Service matchers -/

/-- The forms of a regular expression that is given as text. -/
def regexOfText (raw : Str) (context : String) :
    Except CanonicalRecordError (Option Str × Option Str) := do
  let pattern ← checkedText py raw s!"{context}.pattern" regexBytes false
  return (some pattern, none)

/-- The forms of one that is given in hexadecimal: it becomes a text if it is one that a record may
hold. -/
def regexOfHex (raw : Str) (context : String) :
    Except CanonicalRecordError (Option Str × Option Str) := do
  let encoded ← hexPayload raw "pattern_hex" context regexBytes false
  match Utf8.decode (Strings.fromHex encoded) with
  | none => return (none, some encoded)
  | some decoded =>
    match checkedText py decoded s!"{context}.pattern" regexBytes false with
    | .ok pattern => return (some pattern, none)
    | .error _ => return (none, some encoded)

/-- `pattern` and `pattern_hex` of a service matcher. -/
def patternForms (body : ServiceMatcherSemantics) (context : String) :
    Except CanonicalRecordError (Option Str × Option Str) :=
  match body.pattern, body.patternHex with
  | some raw, none =>
    if body.matcherType = .regex then regexOfText py raw context
    else do
      let pattern ← checkedText py raw s!"{context}.pattern" patternBytes false
      return (none, some (Strings.toHex (Utf8.encode pattern)))
  | none, some raw =>
    if body.matcherType = .regex then regexOfHex py raw context
    else do
      let encoded ← hexPayload raw "pattern_hex" context patternBytes false
      return (none, some encoded)
  | _, _ => .error ⟨s!"{context}: exactly one of pattern or pattern_hex is required"⟩

/-- `pattern.encode("utf-8") if pattern is not None else bytes.fromhex(pattern_hex or "")`. -/
def formBytes (pattern patternHex : Option Str) : Bytes :=
  match pattern with
  | some pattern => Utf8.encode pattern
  | none => Strings.fromHex (patternHex.getD [])

/-- `_parse_service`. -/
def parseService (body : ServiceMatcherSemantics) :
    Except CanonicalRecordError ServiceMatcherSemantics := do
  let context := "service_matcher body"
  let (pattern, patternHex) ← patternForms py body context
  require (body.matcherType ≠ .regex || runtimeRegexIsValid py (formBytes pattern patternHex))
    s!"{context}.regex is not runtime-compatible"
  require (isUnit body.confidence) s!"{context}.confidence must be finite and within 0.0..1.0"
  let probeName ← probeName py body.probeName s!"{context}.probe_name"
  let service ← text py body.service "service" context shortTextBytes
  let product ← optionalText py body.product "product" context shortTextBytes
  let versionTemplate ← optionalText py body.versionTemplate "version_template" context
    shortTextBytes
  let extra ← optionalText py body.extra "extra" context shortTextBytes
  let hostnameTemplate ←
    optionalText py body.hostnameTemplate "hostname_template" context shortTextBytes
  let tunnel ← optionalText py body.tunnel "tunnel" context shortTextBytes
  let ruleOrder ← integer body.ruleOrder "rule_order" context 0 65535
  let cpe ← stringList py body.cpe "cpe" context maxCpe 256 true
  return { body with
    probeName, pattern, patternHex, service, product, versionTemplate, extra, hostnameTemplate,
      tunnel,
    ruleOrder, cpe }

/-! ### Probes -/

/-- `_parse_active`. -/
def parseActive (body : ActiveProbeSemantics) :
    Except CanonicalRecordError ActiveProbeSemantics := do
  let context := "active_probe body"
  let name ← probeName py body.probeName s!"{context}.probe_name"
  let payloadHex ← hexPayload body.payloadHex "payload_hex" context activePayloadBytes true
  let rarity ← integer body.rarity "rarity" context 1 (2 ^ 32 - 1)
  let priority ← integer body.priority "priority" context 1 100
  let timeoutMs ← optionalInteger body.timeoutMs "timeout_ms" context 1 60000
  let ports ← ports body.ports "ports"
  let fallbacks ← stringList py body.fallbackProbeNames "fallback_probe_names" context maxFallbacks
    shortTextBytes false
  let fallbackProbeNames ← fallbacks.zipIdx.mapM fun (name, index) ↦
    probeName py name s!"{context}.fallback_probe_names[{index}]"
  let declarationOrder ← integer body.declarationOrder "declaration_order" context 0 65535
  return { body with
    probeName := name, payloadHex, rarity, priority, timeoutMs, ports, fallbackProbeNames,
    declarationOrder }

/-- The name of the UDP probe for every other port. -/
def defaultName : Str := "DEFAULT".toList

/-- `_parse_udp`. -/
def parseUdp (body : UDPProbeSemantics) : Except CanonicalRecordError UDPProbeSemantics := do
  let context := "udp_probe body"
  let name ← runtimeToken py body.name s!"{context}.name"
  let destinationPort ← integer body.destinationPort "destination_port" context 0 65535
  require (destinationPort = 0 ↔ name = defaultName) s!"{context}: port 0 is reserved for DEFAULT"
  let protocolHint ← runtimeToken py body.protocolHint s!"{context}.protocol_hint"
  let maxResponseBytes ← integer body.maxResponseBytes "max_response_bytes" context 1 (2 ^ 20)
  let payloadHex ← hexPayload body.payloadHex "payload_hex" context udpPayloadBytes false
  let declarationOrder ← integer body.declarationOrder "declaration_order" context 0 65535
  return { name, destinationPort, protocolHint, maxResponseBytes, payloadHex, declarationOrder }

/-! ### OS fingerprints -/

/-- `_SIGNATURE_COMPATIBILITY`. -/
def SignatureField.operators : SignatureField → List SignatureOperator
  | .ttl | .window | .icmpTtl | .udpPayloadLength => [.eq, .range]
  | .mss | .windowScale | .tcpFlags | .icmpType | .icmpCode => [.eq]
  | .dontFragment | .sackPermitted | .timestamps | .responsePresence => [.bool]
  | .tcpOptions => [.tcpOptions]
  | .ackBehavior | .sequenceBehavior | .responseBehavior | .udpResponseBehavior => [.text]

/-- The maxima of `_NUMERIC_SIGNATURE_BOUNDS`; every minimum is zero. -/
def SignatureField.bound : SignatureField → Option ℕ
  | .ttl | .windowScale | .tcpFlags | .icmpTtl | .icmpType | .icmpCode => some 255
  | .window | .mss | .udpPayloadLength => some 65535
  | _ => none

/-- `_BEHAVIOR_VALUES`. -/
def SignatureField.behaviors : SignatureField → List Str
  | .ackBehavior =>
    ["NO_ACK".toList, "ACKNOWLEDGES_SYN".toList, "ACKNOWLEDGES_PAYLOAD".toList,
      "RST_WITHOUT_ACK".toList]
  | .sequenceBehavior =>
    ["ZERO".toList, "INCREMENTAL".toList, "RANDOMIZED".toList, "TIME_BASED".toList]
  | .responseBehavior =>
    ["SYN_ACK".toList, "RST".toList, "ECHO_REPLY".toList, "UDP_RESPONSE".toList,
      "PORT_UNREACHABLE".toList, "NO_RESPONSE".toList, "MALFORMED".toList]
  | .udpResponseBehavior =>
    ["UDP_RESPONSE".toList, "PORT_UNREACHABLE".toList, "NO_RESPONSE".toList, "MALFORMED".toList]
  | _ => []

/-- `allowed_options`. -/
def allowedOptions : List Str :=
  ["NOP".toList, "MSS".toList, "WS".toList, "SACK".toList, "TS".toList]

/-- `_signature_number`. -/
def signatureNumber (field : SignatureField) (value : ℕ) (context : String) :
    Except CanonicalRecordError ℕ := do
  require (field.bound.any (value ≤ ·)) s!"{context}.value is outside the field domain"
  return value

/-- The value of a signature, by its operator. -/
def signatureValue (signature : OSSignature) (context : String) :
    Except CanonicalRecordError SignatureValue :=
  match signature.operator, signature.value with
  | .eq, .number value => return .number (← signatureNumber signature.field value context)
  | .eq, _ => .error ⟨s!"{context}.value is outside the field domain"⟩
  | .range, .range minimum maximum => do
    let minimum ← signatureNumber signature.field minimum context
    let maximum ← signatureNumber signature.field maximum context
    require (minimum ≤ maximum) "signature minimum must not exceed maximum"
    return .range minimum maximum
  | .range, _ => .error ⟨s!"{context}.value must contain a two-value range"⟩
  | .bool, .bool value => return .bool value
  | .bool, _ => .error ⟨s!"{context}.value must be boolean"⟩
  | .text, .text value => do
    let value ← runtimeLineText py value s!"{context}.value" false false
    require (value ∈ signature.field.behaviors)
      s!"{context}.value is not a recognized runtime behavior"
    return .text value
  | .text, _ => .error ⟨s!"{context}.value must be a non-empty string"⟩
  | .tcpOptions, .options values => do
    require (1 ≤ values.length && values.length ≤ 16)
      s!"{context}.value must contain 1..16 TCP options"
    let options ← values.zipIdx.mapM fun (option, index) ↦
      checkedText py option s!"{context}.value[{index}]" 32 false
    require (options.all (· ∈ allowedOptions)) s!"{context}.value contains unsupported TCP options"
    return .options options
  | .tcpOptions, _ => .error ⟨s!"{context}.value must contain 1..16 TCP options"⟩

/-- `_parse_signature`. -/
def parseSignature (signature : OSSignature) (index : ℕ) :
    Except CanonicalRecordError OSSignature := do
  let context := s!"os_fingerprint body.signatures[{index}]"
  require (signature.operator ∈ signature.field.operators)
    s!"{context}: operator is incompatible with field"
  let value ← signatureValue py signature context
  return { signature with value }

/-- `_parse_os`. -/
def parseOs (body : OSFingerprintSemantics) :
    Except CanonicalRecordError OSFingerprintSemantics := do
  let context := "os_fingerprint body"
  require (1 ≤ body.signatures.length && body.signatures.length ≤ maxSignatures)
    s!"{context}.signatures must contain 1..{maxSignatures} entries"
  let signatures ← body.signatures.zipIdx.mapM fun (signature, index) ↦
    parseSignature py signature index
  require (signatures.map (·.field)).Nodup s!"{context}.signatures contains duplicate fields"
  require (body.addressFamily ≠ .ipv6 || .dontFragment ∉ signatures.map (·.field))
    s!"{context}: IPv6 fingerprints cannot contain dont_fragment"
  let osGeneration ← runtimeLineText py body.osGeneration s!"{context}.os_generation" true true
  let deviceType ← runtimeLineText py body.deviceType s!"{context}.device_type" true true
  require (deviceType.isEmpty || !osGeneration.isEmpty)
    s!"{context}: device_type requires os_generation"
  let runtimeId ← runtimeLineText py body.runtimeId s!"{context}.runtime_id" false false
  let name ← runtimeLineText py body.name s!"{context}.name" false false
  let vendor ← runtimeLineText py body.vendor s!"{context}.vendor" false true
  let osFamily ← runtimeLineText py body.osFamily s!"{context}.os_family" false true
  let specificity ← integer body.specificity "specificity" context 1 65535
  return {
    runtimeId, name, vendor, osFamily, osGeneration, deviceType
    addressFamily := body.addressFamily
    specificity
    signatures := signatures.insertionSort fun a b ↦ a.field.name ≤ b.field.name }

/-! ### Records -/

/-- `_parse_body`. -/
def parseBody : RecordBody → Except CanonicalRecordError RecordBody
  | .serviceMatcher body => return .serviceMatcher (← parseService py body)
  | .activeProbe body => return .activeProbe (← parseActive py body)
  | .udpProbe body => return .udpProbe (← parseUdp py body)
  | .osFingerprint body => return .osFingerprint (← parseOs py body)

/-- `hexdigest()`. -/
def hexdigest (value : Bytes) : Str := (py.sha256 value).toList.map (·.val.digitChar)

/-- `stable_record_id` of a record whose body is parsed. -/
def stableRecordId (body : RecordBody) : Str :=
  "skan-db-v2-".toList ++ hexdigest py (py.jsonDumps body)

/-- `sources.get(source_id)`. -/
def policyOf (sources : Str → Option SourcePolicy) (sourceId : Str) (context : String) :
    Except CanonicalRecordError SourcePolicy :=
  match sources sourceId with
  | some policy => .ok policy
  | none => .error ⟨s!"{context}: unknown source_id: {String.ofList sourceId}"⟩

/-- The snapshot hash of a contribution. -/
def snapshotHash (value : Option Str) (context : String) :
    Except CanonicalRecordError (Option Str) :=
  match value with
  | none => .ok none
  | some value => do
    let hash ← checkedText py value s!"{context}.snapshot_hash" 71 false
    require (isSha256 hash) s!"{context}.snapshot_hash must be sha256"
    return some hash

/-- `_parse_provenance`. -/
def parseProvenance (item : Provenance) (index : ℕ) (kind : DataClass)
    (sources : Str → Option SourcePolicy) : Except CanonicalRecordError Provenance := do
  let context := s!"provenance[{index}]"
  let sourceId ← text py item.sourceId "source_id" context 64
  let policy ← policyOf sources sourceId context
  require policy.redistributionAllowed s!"{context}: source does not permit redistribution"
  require (kind ∈ policy.approvedDataClasses && kind ∉ policy.blockedDataClasses)
    s!"{context}: source is not authorized for kind: {String.ofList kind.name}"
  let sourceRevision ← text py item.sourceRevision "source_revision" context 256
  require (sourceRevision = policy.pinnedRevision)
    s!"{context}: source_revision does not match manifest"
  let sourceUrl ← text py item.sourceUrl "source_url" context generalTextBytes
  require (sourceUrl = policy.sourceUrl) s!"{context}: source_url does not match manifest"
  let sourceLicense ← text py item.sourceLicense "source_license" context 128
  require (sourceLicense = policy.licenseSpdxOrPolicy)
    s!"{context}: source_license does not match manifest"
  let snapshotHash ← snapshotHash py item.snapshotHash context
  require (snapshotHash = policy.expectedHash) s!"{context}: snapshot_hash does not match manifest"
  let recordHash ← text py item.recordHash "record_hash" context 71
  require (isSha256 recordHash) s!"{context}.record_hash must be sha256"
  let sourceRecordId ← text py item.sourceRecordId "source_record_id" context 256
  return {
    sourceId, sourceRecordId, sourceRevision, sourceUrl, sourceLicense, snapshotHash, recordHash }

/-- `parse_record`. -/
def parseRecord (record : CanonicalRecord) (sources : Str → Option SourcePolicy) :
    Except CanonicalRecordError CanonicalRecord := do
  require (record.schemaVersion = 2) "schema_version must be 2"
  require (!record.id.isEmpty) "id is required"
  require (isRecordId record.id) "id must be skan-db-v2-<64 lowercase hex chars>"
  let body ← parseBody py record.body
  require (1 ≤ record.provenance.length && record.provenance.length ≤ maxProvenance)
    s!"provenance must contain 1..{maxProvenance} entries"
  let provenance ← record.provenance.zipIdx.mapM fun (item, index) ↦
    parseProvenance py item index record.body.kind sources
  require (provenance.map fun item ↦ (item.sourceId, item.sourceRecordId)).Nodup
    "provenance contains duplicate source contributions"
  let firstImportedRevision ←
    immutableRevision py record.firstImportedRevision "first_imported_revision" "record"
  let lastVerifiedRevision ←
    immutableRevision py record.lastVerifiedRevision "last_verified_revision" "record"
  let notes ← checkedText py record.notes "record.notes" generalTextBytes true
  let expectedId := stableRecordId py body
  require (record.id = expectedId)
    s!"id does not match semantic fingerprint: expected {String.ofList expectedId}"
  return { record with
    body, provenance, firstImportedRevision, lastVerifiedRevision, notes }

end

/-- A record in the form in which `parse_record` returns it. -/
def Canonical (py : Platform) (sources : Str → Option SourcePolicy) (record : CanonicalRecord) :
    Prop :=
  parseRecord py record sources = .ok record

end Skan.Corpus
