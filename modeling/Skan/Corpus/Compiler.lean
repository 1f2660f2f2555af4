import Skan.Corpus.OsRuntime
import Skan.Corpus.ServiceRuntime
import Skan.Corpus.UdpRuntime

/-!
# The corpus compiler

`tools/corpus/compiler.py` and the compiler of `tools/corpus/legacy_udp.py`: a graph of canonical
records is validated and emitted as four runtime databases, which are imported again before they are
returned. The manifest is left out, for nothing is decided by it.
-/

namespace Skan.Corpus

open Skan.Output (Double)

/-- `CompilerError`. -/
structure CompilerError where
  message : String
  deriving DecidableEq

/-- `if not condition: raise CompilerError(message)`. -/
def insist (condition : Bool) (message : String) : Except CompilerError Unit :=
  if condition then .ok () else .error ⟨message⟩

/-- The artifacts of a `CompiledCorpus`. -/
structure CompiledCorpus where
  serviceProbes : Bytes
  udpProbes : Bytes
  ipv4Os : Bytes
  ipv6Os : Bytes
  deriving DecidableEq

/-- `_MAX_RECORDS`. -/
def maxRecords : ℕ := 256

/-! ### Bodies of a graph -/

def activeProbes (records : List CanonicalRecord) : List ActiveProbeSemantics :=
  records.filterMap fun record ↦
    match record.body with
    | .activeProbe body => some body
    | _ => none

def serviceMatchers (records : List CanonicalRecord) : List ServiceMatcherSemantics :=
  records.filterMap fun record ↦
    match record.body with
    | .serviceMatcher body => some body
    | _ => none

def udpProbes (records : List CanonicalRecord) : List UDPProbeSemantics :=
  records.filterMap fun record ↦
    match record.body with
    | .udpProbe body => some body
    | _ => none

def osFingerprints (records : List CanonicalRecord) : List OSFingerprintSemantics :=
  records.filterMap fun record ↦
    match record.body with
    | .osFingerprint body => some body
    | _ => none

/-! ### Validation of a graph -/

section

variable (py : Platform)

/-- A pass of the loop of `validate_runtime_graph` over the records. -/
def checkRecord (checked : List CanonicalRecord) (record : CanonicalRecord) :
    Except CompilerError (List CanonicalRecord) :=
  match parseRecord py record sources with
  | .error error => .error ⟨s!"canonical record validation failed: {error.message}"⟩
  | .ok canonical => do
    insist (canonical.id ∉ checked.map (·.id)) "duplicate canonical record ID"
    insist (canonical.status = .verified) "all records must be verified"
    return checked ++ [canonical]

end

/-- The checks of the fallbacks of one probe. -/
def checkFallbacks (probes : List ActiveProbeSemantics) (probe : ActiveProbeSemantics) :
    Except CompilerError Unit :=
  probe.fallbackProbeNames.forM fun fallback ↦
    match probes.find? (·.probeName = fallback) with
    | none => .error ⟨"unresolved fallback"⟩
    | some target => do
      insist (target.probeName ≠ probe.probeName) "self fallback"
      insist (target.transport = probe.transport) "cross-transport fallback"

/-- Numbers that are `0`, `1`, … in some order. -/
def contiguous (orders : List ℕ) : Bool :=
  orders.insertionSort (· ≤ ·) = List.range orders.length

/-- The rule orders of a probe. -/
def ruleOrders (matchers : List ServiceMatcherSemantics) (probe : ActiveProbeSemantics) : List ℕ :=
  (matchers.filter (·.probeName = probe.probeName)).map (·.ruleOrder)

/-- The checks of the active probes. -/
def checkActiveProbes (probes : List ActiveProbeSemantics) : Except CompilerError Unit := do
  insist (probes.map (·.probeName)).Nodup "duplicate probe name"
  insist (probes.length ≤ maxRecords) s!"service probe count exceeds {maxRecords}"
  insist (contiguous (probes.map (·.declarationOrder)))
    "active probe declaration_order values must be contiguous from zero"
  probes.forM (checkFallbacks probes)

/-- The checks of the service matchers. -/
def checkMatchers (probes : List ActiveProbeSemantics) (matchers : List ServiceMatcherSemantics) :
    Except CompilerError Unit := do
  matchers.forM fun matcher ↦ do
    insist (probes.any (·.probeName = matcher.probeName)) "unresolved matcher probe"
    insist matcher.cpe.isEmpty "runtime service grammar cannot encode CPE values"
  probes.forM fun probe ↦ do
    let orders := ruleOrders matchers probe
    insist (orders.length ≤ maxRecords) s!"matcher rule count exceeds {maxRecords}"
    insist (orders.isEmpty || contiguous orders)
      "matcher rule_order values must be contiguous from zero"

/-- The checks of the UDP probes. -/
def checkUdpProbes (udp : List UDPProbeSemantics) : Except CompilerError Unit := do
  insist (udp.map (·.name)).Nodup "duplicate UDP name"
  insist (udp.length ≤ maxRecords) s!"UDP probe count exceeds {maxRecords}"
  insist (contiguous (udp.map (·.declarationOrder)))
    "UDP declaration_order values must be contiguous from zero"
  insist ((udp.filter (·.destinationPort ≠ 0)).map (·.destinationPort)).Nodup "duplicate UDP port"
  insist ((udp.filter (·.destinationPort = 0)).map (·.name) = [defaultName])
    "exactly one DEFAULT UDP probe is required"

/-- The checks of the OS fingerprints. -/
def checkFingerprints (fingerprints : List OSFingerprintSemantics) : Except CompilerError Unit := do
  insist (fingerprints.map (·.runtimeId)).Nodup "duplicate OS runtime ID"
  insist (fingerprints.map (·.name)).Nodup "duplicate OS fingerprint name"
  insist (fingerprints.length ≤ maxRecords) s!"OS fingerprint count exceeds {maxRecords}"
  [OSAddressFamily.ipv4, .ipv6].forM fun family ↦
    insist (fingerprints.any (·.addressFamily = family))
      "all four runtime record kinds must be non-empty"

/-- `validate_runtime_graph`. -/
def validateRuntimeGraph (py : Platform) (records : List CanonicalRecord) :
    Except CompilerError (List CanonicalRecord) := do
  let checked ← records.foldlM (checkRecord py) []
  insist (!(activeProbes checked).isEmpty && !(serviceMatchers checked).isEmpty &&
      !(udpProbes checked).isEmpty && !(osFingerprints checked).isEmpty)
    "all four runtime record kinds must be non-empty"
  checkActiveProbes (activeProbes checked)
  checkMatchers (activeProbes checked) (serviceMatchers checked)
  checkUdpProbes (udpProbes checked)
  checkFingerprints (osFingerprints checked)
  return checked

/-! ### Emitters -/

/-- `str` of a number. -/
def decimal (n : ℕ) : Str := Nat.toDigits 10 n

/-- `sep.join(parts)`. -/
def join (sep : Str) (parts : List Str) : Str := sep.intercalate parts

/-- `"\n".join(lines) + "\n"`. -/
def linesText (lines : List Str) : Str := join ['\n'] lines ++ ['\n']

/-- A byte as `_quote` writes it. -/
def quoteByte (byte : UInt8) : Str :=
  if byte = 13 then ['\\', 'r']
  else if byte = 10 then ['\\', 'n']
  else if byte = 9 then ['\\', 't']
  else if byte = 34 then ['\\', '"']
  else if byte = 92 then ['\\', '\\']
  else if 32 ≤ byte ∧ byte ≤ 126 then [Strings.chr byte]
  else '\\' :: 'x' :: Strings.hexPair byte

/-- `_quote`. -/
def quote (value : Bytes) : Str := '"' :: value.flatMap quoteByte ++ ['"']

/-- `_text_token`. -/
def textToken (value : Str) : Str := quote (Utf8.encode value)

/-- `key=value`. -/
def assigned (key : String) (value : Str) : Str := key.toList ++ '=' :: value

/-- A field that may be absent. -/
def optionalField (key : String) (value : Option Str) : List Str :=
  (value.map (assigned key)).toList

/-- The line of a probe. -/
def probeLine (probe : ActiveProbeSemantics) : Str :=
  let fields := [assigned "rarity" (decimal probe.rarity),
    assigned "priority" (decimal probe.priority)]
    ++ optionalField "timeout" (probe.timeoutMs.map decimal)
    ++ optionalField "ports"
      (if probe.ports = [] then none else some (join [','] (probe.ports.map decimal)))
    ++ optionalField "fallback"
      (if probe.fallbackProbeNames = [] then none else some (join [','] probe.fallbackProbeNames))
    ++ [assigned "protocol" probe.transport.name]
  join [' '] (["Probe".toList, probe.transport.upper, probe.probeName] ++ fields)

/-- The line of a payload. -/
def sendLine (probe : ActiveProbeSemantics) : Str :=
  join [' '] ["send".toList, quote (Strings.fromHex probe.payloadHex)]

/-- The bytes of a rule's pattern. -/
def ServiceMatcherSemantics.patternBytes (rule : ServiceMatcherSemantics) : Bytes :=
  formBytes rule.pattern rule.patternHex

/-- The line of a rule. -/
def ruleLine (py : Platform) (rule : ServiceMatcherSemantics) : Str :=
  let fields :=
    [assigned "type" rule.matcherType.name, assigned "pattern" (quote rule.patternBytes),
      assigned "service" (textToken rule.service)]
    ++ optionalField "product" (rule.product.map textToken)
    ++ optionalField "version" (rule.versionTemplate.map textToken)
    ++ optionalField "extra" (rule.extra.map textToken)
    ++ optionalField "hostname" (rule.hostnameTemplate.map textToken)
    ++ optionalField "tunnel" (rule.tunnel.map textToken)
    ++ [assigned "confidence" (py.repr rule.confidence)]
  join [' '] ((if rule.strength = .soft then "softmatch".toList else "match".toList) :: fields)

/-- The rules of a probe in their order. -/
def rulesOf (matchers : List ServiceMatcherSemantics) (probe : ActiveProbeSemantics) :
    List ServiceMatcherSemantics :=
  (matchers.filter (·.probeName = probe.probeName)).insertionSort fun a b ↦ a.ruleOrder ≤
    b.ruleOrder

/-- The probes in their order. -/
def orderedProbes (probes : List ActiveProbeSemantics) : List ActiveProbeSemantics :=
  probes.insertionSort fun a b ↦ a.declarationOrder ≤ b.declarationOrder

/-- The lines of a probe. -/
def probeLines (py : Platform) (matchers : List ServiceMatcherSemantics)
    (probe : ActiveProbeSemantics) : List Str :=
  probeLine probe :: sendLine probe :: (rulesOf matchers probe).map (ruleLine py)

/-- `_service`. -/
def service (py : Platform) (records : List CanonicalRecord) : Bytes :=
  Utf8.encode (linesText
    ((orderedProbes (activeProbes records)).flatMap (probeLines py (serviceMatchers records))))

/-- `directives`. -/
def directive : SignatureField → SignatureOperator → Option Str
  | .ttl, .eq => some "TTL".toList
  | .ttl, .range => some "TTL_RANGE".toList
  | .window, .eq => some "WINDOW".toList
  | .window, .range => some "WINDOW_RANGE".toList
  | .mss, .eq => some "MSS".toList
  | .windowScale, .eq => some "WSCALE".toList
  | .tcpFlags, .eq => some "TCP_FLAGS".toList
  | .icmpTtl, .eq => some "ICMP_TTL".toList
  | .icmpTtl, .range => some "ICMP_TTL_RANGE".toList
  | .icmpType, .eq => some "ICMP_TYPE".toList
  | .icmpCode, .eq => some "ICMP_CODE".toList
  | .udpPayloadLength, .eq => some "UDP_PAYLOAD_LENGTH".toList
  | .udpPayloadLength, .range => some "UDP_PAYLOAD_RANGE".toList
  | .dontFragment, .bool => some "DF".toList
  | .sackPermitted, .bool => some "SACK".toList
  | .timestamps, .bool => some "TIMESTAMP".toList
  | .tcpOptions, .tcpOptions => some "TCP_OPTIONS".toList
  | .udpResponseBehavior, .text => some "UDP_RESPONSE_BEHAVIOR".toList
  | .responsePresence, .bool => some "RESPONSE_PRESENCE".toList
  | .ackBehavior, .text => some "ACK_BEHAVIOR".toList
  | .sequenceBehavior, .text => some "SEQUENCE_BEHAVIOR".toList
  | .responseBehavior, .text => some "RESPONSE_BEHAVIOR".toList
  | _, _ => none

/-- `rendered`. -/
def rendered : SignatureValue → Str
  | .number value => decimal value
  | .range minimum maximum => decimal minimum ++ '-' :: decimal maximum
  | .bool value => if value then ['Y'] else ['N']
  | .text value => value
  | .options values => join [','] values

/-- The line of a signature. -/
def signatureLine (signature : OSSignature) : Except CompilerError Str :=
  match directive signature.field signature.operator with
  | some key => .ok (key ++ '=' :: rendered signature.value)
  | none =>
    let field := String.ofList signature.field.name
    let operator := String.ofList signature.operator.name
    .error ⟨s!"unsupported OS signature mapping: {field}/{operator}"⟩

/-- The `Class` line of a fingerprint. -/
def classText (body : OSFingerprintSemantics) : Str :=
  "Class ".toList ++ join [' ', '|', ' ']
    ([body.vendor, body.osFamily]
      ++ (if body.osGeneration = [] then [] else [body.osGeneration])
      ++ (if body.deviceType = [] then [] else [body.deviceType]))

/-- The lines of a fingerprint. -/
def fingerprintLines (body : OSFingerprintSemantics) : Except CompilerError (List Str) := do
  let signatures ← body.signatures.mapM signatureLine
  return ["Fingerprint ".toList ++ body.name, "ID=".toList ++ body.runtimeId,
    "SPECIFICITY=".toList ++ decimal body.specificity,
    "ADDRESS_FAMILY=".toList ++ body.addressFamily.display, classText body] ++ signatures

/-- The fingerprints of a family in the order of their identifiers. -/
def orderedFingerprints (fingerprints : List OSFingerprintSemantics) (family : OSAddressFamily) :
    List OSFingerprintSemantics :=
  (fingerprints.filter (·.addressFamily = family)).insertionSort fun a b ↦ a.runtimeId ≤ b.runtimeId

/-- `_os`. -/
def os (records : List CanonicalRecord) (family : OSAddressFamily) :
    Except CompilerError Bytes := do
  let lines ← (orderedFingerprints (osFingerprints records) family).mapM fingerprintLines
  return Utf8.encode (linesText lines.flatten)

/-! ### The compiler of UDP probes -/

/-- The line of a UDP probe. -/
def udpProbeLine (body : UDPProbeSemantics) : Str :=
  "probe ".toList ++ body.name ++ [' '] ++ decimal body.destinationPort ++ [' '] ++
    body.protocolHint
    ++ [' '] ++ decimal body.maxResponseBytes ++ [' '] ++ body.payloadHex

/-- The two lines that introduce the database. -/
def udpHeader : List Str :=
  ["# Generated from Skan Intelligence Database v2 canonical UDP records.".toList,
    "# Syntax: probe NAME PORT PROTOCOL_HINT MAX_RESPONSE_BYTES PAYLOAD_HEX".toList]

/-- The variables of the loop of `compile_legacy_udp`. -/
structure UdpEmission where
  names : List Str := []
  ports : List ℕ := []
  hasDefault : Bool := false
  lines : List Str := udpHeader

/-- A pass of the loop. -/
def emitUdp (s : UdpEmission) (body : UDPProbeSemantics) : Except CompilerError UdpEmission := do
  insist (body.name ∉ s.names) s!"duplicate probe name: {String.ofList body.name}"
  if body.destinationPort = 0 then
    insist (body.name = defaultName && !s.hasDefault)
      "runtime corpus requires exactly one DEFAULT probe on port 0"
    return { s with
      names := body.name :: s.names, hasDefault := true, lines := s.lines ++ [udpProbeLine body] }
  else
    insist (body.destinationPort ∉ s.ports)
      s!"duplicate destination port: {body.destinationPort}"
    return { s with
      names := body.name :: s.names
      ports := body.destinationPort :: s.ports
      lines := s.lines ++ [udpProbeLine body] }

/-- `compile_legacy_udp`, encoded. -/
def compileLegacyUdp (py : Platform) (records : List CanonicalRecord) :
    Except CompilerError Bytes := do
  let validated ← records.mapM fun record ↦
    match parseRecord py record sources with
    | .ok checked => .ok checked
    | .error error => .error ⟨error.message⟩
  let bodies := udpProbes validated
  insist (!bodies.isEmpty && bodies.length = validated.length)
    "UDP compiler requires at least one canonical record"
  let ordered := bodies.insertionSort fun a b ↦ a.declarationOrder ≤ b.declarationOrder
  insist (ordered.map (·.declarationOrder) = List.range ordered.length)
    "UDP declaration_order values must be contiguous from zero"
  let s ← ordered.foldlM emitUdp {}
  insist s.hasDefault "runtime corpus requires exactly one DEFAULT probe"
  return Utf8.encode (linesText s.lines)

/-! ### The compiler -/

def serviceContext : ImportContext :=
  { source := skanFirstParty
    sourcePath := "data/service-probes.db".toList
    isSourcePath_sourcePath := by decide }

def udpContext : ImportContext :=
  { source := skanFirstParty
    sourcePath := "data/udp-probes.db".toList
    isSourcePath_sourcePath := by decide }

def osContext : OSAddressFamily → ImportContext
  | .ipv4 =>
    { source := skanFirstParty
      sourcePath := "data/os-fingerprints.db".toList
      isSourcePath_sourcePath := by decide }
  | .ipv6 =>
    { source := skanFirstParty
      sourcePath := "data/os-fingerprints-v6.db".toList
      isSourcePath_sourcePath := by decide }

/-- The checks of one artifact before it is imported. -/
def checkLimits (name : String) (value : Bytes) (maximumLineBytes : ℕ) :
    Except CompilerError Unit := do
  insist (value.length ≤ maxDatabaseBytes) s!"{name} exceeds {maxDatabaseBytes} bytes"
  insist ((value.splitOn 0x0A).all (·.length ≤ maximumLineBytes))
    s!"{name} contains an overlong line"

/-- What the checks of one artifact ask. -/
def withinLimits (value : Bytes) (maximumLineBytes : ℕ) : Bool :=
  value.length ≤ maxDatabaseBytes && (value.splitOn 0x0A).all (·.length ≤ maximumLineBytes)

/-- What the checks of the four artifacts ask. -/
def CompiledCorpus.withinLimits (artifacts : CompiledCorpus) : Bool :=
  Corpus.withinLimits artifacts.serviceProbes maxLineBytes &&
    Corpus.withinLimits artifacts.udpProbes maxLineBytes &&
    Corpus.withinLimits artifacts.ipv4Os maxOsLineBytes &&
    Corpus.withinLimits artifacts.ipv6Os maxOsLineBytes

section

variable (py : Platform)

/-- The four importers. -/
def importArtifacts (artifacts : CompiledCorpus) :
    Except RuntimeCorpusError
      (List CanonicalRecord × List CanonicalRecord × List CanonicalRecord × List
        CanonicalRecord) := do
  let service ← parseServiceRuntime py artifacts.serviceProbes serviceContext
  let udp ← parseUdpRuntime py udpContext artifacts.udpProbes
  let ipv4 ← parseOsRuntime py (osContext .ipv4) artifacts.ipv4Os .ipv4
  let ipv6 ← parseOsRuntime py (osContext .ipv6) artifacts.ipv6Os .ipv6
  return (service, udp, ipv4, ipv6)

/-- `_reimport_artifacts`. -/
def reimportArtifacts (artifacts : CompiledCorpus) :
    Except CompilerError (List CanonicalRecord) := do
  checkLimits "service-probes.db" artifacts.serviceProbes maxLineBytes
  checkLimits "udp-probes.db" artifacts.udpProbes maxLineBytes
  checkLimits "os-fingerprints.db" artifacts.ipv4Os maxOsLineBytes
  checkLimits "os-fingerprints-v6.db" artifacts.ipv6Os maxOsLineBytes
  match importArtifacts py artifacts with
  | .error error => .error ⟨s!"compiled artifact validation failed: {error.message}"⟩
  | .ok (service, udp, ipv4, ipv6) => do
    insist (ipv4.length + ipv6.length ≤ maxRecords) s!"OS fingerprint count exceeds {maxRecords}"
    return service ++ udp ++ ipv4 ++ ipv6

/-- The artifacts of a validated graph. -/
def emitArtifacts (validated : List CanonicalRecord) : Except CompilerError CompiledCorpus := do
  let udp ← compileLegacyUdp py (validated.filter (·.body.kind = .udpProbe))
  let ipv4 ← os validated .ipv4
  let ipv6 ← os validated .ipv6
  return {
    serviceProbes := service py validated
    udpProbes := udp
    ipv4Os := ipv4
    ipv6Os := ipv6 }

/-- `sorted(record.id for record in records)`. -/
def sortedIds (records : List CanonicalRecord) : List Str :=
  (records.map (·.id)).insertionSort (· ≤ ·)

/-- `compile_corpus`. -/
def compileCorpus (records : List CanonicalRecord) : Except CompilerError CompiledCorpus := do
  let validated ← validateRuntimeGraph py records
  let artifacts ← emitArtifacts py validated
  let regenerated ← reimportArtifacts py artifacts
  insist (sortedIds regenerated = sortedIds validated)
    "compiled artifacts do not preserve canonical record IDs"
  return artifacts

end

end Skan.Corpus
