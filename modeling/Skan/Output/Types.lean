import Skan.Detect.Types
import Skan.Discovery.Types
import Skan.OsDetect.Types
import Skan.Output.Double
import Skan.PortScan.ResultSemantics

/-!
# Reports

The records of `include/output/result_model.hpp` with the parts that its writers print: hosts with
their ports, services and OS matches, and the metrics of a run. `validateReport` is the check that
every writer makes first, and `orderedHosts`, `orderedPorts`, `orderedServices` and
`orderedOsMatches` are the orders in which they print.

The numbers are those of `Output.Double`, for what is printed depends on all the values that a
`double` can take. What `std::sort` does to elements that compare as equal is left open (`StdSort`).
-/

namespace Skan.Output

open Skan.Core Skan.PortScan Skan.Detect Skan.Discovery Skan.OsDetect

/-! ### Names -/

def protocolName : Protocol → Text
  | .tcp => literal "tcp"
  | .udp => literal "udp"

def scanProbeTypeName : ScanProbeType → Text
  | .tcpConnect => literal "connect"
  | .tcpSyn => literal "syn"
  | .tcpAck => literal "ack"
  | .udp => literal "udp"

def portStateName : PortState → Text
  | .open => literal "OPEN"
  | .closed => literal "CLOSED"
  | .filtered => literal "FILTERED"
  | .unknown => literal "UNKNOWN"
  | .openOrFiltered => literal "OPEN_OR_FILTERED"
  | .unfiltered => literal "UNFILTERED"
  | .error => literal "ERROR"
  | .unreachable => literal "UNREACHABLE"

def scanReasonName : ScanReason → Text
  | .immediateSuccess => literal "IMMEDIATE_SUCCESS"
  | .connectionRefused => literal "CONNECTION_REFUSED"
  | .networkUnreachable => literal "NETWORK_UNREACHABLE"
  | .localAddressUnavailable => literal "LOCAL_ADDRESS_UNAVAILABLE"
  | .synAck => literal "SYN_ACK"
  | .rst => literal "RST"
  | .ackRst => literal "ACK_RST"
  | .timeout => literal "TIMEOUT"
  | .ackTimeout => literal "ACK_TIMEOUT"
  | .socketError => literal "SOCKET_ERROR"
  | .malformedResponse => literal "MALFORMED_RESPONSE"
  | .unrelatedResponse => literal "UNRELATED_RESPONSE"
  | .invalidTarget => literal "INVALID_TARGET"
  | .invalidPort => literal "INVALID_PORT"
  | .unsupportedMethod => literal "UNSUPPORTED_METHOD"
  | .capabilityUnavailable => literal "CAPABILITY_UNAVAILABLE"
  | .internalError => literal "INTERNAL_ERROR"
  | .udpResponse => literal "UDP_RESPONSE"
  | .icmpPortUnreachable => literal "ICMP_PORT_UNREACHABLE"
  | .icmpAdministrativelyProhibited => literal "ICMP_ADMINISTRATIVELY_PROHIBITED"
  | .icmpNetworkUnreachable => literal "ICMP_NETWORK_UNREACHABLE"
  | .udpTimeout => literal "UDP_TIMEOUT"
  | .duplicateResponse => literal "DUPLICATE_RESPONSE"
  | .lateResponse => literal "LATE_RESPONSE"
  | .unsupportedProtocol => literal "UNSUPPORTED_PROTOCOL"
  | .conflictingEvidence => literal "CONFLICTING_EVIDENCE"
  | .icmpProtocolUnreachable => literal "ICMP_PROTOCOL_UNREACHABLE"

def detectionStateName : DetectionState → Text
  | .detected => literal "DETECTED"
  | .unknown => literal "UNKNOWN"
  | .timeout => literal "TIMEOUT"
  | .connectionClosed => literal "CONNECTION_CLOSED"
  | .responseTooLarge => literal "RESPONSE_TOO_LARGE"
  | .invalidTarget => literal "INVALID_TARGET"
  | .error => literal "ERROR"

def detectionErrorName : DetectionError → Text
  | .none => literal "NONE"
  | .timeout => literal "TIMEOUT"
  | .connectionClosed => literal "CONNECTION_CLOSED"
  | .responseTooLarge => literal "RESPONSE_TOO_LARGE"
  | .invalidTarget => literal "INVALID_TARGET"
  | .transportFailure => literal "TRANSPORT_FAILURE"
  | .malformedResponse => literal "MALFORMED_RESPONSE"
  | .noMatch => literal "NO_MATCH"
  | .unsupportedProtocol => literal "UNSUPPORTED_PROTOCOL"
  | .internalError => literal "INTERNAL_ERROR"

def detectionMethodName : DetectionMethod → Text
  | .banner => literal "banner"
  | .probe => literal "probe"
  | .unknown => literal "unknown"

def matchCategoryName : MatchCategory → Text
  | .noMatch => literal "NO_MATCH"
  | .lowConfidence => literal "LOW_CONFIDENCE"
  | .possibleMatch => literal "POSSIBLE_MATCH"
  | .strongMatch => literal "STRONG_MATCH"

def osDetectionStateName : OSDetectionState → Text
  | .notRun => literal "not-run"
  | .running => literal "running"
  | .complete => literal "complete"
  | .partially => literal "partial"
  | .unavailable => literal "unavailable"
  | .failed => literal "failed"

def osDetectionErrorName : OSDetectionError → Text
  | .none => literal "none"
  | .invalidTarget => literal "invalid-target"
  | .noUsablePort => literal "no-usable-port"
  | .capabilityUnavailable => literal "capability-unavailable"
  | .timeout => literal "timeout"
  | .malformedResponse => literal "malformed-response"
  | .unsupportedProbe => literal "unsupported-probe"
  | .transportFailure => literal "transport-failure"
  | .internalError => literal "internal-error"

def addressFamilyName : AddressFamily → Text
  | .ipv4 => literal "ipv4"
  | .ipv6 => literal "ipv6"
  | .unknown => literal "unknown"

def hostStateName : HostState → Text
  | .unknown => literal "UNKNOWN"
  | .up => literal "UP"
  | .down => literal "DOWN"
  | .unreachable => literal "UNREACHABLE"

/-- `TimingProfileId`. -/
inductive TimingProfileId where
  | t0
  | t1
  | t2
  | t3
  | t4
  | t5
  deriving DecidableEq

def timingProfileName : TimingProfileId → Text
  | .t0 => literal "T0"
  | .t1 => literal "T1"
  | .t2 => literal "T2"
  | .t3 => literal "T3"
  | .t4 => literal "T4"
  | .t5 => literal "T5"

/-! ### The records -/

structure PortResult where
  target : Text
  port : Port
  state : PortState := .unknown
  probe : ScanProbeType := .tcpConnect
  reason : ScanReason := .internalError
  rttMs : Option Double := none
  retryCount : ℕ := 0
  probeName : Option Text := none
  deriving DecidableEq

structure ServiceResult where
  target : Text
  port : Port
  protocol : Protocol := .tcp
  portState : PortState := .unknown
  state : DetectionState := .unknown
  service : Text := []
  product : Text := []
  version : Text := []
  extra : Text := []
  confidence : Double := .ofNat 0
  method : DetectionMethod := .unknown
  probeName : Text := []
  rttMs : Option Double := none
  error : DetectionError := .none
  hostname : Text := []
  tunnel : Text := []
  tls : TlsMetadata := {}
  mqtt : Option MqttConnackEvidence := none
  evidence : Option ProtocolEvidence := none
  deriving DecidableEq

structure OSMatchResult where
  fingerprintName : Text
  vendor : Text := []
  family : Text := []
  generation : Text := []
  deviceType : Text := []
  confidence : Double := .ofNat 0
  category : MatchCategory := .noMatch
  matchedFields : List Text := []
  mismatchedFields : List Text := []
  unavailableFields : List Text := []
  fingerprintId : Text := []
  specificity : UInt16 := 0
  deriving DecidableEq

structure OSDetectionResult where
  state : OSDetectionState := .notRun
  vendor : Text := []
  family : Text := []
  generation : Text := []
  deviceType : Text := []
  confidence : Double := .ofNat 0
  observed : ObservedOSFingerprint := {}
  probesGenerated : ℕ := 0
  probesSent : ℕ := 0
  responsesReceived : ℕ := 0
  probesTimedOut : ℕ := 0
  probesUnsupported : ℕ := 0
  probesMalformed : ℕ := 0
  rttMs : Option Double := none
  error : OSDetectionError := .none
  addressFamily : AddressFamily := .unknown
  fingerprintId : Text := []
  deriving DecidableEq

structure HostResult where
  address : Text
  hostname : Option Text := none
  state : HostState := .unknown
  rttMs : Option Double := none
  ports : List PortResult := []
  services : List ServiceResult := []
  osMatches : List OSMatchResult := []
  osDetection : Option OSDetectionResult := none
  warnings : List Text := []
  errors : List Text := []
  family : AddressFamily := .unknown
  deriving DecidableEq

/-- `ScanMetrics`. The stages are discovery, ports, UDP, services, OS and output. -/
structure ScanMetrics where
  totalQueued : ℕ := 0
  targetsTotal : ℕ := 0
  targetsCompleted : ℕ := 0
  targetsFailed : ℕ := 0
  probesSubmitted : ℕ := 0
  probesCompleted : ℕ := 0
  probesTimedOut : ℕ := 0
  probesFailed : ℕ := 0
  probesCancelled : ℕ := 0
  probesRetried : ℕ := 0
  retries : ℕ := 0
  bytesSent : ℕ := 0
  bytesReceived : ℕ := 0
  totalSubmitted : ℕ := 0
  completed : ℕ := 0
  timedOut : ℕ := 0
  failed : ℕ := 0
  cancelled : ℕ := 0
  duplicateResponses : ℕ := 0
  lateResponses : ℕ := 0
  malformedResponses : ℕ := 0
  parseErrors : ℕ := 0
  correlationMisses : ℕ := 0
  activeProbes : ℕ := 0
  peakActiveProbes : ℕ := 0
  currentParallelism : ℕ := 0
  maximumObservedParallelism : ℕ := 0
  currentRttMs : Option Double := none
  minimumRttMs : Option Double := none
  maximumRttMs : Option Double := none
  srttMs : Option Double := none
  rttvarMs : Option Double := none
  rtoMs : Option Double := none
  averageRttMs : Double := .ofNat 0
  rttSamples : ℕ := 0
  timeoutCount : ℕ := 0
  retryCount : ℕ := 0
  timeoutBackoffs : ℕ := 0
  estimatedDropRate : Double := .ofNat 0
  startedAt : TimePoint := 0
  completedAt : TimePoint := 0
  stageDurationMs : Fin 6 → Double := fun _ ↦ .ofNat 0

/-- `ScanMetrics::elapsed` in milliseconds, when the clock shows `now`. -/
def ScanMetrics.elapsed (metrics : ScanMetrics) (now : TimePoint) : ℕ :=
  let finish := if metrics.completedAt = 0 then now else metrics.completedAt
  if metrics.startedAt = 0 ∨ finish ≤ metrics.startedAt then 0
  else ((finish - metrics.startedAt) / 1000000).toNat

/-- `ScanReport`; the version is the build system's. -/
structure ScanReport where
  scannerName : Text := literal "Skan"
  scannerVersion : Text
  startedAt : Option Text := none
  finishedAt : Option Text := none
  durationMs : Option Double := none
  targetSpec : Option Text := none
  timingProfile : Option TimingProfileId := none
  timingMetrics : Option ScanMetrics := none
  hosts : List HostResult := []
  warnings : List Text := []
  errors : List Text := []

/-- The fields of `OutputContext` that the JSON writer reads. -/
structure OutputContext where
  includeHostnames : Bool := true
  includeClosedPorts : Bool := true
  includeFilteredPorts : Bool := true
  includeUnknown : Bool := true
  openOnly : Bool := false
  prettyJson : Bool := true

inductive OutputStatus where
  | ok
  | invalidFormat
  | invalidReport
  | ioError
  | serializationError
  deriving DecidableEq

def outputStatusName : OutputStatus → Text
  | .ok => literal "ok"
  | .invalidFormat => literal "invalid-format"
  | .invalidReport => literal "invalid-report"
  | .ioError => literal "io-error"
  | .serializationError => literal "serialization-error"

/-! ### The summary -/

structure ScanSummary where
  hosts : ℕ := 0
  hostsUp : ℕ := 0
  hostsDown : ℕ := 0
  hostsUnknown : ℕ := 0
  hostsUnreachable : ℕ := 0
  portsScanned : ℕ := 0
  openPorts : ℕ := 0
  closedPorts : ℕ := 0
  filteredPorts : ℕ := 0
  openOrFilteredPorts : ℕ := 0
  unfilteredPorts : ℕ := 0
  errorPorts : ℕ := 0
  unreachablePorts : ℕ := 0
  unknownPorts : ℕ := 0
  servicesDetected : ℕ := 0
  osMatches : ℕ := 0
  deriving DecidableEq

/-- `calculate_summary`. -/
def calculateSummary (report : ScanReport) : ScanSummary :=
  let hosts (state : HostState) := report.hosts.countP (·.state = state)
  let ports (state : PortState) :=
    (report.hosts.map fun host ↦ host.ports.countP (·.state = state)).sum
  { hosts := report.hosts.length, hostsUp := hosts .up, hostsDown := hosts .down,
    hostsUnknown := hosts .unknown, hostsUnreachable := hosts .unreachable,
    portsScanned := (report.hosts.map fun host ↦ host.ports.length).sum,
    openPorts := ports .open, closedPorts := ports .closed, filteredPorts := ports .filtered,
    openOrFilteredPorts := ports .openOrFiltered, unfilteredPorts := ports .unfiltered,
    errorPorts := ports .error, unreachablePorts := ports .unreachable,
    unknownPorts := ports .unknown,
    servicesDetected :=
      (report.hosts.map fun host ↦ host.services.countP (·.state = .detected)).sum,
    osMatches := (report.hosts.map fun host ↦ host.osMatches.length).sum }

/-! ### Validation -/

/-- `valid_nonnegative`. -/
def validNonnegative (value : Double) : Bool := value.isFinite && (Double.ofNat 0).le value

/-- `valid_confidence`. -/
def validConfidence (value : Double) : Bool :=
  value.isFinite && (Double.ofNat 0).le value && value.le (.ofNat 1)

/-- What `validate_report` asks of a port. -/
def validPort (port : PortResult) : Bool :=
  port.port.number ≠ 0 && !port.target.isEmpty &&
    validPortResultSemantics port.port.protocol port.probe port.state port.reason &&
    port.rttMs.all validNonnegative

/-- What `validate_report` asks of evidence for `service`: each validator vouches for one shape. -/
def validEvidence (service : Text) (e : ProtocolEvidence) : Bool :=
  let oneOf (text : Text) (words : List String) : Bool := words.any (text = literal ·)
  e.validator.length ≤ 64 && e.kind.length ≤ 32 && e.versionSource.length ≤ 64 &&
    e.protocolVersion.length ≤ 16 && e.statusCode.all (fun code ↦ 100 ≤ code && code ≤ 599) &&
    if e.validator = literal "search-root-json-v1" then
      oneOf service ["elasticsearch", "opensearch"] && e.kind = literal "structured" &&
        e.versionSource = literal "version.number" && e.bodyComplete &&
        e.statusCode = some 200 && oneOf e.protocolVersion ["1.0", "1.1"]
    else if e.validator = literal "zookeeper-srvr-v1" then
      service = literal "zookeeper" && e.kind = literal "structured" &&
        e.versionSource = literal "Zookeeper version" && e.bodyComplete &&
        e.statusCode.isNone && e.protocolVersion.isEmpty
    else if e.validator = literal "http-1x-v1" then
      e.statusCode.isSome && oneOf e.protocolVersion ["1.0", "1.1"] &&
        oneOf e.kind ["protocol", "header", "legacy-rule"]
    else false

/-- What `validate_report` asks of a service. -/
def validService (service : ServiceResult) : Bool :=
  service.port.number ≠ 0 && !service.target.isEmpty && validConfidence service.confidence &&
    service.mqtt.all (fun mqtt ↦ mqtt.returnCode ≤ 5 && service.service = literal "mqtt") &&
    service.evidence.all (validEvidence service.service) && service.rttMs.all validNonnegative

/-- What `validate_report` asks of an OS match. -/
def validOsMatch (result : OSMatchResult) : Bool :=
  !result.fingerprintName.isEmpty && validConfidence result.confidence

/-- What `validate_report` asks of a host. Nothing is asked of its `osDetection`. -/
def validHost (host : HostResult) : Bool :=
  !host.address.isEmpty && host.rttMs.all validNonnegative && host.ports.all validPort &&
    host.services.all validService && host.osMatches.all validOsMatch

/-- What `validate_report` asks of the metrics: of the numbers, four are looked at. -/
def validMetrics (metrics : ScanMetrics) : Bool :=
  (metrics.rttSamples = 0 || validNonnegative metrics.averageRttMs) &&
    metrics.minimumRttMs.all validNonnegative && metrics.maximumRttMs.all validNonnegative &&
    validNonnegative metrics.estimatedDropRate && metrics.estimatedDropRate.le (.ofNat 1)

/-- `validate_report`. -/
def validateReport (report : ScanReport) : OutputStatus :=
  if !report.scannerName.isEmpty && !report.scannerVersion.isEmpty &&
      report.durationMs.all validNonnegative && report.hosts.all validHost &&
      report.timingMetrics.all validMetrics then .ok
  else .invalidReport

/-! ### Orders -/

/-- `std::sort`: some permutation of the elements, in the order of the comparison. -/
structure StdSort where
  sort : {α : Type} → (α → α → Bool) → List α → List α
  perm : ∀ {α : Type} (less : α → α → Bool) (l : List α), (sort less l).Perm l

/-- The keys of the comparisons below, from the first one in which two elements differ. -/
def lexicographic : List (Bool × Bool) → Bool
  | [] => false
  | (differ, less) :: rest => if differ then less else lexicographic rest

/-- `port_less`. -/
def portLess (left right : PortResult) : Bool :=
  let rank : Protocol → ℕ | .tcp => 0 | .udp => 1
  lexicographic [
    (left.port.number ≠ right.port.number, left.port.number < right.port.number),
    (left.port.protocol ≠ right.port.protocol, rank left.port.protocol < rank right.port.protocol),
    (true, left.target < right.target)]

/-- `service_less`. -/
def serviceLess (left right : ServiceResult) : Bool :=
  let rank : Protocol → ℕ | .tcp => 0 | .udp => 1
  lexicographic [
    (left.port.number ≠ right.port.number, left.port.number < right.port.number),
    (left.protocol ≠ right.protocol, rank left.protocol < rank right.protocol),
    (left.target ≠ right.target, left.target < right.target),
    (left.probeName ≠ right.probeName, left.probeName < right.probeName),
    (left.service ≠ right.service, left.service < right.service),
    (left.product ≠ right.product, left.product < right.product),
    (left.version ≠ right.version, left.version < right.version),
    (true, right.confidence.lt left.confidence)]

/-- `os_match_is_better`. -/
def osMatchIsBetter (left right : OSMatchResult) : Bool :=
  let leftStrong := decide (left.category = .strongMatch)
  let rightStrong := decide (right.category = .strongMatch)
  lexicographic [
    (leftStrong ≠ rightStrong, leftStrong),
    (leftStrong && left.specificity ≠ right.specificity, right.specificity < left.specificity),
    (!left.confidence.eq right.confidence, right.confidence.lt left.confidence),
    (left.specificity ≠ right.specificity, right.specificity < left.specificity),
    (left.fingerprintName ≠ right.fingerprintName, left.fingerprintName < right.fingerprintName),
    (true, left.fingerprintId < right.fingerprintId)]

variable (std : StdSort)

/-- `ordered_hosts`. -/
def orderedHosts (report : ScanReport) : List HostResult :=
  std.sort (fun left right ↦ left.address < right.address) report.hosts

/-- The ports that `ordered_ports` keeps. -/
def showsPort (context : OutputContext) (port : PortResult) : Bool :=
  !(context.openOnly && port.state ≠ .open && port.state ≠ .openOrFiltered) &&
    !(port.state = .closed && !context.includeClosedPorts) &&
    !((port.state = .filtered || port.state = .openOrFiltered) && !context.includeFilteredPorts) &&
    !(port.state = .unknown && !context.includeUnknown)

/-- `ordered_ports`. -/
def orderedPorts (host : HostResult) (context : OutputContext) : List PortResult :=
  std.sort portLess (host.ports.filter (showsPort context))

/-- `ordered_services`. -/
def orderedServices (host : HostResult) : List ServiceResult := std.sort serviceLess host.services

/-- `ordered_os_matches`. -/
def orderedOsMatches (host : HostResult) : List OSMatchResult :=
  std.sort osMatchIsBetter host.osMatches

end Skan.Output
