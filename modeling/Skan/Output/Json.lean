import Skan.Core.TextSafety
import Skan.Output.Types

/-!
# The JSON writer

`json_escape` of `src/output/output_writer.cpp` and the writer of `src/output/output_json.cpp`,
which prints a report member by member: `object` and `array` are its sequences of `begin_object`,
`key`, `end_object` and of `begin_array`, `array_value`, `end_array`, with the flag `first` that
decides about commas. A member is a name and what is written for its value; one that is not written
is `none`.

Bytes that the stream refuses are left out: what is returned is what is inserted into the stream.
-/

namespace Skan.Output

open Skan.Core Skan.Core.Text Skan.PortScan Skan.Detect Skan.OsDetect

/-! ### Escapes -/

/-- `hex`. -/
def hexDigit (value : UInt8) : UInt8 := if value < 10 then 0x30 + value else 0x57 + value

/-- What `json_escape` appends for a byte. -/
def escapeByte (character : UInt8) : Text :=
  if character = 0x22 then [0x5C, 0x22]
  else if character = 0x5C then [0x5C, 0x5C]
  else if character = 0x08 then [0x5C, 0x62]
  else if character = 0x0C then [0x5C, 0x66]
  else if character = 0x0A then [0x5C, 0x6E]
  else if character = 0x0D then [0x5C, 0x72]
  else if character = 0x09 then [0x5C, 0x74]
  else if character < 0x20 then
    [0x5C, 0x75, 0x30, 0x30, hexDigit (character >>> 4 &&& 0x0F), hexDigit (character &&& 0x0F)]
  else [character]

/-- `json_escape`. -/
def jsonEscape (value : Text) : Text := (sanitizeUtf8 value).flatMap escapeByte

/-! ### The writer -/

structure JsonWriter where
  pretty : Bool

/-- A member of an object: its name and what is written for its value. -/
abbrev Member := String × Text

/-- What was written between the brackets of a container, and whether something is still to come
`first`. -/
structure Container where
  text : Text := []
  first : Bool := true

/-- Behind what is there already, a comma comes first. -/
def Container.add (container : Container) (entry : Text) : Container where
  text := container.text ++ (if container.first then [] else [0x2C]) ++ entry
  first := false

namespace JsonWriter

def string (value : Text) : Text := 0x22 :: jsonEscape value ++ [0x22]

def number (value : Double) : Text := Output.number value

def integer (value : ℕ) : Text := decimal value

def boolean (value : Bool) : Text := literal (if value then "true" else "false")

variable (json : JsonWriter)

def newline (depth : ℕ) : Text := if json.pretty then 0x0A :: List.replicate (depth * 2) 0x20 else
    []

/-- `key`, and the value behind it. -/
def key (depth : ℕ) (container : Container) (member : Member) : Container :=
  container.add (json.newline depth ++ string (literal member.1) ++ 0x3A :: 0x20 :: member.2)

/-- `array_value`, and the value behind it. -/
def arrayValue (depth : ℕ) (container : Container) (value : Text) : Container :=
  container.add (json.newline depth ++ value)

/-- An object whose members that are present stand one deeper than its end. -/
def object (depth : ℕ) (members : List (Option Member)) : Text :=
  let container := members.reduceOption.foldl (json.key (depth + 1)) {}
  0x7B :: container.text ++ (if container.first then [] else json.newline depth) ++ [0x7D]

/-- An array whose values stand at `depth`. -/
def array (depth : ℕ) (values : List Text) : Text :=
  let container := values.foldl (json.arrayValue depth) {}
  0x5B :: container.text ++ (if container.first then [] else json.newline (depth - 1)) ++ [0x5D]

/-! ### What is written for the records -/

/-- A member that is written if `present`. -/
def given (present : Bool) (member : Member) : Option Member :=
    if present then some member else none

/-- A text that is written unless it is empty. -/
def nonempty (name : String) (value : Text) : Option Member :=
  given (!value.isEmpty) (name, string value)

/-- A number that is written if there is one. -/
def optionalNumber (name : String) (value : Option Double) : Option Member :=
  value.map fun x ↦ (name, number x)

/-- A text that is written if there is one. -/
def optionalString (name : String) (value : Option Text) : Option Member :=
  value.map fun text ↦ (name, string text)

/-- `write_string_array`. -/
def writeStringArray (values : List Text) (depth : ℕ) : Text := json.array depth (values.map string)

/-- `write_timing_metrics`, when the clock shows `now`. -/
def writeTimingMetrics (now : TimePoint) (metrics : ScanMetrics) (depth : ℕ) : Text :=
  json.object depth [
    some ("total_queued", integer metrics.totalQueued),
    some ("targets_total", integer metrics.targetsTotal),
    some ("targets_completed", integer metrics.targetsCompleted),
    some ("targets_failed", integer metrics.targetsFailed),
    some ("probes_submitted", integer metrics.probesSubmitted),
    some ("probes_completed", integer metrics.probesCompleted),
    some ("probes_timed_out", integer metrics.probesTimedOut),
    some ("probes_failed", integer metrics.probesFailed),
    some ("probes_cancelled", integer metrics.probesCancelled),
    some ("probes_retried", integer metrics.probesRetried),
    some ("retries", integer metrics.retries),
    some ("bytes_sent", integer metrics.bytesSent),
    some ("bytes_received", integer metrics.bytesReceived),
    some ("total_submitted", integer metrics.totalSubmitted),
    some ("completed", integer metrics.completed),
    some ("timed_out", integer metrics.timedOut),
    some ("failed", integer metrics.failed),
    some ("cancelled", integer metrics.cancelled),
    some ("duplicate_responses", integer metrics.duplicateResponses),
    some ("late_responses", integer metrics.lateResponses),
    some ("malformed_responses", integer metrics.malformedResponses),
    some ("parse_errors", integer metrics.parseErrors),
    some ("correlation_misses", integer metrics.correlationMisses),
    some ("active_probes", integer metrics.activeProbes),
    some ("peak_active_probes", integer metrics.peakActiveProbes),
    some ("current_parallelism", integer metrics.currentParallelism),
    some ("maximum_observed_parallelism", integer metrics.maximumObservedParallelism),
    optionalNumber "current_rtt_ms" metrics.currentRttMs,
    optionalNumber "minimum_rtt_ms" metrics.minimumRttMs,
    optionalNumber "maximum_rtt_ms" metrics.maximumRttMs,
    optionalNumber "srtt_ms" metrics.srttMs,
    optionalNumber "rttvar_ms" metrics.rttvarMs,
    optionalNumber "rto_ms" metrics.rtoMs,
    given (0 < metrics.rttSamples) ("average_rtt_ms", number metrics.averageRttMs),
    some ("rtt_samples", integer metrics.rttSamples),
    some ("timeout_count", integer metrics.timeoutCount),
    some ("retry_count", integer metrics.retryCount),
    some ("timeout_backoffs", integer metrics.timeoutBackoffs),
    some ("estimated_drop_rate", number metrics.estimatedDropRate),
    some ("elapsed_ms", number (.ofNat (metrics.elapsed now))),
    some ("stage_duration_ms",
      json.array (depth + 1) ((List.ofFn metrics.stageDurationMs).map number))]

/-- `write_port`. -/
def writePort (port : PortResult) (depth : ℕ) : Text :=
  let udp := decide (port.port.protocol = .udp)
  json.object depth [
    some ("target", string port.target),
    some ("port", integer port.port.number.toNat),
    some ("protocol", string (protocolName port.port.protocol)),
    some ("state", string (portStateName port.state)),
    some ("probe", string (scanProbeTypeName port.probe)),
    some ("reason", string (scanReasonName port.reason)),
    optionalNumber "rtt_ms" port.rttMs,
    given udp ("retry_count", integer port.retryCount),
    if udp then optionalString "probe_name" port.probeName else none]

/-- The `evidence` of a service. -/
def writeEvidence (e : ProtocolEvidence) (depth : ℕ) : Text :=
  json.object depth [
    some ("validator", string e.validator),
    some ("kind", string e.kind),
    some ("version_source", string e.versionSource),
    some ("protocol_version", string e.protocolVersion),
    some ("body_complete", boolean e.bodyComplete),
    e.statusCode.map fun code ↦ ("status_code", integer code.toNat)]

/-- The `mqtt` of a service. -/
def writeMqtt (mqtt : MqttConnackEvidence) (depth : ℕ) : Text :=
  json.object depth [
    some ("validator", string (literal "mqtt-3.1.1-connack-v1")),
    some ("requested_protocol", string (literal "3.1.1")),
    some ("return_code", integer mqtt.returnCode.toNat),
    some ("session_present", boolean false),
    some ("frame_bytes", integer 4),
    given (mqtt.returnCode = 0) ("accepted_protocol", string (literal "3.1.1"))]

/-- The `tls` of a service. -/
def writeTls (tls : TlsMetadata) (depth : ℕ) : Text :=
  json.object depth [
    some ("detected", boolean true),
    nonempty "version" tls.protocolVersion,
    nonempty "certificate_subject" tls.certificateSubject,
    nonempty "certificate_issuer" tls.certificateIssuer,
    given (!tls.certificateSanNames.isEmpty)
      ("certificate_san_names", json.writeStringArray tls.certificateSanNames (depth + 2)),
    nonempty "certificate_not_before" tls.certificateNotBefore,
    nonempty "certificate_not_after" tls.certificateNotAfter,
    given (!tls.alpn.isEmpty) ("alpn", json.writeStringArray tls.alpn (depth + 2))]

/-- `write_service`. -/
def writeService (service : ServiceResult) (depth : ℕ) : Text :=
  json.object depth [
    some ("target", string service.target),
    some ("port", integer service.port.number.toNat),
    some ("protocol", string (protocolName service.protocol)),
    some ("port_state", string (portStateName service.portState)),
    some ("state", string (detectionStateName service.state)),
    nonempty "service" service.service,
    nonempty "product" service.product,
    nonempty "version" service.version,
    nonempty "extra" service.extra,
    nonempty "hostname" service.hostname,
    nonempty "tunnel" service.tunnel,
    service.evidence.map fun e ↦ ("evidence", json.writeEvidence e (depth + 1)),
    service.mqtt.map fun mqtt ↦ ("mqtt", json.writeMqtt mqtt (depth + 1)),
    given service.tls.detected ("tls", json.writeTls service.tls (depth + 1)),
    some ("confidence", number service.confidence),
    some ("method", string (detectionMethodName service.method)),
    nonempty "probe" service.probeName,
    optionalNumber "rtt_ms" service.rttMs,
    some ("error", string (detectionErrorName service.error))]

/-- `write_os_match`. -/
def writeOsMatch (result : OSMatchResult) (depth : ℕ) : Text :=
  json.object depth [
    some ("name", string result.fingerprintName),
    some ("id", string result.fingerprintId),
    nonempty "vendor" result.vendor,
    nonempty "family" result.family,
    nonempty "generation" result.generation,
    nonempty "device_type" result.deviceType,
    some ("confidence", number result.confidence),
    some ("confidence_class", string (matchCategoryName result.category)),
    some ("matched_fields", json.writeStringArray result.matchedFields (depth + 2)),
    some ("mismatched_fields", json.writeStringArray result.mismatchedFields (depth + 2)),
    some ("unavailable_fields", json.writeStringArray result.unavailableFields (depth + 2))]

/-- `write_os_detection`. -/
def writeOsDetection (result : OSDetectionResult) (depth : ℕ) : Text :=
  json.object depth [
    some ("address_family", string (addressFamilyName result.addressFamily)),
    some ("state", string (osDetectionStateName result.state)),
    some ("error", string (osDetectionErrorName result.error)),
    nonempty "vendor" result.vendor,
    nonempty "family" result.family,
    nonempty "generation" result.generation,
    nonempty "device_type" result.deviceType,
    some ("confidence", number result.confidence),
    nonempty "fingerprint_id" result.fingerprintId,
    some ("probes_generated", integer result.probesGenerated),
    some ("probes_sent", integer result.probesSent),
    some ("responses_received", integer result.responsesReceived),
    some ("probes_timed_out", integer result.probesTimedOut),
    some ("probes_unsupported", integer result.probesUnsupported),
    some ("probes_malformed", integer result.probesMalformed),
    optionalNumber "rtt_ms" result.rttMs,
    some ("tcp_observations", integer result.observed.tcpObservations.length),
    some ("icmp_observations", integer result.observed.icmpObservations.length),
    some ("udp_observations", integer result.observed.udpObservations.length)]

variable (std : StdSort)

/-- `write_host`. -/
def writeHost (host : HostResult) (context : OutputContext) (depth : ℕ) : Text :=
  json.object depth [
    some ("address", string host.address),
    some ("family", string (addressFamilyName host.family)),
    if context.includeHostnames then optionalString "hostname" host.hostname else none,
    some ("state", string (hostStateName host.state)),
    optionalNumber "rtt_ms" host.rttMs,
    some ("ports", json.array (depth + 2)
      ((orderedPorts std host context).map (json.writePort · (depth + 2)))),
    some ("services", json.array (depth + 2)
      ((orderedServices std host).map (json.writeService · (depth + 2)))),
    some ("os", json.array (depth + 2)
      ((orderedOsMatches std host).map (json.writeOsMatch · (depth + 2)))),
    host.osDetection.map fun result ↦ ("os_detection", json.writeOsDetection result (depth + 1)),
    some ("warnings", json.writeStringArray host.warnings (depth + 2)),
    some ("errors", json.writeStringArray host.errors (depth + 2))]

/-- The `scanner` of a report. -/
def writeScanner (report : ScanReport) : Text :=
  json.object 1 [
    some ("name", string report.scannerName),
    some ("version", string report.scannerVersion)]

/-- The `scan` of a report. -/
def writeScan (now : TimePoint) (report : ScanReport) : Text :=
  json.object 1 [
    optionalString "started_at" report.startedAt,
    optionalString "finished_at" report.finishedAt,
    optionalNumber "duration_ms" report.durationMs,
    optionalString "target_spec" report.targetSpec,
    optionalString "timing_profile" (report.timingProfile.map timingProfileName),
    report.timingMetrics.map fun metrics ↦
      ("timing_metrics", json.writeTimingMetrics now metrics 2)]

/-- The `summary` of a report. -/
def writeSummary (summary : ScanSummary) : Text :=
  json.object 1 [
    some ("hosts", integer summary.hosts),
    some ("hosts_up", integer summary.hostsUp),
    some ("hosts_down", integer summary.hostsDown),
    some ("hosts_unknown", integer summary.hostsUnknown),
    some ("hosts_unreachable", integer summary.hostsUnreachable),
    some ("ports_scanned", integer summary.portsScanned),
    some ("open_ports", integer summary.openPorts),
    some ("closed_ports", integer summary.closedPorts),
    some ("filtered_ports", integer summary.filteredPorts),
    some ("open_or_filtered_ports", integer summary.openOrFilteredPorts),
    some ("unfiltered_ports", integer summary.unfilteredPorts),
    some ("error_ports", integer summary.errorPorts),
    some ("unreachable_ports", integer summary.unreachablePorts),
    some ("unknown_ports", integer summary.unknownPorts),
    some ("services_detected", integer summary.servicesDetected),
    some ("os_matches", integer summary.osMatches)]

/-- The members of the document. -/
def writeReport (now : TimePoint) (report : ScanReport) (context : OutputContext) : Text :=
  json.object 0 [
    some ("scanner", json.writeScanner report),
    some ("scan", json.writeScan now report),
    some ("hosts", json.array 2
      ((orderedHosts std report).map (json.writeHost std · context 2))),
    some ("summary", json.writeSummary (calculateSummary report)),
    some ("warnings", json.writeStringArray report.warnings 2),
    some ("errors", json.writeStringArray report.errors 2)]

end JsonWriter

/-- `JsonOutputWriter::write`: the document, or the status of a report that is refused. -/
def JsonOutputWriter.write (std : StdSort) (now : TimePoint) (report : ScanReport)
    (context : OutputContext) : Except OutputStatus Text :=
  if validateReport report ≠ .ok then .error .invalidReport
  else .ok (JsonWriter.writeReport ⟨context.prettyJson⟩ std now report context ++ [0x0A])

end Skan.Output
