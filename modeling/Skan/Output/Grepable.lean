import Skan.Core.TextRepair
import Skan.Library.Records
import Skan.Output.Types

/-!
# The grepable writer

`grep_escape` of `src/output/output_writer.cpp` and the writer of `src/output/output_grepable.cpp`,
which prints a report record by record. A record is its kind and its fields, each of which is a name
and what is written for its value; one that is not written is `none`.

Text that comes from outside is written between quotation marks and escaped; counts, numbers and the
names of enumerations are written as they are. What `grep_escape` writes is the escaped form of the
sanitized text in which the other controls are question marks (`grepEscape_eq`), and what stands
outside of quotation marks has no blank (`fits_grepRecords`). So a reader that knows only the form
of the records gets back the ones that were written (`grep_records_exact`).

Bytes that the stream refuses are left out: what is returned is what is inserted into the stream.
-/

namespace Skan.Output

open Skan.Core Skan.Core.Text Skan.PortScan Skan.Detect Skan.Discovery Skan.OsDetect Records
  Json

/-! ### Escapes -/

/-- What `grep_escape` appends for a byte. -/
def grepEscapeByte (character : UInt8) : Text :=
  if character = 0x5C || character = 0x22 || character = 0x0A || character = 0x0D ||
      character = 0x09 then
    [0x5C, if character = 0x0A then 0x6E
      else if character = 0x0D then 0x72
      else if character = 0x09 then 0x74
      else character]
  else if character < 0x20 || character = 0x7F then [0x3F]
  else [character]

/-- `grep_escape`. -/
def grepEscape (value : Text) : Text := (sanitizeUtf8 value).flatMap grepEscapeByte

/-! ### Records -/

/-- What is written for the value of a field. -/
inductive GrepValue where
  /-- Text from outside. -/
  | quoted (value : Text)
  /-- A count, a number or a name. -/
  | bare (text : Text)

def GrepValue.text : GrepValue → Text
  | .quoted value => 0x22 :: grepEscape value ++ [0x22]
  | .bare text => text

/-- A field of a record. -/
abbrev GrepField := String × Option GrepValue

def GrepField.text : GrepField → Text
  | (name, some value) => literal " " ++ literal name ++ literal "=" ++ value.text
  | (_, none) => []

structure GrepRecord where
  kind : String
  fields : List GrepField

def GrepRecord.text (record : GrepRecord) : Text :=
  literal record.kind ++ literal ":" ++ record.fields.flatMap GrepField.text ++ [0x0A]

namespace GrepRecord

/-! ### What is written for the parts of a report -/

def string (name : String) (value : Text) : GrepField := (name, some (.quoted value))

def integer (name : String) (value : ℕ) : GrepField := (name, some (.bare (decimal value)))

def number (name : String) (value : Double) : GrepField :=
  (name, some (.bare (Output.number value)))

def word (name : String) (text : Text) : GrepField := (name, some (.bare text))

/-- `true` or `false`. -/
def booleanText (value : Bool) : Text := if value then literal "true" else literal "false"

/-- A field that is written if `present`. -/
def given (present : Bool) (field : GrepField) : GrepField :=
  (field.1, if present then field.2 else none)

/-- A text that is written unless it is empty. -/
def nonempty (name : String) (value : Text) : GrepField :=
  given (!value.isEmpty) (string name value)

/-- A text that is written if there is one. -/
def optionalString (name : String) (value : Option Text) : GrepField :=
  (name, value.map .quoted)

/-- A count that is written if there is one. -/
def optionalInteger (name : String) (value : Option ℕ) : GrepField :=
  (name, value.map fun n ↦ .bare (decimal n))

/-- A number that is written if there is one. -/
def optionalNumber (name : String) (value : Option Double) : GrepField :=
  (name, value.map fun x ↦ .bare (Output.number x))

/-- A truth value that is written if there is one. -/
def optionalBoolean (name : String) (value : Option Bool) : GrepField :=
  (name, value.map fun b ↦ .bare (booleanText b))

def scan (report : ScanReport) : GrepRecord where
  kind := "Scan"
  fields := [
    string "scanner" report.scannerName,
    string "version" report.scannerVersion,
    optionalString "target" report.targetSpec,
    optionalNumber "duration_ms" report.durationMs]

def metrics (metrics : ScanMetrics) : GrepRecord where
  kind := "Metrics"
  fields := [
    integer "targets_total" metrics.targetsTotal,
    integer "targets_completed" metrics.targetsCompleted,
    integer "targets_failed" metrics.targetsFailed,
    integer "probes_submitted" metrics.probesSubmitted,
    integer "probes_completed" metrics.probesCompleted,
    integer "probes_timed_out" metrics.probesTimedOut,
    integer "probes_cancelled" metrics.probesCancelled,
    integer "probes_retried" metrics.probesRetried,
    integer "duplicate_responses" metrics.duplicateResponses,
    integer "late_responses" metrics.lateResponses,
    integer "malformed_responses" metrics.malformedResponses,
    integer "bytes_sent" metrics.bytesSent,
    integer "bytes_received" metrics.bytesReceived,
    integer "active_probes" metrics.activeProbes,
    integer "peak_active_probes" metrics.peakActiveProbes,
    integer "timeout_backoffs" metrics.timeoutBackoffs]

def host (host : HostResult) (context : OutputContext) : GrepRecord where
  kind := "Host"
  fields := [
    string "address" host.address,
    word "family" (addressFamilyName host.family),
    word "state" (hostStateName host.state),
    optionalString "hostname" (if context.includeHostnames then host.hostname else none),
    optionalNumber "rtt_ms" host.rttMs]

def port (port : PortResult) : GrepRecord where
  kind := "Port"
  fields :=
    let udp := decide (port.port.protocol = .udp)
    [ string "target" port.target,
      integer "number" port.port.number.toNat,
      word "protocol" (protocolName port.port.protocol),
      word "state" (portStateName port.state),
      word "probe" (scanProbeTypeName port.probe),
      word "reason" (scanReasonName port.reason),
      optionalNumber "rtt_ms" port.rttMs,
      given udp (string "probe_name" (port.probeName.getD [])),
      given udp (integer "retry_count" port.retryCount)]

/-- The fields of the `evidence` of a service. -/
def evidence (e : Option ProtocolEvidence) : List GrepField := [
  optionalString "evidence_validator" (e.map (·.validator)),
  optionalString "evidence_kind" (e.map (·.kind)),
  optionalString "evidence_version_source" (e.map (·.versionSource)),
  optionalString "evidence_protocol_version" (e.map (·.protocolVersion)),
  optionalBoolean "evidence_body_complete" (e.map (·.bodyComplete)),
  optionalInteger "evidence_status_code" (e.bind fun e ↦ e.statusCode.map (·.toNat))]

/-- The fields of the `mqtt` of a service. -/
def mqtt (mqtt : Option MqttConnackEvidence) : List GrepField := [
  given mqtt.isSome (string "mqtt_validator" (literal "mqtt-3.1.1-connack-v1")),
  given mqtt.isSome (string "mqtt_requested_protocol" (literal "3.1.1")),
  optionalInteger "mqtt_return_code" (mqtt.map (·.returnCode.toNat)),
  given mqtt.isSome (word "mqtt_session_present" (literal "false")),
  given mqtt.isSome (word "mqtt_frame_bytes" (literal "4")),
  given (mqtt.any (·.returnCode = 0)) (string "mqtt_accepted_protocol" (literal "3.1.1"))]

def service (service : ServiceResult) : GrepRecord where
  kind := "Service"
  fields := [
    string "target" service.target,
    integer "number" service.port.number.toNat,
    word "protocol" (protocolName service.protocol),
    word "state" (detectionStateName service.state),
    word "port_state" (portStateName service.portState),
    nonempty "name" service.service,
    nonempty "product" service.product,
    nonempty "version" service.version,
    nonempty "extra" service.extra,
    nonempty "hostname" service.hostname,
    nonempty "tunnel" service.tunnel] ++
    evidence service.evidence ++ mqtt service.mqtt ++ [
    given service.tls.detected (word "tls" (literal "true")),
    given service.tls.detected (nonempty "tls_version" service.tls.protocolVersion),
    number "confidence" service.confidence,
    word "method" (detectionMethodName service.method),
    word "error" (detectionErrorName service.error),
    nonempty "probe" service.probeName,
    optionalNumber "rtt_ms" service.rttMs]

def osStatus (address : Text) (detection : OSDetectionResult) : GrepRecord where
  kind := "OSStatus"
  fields := [
    string "address" address,
    word "family" (addressFamilyName detection.addressFamily),
    word "state" (osDetectionStateName detection.state),
    word "error" (osDetectionErrorName detection.error),
    number "confidence" detection.confidence,
    integer "probes" detection.probesSent,
    integer "responses" detection.responsesReceived,
    integer "timeouts" detection.probesTimedOut,
    integer "tcp_evidence" detection.observed.tcpObservations.length,
    integer "icmp_evidence" detection.observed.icmpObservations.length,
    integer "udp_evidence" detection.observed.udpObservations.length,
    nonempty "vendor" detection.vendor,
    nonempty "os_family" detection.family,
    nonempty "generation" detection.generation,
    nonempty "device_type" detection.deviceType,
    nonempty "fingerprint_id" detection.fingerprintId,
    optionalNumber "rtt_ms" detection.rttMs]

def os (address : Text) (result : OSMatchResult) : GrepRecord where
  kind := "OS"
  fields := [
    string "address" address,
    string "name" result.fingerprintName,
    string "id" result.fingerprintId,
    number "confidence" result.confidence,
    word "class" (matchCategoryName result.category),
    nonempty "vendor" result.vendor,
    nonempty "family" result.family]

/-- A warning or an error of a host. -/
def hostMessage (kind : String) (address message : Text) : GrepRecord where
  kind := kind
  fields := [string "address" address, string "message" message]

/-- A warning or an error of the scan. -/
def scanMessage (kind : String) (message : Text) : GrepRecord where
  kind := kind
  fields := [word "scope" (literal "scan"), string "message" message]

def summary (summary : ScanSummary) : GrepRecord where
  kind := "Summary"
  fields := [
    integer "hosts" summary.hosts,
    integer "hosts_up" summary.hostsUp,
    integer "hosts_down" summary.hostsDown,
    integer "hosts_unknown" summary.hostsUnknown,
    integer "hosts_unreachable" summary.hostsUnreachable,
    integer "ports_scanned" summary.portsScanned,
    integer "open_ports" summary.openPorts,
    integer "closed_ports" summary.closedPorts,
    integer "filtered_ports" summary.filteredPorts,
    integer "open_or_filtered_ports" summary.openOrFilteredPorts,
    integer "unfiltered_ports" summary.unfilteredPorts,
    integer "error_ports" summary.errorPorts,
    integer "unreachable_ports" summary.unreachablePorts,
    integer "unknown_ports" summary.unknownPorts,
    integer "services_detected" summary.servicesDetected,
    integer "os_matches" summary.osMatches]

variable (std : StdSort)

/-- A port and, behind it, the services that were found there. -/
def portRecords (host : HostResult) (port : PortResult) : List GrepRecord :=
  GrepRecord.port port :: ((orderedServices std host).filter fun service ↦
    service.port.number = port.port.number ∧ service.protocol = port.port.protocol).map service

def hostRecords (host : HostResult) (context : OutputContext) : List GrepRecord :=
  GrepRecord.host host context ::
    (orderedPorts std host context).flatMap (portRecords std host) ++
    (host.osDetection.map (osStatus host.address)).toList ++
    (orderedOsMatches std host).map (os host.address) ++
    host.warnings.map (hostMessage "Warning" host.address) ++
    host.errors.map (hostMessage "Error" host.address)

end GrepRecord

/-- The records of a report, in the order in which they are written. -/
def grepRecords (std : StdSort) (report : ScanReport) (context : OutputContext) :
    List GrepRecord :=
  .scan report :: (report.timingMetrics.map GrepRecord.metrics).toList ++
    (orderedHosts std report).flatMap (GrepRecord.hostRecords std · context) ++
    .summary (calculateSummary report) ::
    report.warnings.map (GrepRecord.scanMessage "Warning") ++
    report.errors.map (GrepRecord.scanMessage "Error")

/-- `GrepableOutputWriter::write`: the records, or the status of a report that is refused. -/
def GrepableOutputWriter.write (std : StdSort) (report : ScanReport) (context : OutputContext) :
    Except OutputStatus Text :=
  if validateReport report ≠ .ok then .error .invalidReport
  else .ok ((grepRecords std report context).flatMap GrepRecord.text)

/-! ### What is escaped -/

/-- A byte as it can be read: a control that has no escape is a question mark. -/
def readableByte (b : UInt8) : UInt8 :=
  if (b < 0x20 || b = 0x7F) && b ≠ 0x0A && b ≠ 0x0D && b ≠ 0x09 then 0x3F else b

/-- The sanitized text with all controls but tabs and line ends replaced by question marks. -/
def readable (value : Text) : Text := (sanitizeUtf8 value).map readableByte

/-- The writer's escape is the reader's, of the readable byte. -/
theorem grepEscapeByte_eq (b : UInt8) :
    grepEscapeByte b = escapeByte (readableByte b) :=
  @Utf8.forall_byte (fun b ↦ grepEscapeByte b = escapeByte (readableByte b))
    (by decide +kernel) b

/-- **What is written is the escaped form of readable text.** -/
theorem grepEscape_eq (value : Text) : grepEscape value = escape (readable value) := by
  rw [grepEscape, escape, readable, List.flatMap_map, funext grepEscapeByte_eq]

/-- Nothing that is written for a byte is a control. -/
theorem printable_of_mem_grepEscapeByte {b c : UInt8} (h : c ∈ grepEscapeByte b) :
    0x20 ≤ c ∧ c ≠ 0x7F := by
  have hall : ∀ b, (grepEscapeByte b).all (fun d ↦ 0x20 ≤ d && d ≠ 0x7F) = true :=
    Utf8.forall_byte (by decide +kernel)
  simpa using List.all_eq_true.mp (hall b) c h

/-! ### What stands without quotation marks -/

/-- A character that ends neither text without quotation marks nor begins text within. -/
def IsPlain (c : Char) : Prop := '!' ≤ c ∧ c ≤ '~' ∧ c ≠ '"'

instance (c : Char) : Decidable (IsPlain c) := inferInstanceAs (Decidable (_ ∧ _))

/-- Plain characters need no quotation marks. -/
theorem isBare_encode {cs : List Char} (h : ∀ c ∈ cs, IsPlain c) :
    isBare (Utf8.encode cs) = true := by
  have hascii : ∀ c ∈ cs, c.toNat ≤ 0x7F := fun c hc ↦
    le_trans (Char.le_def.mp (h c hc).2.1) (by decide)
  have hall : ∀ n ≤ 0x7E, 0x21 ≤ n → n ≠ 0x22 →
      (0x20 < UInt8.ofNat n && UInt8.ofNat n ≠ 0x22) = true := by decide
  rw [Utf8.encode_ascii hascii, isBare, List.all_map, List.all_eq_true]
  intro c hc
  obtain ⟨hlow, hhigh, hquote⟩ := h c hc
  exact hall c.toNat hhigh hlow fun heq ↦ hquote (Char.ext (UInt32.toNat_inj.mp heq))

theorem isPlain_of_isDigit {c : Char} (h : IsDigit c) : IsPlain c := by
  refine ⟨le_trans (by decide) h.1, le_trans h.2 (by decide), ?_⟩
  rintro rfl
  exact absurd h.1 (by decide)

@[simp] theorem isBare_decimal (n : ℕ) : isBare (decimal n) = true :=
  isBare_encode fun c hc ↦ isPlain_of_isDigit (isDigit_of_mem_toDigits c hc)

/-- A number needs none. -/
@[simp] theorem isBare_number (value : Double) : isBare (number value) = true := by
  rcases value with ⟨negative, m⟩ | negative | negative
  · exact isBare_encode (forall_mem_number (isNumber_numberText rfl) isPlain_of_isDigit (by decide))
  · rcases negative <;> decide
  · rcases negative <;> decide

/-- The names of enumerators stand without quotation marks. -/
@[simp] theorem isBare_names :
    (∀ name, isBare (protocolName name) = true) ∧
    (∀ name, isBare (scanProbeTypeName name) = true) ∧
    (∀ name, isBare (portStateName name) = true) ∧
    (∀ name, isBare (scanReasonName name) = true) ∧
    (∀ name, isBare (detectionStateName name) = true) ∧
    (∀ name, isBare (detectionErrorName name) = true) ∧
    (∀ name, isBare (detectionMethodName name) = true) ∧
    (∀ name, isBare (matchCategoryName name) = true) ∧
    (∀ name, isBare (osDetectionStateName name) = true) ∧
    (∀ name, isBare (osDetectionErrorName name) = true) ∧
    (∀ name, isBare (addressFamilyName name) = true) ∧
    (∀ name, isBare (hostStateName name) = true) := by
  refine ⟨?_, ?_, ?_, ?_, ?_, ?_, ?_, ?_, ?_, ?_, ?_, ?_⟩
  all_goals
    intro name
    cases name <;> decide

/-! ### What a reader is shown -/

def GrepValue.shown : GrepValue → Records.Value
  | .quoted value => .quoted (readable value)
  | .bare text => .bare text

def GrepField.shown (field : GrepField) : Option Records.Field :=
  field.2.map fun value ↦ { name := literal field.1, value := value.shown }

/-- The record that a reader is shown: text from outside is readable. -/
def GrepRecord.shown (record : GrepRecord) : Records.Record where
  kind := literal record.kind
  fields := record.fields.filterMap GrepField.shown

/-- A value is written as the reader's value for it. -/
theorem GrepValue.render_shown (value : GrepValue) : value.shown.render = value.text := by
  rcases value with value | text
  · rw [shown, Value.render, text, grepEscape_eq]
  · rfl

/-- And so is a field. -/
theorem GrepField.render_shown (field : GrepField) :
    (GrepField.shown field).toList.flatMap Field.render = GrepField.text field := by
  rcases field with ⟨name, none | value⟩
  · rfl
  · rw [shown, Option.map_some, Option.toList_some, List.flatMap_singleton, Field.render,
      GrepValue.render_shown, text, List.append_assoc]
    rfl

/-- **A record is rendered as it is shown.** -/
theorem GrepRecord.render_shown (record : GrepRecord) : record.shown.render = record.text := by
  have hfields : (record.fields.filterMap GrepField.shown).flatMap Field.render =
      record.fields.flatMap GrepField.text := by
    rw [List.filterMap_eq_flatMap_toList, List.flatMap_assoc, funext GrepField.render_shown]
  rw [Record.render, Record.line, shown, hfields, text]
  simp only [List.append_assoc]
  rfl

/-! ### The form of the records -/

/-- A value whose text has no blank where it stands without quotation marks. -/
def GrepValue.Fits : GrepValue → Prop
  | .quoted _ => True
  | .bare text => Records.isBare text = true

/-- A field that has a name, and a value that fits if it is written. -/
def GrepField.Fits (field : GrepField) : Prop :=
  Records.isName (literal field.1) = true ∧ ∀ value ∈ field.2, value.Fits

def GrepRecord.Fits (record : GrepRecord) : Prop :=
  Records.isName (literal record.kind) = true ∧ ∀ field ∈ record.fields, field.Fits

namespace GrepRecord

/-- A field fits if its name does, and its value too where that is given as text. -/
@[simp] theorem fits_field (name : String) :
    (∀ value, (string name value).Fits ↔ isName (literal name) = true) ∧
    (∀ value, (integer name value).Fits ↔ isName (literal name) = true) ∧
    (∀ value, (number name value).Fits ↔ isName (literal name) = true) ∧
    (∀ text, (word name text).Fits ↔
      isName (literal name) = true ∧ isBare text = true) ∧
    (∀ value, (optionalString name value).Fits ↔ isName (literal name) = true) ∧
    (∀ value, (optionalInteger name value).Fits ↔ isName (literal name) = true) ∧
    ∀ value, (optionalNumber name value).Fits ↔ isName (literal name) = true := by
  simp [GrepField.Fits, GrepValue.Fits, string, integer, number, word, optionalString,
    optionalInteger, optionalNumber]

@[simp] theorem fits_optionalBoolean (name : String) (value : Option Bool) :
    (optionalBoolean name value).Fits ↔ isName (literal name) = true := by
  have hbare : ∀ b, isBare (booleanText b) = true := by decide
  simp only [GrepField.Fits, optionalBoolean, Option.mem_def, Option.map_eq_some_iff,
    and_iff_left_iff_imp]
  rintro - _ ⟨b, -, rfl⟩
  exact hbare b

/-- A field that fits still does when it is left out. -/
@[simp] theorem fits_given {field : GrepField} (h : field.Fits) (present : Bool) :
    (given present field).Fits := by
  refine ⟨h.1, fun value hvalue ↦ ?_⟩
  rw [given] at hvalue
  split_ifs at hvalue with hpresent
  · exact h.2 value hvalue
  · exact nomatch hvalue

@[simp] theorem fits_nonempty {name : String} (h : isName (literal name) = true)
    (value : Text) : (nonempty name value).Fits :=
  fits_given (((fits_field name).1 value).mpr h) _

theorem fits_scan (report : ScanReport) : (scan report).Fits := by
  simp +decide [Fits, scan]

theorem fits_metrics (result : ScanMetrics) : (metrics result).Fits := by
  simp +decide [Fits, metrics]

theorem fits_host (result : HostResult) (context : OutputContext) :
    (host result context).Fits := by
  simp +decide [Fits, host]

/-- The fields of a port record fit. -/
theorem fits_port (result : PortResult) : (port result).Fits := by
  simp +decide [Fits, port]

theorem fits_evidence (e : Option ProtocolEvidence) : ∀ field ∈ evidence e, field.Fits := by
  simp +decide [evidence]

theorem fits_mqtt (result : Option MqttConnackEvidence) : ∀ field ∈ mqtt result, field.Fits := by
  simp +decide [mqtt]

theorem fits_service (result : ServiceResult) : (service result).Fits := by
  have hkind : isName (literal "Service") = true := by decide
  rw [Fits, service, List.forall_mem_append, List.forall_mem_append, List.forall_mem_append]
  refine ⟨hkind, ⟨⟨?_, fits_evidence _⟩, fits_mqtt _⟩, ?_⟩
  · simp +decide
  · simp +decide

theorem fits_osStatus (address : Text) (detection : OSDetectionResult) :
    (osStatus address detection).Fits := by
  simp +decide [Fits, osStatus]

theorem fits_os (address : Text) (result : OSMatchResult) : (os address result).Fits := by
  simp +decide [Fits, os]

theorem fits_hostMessage {kind : String} (h : isName (literal kind) = true)
    (address message : Text) : (hostMessage kind address message).Fits := by
  simp +decide [Fits, hostMessage, h]

theorem fits_scanMessage {kind : String} (h : isName (literal kind) = true)
    (message : Text) : (scanMessage kind message).Fits := by
  simp +decide [Fits, scanMessage, h]

theorem fits_summary (result : ScanSummary) : (summary result).Fits := by
  simp +decide [Fits, summary]

variable (std : StdSort)

/-- Whatever is written for a port fits. -/
theorem fits_portRecords (result : HostResult) (found : PortResult) :
    ∀ record ∈ portRecords std result found, record.Fits := by
  refine List.forall_mem_cons.mpr ⟨fits_port found, fun record h ↦ ?_⟩
  obtain ⟨result, -, rfl⟩ := List.mem_map.mp h
  exact fits_service result

/-- **Whatever is written for a host fits.** -/
theorem fits_hostRecords (result : HostResult) (context : OutputContext) :
    ∀ record ∈ hostRecords std result context, record.Fits := by
  rw [hostRecords]
  simp only [List.forall_mem_append, List.cons_append, List.forall_mem_cons, List.forall_mem_map,
    List.forall_mem_flatMap]
  refine ⟨fits_host result context, ⟨⟨⟨?_, ?_⟩, ?_⟩, ?_⟩, ?_⟩
  · exact fun found _ ↦ fits_portRecords std result found
  · rcases result.osDetection with _ | detection
    · exact fun record h ↦ absurd h List.not_mem_nil
    · exact List.forall_mem_singleton.mpr (fits_osStatus _ detection)
  · exact fun found _ ↦ fits_os _ found
  · exact fun message _ ↦ fits_hostMessage (by decide) _ message
  · exact fun message _ ↦ fits_hostMessage (by decide) _ message

end GrepRecord

/-- **All records of a report fit.** -/
theorem fits_grepRecords (std : StdSort) (report : ScanReport) (context : OutputContext) :
    ∀ record ∈ grepRecords std report context, record.Fits := by
  rw [grepRecords]
  simp only [List.forall_mem_append, List.cons_append, List.forall_mem_cons, List.forall_mem_map,
    List.forall_mem_flatMap]
  refine ⟨GrepRecord.fits_scan report, ⟨⟨?_, ?_⟩, GrepRecord.fits_summary _, ?_⟩, ?_⟩
  · rcases report.timingMetrics with _ | result
    · exact fun record h ↦ absurd h List.not_mem_nil
    · exact List.forall_mem_singleton.mpr (GrepRecord.fits_metrics result)
  · exact fun result _ ↦ GrepRecord.fits_hostRecords std result context
  · exact fun message _ ↦ GrepRecord.fits_scanMessage (by decide) message
  · exact fun message _ ↦ GrepRecord.fits_scanMessage (by decide) message

/-- A record that fits is shown as one that can be read. -/
theorem GrepRecord.Fits.plain_shown {record : GrepRecord} (h : record.Fits) :
    record.shown.Plain := by
  refine ⟨h.1, fun shown hshown ↦ ?_⟩
  obtain ⟨⟨name, value⟩, hmem, hshown⟩ := List.mem_filterMap.mp hshown
  obtain ⟨value, rfl, rfl⟩ := Option.map_eq_some_iff.mp hshown
  obtain ⟨hname, hvalue⟩ := h.2 _ hmem
  refine ⟨hname, ?_⟩
  rcases value with value | text
  · exact trivial
  · exact hvalue _ rfl

/-! ### What is read -/

/-- **Records cannot be forged.** What is written for a text has no control and no quotation mark
that is not escaped, and stands for the readable text. A report is refused, or each of its records
is one line, and a reader gets back the records that were written with the readable texts in them.
-/
theorem grep_records_exact :
    (∀ value : Text, (∀ b ∈ grepEscape value, 0x20 ≤ b ∧ b ≠ 0x7F) ∧
      Records.unescapedQuote (grepEscape value) = false ∧
      Records.unescape (grepEscape value) = some (readable value)) ∧
    ∀ (std : StdSort) (report : ScanReport) (context : OutputContext),
      (validateReport report ≠ .ok ∧
        GrepableOutputWriter.write std report context = .error .invalidReport) ∨
      ∃ output, GrepableOutputWriter.write std report context = .ok output ∧
        output = (grepRecords std report context).flatMap GrepRecord.text ∧
        (∀ record ∈ grepRecords std report context,
          ∃ line, record.text = line ++ [0x0A] ∧ 0x0A ∉ line) ∧
        Records.read output = some ((grepRecords std report context).map GrepRecord.shown) := by
  refine ⟨fun value ↦ ⟨fun b hb ↦ ?_, ?_, ?_⟩, fun std report context ↦ ?_⟩
  · obtain ⟨character, -, hb⟩ := List.mem_flatMap.mp hb
    exact printable_of_mem_grepEscapeByte hb
  · rw [grepEscape_eq, Records.unescapedQuote_escape]
  · rw [grepEscape_eq, Records.unescape_escape]
  · have hplain : ∀ record ∈ grepRecords std report context, record.shown.Plain :=
      fun record hrecord ↦ (fits_grepRecords std report context record hrecord).plain_shown
    rw [GrepableOutputWriter.write]
    split_ifs with hvalid
    · exact .inl ⟨hvalid, rfl⟩
    · refine .inr ⟨_, rfl, rfl, fun record hrecord ↦ ?_, ?_⟩
      · exact ⟨record.shown.line, record.render_shown.symm,
          Records.newline_notMem_line (hplain record hrecord)⟩
      · rw [← funext GrepRecord.render_shown, ← List.flatMap_map]
        exact Records.read_render (List.forall_mem_map.mpr hplain)

/-- A banner that tries to end its field and to start a record is one value. -/
example : Records.read (GrepRecord.scanMessage "Warning" (literal "a\"\nHost: ")).text =
    some [⟨literal "Warning", [⟨literal "scope", .bare (literal "scan")⟩,
      ⟨literal "message", .quoted (literal "a\"\nHost: ")⟩]⟩] := by
  decide +kernel

end Skan.Output
