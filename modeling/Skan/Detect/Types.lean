import Skan.PortScan.Types

/-!
# Service detection: the shared data

The types of `include/detect/service_types.hpp`, `service_db.hpp`, `service_matcher.hpp` and
`tls_metadata.hpp`: what a probe is, what a rule of it says about a response, and what is published
about a port.

A `double` that is only compared and copied, as a confidence is, is a rational number. A compiled
regular expression is given by the pattern it was compiled from.
-/

namespace Skan.Detect

open Skan.Core Skan.PortScan Skan.ScanEngine

inductive DetectionState where
  | detected
  | unknown
  | timeout
  | connectionClosed
  | responseTooLarge
  | invalidTarget
  | error
  deriving DecidableEq

inductive DetectionError where
  | none
  | timeout
  | connectionClosed
  | responseTooLarge
  | invalidTarget
  | transportFailure
  | malformedResponse
  | noMatch
  | unsupportedProtocol
  | internalError
  deriving DecidableEq

inductive DetectionMethod where
  | banner
  | probe
  | unknown
  deriving DecidableEq

structure MqttConnackEvidence where
  returnCode : UInt8
  deriving DecidableEq

/-- How strong the evidence is that was observed, which is not a probability. -/
structure ProtocolEvidence where
  validator : Text
  kind : Text
  versionSource : Text
  protocolVersion : Text
  statusCode : Option UInt16 := none
  bodyComplete : Bool := false
  deriving DecidableEq

structure TlsMetadata where
  detected : Bool := false
  protocolVersion : Text := []
  certificateSubject : Text := []
  certificateIssuer : Text := []
  certificateSanNames : List Text := []
  certificateNotBefore : Text := []
  certificateNotAfter : Text := []
  alpn : List Text := []
  deriving DecidableEq

/-! ### The probe database -/

inductive ServiceMatchType where
  | exact
  | prefixed
  | suffix
  | substring
  | regex
  deriving DecidableEq

inductive ServiceMatchStrength where
  | soft
  | hard
  deriving DecidableEq

structure ServiceMatchRule where
  type : ServiceMatchType := .prefixed
  pattern : Text := []
  service : Text := []
  product : Text := []
  version : Text := []
  extra : Text := []
  hostname : Text := []
  tunnel : Text := []
  strength : ServiceMatchStrength := .hard
  confidence : ℚ := 0
  specificity : ℕ := 0
  compiledRegex : Option Text := none
  deriving DecidableEq

structure ServiceProbeDefinition where
  id : Text := []
  name : Text := []
  protocol : Protocol := .tcp
  rarity : ℕ := 1
  priority : ℕ := 50
  timeout : Option ℤ := none
  portHints : List Port := []
  fallbackProbeNames : List Text := []
  payload : Text := []
  rules : List ServiceMatchRule := []
  deriving DecidableEq

structure ServiceProbeDatabase where
  status : StatusCode := .ok
  probes : List ServiceProbeDefinition := []

/-! ### Matches and results -/

structure ServiceMatchResult where
  matched : Bool := false
  service : Text := []
  product : Text := []
  version : Text := []
  extra : Text := []
  hostname : Text := []
  tunnel : Text := []
  strength : ServiceMatchStrength := .hard
  tls : TlsMetadata := {}
  confidence : ℚ := 0
  priority : ℕ := 0
  specificity : ℕ := 0
  ruleIndex : ℕ := 0
  mqtt : Option MqttConnackEvidence := none
  evidence : Option ProtocolEvidence := none
  deriving DecidableEq

/-- `ServiceResult`. The fields that `append_result` copies from the `tls` of a match stand there
together. -/
structure ServiceResult where
  target : Text
  port : Port
  protocol : Protocol := .tcp
  portState : PortState := .unknown
  state : DetectionState := .unknown
  service : Text := []
  product : Text := []
  version : Text := []
  extra : Text := []
  confidence : ℚ := 0
  method : DetectionMethod := .unknown
  probeName : Text := []
  rttMs : Option ℚ := none
  error : DetectionError := .none
  timestamp : TimePoint := 0
  hostname : Text := []
  tunnel : Text := []
  tls : TlsMetadata := {}
  mqtt : Option MqttConnackEvidence := none
  evidence : Option ProtocolEvidence := none
  deriving DecidableEq

/-- `ServiceDetectionConfig`; durations are in milliseconds. -/
structure ServiceDetectionConfig where
  maxOutstanding : ℕ := 16
  timeout : ℤ := 1000
  maxResponseBytes : ℕ := 8192
  maxProbesPerPort : ℕ := 3
  adaptiveTiming : Bool := false
  timingProfile : TimingProfile := {}
  retries : ℕ := 0
  retryDelay : ℤ := 250

/-! ### Comparing matches -/

/-- `kMinimumPublishedSoftMatchConfidence`. -/
def minimumPublishedSoftMatchConfidence : ℚ := 3 / 5

/-- `service_match_is_publishable`. -/
def ServiceMatchResult.isPublishable (result : ServiceMatchResult) : Bool :=
  result.matched &&
    (result.strength = .hard || minimumPublishedSoftMatchConfidence ≤ result.confidence)

/-- `service_match_is_better`. -/
def ServiceMatchResult.isBetter (candidate incumbent : ServiceMatchResult) : Bool :=
  if !candidate.matched then false
  else if !incumbent.matched then true
  else if candidate.strength ≠ incumbent.strength then candidate.strength = .hard
  else if candidate.isPublishable ≠ incumbent.isPublishable then candidate.isPublishable
  else if candidate.priority ≠ incumbent.priority then incumbent.priority < candidate.priority
  else if candidate.confidence ≠ incumbent.confidence then
    incumbent.confidence < candidate.confidence
  else if candidate.specificity ≠ incumbent.specificity then
    incumbent.specificity < candidate.specificity
  else
    match candidate.evidence, incumbent.evidence with
    | some new, some old => new.bodyComplete && !old.bodyComplete
    | _, _ => false

end Skan.Detect
