import Skan.Packet.Internet
import Skan.Packet.TCP

/-!
# OS fingerprinting: the shared data, and what is observed

The types of `include/osdetect/os_types.hpp` and `os_probe_types.hpp`, and the functions of
`src/osdetect/os_fingerprint.cpp` that turn an answer into an observation and collect observations
in a fingerprint.

`observeTcpResponse` is how an IPv4 answer is read. An `ObservedValue` keeps apart a value that was
seen from one that was not looked at, and so does the matcher.
-/

namespace Skan.OsDetect

open Skan.Core Skan.Packet

inductive OSProbeType where
  | tcpSynStandard
  | tcpSynVariant
  | tcpSynTimestamp
  | tcpEcn
  | tcpAck
  | tcpFin
  | tcpNull
  | tcpXmas
  | tcpClosedStandard
  | tcpClosedVariant
  | icmpEcho
  | udpFingerprint
  deriving DecidableEq

/-- The types of probe that are TCP segments. -/
def OSProbeType.isTcp : OSProbeType → Bool
  | .icmpEcho | .udpFingerprint => false
  | _ => true

inductive OSProbeStatus where
  | generated
  | sent
  | responseReceived
  | timeout
  | unsupported
  | malformed
  deriving DecidableEq

inductive OSProbeResponseKind where
  | data
  | closed
  | icmpError
  | error
  deriving DecidableEq

inductive ObservationState where
  | absent
  | observed
  | invalid
  | timedOut
  | unsupported
  | malformed
  deriving DecidableEq

structure ObservedValue (α : Type*) where
  state : ObservationState
  value : α
  deriving DecidableEq

namespace ObservedValue

variable {α : Type*}

def observed (value : α) : ObservedValue α := ⟨.observed, value⟩

def absent [Inhabited α] : ObservedValue α := ⟨.absent, default⟩

/-- What was seen is not what was not looked at. -/
theorem observed_ne_absent [Inhabited α] (value : α) : observed value ≠ absent :=
  fun h ↦ ObservationState.noConfusion (congrArg state h)

end ObservedValue

inductive TimestampBehavior where
  | unknown
  | absent
  | present
  | echoesPeer
  | monotonic
  deriving DecidableEq

inductive AckBehavior where
  | unknown
  | noAck
  | acknowledgesSyn
  | acknowledgesPayload
  | rstWithoutAck
  deriving DecidableEq

inductive SequenceBehavior where
  | unknown
  | zero
  | incremental
  | randomized
  | timeBased
  deriving DecidableEq

inductive OSProtocol where
  | unknown
  | tcp
  | udp
  | icmpv4
  | icmpv6
  deriving DecidableEq

inductive ResponseBehavior where
  | unknown
  | synAck
  | rst
  | echoReply
  | udpResponse
  | portUnreachable
  | noResponse
  | malformed
  deriving DecidableEq

structure TCPObservation where
  sourceAddress : Text := []
  destinationAddress : Text := []
  sourcePort : UInt16 := 0
  destinationPort : UInt16 := 0
  ttl : ObservedValue UInt8 := .absent
  dontFragment : ObservedValue Bool := .absent
  window : ObservedValue UInt16 := .absent
  mss : ObservedValue UInt16 := .absent
  windowScale : ObservedValue UInt8 := .absent
  sackPermitted : ObservedValue Bool := .absent
  timestamps : ObservedValue Bool := .absent
  timestampBehavior : TimestampBehavior := .unknown
  options : List TcpOptionKind := []
  flags : UInt16 := 0
  ackBehavior : AckBehavior := .unknown
  sequenceBehavior : SequenceBehavior := .unknown
  sequenceNumber : ObservedValue UInt32 := .absent
  acknowledgmentNumber : ObservedValue UInt32 := .absent
  payloadLength : ℕ := 0
  responseBehavior : ResponseBehavior := .unknown
  probeStatus : OSProbeStatus := .responseReceived
  family : AddressFamily := .unknown
  protocol : OSProtocol := .tcp
  deriving DecidableEq

structure UDPObservation where
  sourcePort : UInt16 := 0
  destinationPort : UInt16 := 0
  payloadLength : ObservedValue ℕ := .absent
  ttl : ObservedValue UInt8 := .absent
  ipIdentification : ObservedValue UInt16 := .absent
  dontFragment : ObservedValue Bool := .absent
  responseBehavior : ResponseBehavior := .unknown
  probeStatus : OSProbeStatus := .responseReceived
  family : AddressFamily := .unknown
  protocol : OSProtocol := .udp
  deriving DecidableEq

structure ICMPObservation where
  ttl : ObservedValue UInt8 := .absent
  type : ObservedValue UInt8 := .absent
  code : ObservedValue UInt8 := .absent
  responseBehavior : ResponseBehavior := .unknown
  probeStatus : OSProbeStatus := .responseReceived
  family : AddressFamily := .unknown
  protocol : OSProtocol := .icmpv4
  deriving DecidableEq

/-- `ObservedOSFingerprint`. -/
structure ObservedOSFingerprint where
  tcpObservations : List TCPObservation := []
  icmpObservations : List ICMPObservation := []
  udpObservations : List UDPObservation := []
  probesGenerated : ℕ := 0
  probesSent : ℕ := 0
  responsesReceived : ℕ := 0
  probesTimedOut : ℕ := 0
  probesUnsupported : ℕ := 0
  probesMalformed : ℕ := 0
  family : AddressFamily := .ipv4
  deriving DecidableEq

/-! ### Reading an answer -/

/-- `has_option`. -/
def hasOption (tcp : TCP) (kind : TcpOptionKind) : Bool := tcp.options.any (·.kind = kind)

/-- `option_value`. -/
def optionValue (tcp : TCP) (kind : TcpOptionKind) : Option UInt16 :=
  (tcp.options.find? (·.kind = kind)).map (·.value)

/-- What the flags say is acknowledged; the ACK flag comes first. -/
def ackBehaviorOf (flags : UInt16) : AckBehavior :=
  if TCP.hasFlag flags .ack then .acknowledgesSyn
  else if TCP.hasFlag flags .rst then .rstWithoutAck
  else .noAck

/-- `observe_tcp_response`. -/
def observeTcpResponse (sourceAddress destinationAddress : Text) (ip : IPv4) (tcp : TCP)
    (responseBehavior : ResponseBehavior) (probeStatus : OSProbeStatus := .responseReceived) :
    TCPObservation where
  sourceAddress
  destinationAddress
  sourcePort := tcp.sourcePort
  destinationPort := tcp.destinationPort
  ttl := .observed ip.ttl
  dontFragment := .observed (ip.flagsFragmentOffset &&& 0x4000 ≠ 0)
  window := .observed tcp.window
  mss := (optionValue tcp .mss).elim .absent .observed
  windowScale := (optionValue tcp .windowScale).elim .absent fun value ↦ .observed value.toUInt8
  sackPermitted := .observed (hasOption tcp .sackPermitted)
  timestamps := .observed (hasOption tcp .timestamp)
  timestampBehavior := if hasOption tcp .timestamp then .present else .absent
  options := tcp.options.map (·.kind)
  flags := tcp.flags
  ackBehavior := ackBehaviorOf tcp.flags
  sequenceNumber := .observed tcp.sequenceNumber
  acknowledgmentNumber := .observed tcp.acknowledgmentNumber
  payloadLength := tcp.payload.length
  responseBehavior
  probeStatus
  family := .ipv4

/-! ### Collecting observations -/

namespace ObservedOSFingerprint

/-- `merge_family`: two different families make an unknown one. -/
def mergeFamily (family : AddressFamily) (f : ObservedOSFingerprint) : ObservedOSFingerprint :=
  if family = .unknown then f
  else if f.family = .unknown then { f with family }
  else if f.family ≠ family then { f with family := .unknown }
  else f

/-- The counter of a status is incremented. -/
def countStatus (status : OSProbeStatus) (f : ObservedOSFingerprint) : ObservedOSFingerprint :=
  match status with
  | .generated => { f with probesGenerated := f.probesGenerated + 1 }
  | .sent => { f with probesSent := f.probesSent + 1 }
  | .responseReceived => { f with responsesReceived := f.responsesReceived + 1 }
  | .timeout => { f with probesTimedOut := f.probesTimedOut + 1 }
  | .unsupported => { f with probesUnsupported := f.probesUnsupported + 1 }
  | .malformed => { f with probesMalformed := f.probesMalformed + 1 }

/-- `append_observation` of a TCP observation. -/
def appendTcp (observation : TCPObservation) (f : ObservedOSFingerprint) : ObservedOSFingerprint :=
  let f := (f.mergeFamily observation.family).countStatus observation.probeStatus
  { f with tcpObservations := f.tcpObservations ++ [{ observation with protocol := .tcp }] }

/-- `append_observation` of a UDP observation. -/
def appendUdp (observation : UDPObservation) (f : ObservedOSFingerprint) : ObservedOSFingerprint :=
  let f := (f.mergeFamily observation.family).countStatus observation.probeStatus
  { f with udpObservations := f.udpObservations ++ [{ observation with protocol := .udp }] }

/-- `append_observation` of an ICMP observation. -/
def appendIcmp (observation : ICMPObservation) (f : ObservedOSFingerprint) :
    ObservedOSFingerprint :=
  let protocol := if observation.family = .ipv6 then OSProtocol.icmpv6 else .icmpv4
  let f := (f.mergeFamily observation.family).countStatus observation.probeStatus
  { f with icmpObservations := f.icmpObservations ++ [{ observation with protocol }] }

end ObservedOSFingerprint

/-! ### Detection results -/

inductive OSDetectionState where
  | notRun
  | running
  | complete
  | partially
  | unavailable
  | failed
  deriving DecidableEq

inductive OSDetectionError where
  | none
  | invalidTarget
  | noUsablePort
  | capabilityUnavailable
  | timeout
  | malformedResponse
  | unsupportedProbe
  | transportFailure
  | internalError
  deriving DecidableEq

/-- `db::MatchCategory`. -/
inductive MatchCategory where
  | noMatch
  | lowConfidence
  | possibleMatch
  | strongMatch
  deriving DecidableEq

structure OSMatchResult where
  fingerprintName : Text := []
  vendor : Text := []
  family : Text := []
  generation : Text := []
  deviceType : Text := []
  confidence : ℚ := 0
  category : MatchCategory := .noMatch
  matchedFields : List Text := []
  mismatchedFields : List Text := []
  unavailableFields : List Text := []
  addressFamily : AddressFamily := .unknown
  fingerprintId : Text := []
  specificity : UInt16 := 0
  deriving DecidableEq

structure OSDetectionResult where
  target : Text := []
  state : OSDetectionState := .notRun
  vendor : Text := []
  family : Text := []
  generation : Text := []
  deviceType : Text := []
  confidence : ℚ := 0
  category : Option MatchCategory := none
  matchResults : List OSMatchResult := []
  observed : ObservedOSFingerprint := {}
  probesGenerated : ℕ := 0
  probesSent : ℕ := 0
  responsesReceived : ℕ := 0
  probesTimedOut : ℕ := 0
  probesUnsupported : ℕ := 0
  probesMalformed : ℕ := 0
  rttMs : Option ℚ := none
  error : OSDetectionError := .none
  timestamp : TimePoint := 0
  addressFamily : AddressFamily := .unknown
  fingerprintId : Text := []
  deriving DecidableEq

end Skan.OsDetect
