import Skan.ScanEngine.Timing

/-!
# Port scanning: the shared data

Ports, states and reasons, and the records that travel between the port schedulers, their probes and
their transports: `PortSubmission` out, `PortResponse` back, `PortResult` published. `PortProbe` is
the abstract class of the same name: a scan method's way to build a submission and to assess a
response to it.
-/

namespace Skan.PortScan

open Skan.Core Skan.ScanEngine

inductive Protocol where
  | tcp
  | udp
  deriving DecidableEq

inductive ScanProbeType where
  | tcpConnect
  | tcpSyn
  | udp
  | tcpAck
  deriving DecidableEq

inductive PortState where
  | open
  | closed
  | filtered
  | unknown
  | openOrFiltered
  | unfiltered
  | error
  | unreachable
  deriving DecidableEq

inductive ScanReason where
  | immediateSuccess
  | connectionRefused
  | networkUnreachable
  | localAddressUnavailable
  | synAck
  | rst
  | timeout
  | socketError
  | malformedResponse
  | unrelatedResponse
  | invalidTarget
  | invalidPort
  | unsupportedMethod
  | capabilityUnavailable
  | internalError
  | udpResponse
  | icmpPortUnreachable
  | icmpAdministrativelyProhibited
  | icmpNetworkUnreachable
  | udpTimeout
  | duplicateResponse
  | lateResponse
  | unsupportedProtocol
  | ackRst
  | ackTimeout
  | conflictingEvidence
  | icmpProtocolUnreachable
  deriving DecidableEq

/-- `portscan::Port`. -/
structure Port where
  number : UInt16
  protocol : Protocol := .tcp
  deriving DecidableEq

abbrev TimerId := UInt64

abbrev PortProbeId := UInt64

/-- `PortScanConfig`; durations in milliseconds. -/
structure PortScanConfig where
  method : ScanProbeType := .tcpConnect
  timeout : ℤ := 1000
  maxOutstanding : ℕ := 128
  adaptiveTiming : Bool := false
  timingProfile : TimingProfile := {}
  retries : ℕ := 0
  retryDelay : ℤ := 250

inductive PortResponseKind where
  | connected
  | connectionRefused
  | socketError
  | packet
  | unreachable
  deriving DecidableEq

/-- `PortSubmission`: one probe attempt, as handed to a transport. -/
structure PortSubmission where
  id : PortProbeId := 0
  probe : ScanProbeType := .tcpConnect
  target : Text := []
  port : Port := { number := 0 }
  packet : List UInt8 := []
  sourcePort : UInt16 := 0
  sequenceNumber : UInt32 := 0
  acknowledgmentNumber : UInt32 := 0
  targetIp : IpAddress := {}
  sourceIp : IpAddress := {}
  deriving DecidableEq

/-- `PortResponse`: what a transport reports for an attempt. -/
structure PortResponse where
  id : PortProbeId := 0
  sourceAddress : Text := []
  kind : PortResponseKind := .packet
  systemError : ℤ := 0
  bytes : List UInt8 := []
  receivedAt : TimePoint := 0
  sourceIp : IpAddress := {}
  reason : ScanReason := .internalError
  deriving DecidableEq

/-- `PortResult`: the published verdict on one (host, port) pair. -/
structure PortResult where
  target : Text
  port : Port
  state : PortState
  probe : ScanProbeType
  reason : ScanReason
  rttMs : Option ℚ
  timestamp : TimePoint
  retryCount : ℕ
  probeName : Text := []
  deriving DecidableEq

/-- `PortProbe`: a scan method. `build` and `assess` return their status when it is not `Ok`. -/
structure PortProbe where
  type : ScanProbeType
  build : PortProbeId → Host → Port → PortScanConfig → Except StatusCode PortSubmission
  timeoutState : PortState
  timeoutReason : ScanReason
  assess : PortResponse → PortSubmission → Except StatusCode (PortState × ScanReason)

end Skan.PortScan
