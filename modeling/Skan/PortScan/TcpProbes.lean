import Skan.Packet.TCP
import Skan.PortScan.TcpConnect

/-!
# The TCP SYN and ACK probes

`TcpSynProbe` and `TcpAckProbe` of `src/portscan/tcp_syn.cpp` and `tcp_ack.cpp`. The two build the
same segment but for its numbers and flag, and assess a response the same way but for what they make
of a segment from the right ports; both parts are written once (`buildTcp`, `assessTcp`).
-/

namespace Skan.PortScan

open Skan.Core Skan.Packet

/-- The source port of an attempt. -/
def sourcePortFor (id : PortProbeId) : UInt16 := (40000 + id % 20000).toUInt16

/-- The segment of a probe, as its `build` sets it up. -/
def probeSegment (id : PortProbeId) (port : Port) (sequence acknowledgment : UInt32)
    (flag : TCP.Flag) : TCP where
  sourcePort := sourcePortFor id
  destinationPort := port.number
  sequenceNumber := sequence
  acknowledgmentNumber := acknowledgment
  flags := flag.bit
  window := 65535

/-- `build`, for a probe with the given numbers. The checksum over the unspecified source address is
filled in for IPv6 targets only; the transport computes it again. -/
def buildTcp (inet : Inet) (type : ScanProbeType) (sequence acknowledgment : UInt32)
    (flag : TCP.Flag) (id : PortProbeId) (target : Host) (port : Port) :
    Except StatusCode PortSubmission :=
  if id = 0 ∨ port.protocol ≠ .tcp ∨ port.number = 0 ∨ target.address = [] then
    .error .invalidArgument
  else
    match effectiveAddress inet target.ipAddress target.address with
    | none => .error .invalidArgument
    | some targetIp =>
      let tcp := probeSegment id port sequence acknowledgment flag
      let bytes :=
        if targetIp.isIpv6 then tcp.serializeWithChecksum6 (Vector.replicate 16 0) targetIp.bytes
        else tcp.serialize
      match bytes with
      | none => .error .invalidArgument
      | some packet =>
        .ok
          { id, probe := type, target := target.address, port, sourcePort := sourcePortFor id
            sequenceNumber := sequence, acknowledgmentNumber := acknowledgment, targetIp, packet }

/-- The verdict on an ICMP error about the probe. -/
def assessUnreachable : ScanReason → Except StatusCode (PortState × ScanReason)
  | .icmpNetworkUnreachable => .ok (.unreachable, .icmpNetworkUnreachable)
  | .icmpAdministrativelyProhibited => .ok (.filtered, .icmpAdministrativelyProhibited)
  | .icmpPortUnreachable => .ok (.filtered, .icmpPortUnreachable)
  | .icmpProtocolUnreachable => .ok (.filtered, .icmpProtocolUnreachable)
  | _ => .error .notFound

/-- Whether the response comes from the submission's target. -/
def fromTarget (response : PortResponse) (submission : PortSubmission) : Bool :=
  if response.sourceIp.valid then
    submission.targetIp.valid && response.sourceIp = submission.targetIp
  else response.sourceAddress = submission.target

/-- `assess` once the identifiers agree; `judge` is what the probe makes of a segment from the
probed port to the probe's own. -/
def assessTcp (judge : TCP → Except StatusCode (PortState × ScanReason)) (response : PortResponse)
    (submission : PortSubmission) : Except StatusCode (PortState × ScanReason) :=
  match response.kind with
  | .socketError => .ok (.error, .socketError)
  | .unreachable => assessUnreachable response.reason
  | .connected | .connectionRefused => .error .notFound
  | .packet =>
    if !fromTarget response submission then .error .notFound
    else
      match TCP.parse response.bytes with
      | none => .error .parseError
      | some tcp =>
        if tcp.sourcePort ≠ submission.port.number ∨
            tcp.destinationPort ≠ submission.sourcePort then
          .error .notFound
        else judge tcp

namespace TcpSynProbe

def sequenceFor (id : PortProbeId) : UInt32 := (id.toUInt32 ^^^ 0x9e3779b9) * 1664525 + 1013904223

def build (inet : Inet) (id : PortProbeId) (target : Host) (port : Port)
    (_config : PortScanConfig) : Except StatusCode PortSubmission :=
  buildTcp inet .tcpSyn (sequenceFor id) 0 .syn id target port

/-- A SYN-ACK is open and an RST is closed, when what they acknowledge is the probe. -/
def judge (submission : PortSubmission) (tcp : TCP) : Except StatusCode (PortState × ScanReason) :=
  let hasAck := TCP.hasFlag tcp.flags .ack
  let hasSyn := TCP.hasFlag tcp.flags .syn
  let hasRst := TCP.hasFlag tcp.flags .rst
  let hasFin := TCP.hasFlag tcp.flags .fin
  if hasSyn && hasAck && !hasRst && !hasFin &&
      tcp.acknowledgmentNumber = submission.sequenceNumber + 1 then
    .ok (.open, .synAck)
  else if hasRst && !hasSyn && !hasFin &&
      (!hasAck || tcp.acknowledgmentNumber = submission.sequenceNumber + 1) then
    .ok (.closed, .rst)
  else .error .notFound

def assess (response : PortResponse) (submission : PortSubmission) :
    Except StatusCode (PortState × ScanReason) :=
  if response.id ≠ submission.id then .error .notFound
  else assessTcp (judge submission) response submission

end TcpSynProbe

/-- `TcpSynProbe`. -/
def tcpSynProbe (inet : Inet) : PortProbe where
  type := .tcpSyn
  build := TcpSynProbe.build inet
  timeoutState := .filtered
  timeoutReason := .timeout
  assess := TcpSynProbe.assess

namespace TcpAckProbe

/-- A number that must not be zero. -/
def nonzero (value : UInt32) : UInt32 := if value = 0 then 1 else value

def sequenceFor (id : PortProbeId) : UInt32 :=
  nonzero ((id.toUInt32 ^^^ 0x7f4a7c15) * 1664525 + 1013904223)

def acknowledgmentFor (id : PortProbeId) : UInt32 :=
  nonzero ((id.toUInt32 ^^^ 0x85ebca6b) * 2246822519 + 3266489917)

def build (inet : Inet) (id : PortProbeId) (target : Host) (port : Port)
    (_config : PortScanConfig) : Except StatusCode PortSubmission :=
  buildTcp inet .tcpAck (sequenceFor id) (acknowledgmentFor id) .ack id target port

/-- A bare RST whose sequence number is what the probe acknowledged means unfiltered. -/
def judge (submission : PortSubmission) (tcp : TCP) : Except StatusCode (PortState × ScanReason) :=
  if !TCP.hasFlag tcp.flags .rst || TCP.hasFlag tcp.flags .ack || TCP.hasFlag tcp.flags .syn ||
      TCP.hasFlag tcp.flags .fin || tcp.sequenceNumber ≠ submission.acknowledgmentNumber then
    .error .notFound
  else .ok (.unfiltered, .ackRst)

def assess (response : PortResponse) (submission : PortSubmission) :
    Except StatusCode (PortState × ScanReason) :=
  if response.id ≠ submission.id ∨ submission.probe ≠ .tcpAck then .error .notFound
  else assessTcp (judge submission) response submission

end TcpAckProbe

/-- `TcpAckProbe`. -/
def tcpAckProbe (inet : Inet) : PortProbe where
  type := .tcpAck
  build := TcpAckProbe.build inet
  timeoutState := .filtered
  timeoutReason := .ackTimeout
  assess := TcpAckProbe.assess

end Skan.PortScan
