import Skan.Packet.Datagrams
import Skan.Packet.Internet
import Skan.Packet.TCP
import Skan.PortScan.TcpConnect

/-!
# Host discovery: the shared data, and the probes

`src/discovery/discovery_types.cpp` and the three probes of `icmp_discovery.cpp`,
`tcp_discovery.cpp` and `arp_discovery.cpp`: how each builds its submission, and what it makes of a
response to it.

A probe's `build` knows no source address. The ICMPv6 and TCP packets carry a checksum over the
unspecified one, and the ARP request asks in the name of address zero; the transport fills in its
own.
-/

namespace Skan.Discovery

open Skan.Core Skan.Packet Skan.PortScan BigEndian

inductive HostState where
  | unknown
  | up
  | down
  | unreachable
  deriving DecidableEq

inductive ProbeType where
  | icmpEcho
  | tcp
  | arp
  deriving DecidableEq

inductive DiscoveryReason where
  | noEvidence
  | icmpEchoReply
  | tcpSynAck
  | tcpRst
  | arpReply
  | timeout
  | invalidTarget
  | unsupportedInterface
  | socketFailure
  | permissionFailure
  | malformedResponse
  | unexpectedResponse
  | duplicateResponse
  | lateResponse
  | internalError
  | unreachable
  deriving DecidableEq

abbrev ProbeId := UInt64

structure DiscoveryResult where
  target : Text
  state : HostState := .unknown
  probe : ProbeType := .icmpEcho
  responded : Bool := false
  rttMs : Option ℚ := none
  timestamp : TimePoint := 0
  reason : DiscoveryReason := .noEvidence
  deriving DecidableEq

/-- `DiscoveryConfig`; the timeout is in milliseconds. -/
structure DiscoveryConfig where
  probes : List ProbeType := [.icmpEcho, .tcp]
  tcpPort : UInt16 := 80
  timeout : ℤ := 1000
  maxOutstanding : UInt64 := 64

inductive DiscoveryResponseKind where
  | positive
  | unreachable
  deriving DecidableEq

structure DiscoveryResponse where
  probeId : ProbeId := 0
  sourceAddress : Text := []
  bytes : List UInt8 := []
  receivedAt : TimePoint := 0
  sourceIp : IpAddress := {}
  kind : DiscoveryResponseKind := .positive
  deriving DecidableEq

structure ProbeSubmission where
  id : ProbeId := 0
  type : ProbeType := .icmpEcho
  target : Text := []
  packet : List UInt8 := []
  port : UInt16 := 0
  sourcePort : UInt16 := 0
  correlationIdentifier : UInt16 := 0
  correlationSequence : UInt16 := 0
  sequenceNumber : UInt32 := 0
  sourceIpv4 : UInt32 := 0
  targetIpv4 : UInt32 := 0
  sourceIp : IpAddress := {}
  targetIp : IpAddress := {}
  deriving DecidableEq

inductive ResponseDisposition where
  | matching
  | unrelated
  | malformed
  deriving DecidableEq

/-- `DiscoveryProbe`: a way to ask a host for a sign of life. -/
structure DiscoveryProbe where
  type : ProbeType
  build : ProbeId → Host → DiscoveryConfig → Except StatusCode ProbeSubmission
  assess : DiscoveryResponse → ProbeSubmission → ResponseDisposition
  positiveReason : DiscoveryResponse → DiscoveryReason

/-- One component of a dotted quad: one to three digits, leading zeros allowed. -/
def parseComponent (component : Text) : Option UInt8 :=
  if component = [] ∨ component.length > 3 ∨ !component.all isDigit ∨
      decimalValue component > 255 then
    none
  else some (UInt8.ofNat (decimalValue component))

/-- `parse_ipv4_address`. -/
def parseIpv4Address (address : Text) : Option UInt32 :=
  match (address.splitOn 0x2E).map parseComponent with
  | [some a, some b, some c, some d] => some (u32OfBytes a b c d)
  | _ => none

/-! ### The ICMP echo probe -/

namespace IcmpDiscoveryProbe

/-- The payload of an echo request. -/
def echoPayload : List UInt8 := [0x53, 0x4B, 0x41, 0x4E]

/-- The submission but for what depends on the address family. -/
def submissionFor (id : ProbeId) (target : Host) (targetIp : IpAddress) : ProbeSubmission where
  id
  type := .icmpEcho
  target := target.address
  correlationIdentifier := 0x534B
  correlationSequence := id.toUInt16
  targetIp

def build (inet : Inet) (id : ProbeId) (target : Host) (_config : DiscoveryConfig) :
    Except StatusCode ProbeSubmission :=
  match effectiveAddress inet target.ipAddress target.address with
  | none => .error .invalidArgument
  | some targetIp =>
    if id = 0 ∨ id > 0xFFFF then .error .invalidArgument
    else
      let submission := submissionFor id target targetIp
      if targetIp.isIpv4 then
        let echo : ICMP :=
          { identifier := submission.correlationIdentifier
            sequence := submission.correlationSequence
            payload := echoPayload }
        match echo.serialize with
        | none => .error .internalError
        | some packet => .ok { submission with packet, targetIpv4 := targetIp.ipv4Word }
      else
        let echo : ICMPv6 :=
          { ({} : ICMPv6).setIdentifier submission.correlationIdentifier
              |>.setSequence submission.correlationSequence with
            payload := echoPayload }
        match echo.serializeWithChecksum (Vector.replicate 16 0) targetIp.bytes with
        | none => .error .internalError
        | some packet =>
          .ok { submission with packet, sourceIp := .fromIpv6 (Vector.replicate 16 0) }

/-- `assess`, for an IPv6 target. -/
def assess6 (inet : Inet) (response : DiscoveryResponse) (submission : ProbeSubmission) :
    ResponseDisposition :=
  match ICMPv6.parse response.bytes with
  | none => .malformed
  | some parsed =>
    if effectiveAddress inet response.sourceIp response.sourceAddress ≠
      some submission.targetIp then
      .unrelated
    else if parsed.type ≠ .echoReply ∨ parsed.code ≠ 0 ∨
        parsed.identifier ≠ submission.correlationIdentifier ∨
        parsed.sequence ≠ submission.correlationSequence then
      .unrelated
    else .matching

/-- `assess`, for the others. -/
def assess4 (response : DiscoveryResponse) (submission : ProbeSubmission) : ResponseDisposition :=
  match ICMP.parse response.bytes with
  | none => .malformed
  | some parsed =>
    if response.sourceAddress ≠ submission.target then .unrelated
    else if parsed.type ≠ .echoReply ∨ parsed.code ≠ 0 ∨
        parsed.identifier ≠ submission.correlationIdentifier ∨
        parsed.sequence ≠ submission.correlationSequence then
      .unrelated
    else .matching

def assess (inet : Inet) (response : DiscoveryResponse) (submission : ProbeSubmission) :
    ResponseDisposition :=
  if submission.targetIp.isIpv6 then assess6 inet response submission
  else assess4 response submission

end IcmpDiscoveryProbe

/-- `IcmpDiscoveryProbe`. -/
def icmpDiscoveryProbe (inet : Inet) : DiscoveryProbe where
  type := .icmpEcho
  build := IcmpDiscoveryProbe.build inet
  assess := IcmpDiscoveryProbe.assess inet
  positiveReason _ := .icmpEchoReply

/-! ### The TCP probe -/

namespace TcpDiscoveryProbe

def sourcePortFor (id : ProbeId) : UInt16 := (40000 + (id - 1) % 20000).toUInt16

def sequenceFor (id : ProbeId) : UInt32 := 0x534B0000 ||| id.toUInt32

/-- The segment of a probe. -/
def synSegment (id : ProbeId) (port : UInt16) : TCP where
  sourcePort := sourcePortFor id
  destinationPort := port
  sequenceNumber := sequenceFor id
  flags := TCP.Flag.syn.bit
  window := 64240

/-- The submission but for what depends on the address family. -/
def submissionFor (id : ProbeId) (target : Host) (port : UInt16) (targetIp : IpAddress) :
    ProbeSubmission where
  id
  type := .tcp
  target := target.address
  port
  sourcePort := sourcePortFor id
  sequenceNumber := sequenceFor id
  targetIp

def build (inet : Inet) (id : ProbeId) (target : Host) (config : DiscoveryConfig) :
    Except StatusCode ProbeSubmission :=
  match effectiveAddress inet target.ipAddress target.address with
  | none => .error .invalidArgument
  | some targetIp =>
    if id = 0 ∨ config.tcpPort = 0 ∨ id > 0xFFFF then .error .invalidArgument
    else
      let syn := synSegment id config.tcpPort
      let submission := submissionFor id target config.tcpPort targetIp
      if targetIp.isIpv4 then
        match syn.serializeWithChecksum4 0 targetIp.ipv4Word with
        | none => .error .internalError
        | some packet => .ok { submission with packet, targetIpv4 := targetIp.ipv4Word }
      else
        match syn.serializeWithChecksum6 (Vector.replicate 16 0) targetIp.bytes with
        | none => .error .internalError
        | some packet =>
          .ok { submission with packet, sourceIp := .fromIpv6 (Vector.replicate 16 0) }

/-- Whether a response comes from the target. -/
def fromTarget (response : DiscoveryResponse) (submission : ProbeSubmission) : Bool :=
  if submission.targetIp.isIpv6 then
    response.sourceIp.valid && response.sourceIp = submission.targetIp
  else response.sourceAddress = submission.target

/-- Whether a segment is a sign of life: a SYN-ACK of the probe, or any RST. -/
def signOfLife (parsed : TCP) (submission : ProbeSubmission) : Bool :=
  TCP.hasFlag parsed.flags .syn && TCP.hasFlag parsed.flags .ack &&
      parsed.acknowledgmentNumber = submission.sequenceNumber + 1 ||
    TCP.hasFlag parsed.flags .rst

def assess (response : DiscoveryResponse) (submission : ProbeSubmission) : ResponseDisposition :=
  match TCP.parse response.bytes with
  | none => .malformed
  | some parsed =>
    if !fromTarget response submission then .unrelated
    else if parsed.sourcePort ≠ submission.port ∨
        parsed.destinationPort ≠ submission.sourcePort then
      .unrelated
    else if signOfLife parsed submission then .matching
    else .unrelated

def positiveReason (response : DiscoveryResponse) : DiscoveryReason :=
  if (TCP.parse response.bytes).any fun parsed ↦ TCP.hasFlag parsed.flags .rst then .tcpRst
  else .tcpSynAck

end TcpDiscoveryProbe

/-- `TcpDiscoveryProbe`. -/
def tcpDiscoveryProbe (inet : Inet) : DiscoveryProbe where
  type := .tcp
  build := TcpDiscoveryProbe.build inet
  assess := TcpDiscoveryProbe.assess
  positiveReason := TcpDiscoveryProbe.positiveReason

/-! ### The ARP probe -/

/-- `ArpMessage`. -/
structure ArpMessage where
  senderMac : MacAddress := Vector.replicate 6 0
  senderIpv4 : UInt32 := 0
  targetMac : MacAddress := Vector.replicate 6 0
  targetIpv4 : UInt32 := 0
  operation : UInt16 := 1
  deriving DecidableEq

namespace ArpMessage

/-- `kArpReply`. -/
def reply : UInt16 := 2

/-- `kSize`. -/
def size : ℕ := 28

def validate (m : ArpMessage) : Bool := m.operation = 1 || m.operation = reply

def bytes (m : ArpMessage) : List UInt8 :=
  u16Bytes 1 ++ u16Bytes 0x0800 ++ [6, 4] ++ u16Bytes m.operation ++ m.senderMac.toList ++
    u32Bytes m.senderIpv4 ++ m.targetMac.toList ++ u32Bytes m.targetIpv4

def serialize (m : ArpMessage) : Option (List UInt8) := if m.validate then some m.bytes else none

def parse (input : List UInt8) : Option ArpMessage :=
  if input.length < size ∨ readU16 input 0 ≠ 1 ∨ readU16 input 2 ≠ 0x0800 ∨ input.getD 4 0 ≠ 6 ∨
      input.getD 5 0 ≠ 4 then
    none
  else
    let message : ArpMessage :=
      { operation := readU16 input 6
        senderMac := readVector 6 input 8
        senderIpv4 := readU32 input 14
        targetMac := readVector 6 input 18
        targetIpv4 := readU32 input 24 }
    if message.validate then some message else none

end ArpMessage

namespace ArpDiscoveryProbe

def build (id : ProbeId) (target : Host) (_config : DiscoveryConfig) :
    Except StatusCode ProbeSubmission :=
  match parseIpv4Address target.address with
  | none => .error .invalidArgument
  | some targetIpv4 =>
    if id = 0 then .error .invalidArgument
    else
      let request : ArpMessage :=
        { senderMac := #v[0x02, 0x53, 0x4B, 0x41, 0x4E, 0x01], targetIpv4 }
      match request.serialize with
      | none => .error .internalError
      | some packet =>
        .ok
          { id, type := .arp, target := target.address, targetIpv4
            sourceIpv4 := request.senderIpv4, packet }

def assess (response : DiscoveryResponse) (submission : ProbeSubmission) : ResponseDisposition :=
  match ArpMessage.parse response.bytes with
  | none => .malformed
  | some parsed =>
    if response.sourceAddress ≠ submission.target ∨ parsed.operation ≠ ArpMessage.reply ∨
        parsed.senderIpv4 ≠ submission.targetIpv4 ∨ parsed.targetIpv4 ≠ submission.sourceIpv4 then
      .unrelated
    else .matching

end ArpDiscoveryProbe

/-- `ArpDiscoveryProbe`. -/
def arpDiscoveryProbe : DiscoveryProbe where
  type := .arp
  build := ArpDiscoveryProbe.build
  assess := ArpDiscoveryProbe.assess
  positiveReason _ := .arpReply

/-- The probe of a type, as the constructor of the scheduler makes it. -/
def probeOf (inet : Inet) : ProbeType → DiscoveryProbe
  | .icmpEcho => icmpDiscoveryProbe inet
  | .tcp => tcpDiscoveryProbe inet
  | .arp => arpDiscoveryProbe

@[simp] theorem type_probeOf (inet : Inet) (type : ProbeType) :
    (probeOf inet type).type = type := by
  cases type <;> rfl

/-- What a probe builds is about the host it was asked to probe. -/
structure ProbeSubmission.About (submission : ProbeSubmission) (id : ProbeId) (host : Host)
    (type : ProbeType) : Prop where
  id_eq : submission.id = id
  target_eq : submission.target = host.address
  type_eq : submission.type = type

theorem about_of_build {inet : Inet} {type : ProbeType} {id : ProbeId} {host : Host}
    {config : DiscoveryConfig} {submission : ProbeSubmission}
    (h : (probeOf inet type).build id host config = .ok submission) :
    submission.About id host type := by
  cases type with
  | icmpEcho =>
    replace h : IcmpDiscoveryProbe.build inet id host config = .ok submission := h
    rw [IcmpDiscoveryProbe.build] at h
    split at h
    · cases h
    · dsimp only at h
      split_ifs at h <;> split at h <;> cases h <;> exact ⟨rfl, rfl, rfl⟩
  | tcp =>
    replace h : TcpDiscoveryProbe.build inet id host config = .ok submission := h
    rw [TcpDiscoveryProbe.build] at h
    split at h
    · cases h
    · dsimp only at h
      split_ifs at h <;> split at h <;> cases h <;> exact ⟨rfl, rfl, rfl⟩
  | arp =>
    replace h : ArpDiscoveryProbe.build id host config = .ok submission := h
    rw [ArpDiscoveryProbe.build] at h
    split at h
    · cases h
    · dsimp only at h
      split_ifs at h
      split at h <;> cases h
      exact ⟨rfl, rfl, rfl⟩

end Skan.Discovery
