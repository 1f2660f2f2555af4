import Skan.Library.Runs
import Skan.Net.PacketFilter
import Skan.PortScan.TcpProbes

/-!
# The network scan transport

`LinuxNetworkScanTransport` of `src/net/network_scan_transport.cpp`, once opened on an interface:
the TCP SYN and ACK submissions it has pending, the table that finds them by what an acknowledging
reply carries, and the dispatch of captured packets to them.

The operating system is in the answers a call is given (`SubmitAnswers`): the preflight of the
interface, the link-layer address of the next hop, the result of sending. What the transport tells a
scheduler through a callback is the response it returns; what the scheduler then does with the
transport are further events. The session counters are not modelled.
-/

namespace Skan.Net

open Skan.Core Skan.Packet Skan.PortScan BigEndian

/-! ### Correlation policy -/

/-- The source and destination of an observation of exactly one IP version. -/
def PacketObservation.endpoints (o : PacketObservation) : Option (IpAddress × IpAddress) :=
  match o.ipv4, o.ipv6 with
  | some ip, none =>
    some (.fromIpv4 ip.sourceAddress, .fromIpv4 ip.destinationAddress)
  | none, some ip =>
    some (.fromIpv6 ip.sourceAddress, .fromIpv6 ip.destinationAddress)
  | _, _ => none

/-- On-wire equality of addresses: the capture interface owns the scope. -/
def sameOnWire (a b : IpAddress) : Bool := a.family = b.family && a.bytes = b.bytes

/-- The flags and numbers of `matches_tcp_reply`. -/
def answersProbe (submission : PortSubmission) (tcp : TCP) : Bool :=
  let ack := TCP.hasFlag tcp.flags .ack
  let rst := TCP.hasFlag tcp.flags .rst
  let syn := TCP.hasFlag tcp.flags .syn
  let fin := TCP.hasFlag tcp.flags .fin
  match submission.probe with
  | .tcpAck =>
    rst && !ack && !syn && !fin && tcp.sequenceNumber = submission.acknowledgmentNumber
  | .tcpSyn =>
    !fin && (syn && !rst && ack && tcp.acknowledgmentNumber = submission.sequenceNumber + 1 ||
      rst && !syn && (!ack || tcp.acknowledgmentNumber = submission.sequenceNumber + 1))
  | _ => false

/-- `matches_tcp_reply`. -/
def matchesTcpReply (submission : PortSubmission) (o : PacketObservation) : Bool :=
  match o.tcp, o.endpoints with
  | some tcp, some (source, destination) =>
    o.valid && sameOnWire source submission.targetIp &&
      sameOnWire destination submission.sourceIp && tcp.sourcePort = submission.port.number &&
      tcp.destinationPort = submission.sourcePort && answersProbe submission tcp
  | _, _ => false

/-- Whether the quoted TCP bytes are those of the probe, but for the checksum, which the transport
computes again with the source address it selects. -/
def quotesSegment (quoted packet : List UInt8) : Bool :=
  (List.range (min quoted.length packet.length)).all fun i ↦
    i = 16 || i = 17 || quoted.getD i 0 = packet.getD i 0

/-- `matches_tcp_unreachable`. An ICMP error may quote only eight bytes of TCP. -/
def matchesTcpUnreachable (submission : PortSubmission) (o : PacketObservation) : Bool :=
  o.valid && 20 ≤ submission.packet.length &&
    (submission.probe = .tcpSyn || submission.probe = .tcpAck) &&
    match o.ipv4, o.ipv6, o.icmp, o.icmpv6 with
    | some ip, none, some icmp, _ =>
      let quote := icmp.payload
      submission.sourceIp.isIpv4 && submission.targetIp.isIpv4 &&
        icmp.type = .destinationUnreachable && icmp.code ≤ 15 &&
        (IpAddress.fromIpv4 ip.destinationAddress).bytes = submission.sourceIp.bytes &&
        20 + 8 ≤ quote.length && quote.getD 0 0 = 0x45 && quote.getD 9 0 = 6 &&
        (readU16 quote 2).toNat = 20 + submission.packet.length &&
        (readU16 quote 6 &&& 0xbfff) = 0 && Checksum.internet (quote.take 20) = 0 &&
        (IpAddress.fromIpv4 (readU32 quote 12)).bytes = submission.sourceIp.bytes &&
        (IpAddress.fromIpv4 (readU32 quote 16)).bytes = submission.targetIp.bytes &&
        quotesSegment (quote.drop 20) submission.packet
    | none, some ip, _, some icmpv6 =>
      let quote := icmpv6.payload
      submission.sourceIp.isIpv6 && submission.targetIp.isIpv6 &&
        icmpv6.type = .destinationUnreachable && icmpv6.code ≤ 6 &&
        ip.destinationAddress = submission.sourceIp.bytes &&
        40 + 8 ≤ quote.length && quote.getD 0 0 >>> 4 = 6 && quote.getD 6 0 = 6 &&
        (readU16 quote 4).toNat = submission.packet.length &&
        readVector 16 quote 8 = submission.sourceIp.bytes &&
        readVector 16 quote 24 = submission.targetIp.bytes &&
        quotesSegment (quote.drop 40) submission.packet
    | _, _, _, _ => false

/-- `classify_tcp_unreachable_reason`, for ICMP. -/
def classifyIcmpCode (code : UInt8) : Option ScanReason :=
  if code = 0 ∨ code = 1 ∨ code = 5 ∨ code = 6 ∨ code = 7 then some .icmpNetworkUnreachable
  else if code = 2 then some .icmpProtocolUnreachable
  else if code = 3 then some .icmpPortUnreachable
  else if code = 9 ∨ code = 10 ∨ code = 13 then some .icmpAdministrativelyProhibited
  else none

/-- `classify_tcp_unreachable_reason`, for ICMPv6. -/
def classifyIcmpv6Code (code : UInt8) : Option ScanReason :=
  if code = 0 ∨ code = 2 ∨ code = 3 then some .icmpNetworkUnreachable
  else if code = 1 ∨ code = 5 ∨ code = 6 then some .icmpAdministrativelyProhibited
  else if code = 4 then some .icmpPortUnreachable
  else none

/-- `classify_tcp_unreachable_reason`. -/
def classifyTcpUnreachableReason (o : PacketObservation) : Option ScanReason :=
  match o.icmp.filter (·.type = .destinationUnreachable),
    o.icmpv6.filter (·.type = .destinationUnreachable) with
  | some icmp, _ => classifyIcmpCode icmp.code
  | none, some icmpv6 => classifyIcmpv6Code icmpv6.code
  | none, none => none

/-! ### The transport -/

/-- What opening the transport has fixed: the interface, its first address of each family, and its
link-layer address. -/
structure NetworkScanContext where
  inet : Inet
  interfaceName : Text
  sourceIpv4 : UInt32 := 0
  sourceIpv6 : Option IpAddress := none
  localMac : MacAddress := Vector.replicate 6 0

/-- The operating system's part in a submission; `stored` is whether there was memory for the
pending submission. -/
structure SubmitAnswers where
  preflight : Bool := true
  destinationMac : Option MacAddress := some (Vector.replicate 6 0)
  stored : Bool := true
  send : StatusCode := .ok

structure LinuxNetworkScanTransport.Pending where
  submission : PortSubmission
  correlationKey : CorrelationKey
  deriving DecidableEq

/-- The state of an open `LinuxNetworkScanTransport`. -/
structure LinuxNetworkScanTransport where
  pending : KeyedStore PortProbeId LinuxNetworkScanTransport.Pending := ∅
  correlation : CorrelationTable := {}

namespace LinuxNetworkScanTransport

variable (ctx : NetworkScanContext)

/-- `source_address_for`. -/
def sourceAddressFor (targetIp : IpAddress) : Option IpAddress :=
  if targetIp.isIpv4 then
    if ctx.sourceIpv4 = 0 then none else some (.fromIpv4 ctx.sourceIpv4)
  else
    ctx.sourceIpv6.bind fun source ↦
      if targetIp.isIpv6LinkLocal then
        if ipv6ScopeMatchesInterface ctx.inet targetIp ctx.interfaceName then
          some { source with scope := targetIp.scope }
        else none
      else some source

/-- `compose_frame`: the probe's segment with its checksum for the selected source, in an IP packet,
in an Ethernet frame. -/
def composeFrame (destinationMac : Option MacAddress) (submission : PortSubmission) :
    Option (List UInt8) := do
  let targetIp ← effectiveAddress ctx.inet submission.targetIp submission.target
  if !submission.sourceIp.valid then none
  else
    let tcp ← TCP.parse submission.packet
    let destination ← destinationMac
    if targetIp.isIpv4 && submission.sourceIp.isIpv4 then
      let source := submission.sourceIp.ipv4Word
      let target := targetIp.ipv4Word
      let tcpBytes ← tcp.serializeWithChecksum4 source target
      let wireTcp ← TCP.parse tcpBytes
      Packet.serialize
        { ethernet := some { destination, source := ctx.localMac, etherType := 0x0800 }
          ip := some
            (.ipv4 { protocol := 6, sourceAddress := source, destinationAddress := target })
          transport := some (.tcp wireTcp) }
    else if targetIp.isIpv6 && submission.sourceIp.isIpv6 then
      let tcpBytes ← tcp.serializeWithChecksum6 submission.sourceIp.bytes targetIp.bytes
      let wireTcp ← TCP.parse tcpBytes
      Packet.serialize
        { ethernet := some { destination, source := ctx.localMac, etherType := 0x86DD }
          ip := some (.ipv6
            { nextHeader := 6, sourceAddress := submission.sourceIp.bytes
              destinationAddress := targetIp.bytes })
          transport := some (.tcp wireTcp) }
    else none

/-- The correlation key of a submission. -/
def correlationKeyOf (submission : PortSubmission) : CorrelationKey where
  targetIpv4 := if submission.targetIp.isIpv4 then submission.targetIp.ipv4Word else 0
  sourcePort := submission.sourcePort
  destinationPort := submission.port.number
  sequence := submission.sequenceNumber
  targetIp := submission.targetIp

/-- The part of `submit` that enters the submission and sends its frame. -/
def enter (answers : SubmitAnswers) (submission : PortSubmission) (s : LinuxNetworkScanTransport) :
    StatusCode × LinuxNetworkScanTransport :=
  let key := correlationKeyOf submission
  match s.correlation.insert key submission.id none with
  | (.inserted, correlation) =>
    if !answers.stored then (.memoryError, { s with correlation := (correlation.remove key).2 })
    else if answers.send = .ok then
      (.ok,
        { correlation
          pending := s.pending.insert submission.id { submission, correlationKey := key } })
    else
      -- a failed send takes both entries back
      (answers.send, { s with correlation := (correlation.remove key).2 })
  | (_, correlation) => (.invalidArgument, { s with correlation })

/-- `submit`. -/
def submit (answers : SubmitAnswers) (submission : PortSubmission)
    (s : LinuxNetworkScanTransport) : StatusCode × LinuxNetworkScanTransport :=
  if submission.id = 0 ∨ (submission.probe ≠ .tcpSyn ∧ submission.probe ≠ .tcpAck) ∨
      submission.target = [] ∨ submission.id ∈ s.pending then
    (.invalidArgument, s)
  else
    match effectiveAddress ctx.inet submission.targetIp submission.target with
    | none => (.invalidArgument, s)
    | some targetIp =>
      if !answers.preflight then (.permissionDenied, s)
      else
        match sourceAddressFor ctx targetIp with
        | none => (.permissionDenied, s)
        | some sourceIp =>
          let effective := { submission with targetIp, sourceIp }
          match composeFrame ctx answers.destinationMac effective with
          | none => (.permissionDenied, s)
          | some _ => enter answers effective s

/-- `cancel`. -/
def cancel (id : PortProbeId) (s : LinuxNetworkScanTransport) : LinuxNetworkScanTransport :=
  match s.pending.lookup id with
  | none => s
  | some pending =>
    { pending := s.pending.erase id
      correlation := (s.correlation.remove pending.correlationKey).2 }

/-- `on_capture_event` when the capture fails, for one pending submission: it is told, and
retired. -/
def failPending (systemError : ℤ) (now : TimePoint) (id : PortProbeId)
    (s : LinuxNetworkScanTransport) : Option PortResponse × LinuxNetworkScanTransport :=
  match s.pending.lookup id with
  | none => (none, s)
  | some pending =>
    (some
      { id, sourceAddress := pending.submission.target, kind := .socketError, systemError
        receivedAt := now, reason := .socketError },
      cancel id s)

/-! ### Dispatch -/

/-- The source address of an observation, as a response reports it. -/
def observedSource (o : PacketObservation) : IpAddress :=
  match o.ipv4, o.ipv6 with
  | some ip, _ => .fromIpv4 ip.sourceAddress
  | none, some ip => .fromIpv6 ip.sourceAddress
  | none, none => {}

/-- The response to a pending submission that an ICMP error quotes. -/
def unreachableResponse (o : PacketObservation) (id : PortProbeId) : Option PortResponse :=
  (classifyTcpUnreachableReason o).map fun reason ↦
    { id
      sourceIp := observedSource o
      sourceAddress := (observedSource o).toText ctx.inet
      kind := .unreachable
      receivedAt := o.receivedAt
      reason }

/-- The response to a pending submission that a segment answers: the segment is serialized again,
and its source is reported in the scope of the target. -/
def packetResponse (o : PacketObservation) (tcp : TCP) (pending : Pending) (id : PortProbeId) :
    Option PortResponse :=
  tcp.serialize.map fun bytes ↦
    let sourceIp := { observedSource o with scope := pending.submission.targetIp.scope }
    { id
      sourceIp
      sourceAddress := match o.ipv4 with
        | some ip => inetNtop4 ip.sourceAddress
        | none => sourceIp.toText ctx.inet
      kind := .packet
      bytes
      receivedAt := o.receivedAt }

/-- The pending submission an IPv4 segment answers: through the table when it acknowledges
something, by a scan when it does not. -/
def findIpv4 (now : TimePoint) (o : PacketObservation) (ip : IPv4) (tcp : TCP)
    (s : LinuxNetworkScanTransport) : Option PortProbeId × LinuxNetworkScanTransport :=
  if TCP.hasFlag tcp.flags .ack then
    let key : CorrelationKey :=
      { targetIpv4 := ip.sourceAddress
        sourcePort := tcp.destinationPort
        destinationPort := tcp.sourcePort
        sequence := tcp.acknowledgmentNumber - 1
        targetIp := .fromIpv4 ip.sourceAddress }
    let ((_, entry), correlation) := s.correlation.lookup key now
    (entry.bind fun entry ↦
      if (s.pending.lookup entry.token).any fun pending ↦ matchesTcpReply pending.submission o then
        some entry.token
      else none,
      { s with correlation })
  else (s.pending.findUnique fun pending ↦ matchesTcpReply pending.submission o, s)

/-- `dispatch_observation`: the response its callback is called with. -/
def dispatchObservation (now : TimePoint) (o : PacketObservation) (s : LinuxNetworkScanTransport) :
    Option PortResponse × LinuxNetworkScanTransport :=
  if o.icmp.isSome || o.icmpv6.isSome then
    ((s.pending.findUnique fun pending ↦ matchesTcpUnreachable pending.submission o).bind
      (unreachableResponse ctx o), s)
  else
    match o.tcp, o.ipv6.filter fun _ ↦ o.valid, o.ipv4 with
    | some tcp, some _, _ =>
      ((s.pending.findUnique fun pending ↦ matchesTcpReply pending.submission o).bind fun id ↦
        (s.pending.lookup id).bind fun pending ↦ packetResponse ctx o tcp pending id, s)
    | some tcp, none, some ip =>
      if !PacketFilter.accepts { protocol := some .tcp } o ∨
          ip.destinationAddress ≠ ctx.sourceIpv4 then
        (none, s)
      else
        let (found, s) := findIpv4 now o ip tcp s
        (found.bind fun id ↦
          (s.pending.lookup id).bind fun pending ↦ packetResponse ctx o tcp pending id, s)
    | _, _, _ => (none, s)

/-! ### Runs -/

inductive Event where
  | submit (answers : SubmitAnswers) (submission : PortSubmission)
  | cancel (id : PortProbeId)
  | failPending (systemError : ℤ) (now : TimePoint) (id : PortProbeId)
  | dispatchObservation (now : TimePoint) (o : PacketObservation)

def step (s : LinuxNetworkScanTransport) : Event → LinuxNetworkScanTransport
  | .submit answers submission => (submit ctx answers submission s).2
  | .cancel id => cancel id s
  | .failPending systemError now id => (failPending systemError now id s).2
  | .dispatchObservation now o => (dispatchObservation ctx now o s).2

end LinuxNetworkScanTransport

end Skan.Net
