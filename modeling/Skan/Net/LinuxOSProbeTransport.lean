import Skan.Net.UdpScanTransport
import Skan.OsDetect.Probe

/-!
# The OS probe transport

`LinuxOSProbeTransport` of `src/net/linux_os_probe_transport.cpp`, once opened on an interface: the
probes it has pending, the table that finds some of them by what a reply carries, and the dispatch
of captured packets.

As for the other transports, the operating system is in the answers a call is given, and what a
scheduler does with a response are further events. A hash map may list its entries in any order,
which may change at any time (`Event.reorder`). -/

namespace Skan.Net

open Skan.Core Skan.Packet Skan.PortScan Skan.OsDetect BigEndian

namespace LinuxOSProbeTransport

/-- What a probe is found by. Equality compares every field. -/
structure Correlation where
  targetIpv4 : UInt32 := 0
  sourcePort : UInt16 := 0
  destinationPort : UInt16 := 0
  sequence : UInt32 := 0
  identity : UInt32 := 0
  protocol : UInt8 := 0
  targetIp : IpAddress := {}
  deriving DecidableEq

end LinuxOSProbeTransport

/-- The state of an open `LinuxOSProbeTransport`. -/
structure LinuxOSProbeTransport where
  pending : KeyedStore OSProbeId OSProbeSubmission := ∅
  correlations : KeyedStore LinuxOSProbeTransport.Correlation OSProbeId := ∅

namespace LinuxOSProbeTransport

variable (ctx : NetworkScanContext)

/-- `parse_ipv4`, which is that of the UDP transport. -/
def parseIpv4 (text : Text) : Option UInt32 := LinuxUDPScanTransport.parseIpv4 text

/-- `source_address_for`, which is that of the scan transport. -/
def sourceAddressFor (targetIp : IpAddress) : Option IpAddress :=
  LinuxNetworkScanTransport.sourceAddressFor ctx targetIp

/-! ### Frames -/

/-- The header and the transport of a probe over IPv4, but for the addresses. -/
def packet4 (submission : OSProbeSubmission) : Option (IPv4 × Transport) :=
  match submission.type with
  | .icmpEcho => (ICMP.parse submission.bytes).map fun icmp ↦ ({ protocol := 1 }, .icmp icmp)
  | .udpFingerprint => (UDP.parse submission.bytes).map fun udp ↦ ({ protocol := 17 }, .udp udp)
  | _ => do
    let sourcePacket ← (IPv4.parse submission.bytes).filter (·.protocol = 6)
    let tcp ← TCP.parse (submission.bytes.drop sourcePacket.serializedSize)
    some
      ({ protocol := 6, ttl := sourcePacket.ttl
         flagsFragmentOffset := sourcePacket.flagsFragmentOffset }, .tcp tcp)

/-- The header and the transport of a probe over IPv6, but for the addresses. -/
def packet6 (submission : OSProbeSubmission) : Option (IPv6 × Transport) :=
  match submission.type with
  | .icmpEcho =>
    (ICMPv6.parse submission.bytes).map fun icmpv6 ↦ ({ nextHeader := 58 }, .icmpv6 icmpv6)
  | .udpFingerprint => (UDP.parse submission.bytes).map fun udp ↦ ({ nextHeader := 17 }, .udp udp)
  | _ => do
    let sourcePacket ← (IPv6.parse submission.bytes).filter fun ip ↦
      ip.nextHeader = 6 && 20 ≤ ip.payloadLength
    let tcp ← TCP.parse (submission.bytes.drop 40)
    some ({ nextHeader := 6, hopLimit := sourcePacket.hopLimit }, .tcp tcp)

/-- `compose_frame`. -/
def composeFrame (destinationMac : Option MacAddress) (submission : OSProbeSubmission) :
    Option (List UInt8) := do
  let targetIp ← effectiveAddress ctx.inet submission.targetIp submission.target
  if !submission.sourceIp.valid then none
  else
    let destination ← destinationMac
    if targetIp.isIpv4 && submission.sourceIp.isIpv4 then
      let (ip, transport) ← packet4 submission
      Packet.serialize
        { ethernet := some { destination, source := ctx.localMac, etherType := 0x0800 }
          ip := some (.ipv4
            { ip with
              sourceAddress := submission.sourceIp.ipv4Word
              destinationAddress := targetIp.ipv4Word })
          transport := some transport }
    else if targetIp.isIpv6 && submission.sourceIp.isIpv6 then
      let (ip, transport) ← packet6 submission
      Packet.serialize
        { ethernet := some { destination, source := ctx.localMac, etherType := 0x86DD }
          ip := some (.ipv6
            { ip with
              sourceAddress := submission.sourceIp.bytes
              destinationAddress := targetIp.bytes })
          transport := some transport }
    else none

/-! ### Submission -/

/-- The IP protocol of a probe. -/
def protocolOf : OSProbeType → UInt8
  | .icmpEcho => 1
  | .udpFingerprint => 17
  | _ => 6

/-- An identifier and a sequence number in one word. -/
def identityOf (identifier sequence : UInt16) : UInt32 :=
  identifier.toUInt32 <<< 16 ||| sequence.toUInt32

/-- The correlation of a submission, as `submit` enters it. -/
def correlationOf (submission : OSProbeSubmission) : Correlation where
  targetIpv4 := if submission.targetIp.isIpv4 then submission.targetIp.ipv4Word else 0
  sourcePort := if submission.type = .icmpEcho then 0 else submission.destinationPort
  destinationPort := if submission.type = .icmpEcho then 0 else submission.sourcePort
  sequence := submission.sequenceNumber
  identity :=
    if submission.type = .icmpEcho then
      identityOf submission.correlationIdentifier submission.correlationSequence
    else 0
  protocol := protocolOf submission.type
  targetIp := submission.targetIp

/-- The submission as `submit` keeps it: with the addresses that are selected for it. -/
def effective (submission : OSProbeSubmission) (targetIp sourceIp : IpAddress) :
    OSProbeSubmission :=
  { submission with
    targetIp
    sourceIp
    sourceAddress := sourceIp.toText ctx.inet
    target := targetIp.toText ctx.inet }

/-- The part of `submit` that enters the submission and sends its frame. -/
def enter (answers : SubmitAnswers) (submission : OSProbeSubmission) (s : LinuxOSProbeTransport) :
    StatusCode × LinuxOSProbeTransport :=
  if correlationOf submission ∈ s.correlations then (.invalidArgument, s)
  else if !answers.stored then (.memoryError, s)
  else if answers.send = .ok then
    (.ok,
      { pending := s.pending.insert submission.id submission
        correlations := s.correlations.insert (correlationOf submission) submission.id })
  else
    -- a failed send takes both entries back
    (answers.send, s)

/-- `submit`. -/
def submit (answers : SubmitAnswers) (submission : OSProbeSubmission) (s : LinuxOSProbeTransport) :
    StatusCode × LinuxOSProbeTransport :=
  if submission.id = 0 ∨ submission.target = [] ∨ submission.id ∈ s.pending then
    (.invalidArgument, s)
  else
    match effectiveAddress ctx.inet submission.targetIp submission.target with
    | none => (.invalidArgument, s)
    | some targetIp =>
      if !answers.preflight then (.permissionDenied, s)
      else
        match sourceAddressFor ctx targetIp with
        | none => (.permissionDenied, s)
        | some sourceIp =>
          let effective := effective ctx submission targetIp sourceIp
          match composeFrame ctx answers.destinationMac effective with
          | none => (.permissionDenied, s)
          | some _ => enter answers effective s

/-- A probe leaves, with every correlation that leads to it. -/
def retire (id : OSProbeId) (s : LinuxOSProbeTransport) : LinuxOSProbeTransport where
  pending := s.pending.erase id
  correlations := s.correlations.keep (· ≠ id)

/-- `cancel`. -/
def cancel (id : OSProbeId) (s : LinuxOSProbeTransport) : LinuxOSProbeTransport :=
  if id ∈ s.pending then retire id s else s

/-! ### Dispatch -/

/-- Whether a packet goes from the target of a probe over IPv6 to its source. -/
def addressesMatch6 (ip : IPv6) (submission : OSProbeSubmission) : Bool :=
  submission.targetIp.isIpv6 && submission.sourceIp.isIpv6 &&
    submission.targetIp.bytes = ip.sourceAddress &&
    submission.sourceIp.bytes = ip.destinationAddress

/-- Whether a segment answers a probe over IPv6. -/
def answersTcp6 (ip : IPv6) (tcp : TCP) (submission : OSProbeSubmission) : Bool :=
  addressesMatch6 ip submission && submission.sourcePort = tcp.destinationPort &&
    submission.destinationPort = tcp.sourcePort &&
    (TCP.hasFlag tcp.flags .syn && TCP.hasFlag tcp.flags .ack &&
        tcp.acknowledgmentNumber = submission.sequenceNumber + 1 ||
      TCP.hasFlag tcp.flags .rst && tcp.acknowledgmentNumber = 0)

/-- Whether a segment is from the port of a probe over IPv4 to its own. -/
def portsMatch4 (ip : IPv4) (tcp : TCP) (submission : OSProbeSubmission) : Bool :=
  parseIpv4 submission.target = some ip.sourceAddress &&
    submission.sourcePort = tcp.destinationPort && submission.destinationPort = tcp.sourcePort

/-- The probe that a segment over IPv4 acknowledges, by the table. -/
def acknowledged (ip : IPv4) (tcp : TCP) (s : LinuxOSProbeTransport) : Option OSProbeId :=
  if tcp.acknowledgmentNumber = 0 then none
  else
    s.correlations.lookup
      { targetIpv4 := ip.sourceAddress, sourcePort := tcp.sourcePort
        destinationPort := tcp.destinationPort, sequence := tcp.acknowledgmentNumber - 1
        protocol := 6 }

/-- `match_tcp`. -/
def matchTcp (o : PacketObservation) (tcp : TCP) (s : LinuxOSProbeTransport) : Option OSProbeId :=
  match o.ipv6, o.ipv4 with
  | some ip, _ => s.pending.findUnique (answersTcp6 ip tcp)
  | none, some ip =>
    if ip.destinationAddress ≠ ctx.sourceIpv4 then none
    else (acknowledged ip tcp s).or (s.pending.findUnique (portsMatch4 ip tcp))
  | none, none => none

/-- `match_udp`. -/
def matchUdp (o : PacketObservation) (udp : UDP) (s : LinuxOSProbeTransport) : Option OSProbeId :=
  match o.ipv6, o.ipv4 with
  | some ip, _ =>
    (s.pending.findFirst fun submission ↦
      addressesMatch6 ip submission && submission.destinationPort = udp.sourcePort &&
        submission.sourcePort = udp.destinationPort).map Prod.fst
  | none, some ip =>
    if ip.destinationAddress ≠ ctx.sourceIpv4 then none
    else
      s.correlations.lookup
        { targetIpv4 := ip.sourceAddress, sourcePort := udp.sourcePort
          destinationPort := udp.destinationPort, protocol := 17 }
  | none, none => none

/-- Whether the IPv6 packet that an ICMPv6 error quotes is a probe. -/
def quotedBy6 (ip : IPv6) (quote : IPv6UdpQuote) (submission : OSProbeSubmission) : Bool :=
  addressesMatch6 ip submission && quote.ip.sourceAddress = submission.sourceIp.bytes &&
    quote.ip.destinationAddress = submission.targetIp.bytes &&
    quote.sourcePort = submission.sourcePort &&
    quote.destinationPort = submission.destinationPort

/-- The part of `match_icmp` about ICMPv6. -/
def matchIcmpv6 (ip : IPv6) (icmpv6 : ICMPv6) (s : LinuxOSProbeTransport) : Option OSProbeId :=
  match icmpv6.type with
  | .echoReply =>
    (s.pending.findFirst fun submission ↦
      addressesMatch6 ip submission && submission.correlationIdentifier = icmpv6.identifier &&
        submission.correlationSequence = icmpv6.sequence).map Prod.fst
  | .destinationUnreachable =>
    (parseIpv6UdpQuote icmpv6.payload).bind fun quote ↦
      (s.pending.findFirst (quotedBy6 ip quote)).map Prod.fst
  | _ => none

/-- Whether an ICMP error from a target quotes a UDP packet of our own to it. -/
def quotesUdp4 (target : UInt32) (quoted : List UInt8) : Bool :=
  let ihl := quoted.getD 0 0 &&& 0x0F
  let headerSize := ihl.toNat * 4
  28 ≤ quoted.length && quoted.getD 0 0 >>> 4 = 4 && 5 ≤ ihl && headerSize + 8 ≤ quoted.length &&
    Checksum.internet (quoted.take headerSize) = 0 && quoted.getD 9 0 = 17 &&
    8 ≤ readU16 quoted (headerSize + 4) && readU32 quoted 12 = ctx.sourceIpv4 &&
    readU32 quoted 16 = target

/-- The part of `match_icmp` about ICMP. -/
def matchIcmpv4 (ip : IPv4) (icmp : ICMP) (s : LinuxOSProbeTransport) : Option OSProbeId :=
  if ip.destinationAddress ≠ ctx.sourceIpv4 then none
  else
    match icmp.type with
    | .echoReply =>
      s.correlations.lookup
        { targetIpv4 := ip.sourceAddress, identity := identityOf icmp.identifier icmp.sequence
          protocol := 1 }
    | .destinationUnreachable =>
      let headerSize := (icmp.payload.getD 0 0 &&& 0x0F).toNat * 4
      if quotesUdp4 ctx ip.sourceAddress icmp.payload then
        s.correlations.lookup
          { targetIpv4 := ip.sourceAddress
            sourcePort := readU16 icmp.payload (headerSize + 2)
            destinationPort := readU16 icmp.payload headerSize
            protocol := 17 }
      else none
    | _ => none

/-- `match_icmp`. -/
def matchIcmp (o : PacketObservation) (s : LinuxOSProbeTransport) : Option OSProbeId :=
  match o.ipv6, o.icmpv6, o.ipv4, o.icmp with
  | some ip, some icmpv6, _, _ => matchIcmpv6 ip icmpv6 s
  | _, _, some ip, some icmp => matchIcmpv4 ctx ip icmp s
  | _, _, _, _ => none

/-- The probe that an observation is for. -/
def matchObservation (o : PacketObservation) (s : LinuxOSProbeTransport) : Option OSProbeId :=
  match o.tcp, o.udp with
  | some tcp, _ => matchTcp ctx o tcp s
  | none, some udp => matchUdp ctx o udp s
  | none, none => if o.icmp.isSome || o.icmpv6.isSome then matchIcmp ctx o s else none

/-- The kind of a response to a segment. -/
def tcpKind (tcp : TCP) : OSProbeResponseKind :=
  if TCP.hasFlag tcp.flags .rst then .closed else .data

/-- The bytes of a response, and its kind. A segment over IPv4 comes with its header. -/
def evidence (o : PacketObservation) : Option (List UInt8 × OSProbeResponseKind) :=
  match o.tcp, o.ipv4, o.ipv6 with
  | some tcp, some ip, _ =>
    some ((Packet.serialize { ip := some (.ipv4 ip), transport := some (.tcp tcp) }).getD [],
      tcpKind tcp)
  | some tcp, none, some _ => some (tcp.serialize.getD [], tcpKind tcp)
  | _, _, _ =>
    match o.udp, o.icmp, o.icmpv6 with
    | some udp, _, _ => some (udp.serialize.getD [], .data)
    | none, some icmp, _ =>
      some (icmp.serialize.getD [],
        if icmp.type = .destinationUnreachable then .icmpError else .data)
    | none, none, some icmpv6 =>
      some (icmpv6.serialize.getD [],
        if icmpv6.type = .destinationUnreachable then .icmpError else .data)
    | none, none, none => none

/-- The response about an observation. Addresses over IPv6 are in the scopes of the probe. -/
def responseFor (o : PacketObservation) (id : OSProbeId) (submission : OSProbeSubmission) :
    Option OSProbeResponse :=
  (evidence o).map fun (bytes, kind) ↦
    let response : OSProbeResponse := { id, kind, bytes, receivedAt := o.receivedAt }
    match o.ipv4, o.ipv6 with
    | some ip, _ =>
      { response with
        sourceAddress := inetNtop4 ip.sourceAddress
        destinationAddress := inetNtop4 ip.destinationAddress
        sourceIp := .fromIpv4 ip.sourceAddress
        destinationIp := .fromIpv4 ip.destinationAddress
        ipTtl := ip.ttl
        ipIdentification := ip.identification
        ipDontFragment := ip.flagsFragmentOffset &&& 0x4000 ≠ 0 }
    | none, some ip =>
      let sourceIp :=
        { IpAddress.fromIpv6 ip.sourceAddress with scope := submission.targetIp.scope }
      let destinationIp :=
        { IpAddress.fromIpv6 ip.destinationAddress with scope := submission.sourceIp.scope }
      { response with
        sourceAddress := sourceIp.toText ctx.inet
        destinationAddress := destinationIp.toText ctx.inet
        sourceIp
        destinationIp
        ipTtl := ip.hopLimit }
    | none, none => response

/-- `dispatch_observation`: the response its callback is called with. The probe is retired before
the scheduler has looked at the response. -/
def dispatchObservation (o : PacketObservation) (s : LinuxOSProbeTransport) :
    Option OSProbeResponse × LinuxOSProbeTransport :=
  match matchObservation ctx o s with
  | none => (none, s)
  | some id =>
    match (s.pending.lookup id).bind (responseFor ctx o id) with
    | none => (none, s)
    | some response => (some response, retire id s)

/-! ### Runs -/

inductive Event where
  | submit (answers : SubmitAnswers) (submission : OSProbeSubmission)
  | cancel (id : OSProbeId)
  | dispatchObservation (o : PacketObservation)
  | reorder (s : LinuxOSProbeTransport)

def step (s : LinuxOSProbeTransport) : Event → LinuxOSProbeTransport
  | .submit answers submission => (submit ctx answers submission s).2
  | .cancel id => cancel id s
  | .dispatchObservation o => (dispatchObservation ctx o s).2
  | .reorder s' =>
    if s'.pending.entries.Perm s.pending.entries ∧
        s'.correlations.entries.Perm s.correlations.entries then
      s'
    else s

end LinuxOSProbeTransport

end Skan.Net
