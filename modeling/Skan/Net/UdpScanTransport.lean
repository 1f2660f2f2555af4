import Skan.Net.NetworkScanTransport
import Skan.Packet.IPv6Quote
import Skan.PortScan.UdpScan

/-!
# The UDP scan transport

`LinuxUDPScanTransport` of `src/net/udp_network_scan_transport.cpp`, once opened on an interface:
the UDP submissions it has pending, and the dispatch of captured packets to them. A datagram, or an
ICMP error that quotes one, is given to the only pending submission it fits.

The operating system's part is as in the TCP transport (`SubmitAnswers`).
-/

namespace Skan.Net

open Skan.Core Skan.Packet Skan.PortScan BigEndian

/-- The state of an open `LinuxUDPScanTransport`. -/
structure LinuxUDPScanTransport where
  pending : KeyedStore UDPProbeId UDPSubmission := ∅

namespace LinuxUDPScanTransport

variable (ctx : NetworkScanContext)

/-- `parse_ipv4`. -/
def parseIpv4 (text : Text) : Option UInt32 := inetPton4 (cStr text)

/-- `source_address_for`, which is the TCP transport's. -/
def sourceAddressFor (targetIp : IpAddress) : Option IpAddress :=
  LinuxNetworkScanTransport.sourceAddressFor ctx targetIp

/-! ### Submission -/

/-- `compose_frame`. -/
def composeFrame (destinationMac : Option MacAddress) (submission : UDPSubmission) :
    Option (List UInt8) := do
  let targetIp ← effectiveAddress ctx.inet submission.destinationIp submission.target
  if !submission.sourceIp.valid ∨ submission.sourcePort = 0 ∨ submission.port.number = 0 ∨
      submission.port.protocol ≠ .udp then
    none
  else
    let udp : UDP :=
      { sourcePort := submission.sourcePort, destinationPort := submission.port.number
        payload := submission.payload }
    let destination ← destinationMac
    if targetIp.isIpv4 && submission.sourceIp.isIpv4 then
      Packet.serialize
        { ethernet := some { destination, source := ctx.localMac, etherType := 0x0800 }
          ip := some
            (.ipv4
              { protocol := 17, sourceAddress := submission.sourceIp.ipv4Word
                destinationAddress := targetIp.ipv4Word })
          transport := some (.udp udp) }
    else if targetIp.isIpv6 && submission.sourceIp.isIpv6 then
      Packet.serialize
        { ethernet := some { destination, source := ctx.localMac, etherType := 0x86DD }
          ip := some
            (.ipv6
              { nextHeader := 17, sourceAddress := submission.sourceIp.bytes
                destinationAddress := targetIp.bytes })
          transport := some (.udp udp) }
    else none

/-- The submission as `submit` keeps it: with its target and the source address selected for it. -/
def effective (submission : UDPSubmission) : Option UDPSubmission := do
  let destinationIp ← effectiveAddress ctx.inet submission.destinationIp submission.target
  let sourceIp ← sourceAddressFor ctx destinationIp
  some
    { submission with
      destinationIp
      sourceIp
      destinationIpv4 :=
        if destinationIp.isIpv4 then destinationIp.ipv4Word else submission.destinationIpv4 }

/-- `submit`. -/
def submit (answers : SubmitAnswers) (submission : UDPSubmission) (s : LinuxUDPScanTransport) :
    StatusCode × LinuxUDPScanTransport :=
  if submission.id = 0 ∨ submission.port.protocol ≠ .udp ∨ submission.port.number = 0 ∨
      submission.target = [] ∨ submission.id ∈ s.pending then
    (.invalidArgument, s)
  else if (effectiveAddress ctx.inet submission.destinationIp submission.target).isNone ∨
      submission.sourcePort = 0 then
    (.invalidArgument, s)
  else if !answers.preflight then (.permissionDenied, s)
  else
    match effective ctx submission with
    | none => (.permissionDenied, s)
    | some effective =>
      match composeFrame ctx answers.destinationMac effective with
      | none => (.permissionDenied, s)
      | some _ =>
        if !answers.stored then (.memoryError, s)
        else if answers.send = .ok then
          (.ok, { pending := s.pending.insert submission.id effective })
        else (answers.send, s)

/-- `cancel`. -/
def cancel (id : UDPProbeId) (s : LinuxUDPScanTransport) : LinuxUDPScanTransport where
  pending := s.pending.erase id

/-- `on_capture_event` when the capture fails, for one pending submission: it is told, and
retired. -/
def failPending (now : TimePoint) (id : UDPProbeId) (s : LinuxUDPScanTransport) :
    Option UDPResponse × LinuxUDPScanTransport :=
  if id ∈ s.pending then
    (some { id, kind := .socketError, receivedAt := now }, cancel id s)
  else (none, s)

/-! ### Dispatch -/

/-- Whether a datagram goes from the target of a submission to its source. -/
def addressesMatch (o : PacketObservation) (submission : UDPSubmission) : Bool :=
  match o.ipv4, o.ipv6 with
  | some ip, _ =>
    parseIpv4 submission.target = some ip.sourceAddress && ip.destinationAddress = ctx.sourceIpv4
  | none, some ip =>
    submission.sourceIp.isIpv6 && submission.destinationIp.isIpv6 &&
      ip.sourceAddress = submission.destinationIp.bytes &&
      ip.destinationAddress = submission.sourceIp.bytes
  | none, none => false

/-- Whether a datagram answers a submission. -/
def answersDatagram (o : PacketObservation) (udp : UDP) (submission : UDPSubmission) : Bool :=
  addressesMatch ctx o submission && udp.sourcePort = submission.port.number &&
    udp.destinationPort = submission.sourcePort

/-- `match_udp`. -/
def matchUdp (o : PacketObservation) (s : LinuxUDPScanTransport) : Option UDPProbeId :=
  match o.udp with
  | none => none
  | some udp => if o.valid then s.pending.findUnique (answersDatagram ctx o udp) else none

/-- Whether the IPv4 packet that an ICMP error quotes is that of a submission. -/
def quotedBy (quote : List UInt8) (submission : UDPSubmission) : Bool :=
  let headerSize := (quote.getD 0 0 &&& 0x0F).toNat * 4
  parseIpv4 submission.target = some (readU32 quote 16) &&
    readU32 quote 12 = ctx.sourceIpv4 &&
    readU16 quote headerSize = submission.sourcePort &&
    readU16 quote (headerSize + 2) = submission.port.number

/-- Whether an ICMP error quotes enough of a UDP packet over IPv4. -/
def quotesUdp (quote : List UInt8) : Bool :=
  let ihl := quote.getD 0 0 &&& 0x0F
  let headerSize := ihl.toNat * 4
  28 ≤ quote.length && quote.getD 0 0 >>> 4 = 4 && 5 ≤ ihl && headerSize + 8 ≤ quote.length &&
    Checksum.internet (quote.take headerSize) = 0 &&
    headerSize + 8 ≤ (readU16 quote 2).toNat && 8 ≤ readU16 quote (headerSize + 4) &&
    quote.getD 9 0 = 17

/-- `match_icmp`. -/
def matchIcmp (o : PacketObservation) (s : LinuxUDPScanTransport) : Option UDPProbeId :=
  match o.ipv4, o.icmp with
  | some ip, some icmp =>
    if o.valid && icmp.type = .destinationUnreachable && ip.destinationAddress = ctx.sourceIpv4 &&
        quotesUdp icmp.payload then
      s.pending.findUnique (quotedBy ctx icmp.payload)
    else none
  | _, _ => none

/-- Whether the IPv6 packet that an ICMPv6 error quotes is that of a submission. -/
def quotedBy6 (ip : IPv6) (quote : IPv6UdpQuote) (submission : UDPSubmission) : Bool :=
  submission.sourceIp.isIpv6 && submission.destinationIp.isIpv6 &&
    quote.ip.sourceAddress = submission.sourceIp.bytes &&
    quote.ip.destinationAddress = submission.destinationIp.bytes &&
    ip.destinationAddress = submission.sourceIp.bytes &&
    quote.sourcePort = submission.sourcePort && quote.destinationPort = submission.port.number

/-- `match_icmpv6`. -/
def matchIcmpv6 (o : PacketObservation) (s : LinuxUDPScanTransport) : Option UDPProbeId :=
  match o.ipv6, o.icmpv6 with
  | some ip, some icmpv6 =>
    if o.valid && icmpv6.type = .destinationUnreachable && icmpv6.code ≤ 4 then
      (parseIpv6UdpQuote icmpv6.payload).bind fun quote ↦
        s.pending.findUnique (quotedBy6 ip quote)
    else none
  | _, _ => none

/-- The kind of an ICMPv6 error. -/
def icmpv6Kind (code : UInt8) : UDPResponseKind :=
  if code = 4 then .icmpPortUnreachable
  else if code = 1 then .icmpAdministrativelyProhibited
  else if code = 0 ∨ code = 2 ∨ code = 3 then .icmpNetworkUnreachable
  else .malformed

/-- The kind of an ICMP error. -/
def icmpKind (code : UInt8) : UDPResponseKind :=
  if code = 3 then .icmpPortUnreachable
  else if code = 9 ∨ code = 10 ∨ code = 13 then .icmpAdministrativelyProhibited
  else if code = 0 ∨ code = 1 then .icmpNetworkUnreachable
  else .malformed

/-- The submission an observation is for, and the kind of evidence it is. -/
def classify (o : PacketObservation) (s : LinuxUDPScanTransport) :
    Option (UDPProbeId × UDPResponseKind) :=
  match matchUdp ctx o s with
  | some id => some (id, .datagram)
  | none =>
    match o.icmpv6 with
    | some icmpv6 => (matchIcmpv6 o s).map fun id ↦ (id, icmpv6Kind icmpv6.code)
    | none =>
      (matchIcmp ctx o s).bind fun id ↦ o.icmp.map fun icmp ↦ (id, icmpKind icmp.code)

/-- The response about an observation. A datagram is serialized again. -/
def responseFor (o : PacketObservation) (id : UDPProbeId) (kind : UDPResponseKind) :
    Option UDPResponse :=
  let response : UDPResponse := { id, kind, receivedAt := o.receivedAt }
  let response := match o.ipv4, o.ipv6 with
    | some ip, _ =>
      { response with
        sourceAddress := inetNtop4 ip.sourceAddress
        sourceIpv4 := ip.sourceAddress
        sourceIp := .fromIpv4 ip.sourceAddress }
    | none, some ip =>
      { response with
        sourceAddress := (IpAddress.fromIpv6 ip.sourceAddress).toText ctx.inet
        sourceIp := .fromIpv6 ip.sourceAddress }
    | none, none => response
  match o.udp with
  | none => some response
  | some udp =>
    udp.serialize.map fun bytes ↦
      { response with sourcePort := udp.sourcePort, destinationPort := udp.destinationPort, bytes }

/-- `dispatch_observation`: the response its callback is called with. Nothing else changes. -/
def dispatchObservation (o : PacketObservation) (s : LinuxUDPScanTransport) :
    Option UDPResponse :=
  (classify ctx o s).bind fun (id, kind) ↦ responseFor ctx o id kind

/-! ### Runs -/

/-- A call that may change what is pending. -/
inductive Event where
  | submit (answers : SubmitAnswers) (submission : UDPSubmission)
  | cancel (id : UDPProbeId)
  | failPending (now : TimePoint) (id : UDPProbeId)

def step (s : LinuxUDPScanTransport) : Event → LinuxUDPScanTransport
  | .submit answers submission => (submit ctx answers submission s).2
  | .cancel id => cancel id s
  | .failPending now id => (failPending now id s).2

/-- The submission that an event retires. -/
def Event.retires : Event → Option UDPProbeId
  | .submit _ _ => none
  | .cancel id => some id
  | .failPending _ id => some id

end LinuxUDPScanTransport

end Skan.Net
