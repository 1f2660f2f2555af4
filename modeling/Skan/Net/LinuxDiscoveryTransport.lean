import Skan.Discovery.Types
import Skan.Net.NetworkScanTransport
import Skan.Packet.NeighborOptions

/-!
# The discovery transport

`LinuxDiscoveryTransport` of `src/net/linux_discovery_transport.cpp`, once opened on an interface
and given a handler for its responses: the probes it has pending, the link-layer addresses of IPv6
neighbors that it has asked for, and the dispatch of captured packets.

As for the scan transport, the operating system is in the answers a call is given
(`DiscoveryAnswers`), and what the handler does with a response are further events. Its hash maps
may list their entries in any order, which may change at any time (`Event.reorder`).
-/

namespace Skan.Net

open Skan.Core Skan.Packet Skan.PortScan Skan.Discovery

/-- The operating system's part in a call; the clock is read when an address is looked for and again
when the frame is composed, and `stored` is whether there was memory for the pending probe. -/
structure DiscoveryAnswers where
  preflight : Bool := true
  neighborMacFor : UInt32 → Option MacAddress := fun _ ↦ some (Vector.replicate 6 0)
  now : TimePoint := 0
  composedAt : TimePoint := 0
  stored : Bool := true
  send : StatusCode := .ok

structure LinuxDiscoveryTransport.NeighborCacheEntry where
  mac : MacAddress
  expiresAt : TimePoint
  deriving DecidableEq

/-- The state of an open `LinuxDiscoveryTransport`. -/
structure LinuxDiscoveryTransport where
  pending : KeyedStore ProbeId ProbeSubmission := ∅
  neighborCache : KeyedStore IpAddress LinuxDiscoveryTransport.NeighborCacheEntry := ∅
  neighborTimers : List ProbeId := []

namespace LinuxDiscoveryTransport

variable (ctx : NetworkScanContext)

/-! ### Frames -/

/-- `source_address_for`, which is that of the scan transport. -/
def sourceAddressFor (targetIp : IpAddress) : Option IpAddress :=
  LinuxNetworkScanTransport.sourceAddressFor ctx targetIp

/-- `destination_mac`, which forgets an entry of the cache that has expired. -/
def destinationMac (answers : DiscoveryAnswers) (now : TimePoint) (targetIp : IpAddress)
    (s : LinuxDiscoveryTransport) : Option MacAddress × LinuxDiscoveryTransport :=
  if ctx.interfaceName = literal "lo" then (some (Vector.replicate 6 0), s)
  else if targetIp.isIpv6 then
    match s.neighborCache.lookup targetIp with
    | none => (none, s)
    | some entry =>
      if now < entry.expiresAt then (some entry.mac, s)
      else (none, { s with neighborCache := s.neighborCache.erase targetIp })
  else if targetIp.isIpv4 then (answers.neighborMacFor targetIp.ipv4Word, s)
  else (none, s)

/-- The ARP part of `compose_frame`. -/
def composeArp (submission : ProbeSubmission) : Option (List UInt8) :=
  if (parseIpv4Address submission.target).isNone ∨ submission.type ≠ .arp then none
  else do
    let arp ← ArpMessage.parse submission.packet
    if ctx.sourceIpv4 = 0 then none
    else
      let arp :=
        { arp with
          senderMac := ctx.localMac
          senderIpv4 := ctx.sourceIpv4
          targetMac := Vector.replicate 6 0 }
      let ethernet : Ethernet :=
        { destination := Vector.replicate 6 0xFF, source := ctx.localMac, etherType := 0x0806 }
      let header ← ethernet.serialize
      let payload ← arp.serialize
      some (header ++ payload)

/-- The transport of a probe over IPv4, and its protocol. -/
def transport4 (submission : ProbeSubmission) : Option (UInt8 × Transport) :=
  match submission.type with
  | .icmpEcho => (ICMP.parse submission.packet).map fun icmp ↦ (1, .icmp icmp)
  | .tcp => (TCP.parse submission.packet).map fun tcp ↦ (6, .tcp tcp)
  | .arp => none

/-- The transport of a probe over IPv6, and its protocol. -/
def transport6 (submission : ProbeSubmission) : Option (UInt8 × Transport) :=
  match submission.type with
  | .icmpEcho => (ICMPv6.parse submission.packet).map fun icmpv6 ↦ (58, .icmpv6 icmpv6)
  | .tcp => (TCP.parse submission.packet).map fun tcp ↦ (6, .tcp tcp)
  | .arp => none

/-- `compose_frame`; `mac` is what `destination_mac` answers, which is asked for IP packets only. -/
def composeFrame (mac : Option MacAddress) (submission : ProbeSubmission) : Option (List UInt8) :=
  match (effectiveAddress ctx.inet submission.targetIp submission.target).filter
    fun _ ↦ submission.type ≠ .arp with
  | none => composeArp ctx submission
  | some targetIp => do
    let destination ← mac
    if targetIp.isIpv4 && ctx.sourceIpv4 ≠ 0 then
      let (protocol, transport) ← transport4 submission
      Packet.serialize
        { ethernet := some { destination, source := ctx.localMac, etherType := 0x0800 }
          ip := some (.ipv4
            { protocol, sourceAddress := ctx.sourceIpv4
              destinationAddress := targetIp.ipv4Word })
          transport := some transport }
    else if targetIp.isIpv6 && submission.sourceIp.isIpv6 then
      let (nextHeader, transport) ← transport6 submission
      Packet.serialize
        { ethernet := some { destination, source := ctx.localMac, etherType := 0x86DD }
          ip := some (.ipv6
            { nextHeader, sourceAddress := submission.sourceIp.bytes
              destinationAddress := targetIp.bytes })
          transport := some transport }
    else none

/-- `compose_neighbor_solicitation`. -/
def composeNeighborSolicitation (submission : ProbeSubmission) : Option (List UInt8) :=
  if !submission.targetIp.isIpv6 || !submission.sourceIp.isIpv6 ||
      !submission.targetIp.isIpv6LinkLocal ||
      !ipv6ScopeMatchesInterface ctx.inet submission.targetIp ctx.interfaceName then
    none
  else do
    let message ← ICMPv6.makeNeighborSolicitation submission.targetIp.bytes (some ctx.localMac)
    let multicast := ICMPv6.solicitedNodeMulticast submission.targetIp.bytes
    let destination := ICMPv6.ethernetMulticast multicast
    Packet.serialize
      { ethernet := some { destination, source := ctx.localMac, etherType := 0x86DD }
        ip := some (.ipv6
          { nextHeader := 58, hopLimit := 255, sourceAddress := submission.sourceIp.bytes
            destinationAddress := multicast })
        transport := some (.icmpv6 message) }

/-! ### Submitting -/

/-- The part of `submit` that asks a neighbor for its link-layer address. The probe is pending
meanwhile. -/
def solicit (answers : DiscoveryAnswers) (submission : ProbeSubmission)
    (s : LinuxDiscoveryTransport) : StatusCode × LinuxDiscoveryTransport :=
  match composeNeighborSolicitation ctx submission with
  | none => (.permissionDenied, s)
  | some _ =>
    if answers.send ≠ .ok then (answers.send, s)
    else if !answers.stored then (.memoryError, s)
    else
      (.ok,
        { s with
          pending := s.pending.insert submission.id submission
          neighborTimers := s.neighborTimers.insert submission.id })

/-- The part of `submit` that sends the probe. -/
def launch (answers : DiscoveryAnswers) (submission : ProbeSubmission)
    (s : LinuxDiscoveryTransport) : StatusCode × LinuxDiscoveryTransport :=
  let (mac, s) := destinationMac ctx answers answers.composedAt submission.targetIp s
  match composeFrame ctx mac submission with
  | none => (.permissionDenied, s)
  | some _ =>
    if answers.send ≠ .ok then (answers.send, s)
    else if !answers.stored then (.memoryError, s)
    else (.ok, { s with pending := s.pending.insert submission.id submission })

/-- The submission with the addresses that `submit` selects for it. -/
def effectiveSubmission (submission : ProbeSubmission) (targetIp sourceIp : IpAddress) :
    ProbeSubmission :=
  { submission with
    targetIp
    sourceIp
    sourceIpv4 := if targetIp.isIpv4 then sourceIp.ipv4Word else submission.sourceIpv4 }

/-- `submit`. -/
def submit (answers : DiscoveryAnswers) (submission : ProbeSubmission)
    (s : LinuxDiscoveryTransport) : StatusCode × LinuxDiscoveryTransport :=
  if submission.id = 0 ∨ submission.target = [] ∨ submission.packet = [] ∨
      submission.id ∈ s.pending then
    (.invalidArgument, s)
  else
    match effectiveAddress ctx.inet submission.targetIp submission.target with
    | none => (.invalidArgument, s)
    | some targetIp =>
      if !answers.preflight then (.permissionDenied, s)
      else
        match sourceAddressFor ctx targetIp with
        | none => (.permissionDenied, s)
        | some sourceIp =>
          let effective := effectiveSubmission submission targetIp sourceIp
          if targetIp.isIpv6 then
            match destinationMac ctx answers answers.now targetIp s with
            | (none, s) => solicit ctx answers effective s
            | (some _, s) => launch ctx answers effective s
          else launch ctx answers effective s

/-! ### Neighbors -/

/-- `kNeighborCacheTtl`. -/
def neighborCacheTtl : TimePoint := 30000000000

/-- `kMaximumNeighborCacheEntries`. -/
def maximumNeighborCacheEntries : ℕ := 64

/-- Whether an entry of the cache goes before another one. -/
def older (left right : IpAddress × NeighborCacheEntry) : Bool :=
  if left.2.expiresAt ≠ right.2.expiresAt then left.2.expiresAt < right.2.expiresAt
  else left.1.lt right.1

/-- `std::min_element` over the cache. -/
def oldest (cache : KeyedStore IpAddress NeighborCacheEntry) : Option IpAddress :=
  let least := cache.entries.foldl (fun (best : Option (IpAddress × NeighborCacheEntry)) e ↦
    match best with
    | none => some (e.1, e.2)
    | some best => if older (e.1, e.2) best then some (e.1, e.2) else some best) none
  least.map Prod.fst

/-- The cache with the address of a neighbor: what has expired leaves, and the oldest entry when
there is no room. -/
def remember (address : IpAddress) (mac : MacAddress) (now : TimePoint)
    (cache : KeyedStore IpAddress NeighborCacheEntry) : KeyedStore IpAddress NeighborCacheEntry :=
  let cache := cache.keep fun entry ↦ now < entry.expiresAt
  let cache :=
    if address ∉ cache ∧ maximumNeighborCacheEntries ≤ cache.size then
      ((oldest cache).map cache.erase).getD cache
    else cache
  cache.insert address { mac, expiresAt := now + neighborCacheTtl }

/-- Whether an advertisement is the answer to the solicitation for a pending probe; `option` is its
first link-layer address. -/
def advertised (ip : IPv6) (ethernet : Ethernet) (target : Bytes16) (option : Icmpv6NeighborOption)
    (submission : ProbeSubmission) : Bool :=
  submission.targetIp.isIpv6 && option.type = 2 && submission.targetIp.bytes = target &&
    ip.sourceAddress = target &&
    ipv6ScopeMatchesInterface ctx.inet submission.targetIp ctx.interfaceName &&
    ethernet.source = option.mac

/-- The part of `dispatch_observation` about advertisements: the first probe that waits for one is
sent. There is no state when no probe does, and the dispatch goes on. -/
def resolveNeighbor (answers : DiscoveryAnswers) (o : PacketObservation)
    (s : LinuxDiscoveryTransport) : Option LinuxDiscoveryTransport :=
  match o.ipv6.filter fun _ ↦ o.valid,
    o.icmpv6.filter (·.type = .neighborAdvertisement), o.ethernet with
  | some ip, some icmpv6, some ethernet =>
    -- neither reading faults (`ICMPv6.neighborOptions_of_parse`)
    match icmpv6.neighborTarget, icmpv6.neighborOptions with
    | .ok (some target), .ok (option :: _) => do
      let id ← s.neighborTimers.find? fun id ↦
        (s.pending.lookup id).any (advertised ctx ip ethernet target option)
      let original ← s.pending.lookup id
      let s : LinuxDiscoveryTransport :=
        { s with
          neighborCache := remember original.targetIp option.mac answers.now s.neighborCache
          neighborTimers := s.neighborTimers.erase id }
      let (mac, s) := destinationMac ctx answers answers.composedAt original.targetIp s
      if (composeFrame ctx mac original).isNone ∨ answers.send ≠ .ok then
        some { s with pending := s.pending.erase id }
      else some s
    | _, _ => none
  | _, _, _ => none

/-! ### Quotes -/

/-- Whether the quoted segment is that of a probe. -/
def quotesTcp (transport : List UInt8) (submission : ProbeSubmission) : Bool :=
  (TCP.parse transport).any fun tcp ↦
    tcp.sourcePort = submission.sourcePort && tcp.destinationPort = submission.port &&
      tcp.sequenceNumber = submission.sequenceNumber

/-- Whether the quoted ICMP message is that of a probe. -/
def quotesEcho4 (transport : List UInt8) (submission : ProbeSubmission) : Bool :=
  (ICMP.parse transport).any fun icmp ↦
    icmp.type = .echoRequest && icmp.identifier = submission.correlationIdentifier &&
      icmp.sequence = submission.correlationSequence

/-- Whether the quoted ICMPv6 message is that of a probe. -/
def quotesEcho6 (transport : List UInt8) (submission : ProbeSubmission) : Bool :=
  (ICMPv6.parse transport).any fun icmpv6 ↦
    icmpv6.type = .echoRequest && icmpv6.identifier = submission.correlationIdentifier &&
      icmpv6.sequence = submission.correlationSequence

/-- Whether a quoted IPv4 packet is that of a probe. -/
def quotedBy4 (quotedIp : IPv4) (transport : List UInt8) (submission : ProbeSubmission) : Bool :=
  submission.targetIpv4 = quotedIp.destinationAddress &&
    submission.sourceIpv4 = quotedIp.sourceAddress &&
    if submission.type = .tcp ∧ quotedIp.protocol = 6 then quotesTcp transport submission
    else if submission.type = .icmpEcho ∧ quotedIp.protocol = 1 then
      quotesEcho4 transport submission
    else false

/-- Whether a quoted IPv6 packet is that of a probe, and the error went to its source. -/
def quotedBy6 (ip quotedIp : IPv6) (transport : List UInt8) (submission : ProbeSubmission) : Bool :=
  submission.targetIp.bytes = quotedIp.destinationAddress &&
    submission.sourceIp.bytes = quotedIp.sourceAddress &&
    ip.destinationAddress = submission.sourceIp.bytes &&
    if submission.type = .tcp ∧ quotedIp.nextHeader = 6 then quotesTcp transport submission
    else if submission.type = .icmpEcho ∧ quotedIp.nextHeader = 58 then
      quotesEcho6 transport submission
    else false

/-- The part of `dispatch_observation` about ICMPv6 errors: the pending probe that is quoted. -/
def quoted6 (o : PacketObservation) (s : LinuxDiscoveryTransport) :
    Option (ProbeId × ProbeSubmission) := do
  let ip ← o.ipv6.filter fun _ ↦ o.valid
  let icmpv6 ← o.icmpv6.filter (·.type = .destinationUnreachable)
  let quotedIp ← IPv6.parse icmpv6.payload
  if icmpv6.payload.length < quotedIp.serializedSize then none
  else s.pending.findFirst (quotedBy6 ip quotedIp (icmpv6.payload.drop quotedIp.serializedSize))

/-- The part about ICMP errors. -/
def quoted4 (o : PacketObservation) (s : LinuxDiscoveryTransport) :
    Option (ProbeId × ProbeSubmission) := do
  let _ ← o.ipv4.filter fun ip ↦ o.valid && ip.destinationAddress = ctx.sourceIpv4
  let icmp ← o.icmp.filter (·.type = .destinationUnreachable)
  let quotedIp ← IPv4.parse icmp.payload
  if icmp.payload.length < quotedIp.serializedSize then none
  else s.pending.findFirst (quotedBy4 quotedIp (icmp.payload.drop quotedIp.serializedSize))

/-! ### Answers -/

/-- What `dispatch_observation` has found when it comes to its end. -/
structure Answer where
  id : ProbeId
  bytes : List UInt8
  sourceAddress : Text
  sourceIp : IpAddress := {}

/-- Whether an echo reply answers a probe over IPv6. -/
def answersEcho6 (submission : ProbeSubmission) (icmpv6 : ICMPv6) : Bool :=
  submission.type = .icmpEcho && icmpv6.type = .echoReply && icmpv6.code = 0 &&
    icmpv6.identifier = submission.correlationIdentifier &&
    icmpv6.sequence = submission.correlationSequence

/-- Whether a segment answers a probe over IPv6. -/
def answersTcp6 (submission : ProbeSubmission) (tcp : TCP) : Bool :=
  submission.type = .tcp && tcp.sourcePort = submission.port &&
    tcp.destinationPort = submission.sourcePort &&
    (TCP.hasFlag tcp.flags .syn && TCP.hasFlag tcp.flags .ack &&
        tcp.acknowledgmentNumber = submission.sequenceNumber + 1 ||
      TCP.hasFlag tcp.flags .rst)

/-- The part about replies over IPv6. -/
def answered6 (o : PacketObservation) (s : LinuxDiscoveryTransport) : Option Answer := do
  let ip ← o.ipv6.filter fun _ ↦ o.valid
  let (id, submission) ← s.pending.findFirst fun submission ↦
    submission.targetIp.isIpv6 && submission.sourceIp.isIpv6 &&
      submission.targetIp.bytes = ip.sourceAddress &&
      submission.sourceIp.bytes = ip.destinationAddress &&
      (o.icmpv6.any (answersEcho6 submission) || o.tcp.any (answersTcp6 submission))
  let bytes :=
    match o.icmpv6.filter (answersEcho6 submission) with
    | some icmpv6 => icmpv6.serialize
    | none => o.tcp.bind TCP.serialize
  let sourceIp := { IpAddress.fromIpv6 ip.sourceAddress with scope := submission.targetIp.scope }
  some { id, bytes := bytes.getD [], sourceAddress := sourceIp.toText ctx.inet, sourceIp }

/-- Whether an ICMP message answers a probe over IPv4. Its type is left to the probe. -/
def answersEcho4 (ip : IPv4) (icmp : ICMP) (submission : ProbeSubmission) : Bool :=
  submission.type = .icmpEcho && submission.targetIpv4 = ip.sourceAddress &&
    icmp.identifier = submission.correlationIdentifier &&
    icmp.sequence = submission.correlationSequence

/-- Whether a segment answers a probe over IPv4. -/
def answersTcp4 (ip : IPv4) (tcp : TCP) (submission : ProbeSubmission) : Bool :=
  submission.type = .tcp && submission.targetIpv4 = ip.sourceAddress &&
    submission.port = tcp.sourcePort && submission.sourcePort = tcp.destinationPort &&
    (!TCP.hasFlag tcp.flags .ack || tcp.acknowledgmentNumber = submission.sequenceNumber + 1)

/-- The part about replies over IPv4. -/
def answered4 (o : PacketObservation) (s : LinuxDiscoveryTransport) : Option Answer := do
  let ip ← o.ipv4.filter fun ip ↦ o.valid && ip.destinationAddress = ctx.sourceIpv4
  let sourceAddress := inetNtop4 ip.sourceAddress
  match o.icmp, o.tcp with
  | some icmp, _ =>
    let (id, _) ← s.pending.findFirst (answersEcho4 ip icmp)
    some { id, bytes := icmp.serialize.getD [], sourceAddress }
  | none, some tcp =>
    let (id, _) ← s.pending.findFirst (answersTcp4 ip tcp)
    some { id, bytes := tcp.serialize.getD [], sourceAddress }
  | none, none => none

/-- Whether an ARP reply answers a probe. -/
def answersArp (ethernet : Option Ethernet) (arp : ArpMessage) (submission : ProbeSubmission) :
    Bool :=
  submission.type = .arp &&
    (ethernet.any fun e ↦ e.destination = ctx.localMac && e.source = arp.senderMac) &&
    arp.senderIpv4 = submission.targetIpv4 && arp.targetMac = ctx.localMac &&
    arp.targetIpv4 = submission.sourceIpv4 && arp.operation = 2

/-- The part about ARP replies. -/
def answeredArp (o : PacketObservation) (s : LinuxDiscoveryTransport) : Option Answer := do
  if o.rawFrame.length < 14 + ArpMessage.size then none
  else
    let ethernet ← Ethernet.parse o.rawFrame
    if ethernet.etherType ≠ 0x0806 then none
    else
      let arp ← ArpMessage.parse (o.rawFrame.drop 14)
      let (id, _) ← s.pending.findFirst (answersArp ctx o.ethernet arp)
      some
        { id
          bytes := (o.rawFrame.drop 14).take ArpMessage.size
          sourceAddress := inetNtop4 arp.senderIpv4 }

/-- `complete_unreachable`. -/
def unreachableResponse (o : PacketObservation) (id : ProbeId) (submission : ProbeSubmission) :
    DiscoveryResponse where
  probeId := id
  sourceAddress := submission.target
  sourceIp := submission.targetIp
  kind := .unreachable
  receivedAt := o.receivedAt

/-- The response to a probe that was answered. -/
def Answer.response (answer : Answer) (o : PacketObservation) : DiscoveryResponse where
  probeId := answer.id
  sourceAddress := answer.sourceAddress
  bytes := answer.bytes
  receivedAt := o.receivedAt
  sourceIp := answer.sourceIp

/-- `dispatch_observation`: the response its handler is called with. -/
def dispatchObservation (answers : DiscoveryAnswers) (o : PacketObservation)
    (s : LinuxDiscoveryTransport) : Option DiscoveryResponse × LinuxDiscoveryTransport :=
  match resolveNeighbor ctx answers o s with
  | some s => (none, s)
  | none =>
    match (quoted6 o s).or (quoted4 ctx o s) with
    | some (id, submission) =>
      (some (unreachableResponse o id submission), { s with pending := s.pending.erase id })
    | none =>
      match (answered6 ctx o s).or ((answered4 ctx o s).or (answeredArp ctx o s)) with
      | none => (none, s)
      | some answer =>
        if answer.bytes = [] then (none, s)
        else (some (answer.response o), { s with pending := s.pending.erase answer.id })

/-! ### Runs -/

inductive Event where
  | submit (answers : DiscoveryAnswers) (submission : ProbeSubmission)
  | neighborTimeout (id : ProbeId)
  | dispatchObservation (answers : DiscoveryAnswers) (o : PacketObservation)
  | reorder (pending : KeyedStore ProbeId ProbeSubmission) (neighborTimers : List ProbeId)

def step (s : LinuxDiscoveryTransport) : Event → LinuxDiscoveryTransport
  | .submit answers submission => (submit ctx answers submission s).2
  | .neighborTimeout id =>
    { s with pending := s.pending.erase id, neighborTimers := s.neighborTimers.erase id }
  | .dispatchObservation answers o => (dispatchObservation ctx answers o s).2
  | .reorder pending neighborTimers =>
    if pending.entries.Perm s.pending.entries ∧ neighborTimers.Perm s.neighborTimers then
      { s with pending, neighborTimers }
    else s

end LinuxDiscoveryTransport

end Skan.Net
