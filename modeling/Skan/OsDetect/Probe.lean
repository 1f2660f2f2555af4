import Skan.Discovery.Types
import Skan.OsDetect.Types
import Skan.Packet.IPv6Quote
import Skan.Packet.Packet

/-!
# OS probes

`DefinedOSProbe` of `src/osdetect/os_probe.cpp`: the twelve probes, how each is built, and what is
made of a response to it. A TCP answer is a whole IPv4 packet in one family and the bare segment in
the other, and each family has its own code (`assessTcp4`, `assessTcp6`).

When a submission was built is read by nothing and left out.
-/

namespace Skan.OsDetect

open Skan.Core Skan.Packet BigEndian

abbrev OSProbeId := UInt64

/-- `OSProbeConfig`, but for the timeout, which `build` does not read. -/
structure OSProbeConfig where
  probePort : UInt16 := 80
  sourceAddress : Text := literal "192.0.2.254"
  udpProbePort : UInt16 := 161
  udpProbePayload : List UInt8 := [0x53, 0x4B, 0x41, 0x4E]

structure OSProbeSubmission where
  id : OSProbeId := 0
  type : OSProbeType := .tcpSynStandard
  target : Text := []
  sourceAddress : Text := []
  destinationPort : UInt16 := 0
  sourcePort : UInt16 := 0
  sequenceNumber : UInt32 := 0
  correlationIdentifier : UInt16 := 0
  correlationSequence : UInt16 := 0
  bytes : List UInt8 := []
  status : OSProbeStatus := .generated
  sourceIp : IpAddress := {}
  targetIp : IpAddress := {}
  deriving DecidableEq

structure OSProbeResponse where
  id : OSProbeId := 0
  sourceAddress : Text := []
  destinationAddress : Text := []
  kind : OSProbeResponseKind := .data
  bytes : List UInt8 := []
  ipTtl : UInt8 := 0
  ipIdentification : UInt16 := 0
  ipDontFragment : Bool := false
  receivedAt : TimePoint := 0
  sourceIp : IpAddress := {}
  destinationIp : IpAddress := {}
  deriving DecidableEq

inductive OSProbeDisposition where
  | matching
  | unrelated
  | malformed
  deriving DecidableEq

structure OSProbeAssessment where
  status : StatusCode := .ok
  disposition : OSProbeDisposition := .unrelated
  responseBehavior : ResponseBehavior := .unknown
  tcpObservation : Option TCPObservation := none
  icmpObservation : Option ICMPObservation := none
  udpObservation : Option UDPObservation := none
  deriving DecidableEq

namespace DefinedOSProbe

def sourcePortFor (id : OSProbeId) : UInt16 := (40000 + id % 20000).toUInt16

def sequenceFor (id : OSProbeId) : UInt32 := 0x51000000 ^^^ id.toUInt32

/-! ### Building -/

/-- The payload of an echo request. -/
def echoPayload : List UInt8 := [0x53, 0x4B, 0x41, 0x4E]

/-- The flags of a TCP probe. -/
def flagsFor : OSProbeType → UInt16
  | .tcpEcn => TCP.Flag.syn.bit ||| TCP.Flag.ece.bit ||| TCP.Flag.cwr.bit
  | .tcpClosedStandard => TCP.Flag.fin.bit ||| TCP.Flag.psh.bit ||| TCP.Flag.urg.bit
  | .tcpClosedVariant => TCP.Flag.ack.bit ||| TCP.Flag.fin.bit
  | .tcpAck => TCP.Flag.ack.bit
  | .tcpFin => TCP.Flag.fin.bit
  | .tcpNull => 0
  | .tcpXmas => TCP.Flag.fin.bit ||| TCP.Flag.psh.bit ||| TCP.Flag.urg.bit
  | _ => TCP.Flag.syn.bit

/-- The options of a TCP probe. -/
def optionsFor : OSProbeType → List TcpOption
  | .tcpSynVariant =>
    [{ kind := .mss, value := 1460 }, { kind := .windowScale, value := 8 },
      { kind := .sackPermitted }]
  | _ =>
    [{ kind := .mss, value := 1460 }, { kind := .sackPermitted },
      { kind := .timestamp, value := 1, timestampValue := 1 }, { kind := .windowScale, value := 7 }]

/-- The segment of a TCP probe. -/
def segmentFor (submission : OSProbeSubmission) : TCP :=
  TCP.setOptions (optionsFor submission.type)
    { sourcePort := submission.sourcePort
      destinationPort := submission.destinationPort
      sequenceNumber := submission.sequenceNumber
      flags := flagsFor submission.type
      window := if submission.type = .tcpSynVariant then 65535 else 64240 }

/-- The bytes of a probe to an IPv6 host. -/
def bytes6 (config : OSProbeConfig) (submission : OSProbeSubmission) : Option (List UInt8) :=
  let source := submission.sourceIp.bytes
  let destination := submission.targetIp.bytes
  match submission.type with
  | .icmpEcho =>
    let echo : ICMPv6 :=
      { ({} : ICMPv6).setIdentifier submission.correlationIdentifier
          |>.setSequence submission.correlationSequence with
        payload := echoPayload }
    echo.serializeWithChecksum source destination
  | .udpFingerprint =>
    let udp : UDP :=
      { sourcePort := submission.sourcePort, destinationPort := config.udpProbePort
        payload := config.udpProbePayload }
    udp.serializeWithChecksum6 source destination
  | _ =>
    let ip : IPv6 := { nextHeader := 6, sourceAddress := source, destinationAddress := destination }
    Packet.serialize
      { ip := some (.ipv6 ip), transport := some (.tcp (segmentFor submission)) }

/-- The bytes of a probe to an IPv4 host. An echo request that cannot be serialized is taken for
one that can. -/
def bytes4 (config : OSProbeConfig) (submission : OSProbeSubmission) : Option (List UInt8) :=
  match submission.type with
  | .icmpEcho =>
    let echo : ICMP :=
      { identifier := submission.correlationIdentifier, sequence := submission.correlationSequence
        payload := echoPayload }
    some (echo.serialize.getD [])
  | .udpFingerprint =>
    UDP.serialize
      { sourcePort := submission.sourcePort, destinationPort := config.udpProbePort
        payload := config.udpProbePayload }
  | type =>
    let ip : IPv4 :=
      { sourceAddress := submission.sourceIp.ipv4Word
        destinationAddress := submission.targetIp.ipv4Word
        protocol := 6
        ttl := if type = .tcpSynVariant then 64 else 128
        flagsFragmentOffset := if type = .tcpNull then 0 else 0x4000 }
    Packet.serialize
      { ip := some (.ipv4 ip), transport := some (.tcp (segmentFor submission)) }

/-- The source address of a probe to the given host; an IPv4 one must be configured. -/
def sourceFor (inet : Inet) (config : OSProbeConfig) (destination : IpAddress) :
    Option IpAddress :=
  let configured := parseIpAddress inet config.sourceAddress
  if destination.isIpv6 then
    let source := (configured.filter (·.isIpv6)).getD (.fromIpv6 (Vector.replicate 16 0))
    some (if destination.isIpv6LinkLocal then { source with scope := destination.scope } else
      source)
  else configured.filter (·.isIpv4)

/-- The submission but for its bytes. -/
def submissionFor (inet : Inet) (type : OSProbeType) (id : OSProbeId) (config : OSProbeConfig)
    (source destination : IpAddress) : OSProbeSubmission where
  id
  type
  target := destination.toText inet
  sourceAddress := source.toText inet
  destinationPort := if type = .udpFingerprint then config.udpProbePort else config.probePort
  sourcePort := sourcePortFor id
  sequenceNumber := sequenceFor id
  correlationIdentifier := if type = .icmpEcho then (id &&& 0xFFFF).toUInt16 else 0
  correlationSequence := if type = .icmpEcho then (id >>> 16 &&& 0xFFFF).toUInt16 else 0
  sourceIp := source
  targetIp := destination

/-- `build`. -/
def build (inet : Inet) (type : OSProbeType) (id : OSProbeId) (host : Host)
    (config : OSProbeConfig) : Except StatusCode OSProbeSubmission :=
  match PortScan.effectiveAddress inet host.ipAddress host.address with
  | none => .error .invalidArgument
  | some destination =>
    if config.probePort = 0 then .error .invalidArgument
    else
      match sourceFor inet config destination with
      | none => .error .invalidArgument
      | some source =>
        let submission := submissionFor inet type id config source destination
        let bytes :=
          if destination.isIpv6 then bytes6 config submission else bytes4 config submission
        match bytes with
        | none => .error .invalidArgument
        | some bytes => .ok { submission with bytes }

/-! ### Assessment -/

/-- The assessment of bytes that are not an answer at all. -/
def malformed : OSProbeAssessment where
  status := .parseError
  disposition := .malformed
  responseBehavior := .malformed

/-- The hop limit of a response; zero is none. -/
def observedTtl (response : OSProbeResponse) : ObservedValue UInt8 :=
  if response.ipTtl = 0 then .absent else .observed response.ipTtl

/-- A matching ICMP observation. -/
def echoMatch (response : OSProbeResponse) (type code : UInt8) (family : AddressFamily)
    (protocol : OSProtocol) : OSProbeAssessment where
  disposition := .matching
  responseBehavior := .echoReply
  icmpObservation := some
    { ttl := observedTtl response, type := .observed type, code := .observed code
      responseBehavior := .echoReply, family, protocol }

def assessIcmp6 (response : OSProbeResponse) (submission : OSProbeSubmission) :
    OSProbeAssessment :=
  match ICMPv6.parse response.bytes with
  | none => malformed
  | some icmp =>
    if icmp.type ≠ .echoReply ∨ icmp.code ≠ 0 ∨
        icmp.identifier ≠ submission.correlationIdentifier ∨
        icmp.sequence ≠ submission.correlationSequence then
      {}
    else echoMatch response icmp.type.toByte icmp.code .ipv6 .icmpv6

def assessIcmp4 (response : OSProbeResponse) (submission : OSProbeSubmission) :
    OSProbeAssessment :=
  match ICMP.parse response.bytes with
  | none => malformed
  | some icmp =>
    if icmp.type ≠ .echoReply ∨ icmp.identifier ≠ submission.correlationIdentifier ∨
        icmp.sequence ≠ submission.correlationSequence then
      {}
    else echoMatch response icmp.type.toByte icmp.code .ipv4 .icmpv4

/-- A matching UDP observation, of an answer or of an ICMP error. -/
def udpMatch (observation : UDPObservation) (responseBehavior : ResponseBehavior) :
    OSProbeAssessment where
  disposition := .matching
  responseBehavior
  udpObservation := some { observation with responseBehavior }

/-- The assessment of a UDP answer; `observation` is what the IP header shows. -/
def assessUdpAnswer (observation : UDPObservation) (response : OSProbeResponse)
    (submission : OSProbeSubmission) : OSProbeAssessment :=
  match UDP.parse response.bytes with
  | none => malformed
  | some udp =>
    if udp.sourcePort ≠ submission.destinationPort ∨
        udp.destinationPort ≠ submission.sourcePort then
      malformed
    else
      udpMatch
        { observation with
          sourcePort := udp.sourcePort, destinationPort := udp.destinationPort
          payloadLength := .observed udp.payload.length }
        .udpResponse

/-- Whether an ICMPv6 error quotes the probe. -/
def quotesProbe6 (icmp : ICMPv6) (submission : OSProbeSubmission) : Bool :=
  icmp.type = .destinationUnreachable &&
    (parseIpv6UdpQuote icmp.payload).any fun quote ↦
      quote.ip.sourceAddress = submission.sourceIp.bytes &&
        quote.ip.destinationAddress = submission.targetIp.bytes &&
        quote.sourcePort = submission.sourcePort &&
        quote.destinationPort = submission.destinationPort

def assessUdp6 (response : OSProbeResponse) (submission : OSProbeSubmission) :
    OSProbeAssessment :=
  let observation : UDPObservation := { ttl := observedTtl response, family := .ipv6 }
  if response.kind = .icmpError then
    match ICMPv6.parse response.bytes with
    | none => malformed
    | some icmp =>
      if !quotesProbe6 icmp submission then malformed
      else udpMatch observation (if icmp.code = 4 then .portUnreachable else .malformed)
  else assessUdpAnswer observation response submission

/-- Whether an ICMP error carries the start of an IPv4 UDP packet. -/
def quotesUdp4 (icmp : ICMP) : Bool :=
  let quoted := icmp.payload
  let ihl := quoted.getD 0 0 &&& 0x0F
  let headerSize := ihl.toNat * 4
  icmp.type = .destinationUnreachable && 28 ≤ quoted.length && quoted.getD 0 0 >>> 4 = 4 &&
    5 ≤ ihl && headerSize + 8 ≤ quoted.length &&
    Checksum.internet (quoted.take headerSize) = 0 && quoted.getD 9 0 = 17

/-- Whether the UDP packet an ICMP error carries is the probe. -/
def quotesProbe4 (source destination : UInt32) (icmp : ICMP) (submission : OSProbeSubmission) :
    Bool :=
  let quoted := icmp.payload
  let headerSize := (quoted.getD 0 0 &&& 0x0F).toNat * 4
  8 ≤ readU16 quoted (headerSize + 4) && readU32 quoted 12 = source &&
    readU32 quoted 16 = destination && readU16 quoted headerSize = submission.sourcePort &&
    readU16 quoted (headerSize + 2) = submission.destinationPort

def assessUdp4 (response : OSProbeResponse) (submission : OSProbeSubmission) :
    OSProbeAssessment :=
  match Discovery.parseIpv4Address submission.sourceAddress,
      Discovery.parseIpv4Address submission.target with
  | some source, some destination =>
    let observation : UDPObservation :=
      { ttl := observedTtl response
        ipIdentification :=
          if response.ipIdentification = 0 then .absent else .observed response.ipIdentification
        dontFragment := if response.ipDontFragment then .observed true else .absent
        family := .ipv4 }
    if response.kind = .icmpError then
      match ICMP.parse response.bytes with
      | none => malformed
      | some icmp =>
        if !quotesUdp4 icmp then malformed
        else if !quotesProbe4 source destination icmp submission then {}
        else udpMatch observation (if icmp.code = 3 then .portUnreachable else .malformed)
    else assessUdpAnswer observation response submission
  | _, _ => { malformed with status := .invalidArgument }

def isRst (tcp : TCP) : Bool := TCP.hasFlag tcp.flags .rst

def isSynAck (tcp : TCP) (submission : OSProbeSubmission) : Bool :=
  TCP.hasFlag tcp.flags .syn && TCP.hasFlag tcp.flags .ack &&
    tcp.acknowledgmentNumber = submission.sequenceNumber + 1

/-- What an answering segment shows; an RST comes first. -/
def behaviorOf (tcp : TCP) : ResponseBehavior := if isRst tcp then .rst else .synAck

/-- A matching TCP observation. -/
def tcpMatch (observation : TCPObservation) (responseBehavior : ResponseBehavior) :
    OSProbeAssessment where
  disposition := .matching
  responseBehavior
  tcpObservation := some observation

/-- The observation of an IPv6 answer. -/
def observeTcp6 (inet : Inet) (response : OSProbeResponse) (tcp : TCP) : TCPObservation where
  sourceAddress := response.sourceIp.toText inet
  destinationAddress := response.destinationIp.toText inet
  sourcePort := tcp.sourcePort
  destinationPort := tcp.destinationPort
  ttl := observedTtl response
  window := .observed tcp.window
  flags := tcp.flags
  options := tcp.options.map (·.kind)
  sequenceNumber := .observed tcp.sequenceNumber
  acknowledgmentNumber := .observed tcp.acknowledgmentNumber
  ackBehavior := if isRst tcp then .rstWithoutAck else .acknowledgesSyn
  responseBehavior := behaviorOf tcp
  probeStatus := .responseReceived
  family := .ipv6
  protocol := .tcp

def assessTcp6 (inet : Inet) (response : OSProbeResponse) (submission : OSProbeSubmission) :
    OSProbeAssessment :=
  match TCP.parse response.bytes with
  | none => malformed
  | some tcp =>
    if tcp.sourcePort ≠ submission.destinationPort ∨
        tcp.destinationPort ≠ submission.sourcePort then
      malformed
    else if !isRst tcp && !isSynAck tcp submission then {}
    else tcpMatch (observeTcp6 inet response tcp) (behaviorOf tcp)

/-- The segment of an IPv4 packet. -/
def segment4 (ip : IPv4) (bytes : List UInt8) : Option TCP :=
  if ip.ihl.toNat * 4 > bytes.length then none else TCP.parse (bytes.drop (ip.ihl.toNat * 4))

/-- Whether a packet comes from the probed port of the target to the probe's own. -/
def fromProbed4 (ip : IPv4) (tcp : TCP) (submission : OSProbeSubmission) : Bool :=
  Discovery.parseIpv4Address submission.target = some ip.sourceAddress &&
    Discovery.parseIpv4Address submission.sourceAddress = some ip.destinationAddress &&
    tcp.sourcePort = submission.destinationPort && tcp.destinationPort = submission.sourcePort

def assessTcp4 (response : OSProbeResponse) (submission : OSProbeSubmission) :
    OSProbeAssessment :=
  match IPv4.parse response.bytes with
  | none => malformed
  | some ip =>
    if ip.protocol ≠ 6 then malformed
    else
      match segment4 ip response.bytes with
      | none => malformed
      | some tcp =>
        if !fromProbed4 ip tcp submission then {}
        else if !isRst tcp && !isSynAck tcp submission then {}
        else
          tcpMatch
            (observeTcpResponse submission.target submission.sourceAddress ip tcp (behaviorOf tcp))
            (behaviorOf tcp)

/-- Whether the addresses of a response, where it has any, are those of the submission. -/
def addressed (response : OSProbeResponse) (submission : OSProbeSubmission) : Bool :=
  (response.sourceAddress = [] || response.sourceAddress = submission.target) &&
    (response.destinationAddress = [] ||
      response.destinationAddress = submission.sourceAddress)

/-- Whether the typed addresses of a response are those of the submission. -/
def addressed6 (response : OSProbeResponse) (submission : OSProbeSubmission) : Bool :=
  response.sourceIp.valid && response.destinationIp.valid &&
    response.sourceIp = submission.targetIp && response.destinationIp = submission.sourceIp

/-- `assess`. -/
def assess (inet : Inet) (response : OSProbeResponse) (submission : OSProbeSubmission) :
    OSProbeAssessment :=
  if response.kind = .error then
    { status := .ioError, disposition := .matching, responseBehavior := .noResponse }
  else if !addressed response submission then {}
  else if submission.targetIp.isIpv6 then
    if !addressed6 response submission then {}
    else
      match submission.type with
      | .icmpEcho => assessIcmp6 response submission
      | .udpFingerprint => assessUdp6 response submission
      | _ => assessTcp6 inet response submission
  else
    match submission.type with
    | .icmpEcho => assessIcmp4 response submission
    | .udpFingerprint => assessUdp4 response submission
    | _ => assessTcp4 response submission

end DefinedOSProbe

end Skan.OsDetect
