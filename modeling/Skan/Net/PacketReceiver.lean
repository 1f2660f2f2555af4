import Skan.Packet.Packet

/-!
# Captured frames

`PacketReceiver::parse` of `src/net/packet_receiver.cpp`: a captured frame to a `PacketObservation`,
with what was recognised before the parser gave up and the status that says why. The parser's early
returns are layered here as the protocols are: Ethernet, then IP, then the transport.

`parse_serialize_packet` is the round trip with `Packet::serialize`. The parser refuses frames of
more than 65535 bytes, **Ethernet header included**, so the largest IP packets do not make it back
(`parse_oversized`). -/

namespace Skan.Net

open Skan.Core Skan.Packet BigEndian

inductive ParseStatus where
  | valid
  | emptyFrame
  | oversizedFrame
  | truncatedEthernet
  | malformedEthernet
  | unsupportedEtherType
  | truncatedIPv4
  | malformedIPv4
  | truncatedIPv6
  | malformedIPv6
  | unsupportedIPv6Extension
  | malformedIPv6Extension
  | ipv6ExtensionLimitExceeded
  | fragmentedIPv6
  | unsupportedIpProtocol
  | truncatedTCP
  | malformedTCP
  | truncatedUDP
  | malformedUDP
  | truncatedICMP
  | malformedICMP
  | truncatedICMPv6
  | malformedICMPv6
  deriving DecidableEq

/-- `PacketObservation`. -/
structure PacketObservation where
  receivedAt : TimePoint := 0
  rawFrame : List UInt8 := []
  ethernet : Option Ethernet := none
  vlanTci : Option UInt16 := none
  ipv4 : Option IPv4 := none
  ipv6 : Option IPv6 := none
  ipv6Extensions : IPv6ExtensionParseResult := {}
  tcp : Option TCP := none
  udp : Option UDP := none
  icmp : Option ICMP := none
  icmpv6 : Option ICMPv6 := none
  status : ParseStatus := .emptyFrame
  deriving DecidableEq

namespace PacketObservation

def valid (o : PacketObservation) : Bool := o.status = .valid

end PacketObservation

namespace PacketReceiver

variable {o : PacketObservation} {transport : List UInt8}

/-! ### Transports -/

/-- The TCP cases; `checksum` is the checksum with the packet's pseudo-header. -/
def parseTcp (checksum : List UInt8 → UInt16) (o : PacketObservation) (transport : List UInt8) :
    PacketObservation :=
  if transport.length < 20 then { o with status := .truncatedTCP }
  else
    let o := { o with tcp := TCP.parse transport }
    if o.tcp.isNone ∨ checksum transport ≠ 0 then { o with status := .malformedTCP }
    else { o with status := .valid }

/-- The UDP cases; a datagram may end before its packet does. -/
def parseUdp (malformed : UDP → List UInt8 → Bool) (o : PacketObservation)
    (transport : List UInt8) : PacketObservation :=
  if transport.length < 8 then { o with status := .truncatedUDP }
  else
    let udpLength := (readU16 transport 4).toNat
    if udpLength < 8 then { o with status := .malformedUDP }
    else if udpLength > transport.length then { o with status := .truncatedUDP }
    else
      let udpPacket := transport.take udpLength
      let o := { o with udp := UDP.parse udpPacket }
      if o.udp.all (malformed · udpPacket) then { o with status := .malformedUDP }
      else { o with status := .valid }

def parseIcmp (o : PacketObservation) (transport : List UInt8) : PacketObservation :=
  if transport.length < 8 then { o with status := .truncatedICMP }
  else
    let o := { o with icmp := ICMP.parse transport }
    if o.icmp.isNone then { o with status := .malformedICMP } else { o with status := .valid }

def parseIcmpv6 (checksum : List UInt8 → UInt16) (o : PacketObservation)
    (transport : List UInt8) : PacketObservation :=
  if transport.length < 8 then { o with status := .truncatedICMPv6 }
  else
    let o := { o with icmpv6 := ICMPv6.parse transport }
    if o.icmpv6.isNone ∨ checksum transport ≠ 0 then { o with status := .malformedICMPv6 }
    else { o with status := .valid }

/-- The transport of an IPv4 packet; a UDP checksum of zero is an absent one. -/
def parseTransport4 (ip : IPv4) (o : PacketObservation) (transport : List UInt8) :
    PacketObservation :=
  let checksum := Checksum.ipv4PseudoHeader ip.sourceAddress ip.destinationAddress ip.protocol
  if ip.protocol = 6 then parseTcp checksum o transport
  else if ip.protocol = 17 then
    parseUdp (fun udp bytes ↦ udp.checksum ≠ 0 && checksum bytes ≠ 0) o transport
  else if ip.protocol = 1 then parseIcmp o transport
  else { o with status := .unsupportedIpProtocol }

/-- The transport of an IPv6 packet, where a UDP checksum must be there. -/
def parseTransport6 (ip : IPv6) (protocol : UInt8) (o : PacketObservation)
    (transport : List UInt8) : PacketObservation :=
  let checksum := Checksum.ipv6PseudoHeader ip.sourceAddress ip.destinationAddress protocol
  if protocol = 6 then parseTcp checksum o transport
  else if protocol = 17 then
    parseUdp (fun udp bytes ↦ udp.checksum = 0 || checksum bytes ≠ 0) o transport
  else if protocol = 58 then parseIcmpv6 checksum o transport
  else { o with status := .unsupportedIpProtocol }

/-! ### IP packets -/

/-- The IPv6 part of `parse`. -/
def parseIpv6 (o : PacketObservation) (ipInput : List UInt8) : PacketObservation :=
  if ipInput.length < 40 then { o with status := .truncatedIPv6 }
  else if ipInput.getD 0 0 >>> 4 ≠ 6 then { o with status := .malformedIPv6 }
  else
    let payloadSize := (readU16 ipInput 4).toNat
    if payloadSize > ipInput.length - 40 then { o with status := .truncatedIPv6 }
    else
      let ipPacket := ipInput.take (40 + payloadSize)
      match IPv6.parse ipPacket with
      | none => { o with status := .malformedIPv6 }
      | some ip =>
        let payload := ipPacket.drop 40
        let extensions := parseIpv6Extensions payload ip.nextHeader 8 2048
        let o := { o with ipv6 := some ip, ipv6Extensions := extensions }
        match extensions.status with
        | .malformed => { o with status := .malformedIPv6Extension }
        | .limitExceeded => { o with status := .ipv6ExtensionLimitExceeded }
        | .unsupported => { o with status := .unsupportedIPv6Extension }
        | .noNextHeader => { o with status := .unsupportedIpProtocol }
        | .complete =>
          if extensions.headers.any (·.kind = .fragment) then { o with status := .fragmentedIPv6 }
          else
            parseTransport6 ip extensions.terminalNextHeader o
              (payload.drop extensions.consumedBytes)

/-- The IPv4 part of `parse`. -/
def parseIpv4 (o : PacketObservation) (ipInput : List UInt8) : PacketObservation :=
  if ipInput.length < 20 then { o with status := .truncatedIPv4 }
  else
    let version := ipInput.getD 0 0 >>> 4
    let ihl := ipInput.getD 0 0 &&& 0x0F
    let headerSize := ihl.toNat * 4
    if version ≠ 4 ∨ ihl ≠ 5 then { o with status := .malformedIPv4 }
    else if ipInput.length < headerSize then { o with status := .truncatedIPv4 }
    else
      let totalLength := (readU16 ipInput 2).toNat
      if totalLength < headerSize then { o with status := .malformedIPv4 }
      else if totalLength > ipInput.length then { o with status := .truncatedIPv4 }
      else
        let ipPacket := ipInput.take totalLength
        match IPv4.parse ipPacket with
        | none => { o with status := .malformedIPv4 }
        | some ip => parseTransport4 ip { o with ipv4 := some ip } (ipPacket.drop headerSize)

/-! ### Frames -/

/-- What follows the Ethernet header and its VLAN tag. -/
def parseNetwork (o : PacketObservation) (etherType : UInt16) (ipInput : List UInt8) :
    PacketObservation :=
  if etherType = 0x86DD then parseIpv6 o ipInput
  else if etherType ≠ 0x0800 then { o with status := .unsupportedEtherType }
  else parseIpv4 o ipInput

/-- `kMaximumFrameSize`. -/
def maximumFrameSize : ℕ := 65535

/-- `parse`. -/
def parse (frame : List UInt8) (receivedAt : TimePoint) (maxFrameSize : ℕ := 65535) :
    PacketObservation :=
  let o : PacketObservation := { receivedAt }
  let effective := min maxFrameSize maximumFrameSize
  if effective = 0 ∨ frame.length > effective then { o with status := .oversizedFrame }
  else if frame = [] then { o with status := .emptyFrame }
  else
    let o := { o with rawFrame := frame }
    if frame.length < 14 then { o with status := .truncatedEthernet }
    else
      match Ethernet.parse (frame.take 14) with
      | none => { o with status := .malformedEthernet }
      | some ethernet =>
        let o := { o with ethernet := some ethernet }
        if ethernet.etherType = 0x8100 ∨ ethernet.etherType = 0x88A8 then
          if frame.length < 18 then { o with status := .truncatedEthernet }
          else
            parseNetwork { o with vlanTci := some (readU16 frame 14) } (readU16 frame 16)
              (frame.drop 18)
        else parseNetwork o ethernet.etherType (frame.drop 14)

/-! ### What an observation can hold -/

/-- No transport has been recognised yet. -/
structure NoTransport (o : PacketObservation) : Prop where
  tcp : o.tcp = none
  udp : o.udp = none
  icmp : o.icmp = none
  icmpv6 : o.icmpv6 = none

/-- What holds of every observation of the parser: at most one IP header and at most one transport,
ICMP over IPv4 and ICMPv6 over IPv6 only, and the transport is what its own parser returned. -/
structure Parsed (o : PacketObservation) : Prop where
  ip : o.ipv4 = none ∨ o.ipv6 = none
  tcp : ∀ t, o.tcp = some t →
    (∃ input, TCP.parse input = some t) ∧ o.udp = none ∧ o.icmp = none ∧ o.icmpv6 = none
  udp : ∀ u, o.udp = some u →
    (∃ input, UDP.parse input = some u) ∧ o.tcp = none ∧ o.icmp = none ∧ o.icmpv6 = none
  icmp : ∀ m, o.icmp = some m →
    (∃ input, ICMP.parse input = some m) ∧ o.ipv6 = none ∧ o.tcp = none ∧ o.udp = none ∧
      o.icmpv6 = none
  icmpv6 : ∀ m, o.icmpv6 = some m →
    (∃ input, ICMPv6.parse input = some m) ∧ o.ipv4 = none ∧ o.tcp = none ∧ o.udp = none ∧
      o.icmp = none

/-- An observation without a transport claims nothing about transports. -/
theorem NoTransport.parsed (h : NoTransport o) (hip : o.ipv4 = none ∨ o.ipv6 = none)
    (status : ParseStatus) : Parsed { o with status } where
  ip := hip
  tcp t ht := absurd (h.tcp.symm.trans ht) (by simp)
  udp u hu := absurd (h.udp.symm.trans hu) (by simp)
  icmp m hm := absurd (h.icmp.symm.trans hm) (by simp)
  icmpv6 m hm := absurd (h.icmpv6.symm.trans hm) (by simp)

section

variable {o : PacketObservation} (h : NoTransport o) (hip : o.ipv4 = none ∨ o.ipv6 = none)

include h hip

theorem parsed_parseTcp (checksum : List UInt8 → UInt16) (transport : List UInt8) :
    Parsed (parseTcp checksum o transport) := by
  have hentered : ∀ status, Parsed { o with tcp := TCP.parse transport, status } := fun status ↦
    ⟨hip, fun t ht ↦ ⟨⟨transport, ht⟩, h.udp, h.icmp, h.icmpv6⟩,
      fun u hu ↦ absurd (h.udp.symm.trans hu) (by simp),
      fun m hm ↦ absurd (h.icmp.symm.trans hm) (by simp),
      fun m hm ↦ absurd (h.icmpv6.symm.trans hm) (by simp)⟩
  rw [parseTcp]
  dsimp only
  split_ifs
  · exact h.parsed hip _
  · exact hentered _
  · exact hentered _

theorem parsed_parseUdp (malformed : UDP → List UInt8 → Bool) (transport : List UInt8) :
    Parsed (parseUdp malformed o transport) := by
  have hentered : ∀ input status, Parsed { o with udp := UDP.parse input, status } :=
    fun input status ↦
      ⟨hip, fun t ht ↦ absurd (h.tcp.symm.trans ht) (by simp),
        fun u hu ↦ ⟨⟨input, hu⟩, h.tcp, h.icmp, h.icmpv6⟩,
        fun m hm ↦ absurd (h.icmp.symm.trans hm) (by simp),
        fun m hm ↦ absurd (h.icmpv6.symm.trans hm) (by simp)⟩
  rw [parseUdp]
  dsimp only
  split_ifs
  · exact h.parsed hip _
  · exact h.parsed hip _
  · exact h.parsed hip _
  · exact hentered _ _
  · exact hentered _ _

theorem parsed_parseIcmp (hv4 : o.ipv6 = none) (transport : List UInt8) :
    Parsed (parseIcmp o transport) := by
  have hentered : ∀ status, Parsed { o with icmp := ICMP.parse transport, status } := fun status ↦
    ⟨hip, fun t ht ↦ absurd (h.tcp.symm.trans ht) (by simp),
      fun u hu ↦ absurd (h.udp.symm.trans hu) (by simp),
      fun m hm ↦ ⟨⟨transport, hm⟩, hv4, h.tcp, h.udp, h.icmpv6⟩,
      fun m hm ↦ absurd (h.icmpv6.symm.trans hm) (by simp)⟩
  rw [parseIcmp]
  dsimp only
  split_ifs
  · exact h.parsed hip _
  · exact hentered _
  · exact hentered _

theorem parsed_parseIcmpv6 (hv6 : o.ipv4 = none) (checksum : List UInt8 → UInt16)
    (transport : List UInt8) : Parsed (parseIcmpv6 checksum o transport) := by
  have hentered : ∀ status, Parsed { o with icmpv6 := ICMPv6.parse transport, status } :=
    fun status ↦
      ⟨hip, fun t ht ↦ absurd (h.tcp.symm.trans ht) (by simp),
        fun u hu ↦ absurd (h.udp.symm.trans hu) (by simp),
        fun m hm ↦ absurd (h.icmp.symm.trans hm) (by simp),
        fun m hm ↦ ⟨⟨transport, hm⟩, hv6, h.tcp, h.udp, h.icmp⟩⟩
  rw [parseIcmpv6]
  dsimp only
  split_ifs
  · exact h.parsed hip _
  · exact hentered _
  · exact hentered _

end

theorem parsed_parseIpv4 (h : NoTransport o) (hv4 : o.ipv6 = none) (ipInput : List UInt8) :
    Parsed (parseIpv4 o ipInput) := by
  have htransport : ∀ ip transport, Parsed (parseTransport4 ip { o with ipv4 := some ip }
      transport) := by
    intro ip transport
    have hentered : NoTransport { o with ipv4 := some ip } := ⟨h.tcp, h.udp, h.icmp, h.icmpv6⟩
    rw [parseTransport4]
    dsimp only
    split_ifs
    · exact parsed_parseTcp hentered (.inr hv4) _ _
    · exact parsed_parseUdp hentered (.inr hv4) _ _
    · exact parsed_parseIcmp hentered (.inr hv4) hv4 _
    · exact hentered.parsed (.inr hv4) _
  rw [parseIpv4]
  dsimp only
  split_ifs
  any_goals exact h.parsed (.inr hv4) _
  split
  · exact h.parsed (.inr hv4) _
  · exact htransport _ _

theorem parsed_parseIpv6 (h : NoTransport o) (hv6 : o.ipv4 = none) (ipInput : List UInt8) :
    Parsed (parseIpv6 o ipInput) := by
  rw [parseIpv6]
  dsimp only
  split_ifs
  any_goals exact h.parsed (.inl hv6) _
  split
  · exact h.parsed (.inl hv6) _
  rename_i ip hparse
  have hentered : ∀ extensions,
      NoTransport { o with ipv6 := some ip, ipv6Extensions := extensions } :=
    fun _ ↦ ⟨h.tcp, h.udp, h.icmp, h.icmpv6⟩
  split
  any_goals exact (hentered _).parsed (.inl hv6) _
  split_ifs
  · exact (hentered _).parsed (.inl hv6) _
  rw [parseTransport6]
  dsimp only
  split_ifs
  · exact parsed_parseTcp (hentered _) (.inl hv6) _ _
  · exact parsed_parseUdp (hentered _) (.inl hv6) _ _
  · exact parsed_parseIcmpv6 (hentered _) (.inl hv6) hv6 _ _
  · exact (hentered _).parsed (.inl hv6) _

/-- **Every observation of the parser** holds at most one packet. -/
theorem parsed_parse (frame : List UInt8) (receivedAt : TimePoint) (maxFrameSize : ℕ) :
    Parsed (parse frame receivedAt maxFrameSize) := by
  have hempty : ∀ rawFrame ethernet vlanTci,
      NoTransport { receivedAt, rawFrame, ethernet, vlanTci } := fun _ _ _ ↦ ⟨rfl, rfl, rfl, rfl⟩
  have hnetwork : ∀ rawFrame ethernet vlanTci etherType ipInput,
      Parsed (parseNetwork { receivedAt, rawFrame, ethernet, vlanTci } etherType ipInput) := by
    intro rawFrame ethernet vlanTci etherType ipInput
    rw [parseNetwork]
    split_ifs
    · exact parsed_parseIpv6 (hempty _ _ _) rfl _
    · exact (hempty _ _ _).parsed (.inl rfl) _
    · exact parsed_parseIpv4 (hempty _ _ _) rfl _
  rw [parse]
  dsimp only
  split
  · exact (hempty _ _ _).parsed (.inl rfl) _
  split
  · exact (hempty _ _ _).parsed (.inl rfl) _
  split
  · exact (hempty _ _ _).parsed (.inl rfl) _
  split
  · exact (hempty _ _ _).parsed (.inl rfl) _
  split_ifs
  · exact (hempty _ _ _).parsed (.inl rfl) _
  · exact hnetwork _ _ _ _ _
  · exact hnetwork _ _ _ _ _

/-- Parsing does not touch the time of arrival. -/
@[simp] theorem receivedAt_parseTcp (checksum : List UInt8 → UInt16) (o : PacketObservation)
    (transport : List UInt8) : (parseTcp checksum o transport).receivedAt = o.receivedAt := by
  rw [parseTcp]
  dsimp only
  split_ifs <;> rfl

@[simp] theorem receivedAt_parseUdp (malformed : UDP → List UInt8 → Bool) (o : PacketObservation)
    (transport : List UInt8) : (parseUdp malformed o transport).receivedAt = o.receivedAt := by
  rw [parseUdp]
  dsimp only
  split_ifs <;> rfl

@[simp] theorem receivedAt_parseIcmp (o : PacketObservation) (transport : List UInt8) :
    (parseIcmp o transport).receivedAt = o.receivedAt := by
  rw [parseIcmp]
  dsimp only
  split_ifs <;> rfl

@[simp] theorem receivedAt_parseIcmpv6 (checksum : List UInt8 → UInt16) (o : PacketObservation)
    (transport : List UInt8) : (parseIcmpv6 checksum o transport).receivedAt = o.receivedAt := by
  rw [parseIcmpv6]
  dsimp only
  split_ifs <;> rfl

@[simp] theorem receivedAt_parseIpv4 (o : PacketObservation) (ipInput : List UInt8) :
    (parseIpv4 o ipInput).receivedAt = o.receivedAt := by
  rw [parseIpv4]
  dsimp only
  split_ifs
  any_goals rfl
  split
  · rfl
  · rw [parseTransport4]
    dsimp only
    split_ifs <;> simp

@[simp] theorem receivedAt_parseIpv6 (o : PacketObservation) (ipInput : List UInt8) :
    (parseIpv6 o ipInput).receivedAt = o.receivedAt := by
  rw [parseIpv6]
  dsimp only
  split_ifs
  any_goals rfl
  split
  · rfl
  split
  any_goals rfl
  split_ifs
  · rfl
  · rw [parseTransport6]
    dsimp only
    split_ifs <;> simp

theorem receivedAt_parse (frame : List UInt8) (receivedAt : TimePoint) (maxFrameSize : ℕ) :
    (parse frame receivedAt maxFrameSize).receivedAt = receivedAt := by
  have hnetwork : ∀ (o : PacketObservation) etherType ipInput,
      (parseNetwork o etherType ipInput).receivedAt = o.receivedAt := by
    intro o etherType ipInput
    rw [parseNetwork]
    split_ifs <;> simp
  rw [parse]
  dsimp only
  split
  · rfl
  split
  · rfl
  split
  · rfl
  split
  · rfl
  split_ifs
  · rfl
  · exact hnetwork _ _ _
  · exact hnetwork _ _ _

/-! ### The round trip -/

/-- What is observed of a packet: its headers, with length and checksum fields filled in, and its
transport, with its checksum filled in and of each TCP option what its kind carries. -/
structure Observes (o : PacketObservation) (ethernet : Ethernet) (ip : IpHeader)
    (transport : Transport) : Prop where
  status : o.status = .valid
  ethernet : o.ethernet = some ethernet
  ip : match ip with
    | .ipv4 ip => o.ipv6 = none ∧ ∃ totalLength headerChecksum,
        o.ipv4 = some { ip with totalLength, headerChecksum }
    | .ipv6 ip => o.ipv4 = none ∧ ∃ payloadLength, o.ipv6 = some { ip with payloadLength }
  transport : match transport with
    | .tcp t => o.udp = none ∧ o.icmp = none ∧ o.icmpv6 = none ∧
        ∃ checksum, o.tcp = some { t with checksum, options := t.options.map TcpOption.onWire }
    | .udp u => o.tcp = none ∧ o.icmp = none ∧ o.icmpv6 = none ∧
        ∃ checksum, o.udp = some { u with checksum }
    | .icmp m => o.tcp = none ∧ o.udp = none ∧ o.icmpv6 = none ∧
        ∃ checksum, o.icmp = some { m with checksum }
    | .icmpv6 m => o.tcp = none ∧ o.udp = none ∧ o.icmp = none ∧
        ∃ checksum, o.icmpv6 = some { m with checksum }

/-- The flags of a TCP transport fit in the byte that carries them. -/
def FlagsFit : Transport → Prop
  | .tcp t => t.flags ≤ 0xFF
  | _ => True

/-- An observation with the transport entered. -/
def enter (o : PacketObservation) : Transport → PacketObservation
  | .tcp t => { o with tcp := some t, status := .valid }
  | .udp u => { o with udp := some u, status := .valid }
  | .icmp m => { o with icmp := some m, status := .valid }
  | .icmpv6 m => { o with icmpv6 := some m, status := .valid }

/-- A transport as it comes back from the wire. -/
def returned (checksum : UInt16) : Transport → Transport
  | .tcp t => .tcp { t with checksum, options := t.options.map TcpOption.onWire }
  | .udp u => .udp { u with checksum }
  | .icmp m => .icmp { m with checksum }
  | .icmpv6 m => .icmpv6 { m with checksum }

theorem parseTcp_eq {checksum : List UInt8 → UInt16} {t : TCP}
    (hparse : TCP.parse transport = some t) (hchecksum : checksum transport = 0)
    (o : PacketObservation) : parseTcp checksum o transport = enter o (.tcp t) := by
  have hlength : ¬ transport.length < 20 := by
    intro hshort
    rw [TCP.parse, if_pos hshort] at hparse
    exact absurd hparse (by simp)
  rw [parseTcp, if_neg hlength, hparse]
  exact if_neg (by simp [hchecksum])

theorem parseUdp_eq {malformed : UDP → List UInt8 → Bool} {u : UDP}
    (hparse : UDP.parse transport = some u)
    (hlength : (readU16 transport 4).toNat = transport.length)
    (hsound : malformed u transport = false) (o : PacketObservation) :
    parseUdp malformed o transport = enter o (.udp u) := by
  have hshort : ¬ transport.length < 8 := by
    intro hshort
    rw [UDP.parse, if_pos hshort] at hparse
    exact absurd hparse (by simp)
  rw [parseUdp, if_neg hshort]
  dsimp only
  rw [hlength, if_neg hshort, if_neg (Nat.lt_irrefl _), List.take_length, hparse]
  exact if_neg (by simp [hsound])

theorem parseIcmp_eq {m : ICMP} (hparse : ICMP.parse transport = some m) (o : PacketObservation) :
    parseIcmp o transport = enter o (.icmp m) := by
  have hlength : ¬ transport.length < 8 := by
    intro hshort
    rw [ICMP.parse, if_pos hshort] at hparse
    exact absurd hparse (by simp)
  rw [parseIcmp, if_neg hlength, hparse]
  exact if_neg (by simp)

theorem parseIcmpv6_eq {checksum : List UInt8 → UInt16} {m : ICMPv6}
    (hparse : ICMPv6.parse transport = some m) (hchecksum : checksum transport = 0)
    (o : PacketObservation) : parseIcmpv6 checksum o transport = enter o (.icmpv6 m) := by
  have hlength : ¬ transport.length < 8 := by
    intro hshort
    rw [ICMPv6.parse, if_pos hshort] at hparse
    exact absurd hparse (by simp)
  rw [parseIcmpv6, if_neg hlength, hparse]
  exact if_neg (by simp [hchecksum])

theorem and_255_eq_self {flags : UInt16} (h : flags ≤ 0xFF) : flags &&& 0xFF = flags := by
  have hle : flags.toNat ≤ 255 := h
  have hand : (flags &&& 0xFF).toNat = flags.toNat % 256 := by
    rw [UInt16.toNat_and]
    exact Nat.and_two_pow_sub_one_eq_mod _ 8
  apply UInt16.toNat_inj.mp
  rw [hand]
  omega

/-- A TCP segment with fitting flags, as it comes back. -/
theorem onWire_eq {t : TCP} (h : t.flags ≤ 0xFF) :
    t.onWire = { t with options := t.options.map TcpOption.onWire } := by
  rw [TCP.onWire, and_255_eq_self h]

/-- **Transports over IPv4** come back. -/
theorem parseTransport4_serialize {ip : IPv4} {transport : Transport}
    (hvalid : transport.validate (.ipv4 ip)) (hflags : FlagsFit transport) :
    ∃ checksum bytes, transport.serialize (.ipv4 ip) = some bytes ∧
      bytes.length = transport.serializedSize ∧
      ∀ o, parseTransport4 ip o bytes = enter o (returned checksum transport) := by
  cases transport with
  | tcp t =>
    simp only [Transport.validate, Bool.and_eq_true, decide_eq_true_eq] at hvalid
    obtain ⟨c, bytes, hserialize, hlength, hparse, hchecksum⟩ :=
      TCP.parse_serializeWithChecksum4 ip.sourceAddress ip.destinationAddress hvalid.1
    rw [onWire_eq hflags] at hparse
    refine ⟨c, bytes, hserialize, hlength, fun o ↦ ?_⟩
    rw [parseTransport4, hvalid.2]
    exact parseTcp_eq hparse hchecksum o
  | udp u =>
    simp only [Transport.validate, Bool.and_eq_true, decide_eq_true_eq] at hvalid
    obtain ⟨c, bytes, hserialize, hlength, hfield, -, hparse, hchecksum⟩ :=
      UDP.parse_serializeWithChecksum4 ip.sourceAddress ip.destinationAddress hvalid.1
    refine ⟨c, bytes, hserialize, hlength, fun o ↦ ?_⟩
    rw [parseTransport4, hvalid.2, if_neg (by decide), if_pos rfl]
    refine parseUdp_eq hparse ?_ ?_ o
    · rw [hfield, UDP.toNat_length hvalid.1, hlength]
    · simp [hchecksum]
  | icmp m =>
    simp only [Transport.validate, Bool.and_eq_true, decide_eq_true_eq] at hvalid
    refine ⟨m.withChecksum.checksum, m.withChecksum.bytes, if_pos hvalid.1, ICMP.length_bytes _,
      fun o ↦ ?_⟩
    rw [parseTransport4, hvalid.2]
    exact parseIcmp_eq (ICMP.parse_bytes m) o
  | icmpv6 m => exact absurd hvalid (by simp [Transport.validate])

/-- **Transports over IPv6** come back. -/
theorem parseTransport6_serialize {ip : IPv6} {transport : Transport}
    (hvalid : transport.validate (.ipv6 ip)) (hflags : FlagsFit transport) :
    (ip.nextHeader = 6 ∨ ip.nextHeader = 17 ∨ ip.nextHeader = 58) ∧
    ∃ checksum bytes, transport.serialize (.ipv6 ip) = some bytes ∧
      bytes.length = transport.serializedSize ∧
      ∀ o, parseTransport6 ip ip.nextHeader o bytes = enter o (returned checksum transport) := by
  cases transport with
  | tcp t =>
    simp only [Transport.validate, Bool.and_eq_true, decide_eq_true_eq] at hvalid
    obtain ⟨c, bytes, hserialize, hlength, hparse, hchecksum⟩ :=
      TCP.parse_serializeWithChecksum6 ip.sourceAddress ip.destinationAddress hvalid.1
    rw [onWire_eq hflags] at hparse
    refine ⟨.inl hvalid.2, c, bytes, hserialize, hlength, fun o ↦ ?_⟩
    rw [parseTransport6, hvalid.2]
    exact parseTcp_eq hparse hchecksum o
  | udp u =>
    simp only [Transport.validate, Bool.and_eq_true, decide_eq_true_eq] at hvalid
    obtain ⟨c, bytes, hserialize, hlength, hfield, hpresent, hparse, hchecksum⟩ :=
      UDP.parse_serializeWithChecksum6 ip.sourceAddress ip.destinationAddress hvalid.1
    refine ⟨.inr (.inl hvalid.2), c, bytes, hserialize, hlength, fun o ↦ ?_⟩
    rw [parseTransport6, hvalid.2, if_neg (by decide), if_pos rfl]
    refine parseUdp_eq hparse ?_ ?_ o
    · rw [hfield, UDP.toNat_length hvalid.1, hlength]
    · simp [hchecksum, hpresent]
  | icmp m => exact absurd hvalid (by simp [Transport.validate])
  | icmpv6 m =>
    simp only [Transport.validate, Bool.and_eq_true, decide_eq_true_eq] at hvalid
    obtain ⟨c, bytes, hserialize, hlength, hparse, hchecksum⟩ :=
      ICMPv6.parse_serializeWithChecksum ip.sourceAddress ip.destinationAddress hvalid.1
    refine ⟨.inr (.inr hvalid.2), c, bytes, hserialize, hlength, fun o ↦ ?_⟩
    rw [parseTransport6, hvalid.2]
    exact parseIcmpv6_eq hparse hchecksum o

/-- **IPv4 packets** come back. -/
theorem parseIpv4_serialize {ip : IPv4} {transport : Transport} (hip : ip.validate)
    (hvalid : transport.validate (.ipv4 ip)) (hflags : FlagsFit transport)
    (hsize : 20 + transport.serializedSize ≤ 65535) :
    ∃ header body totalLength headerChecksum checksum,
      ((IpHeader.ipv4 ip).compose transport.serializedSize).serialize = some header ∧
      transport.serialize (.ipv4 ip) = some body ∧
      (header ++ body).length = 20 + transport.serializedSize ∧
      ∀ o, parseIpv4 o (header ++ body) =
        enter { o with ipv4 := some { ip with totalLength, headerChecksum } }
          (returned checksum transport) := by
  obtain ⟨⟨hversion, hihl⟩, -⟩ : (ip.version = 4 ∧ ip.ihl = 5) ∧ _ := by
    simpa only [IPv4.validate, Bool.and_eq_true, decide_eq_true_eq] using hip
  have hheaderSize : ip.serializedSize = 20 := by
    rw [IPv4.serializedSize, hihl]
    rfl
  set composed : IPv4 :=
    { ip with totalLength := UInt16.ofNat (ip.serializedSize + transport.serializedSize) }
    with hcomposed
  have htotal : composed.totalLength.toNat = 20 + transport.serializedSize := by
    rw [hcomposed, hheaderSize, UInt16.toNat_ofNat_of_lt' (Nat.lt_succ_of_le hsize)]
  have hcomposedValid : composed.validate := by
    simp only [IPv4.validate, Bool.and_eq_true, decide_eq_true_eq]
    refine ⟨⟨hversion, hihl⟩, ?_⟩
    rw [UInt16.le_iff_toNat_le, htotal]
    show (UInt16.ofNat ip.serializedSize).toNat ≤ _
    rw [hheaderSize]
    exact Nat.le_add_right 20 _
  have hcomposedTransport :
      transport.validate (.ipv4 composed.withChecksum) = transport.validate (.ipv4 ip) := by
    cases transport <;> rfl
  have hcomposedSerialize :
      transport.serialize (.ipv4 composed.withChecksum) = transport.serialize (.ipv4 ip) := by
    cases transport <;> rfl
  obtain ⟨checksum, body, hserialize, hlength, htransport⟩ :=
    parseTransport4_serialize (hcomposedTransport.trans hvalid) hflags
  have hpacket : (composed.withChecksum.bytes ++ body).length = 20 + transport.serializedSize := by
    rw [List.length_append, IPv4.length_bytes, hlength]
  have hparse : IPv4.parse (composed.withChecksum.bytes ++ body) = some composed.withChecksum :=
    IPv4.parse_bytes hcomposedValid (by rw [htotal, hlength])
  refine ⟨composed.withChecksum.bytes, body, composed.totalLength,
    composed.withChecksum.headerChecksum, checksum, if_pos hcomposedValid,
    hcomposedSerialize ▸ hserialize, hpacket, fun o ↦ ?_⟩
  have hfirst : (composed.withChecksum.bytes ++ body).getD 0 0 = 0x45 := by
    show ip.version <<< 4 ||| (ip.ihl &&& 0x0F) = 0x45
    rw [hversion, hihl]
    decide
  have hfield : (readU16 (composed.withChecksum.bytes ++ body) 2).toNat =
      20 + transport.serializedSize := htotal ▸ congrArg UInt16.toNat (u16OfBytes_split _)
  have hdrop : (composed.withChecksum.bytes ++ body).drop 20 = body := by
    rw [← IPv4.length_bytes composed.withChecksum, List.drop_left]
  have htake : (composed.withChecksum.bytes ++ body).take (20 + transport.serializedSize) =
      composed.withChecksum.bytes ++ body := by
    rw [← hpacket, List.take_length]
  have hihlRead : ((0x45 : UInt8) &&& 0x0F).toNat * 4 = 20 := by decide
  rw [parseIpv4]
  dsimp only
  rw [hfirst, hfield, hihlRead, hpacket, htake, hparse, if_neg (by omega), if_neg (by decide),
    if_neg (by omega), if_neg (by omega), if_neg (by omega)]
  dsimp only
  rw [hdrop, htransport]
  rfl

/-- **IPv6 packets** come back. -/
theorem parseIpv6_serialize {ip : IPv6} {transport : Transport} (hip : ip.validate)
    (hvalid : transport.validate (.ipv6 ip)) (hflags : FlagsFit transport)
    (hsize : 40 + transport.serializedSize ≤ 65535) :
    ∃ header body payloadLength checksum,
      ((IpHeader.ipv6 ip).compose transport.serializedSize).serialize = some header ∧
      transport.serialize (.ipv6 ip) = some body ∧
      (header ++ body).length = 40 + transport.serializedSize ∧
      ∀ o, parseIpv6 o (header ++ body) =
        enter
          { o with
            ipv6 := some { ip with payloadLength }
            ipv6Extensions := { status := .complete, terminalNextHeader := ip.nextHeader } }
          (returned checksum transport) := by
  set composed : IPv6 := { ip with payloadLength := UInt16.ofNat transport.serializedSize }
    with hcomposed
  have hpayload : composed.payloadLength.toNat = transport.serializedSize :=
    UInt16.toNat_ofNat_of_lt' (Nat.lt_succ_of_le (by omega))
  have hcomposedTransport :
      transport.validate (.ipv6 composed) = transport.validate (.ipv6 ip) := by
    cases transport <;> rfl
  have hcomposedSerialize :
      transport.serialize (.ipv6 composed) = transport.serialize (.ipv6 ip) := by
    cases transport <;> rfl
  have hcomposedValid : composed.validate := hip
  obtain ⟨hnext, checksum, body, hserialize, hlength, htransport⟩ :=
    parseTransport6_serialize (hcomposedTransport.trans hvalid) hflags
  have hpacket : (composed.bytes ++ body).length = 40 + transport.serializedSize := by
    rw [List.length_append, IPv6.length_bytes, hlength]
  have hparse : IPv6.parse (composed.bytes ++ body) = some composed :=
    IPv6.parse_bytes hcomposedValid (by rw [hpayload, hlength])
  refine ⟨composed.bytes, body, composed.payloadLength, checksum, if_pos hcomposedValid,
    hcomposedSerialize ▸ hserialize, hpacket, fun o ↦ ?_⟩
  have hfirst := IPv6.version_of_parse hparse
  have hfield : (readU16 (composed.bytes ++ body) 4).toNat = transport.serializedSize :=
    hpayload ▸ congrArg UInt16.toNat (u16OfBytes_split _)
  have hdrop : (composed.bytes ++ body).drop 40 = body := by
    rw [← IPv6.length_bytes composed, List.drop_left]
  have htake : (composed.bytes ++ body).take (40 + transport.serializedSize) =
      composed.bytes ++ body := by
    rw [← hpacket, List.take_length]
  rw [parseIpv6]
  dsimp only
  rw [hfirst, hfield, hpacket, htake, hparse, if_neg (by omega), if_neg (by decide),
    if_neg (by omega)]
  dsimp only
  rw [hdrop, parseIpv6Extensions_of_terminal hnext body (by decide)]
  dsimp only
  rw [if_neg (by simp), List.drop_zero, htransport]

theorem parse_oversized {frame : List UInt8} (h : 65535 < frame.length) (receivedAt : TimePoint)
    (maxFrameSize : ℕ) : (parse frame receivedAt maxFrameSize).status = .oversizedFrame := by
  have hsize : min maxFrameSize maximumFrameSize = 0 ∨
      frame.length > min maxFrameSize maximumFrameSize :=
    .inr ((Nat.min_le_right _ _).trans_lt h)
  rw [parse, if_pos hsize]

/-- An untagged frame is its Ethernet header and what follows. -/
theorem parse_ethernet {ethernet : Ethernet} (hvalid : ethernet.validate)
    (hvlan : ethernet.etherType ≠ 0x8100 ∧ ethernet.etherType ≠ 0x88A8) {ipInput : List UInt8}
    (hsize : (ethernet.bytes ++ ipInput).length ≤ 65535) (receivedAt : TimePoint) :
    parse (ethernet.bytes ++ ipInput) receivedAt =
      parseNetwork
        { receivedAt, rawFrame := ethernet.bytes ++ ipInput, ethernet := some ethernet }
        ethernet.etherType ipInput := by
  have hlength : (ethernet.bytes ++ ipInput).length = 14 + ipInput.length := by
    rw [List.length_append, Ethernet.length_bytes]
  have htake : (ethernet.bytes ++ ipInput).take 14 = ethernet.bytes := by
    rw [← Ethernet.length_bytes ethernet, List.take_left]
  have hdrop : (ethernet.bytes ++ ipInput).drop 14 = ipInput := by
    rw [← Ethernet.length_bytes ethernet, List.drop_left]
  have hne : ethernet.bytes ++ ipInput ≠ [] := by
    rw [← List.length_pos_iff_ne_nil, hlength]
    omega
  have hlimit : min 65535 maximumFrameSize = 65535 := rfl
  rw [hlength] at hsize
  rw [parse]
  dsimp only
  rw [hlimit, hlength, htake, hdrop, Ethernet.parse_bytes hvalid, if_neg (by omega), if_neg hne,
    if_neg (by omega)]
  dsimp only
  rw [if_neg (not_or.mpr hvlan)]

theorem etherType_untagged (ip : IpHeader) : ip.etherType ≠ 0x8100 ∧ ip.etherType ≠ 0x88A8 := by
  cases ip <;> simp [IpHeader.etherType]

/-- What was entered is observed. -/
theorem observes_enter {ethernet : Ethernet} {ip : IpHeader}
    (hethernet : o.ethernet = some ethernet) (hip : match ip with
      | .ipv4 ip => o.ipv6 = none ∧ ∃ totalLength headerChecksum,
          o.ipv4 = some { ip with totalLength, headerChecksum }
      | .ipv6 ip => o.ipv4 = none ∧ ∃ payloadLength, o.ipv6 = some { ip with payloadLength })
    (hnone : o.tcp = none ∧ o.udp = none ∧ o.icmp = none ∧ o.icmpv6 = none) (checksum : UInt16)
    (transport : Transport) :
    Observes (enter o (returned checksum transport)) ethernet ip transport := by
  obtain ⟨htcp, hudp, hicmp, hicmpv6⟩ := hnone
  cases transport with
  | tcp t => exact ⟨rfl, hethernet, hip, hudp, hicmp, hicmpv6, checksum, rfl⟩
  | udp u => exact ⟨rfl, hethernet, hip, htcp, hicmp, hicmpv6, checksum, rfl⟩
  | icmp m => exact ⟨rfl, hethernet, hip, htcp, hudp, hicmpv6, checksum, rfl⟩
  | icmpv6 m => exact ⟨rfl, hethernet, hip, htcp, hudp, hicmp, checksum, rfl⟩

/-- **Packets come back from the wire.** A valid packet with an Ethernet header of its IP version,
whose IP packet fits in 65535 bytes, is serialized; and if the whole frame fits in 65535 bytes the
parser observes it, with the same headers and the same transport. -/
theorem parse_serialize_packet {p : Packet} {ethernet : Ethernet} {ip : IpHeader}
    {transport : Transport}
    (hethernet : p.ethernet = some ethernet) (hip : p.ip = some ip)
    (htransport : p.transport = some transport) (htype : ethernet.etherType = ip.etherType)
    (hvalid : p.validate) (hflags : FlagsFit transport)
    (hsize : ip.serializedSize + transport.serializedSize ≤ 65535) (receivedAt : TimePoint) :
    ∃ frame, p.serialize = some frame ∧
      frame.length = 14 + ip.serializedSize + transport.serializedSize ∧
      (frame.length ≤ 65535 → Observes (parse frame receivedAt) ethernet ip transport) := by
  have hparts := hvalid
  rw [Packet.validate, hip, htransport, hethernet] at hparts
  simp only [Option.all_some, Bool.and_eq_true] at hparts
  obtain ⟨⟨hethernetValid, hipValid⟩, htransportValid⟩ := hparts
  cases ip with
  | ipv4 ip =>
    have hheaderSize : ip.serializedSize = 20 := by
      obtain ⟨⟨-, hihl⟩, -⟩ : (ip.version = 4 ∧ ip.ihl = 5) ∧ _ := by
        simpa only [IpHeader.validate, IPv4.validate, Bool.and_eq_true, decide_eq_true_eq]
          using hipValid
      rw [IPv4.serializedSize, hihl]
      rfl
    rw [IpHeader.serializedSize, hheaderSize] at hsize ⊢
    obtain ⟨header, body, totalLength, headerChecksum, checksum, hheader, hbody, hlength, hparse⟩ :=
      parseIpv4_serialize hipValid htransportValid hflags hsize
    refine ⟨_, Packet.serialize_of_parts hethernet hip htransport hvalid hheader hbody, ?_,
      fun hfits ↦ ?_⟩
    · rw [List.append_assoc, List.length_append, Ethernet.length_bytes, hlength]
      omega
    · rw [List.append_assoc] at hfits ⊢
      rw [parse_ethernet hethernetValid (htype ▸ etherType_untagged _) hfits, htype]
      show Observes (parseIpv4 _ (header ++ body)) _ _ _
      rw [hparse]
      refine observes_enter rfl ?_ ⟨rfl, rfl, rfl, rfl⟩ _ _
      exact ⟨rfl, totalLength, headerChecksum, rfl⟩
  | ipv6 ip =>
    obtain ⟨header, body, payloadLength, checksum, hheader, hbody, hlength, hparse⟩ :=
      parseIpv6_serialize hipValid htransportValid hflags hsize
    refine ⟨_, Packet.serialize_of_parts hethernet hip htransport hvalid hheader hbody, ?_,
      fun hfits ↦ ?_⟩
    · rw [List.append_assoc, List.length_append, Ethernet.length_bytes, hlength]
      exact (Nat.add_assoc 14 40 _).symm
    · rw [List.append_assoc] at hfits ⊢
      rw [parse_ethernet hethernetValid (htype ▸ etherType_untagged _) hfits, htype]
      show Observes (parseIpv6 _ (header ++ body)) _ _ _
      rw [hparse]
      refine observes_enter rfl ?_ ⟨rfl, rfl, rfl, rfl⟩ _ _
      exact ⟨rfl, payloadLength, rfl⟩

/-- A SYN with two options over IPv4. -/
def synPacket : Packet where
  ethernet := some { etherType := 0x0800 }
  ip := some (.ipv4 { protocol := 6, sourceAddress := 0x0A000001 })
  transport := some (.tcp
    { TCP.setOptions [{ kind := .mss, value := 1460 }, { kind := .sackPermitted }]
        { sourcePort := 40000, destinationPort := 443 } with flags := 0x0002 })

theorem parse_serialize_synPacket :
    ∃ frame, synPacket.serialize = some frame ∧ frame.length = 14 + 20 + 28 ∧
      (frame.length ≤ 65535 → Observes (parse frame 0) { etherType := 0x0800 }
        (.ipv4 { protocol := 6, sourceAddress := 0x0A000001 })
        (.tcp { TCP.setOptions [{ kind := .mss, value := 1460 }, { kind := .sackPermitted }]
          { sourcePort := 40000, destinationPort := 443 } with flags := 0x0002 })) :=
  parse_serialize_packet (p := synPacket) rfl rfl rfl rfl (by decide)
    (show (0x0002 : UInt16) ≤ 0xFF by decide) (by decide) 0

/-- A UDP datagram over IPv4. -/
def datagramPacket (payload : List UInt8) : Packet where
  ethernet := some { etherType := 0x0800 }
  ip := some (.ipv4 { protocol := 17 })
  transport := some (.udp { payload })

/-- With 65494 bytes of payload the IP packet fits in 65535 bytes and the frame does not. -/
theorem parse_datagramPacket {payload : List UInt8} (h : payload.length = 65494) :
    ∃ frame, (datagramPacket payload).serialize = some frame ∧
      (parse frame 0).status = .oversizedFrame := by
  have hpayload : UDP.serializedSize { payload } = 65502 := by rw [UDP.serializedSize, h]
  have hudp : Transport.validate (.udp { payload }) (.ipv4 { protocol := 17 }) := by
    show (decide (UDP.serializedSize { payload } ≤ 65535) && true) = true
    rw [hpayload]
    rfl
  have hsize : 20 + UDP.serializedSize { payload } ≤ 65535 := by
    rw [hpayload]
    decide
  obtain ⟨header, body, -, -, -, hheader, hbody, hlength, -⟩ :=
    @parseIpv4_serialize { protocol := 17 } (.udp { payload }) rfl hudp trivial hsize
  have htotal : (({ etherType := 0x0800 } : Ethernet).bytes ++ header ++ body).length = 65536 := by
    rw [List.append_assoc, List.length_append, Ethernet.length_bytes, hlength]
    show 14 + (20 + UDP.serializedSize { payload }) = 65536
    rw [hpayload]
  have hvalid : (datagramPacket payload).validate := hudp
  exact ⟨_, Packet.serialize_of_parts rfl rfl rfl hvalid hheader hbody,
    parse_oversized (by rw [htotal]; decide) 0 65535⟩

/-- **A packet that fits in 65535 bytes but whose frame does not** is serialized and refused. -/
theorem parse_datagramPacket_zeros :
    ∃ frame, (datagramPacket (List.replicate 65494 0)).serialize = some frame ∧
      20 + 8 + 65494 ≤ 65535 ∧ (parse frame 0).status ≠ .valid := by
  obtain ⟨frame, hserialize, hstatus⟩ := parse_datagramPacket (List.length_replicate (a := 0))
  exact ⟨frame, hserialize, by decide, by rw [hstatus]; decide⟩

end PacketReceiver

end Skan.Net
