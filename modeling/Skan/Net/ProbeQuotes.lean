import Skan.Net.NetworkScanCorrelation
import Skan.Target.Addresses

/-!
# Quotes of the probes

A router or a host that cannot deliver a probe sends back an ICMP error which quotes the beginning
of the probe's IP packet. `matches_tcp_unreachable` compares the quoted bytes with those of a
submission, as they were before `compose_frame` filled in the checksum.

## The two directions

* `matches_of_requoted`: what the network may have rewritten on the way (the hop count, the traffic
  class, the flow label, the IPv4 checksum) is not compared, wherever the quote is cut off.
* `identity_of_matches`: whatever else is compared, the addresses, the ports and the sequence number
  are, so a quote matches the submissions of one identity only.

Both rest on the form of the packets that `compose_frame` emits (`Emitted`).
-/

namespace Skan.Packet.TCP

open BigEndian

/-! ### What the checksum leaves alone -/

theorem size_onWire (o : TcpOption) : TcpOption.size o.onWire.kind = TcpOption.size o.kind := by
  rcases o with ⟨kind, value, timestampValue, timestampEcho⟩
  cases kind <;> rfl

theorem option_bytes_onWire (o : TcpOption) : o.onWire.bytes = o.bytes := by
  rcases o with ⟨kind, value, timestampValue, timestampEcho⟩
  cases kind <;> rfl

/-- What does not travel is not written. -/
theorem bytes_onWire (t : TCP) : t.onWire.bytes = t.bytes := by
  have hflags : t.flags &&& 0xFF &&& 0xFF = t.flags &&& 0xFF := by
    rw [UInt16.and_assoc, UInt16.and_self]
  have hsizes : paddedOptionsSize (t.options.map TcpOption.onWire) =
      paddedOptionsSize t.options := by
    simp only [paddedOptionsSize, List.map_map, Function.comp_def, size_onWire]
  have hoptions : (t.options.map TcpOption.onWire).flatMap TcpOption.bytes =
      t.options.flatMap TcpOption.bytes := by
    simp only [List.flatMap_map, option_bytes_onWire]
  have hfront : t.onWire.frontBytes = t.frontBytes := by
    simp only [frontBytes, onWire, hflags]
  have harea : t.onWire.optionBytes = t.optionBytes := by
    simp only [optionBytes, onWire, hsizes, hoptions]
  rw [bytes, bytes, backBytes, backBytes, hfront, harea]
  rfl

/-- The checksum is two bytes of the segment. -/
theorem getD_bytes_checksum (t : TCP) (c : UInt16) {i : ℕ} (hhigh : i ≠ 16) (hlow : i ≠ 17) :
    { t with checksum := c }.bytes.getD i 0 = t.bytes.getD i 0 := by
  have hfront : t.frontBytes.length = 16 := rfl
  show (t.frontBytes ++ u16Bytes c ++ t.backBytes).getD i 0 =
    (t.frontBytes ++ u16Bytes t.checksum ++ t.backBytes).getD i 0
  rcases lt_or_ge i 16 with hlt | hge
  · rw [List.append_assoc, List.append_assoc, List.getD_append _ _ _ _ (by omega),
      List.getD_append _ _ _ _ (by omega)]
  · have hlength : ∀ w : UInt16, (t.frontBytes ++ u16Bytes w).length = 18 := fun _ ↦ rfl
    rw [List.getD_append_right _ _ _ _ (by rw [hlength]; omega),
      List.getD_append_right _ _ _ _ (by rw [hlength]; omega), hlength, hlength]

/-- A segment serialized with its checksum differs from it in the checksum only. -/
theorem serializeWith_eq {pseudoHeader : List UInt8 → UInt16} {t : TCP} {bytes : List UInt8}
    (h : t.serializeWith pseudoHeader = some bytes) :
    t.validate ∧ ∃ c, bytes = { t with checksum := c }.bytes := by
  rw [serializeWith] at h
  split_ifs at h with hvalid
  exact ⟨hvalid, _, (Option.some.inj h).symm⟩

end Skan.Packet.TCP

namespace Skan.Net

open Skan.Core Skan.Packet Skan.PortScan BigEndian

variable {submission : PortSubmission} {packet : List UInt8}

/-! ### Submissions as the probes build them -/

/-- What `TcpSynProbe` and `TcpAckProbe` promise of a submission: its packet is a serialized segment
with the ports and the sequence number of the submission, and its target is an address. -/
structure FromProbe (submission : PortSubmission) : Prop where
  probe : submission.probe = .tcpSyn ∨ submission.probe = .tcpAck
  segment : ∃ t : TCP, t.validate ∧ submission.packet = t.bytes ∧
    t.sourcePort = submission.sourcePort ∧ t.destinationPort = submission.port.number ∧
      t.sequenceNumber = submission.sequenceNumber
  target : submission.targetIp.Canonical

theorem fromProbe_of_buildTcp {inet : Inet} {type : ScanProbeType}
    {sequence acknowledgment : UInt32} {flag : TCP.Flag} {id : PortProbeId} {target : Host}
    {port : Port} (htype : type = .tcpSyn ∨ type = .tcpAck)
    (hcanonical : ∀ a, effectiveAddress inet target.ipAddress target.address = some a → a.Canonical)
    (h : buildTcp inet type sequence acknowledgment flag id target port = .ok submission) :
    FromProbe submission := by
  rw [buildTcp] at h
  split_ifs at h
  split at h
  · cases h
  rename_i targetIp htarget
  dsimp only at h
  split at h
  · cases h
  rename_i packet hbytes
  cases h
  refine ⟨htype, ?_, hcanonical targetIp htarget⟩
  split_ifs at hbytes
  · obtain ⟨hvalid, c, rfl⟩ := TCP.serializeWith_eq hbytes
    exact ⟨{ probeSegment id port sequence acknowledgment flag with checksum := c }, hvalid, rfl,
      rfl,
      rfl, rfl⟩
  · rw [TCP.serialize] at hbytes
    split_ifs at hbytes with hvalid
    exact ⟨_, hvalid, (Option.some.inj hbytes).symm, rfl, rfl, rfl⟩

/-- The parser's segment stands for the one that was serialized. -/
theorem exists_parse_of_bytes {sourcePort destinationPort : UInt16} {sequence : UInt32}
    (h : ∃ t : TCP, t.validate ∧ packet = t.bytes ∧ t.sourcePort = sourcePort ∧
      t.destinationPort = destinationPort ∧ t.sequenceNumber = sequence) :
    ∃ t : TCP, TCP.parse packet = some t ∧ t.onWire = t ∧ packet = t.bytes ∧
      t.sourcePort = sourcePort ∧ t.destinationPort = destinationPort ∧
        t.sequenceNumber = sequence := by
  obtain ⟨t, hvalid, hpacket, hsource, hdestination, hsequence⟩ := h
  have hparse : TCP.parse packet = some t.onWire := hpacket ▸ TCP.parse_bytes hvalid
  exact ⟨t.onWire, hparse, (TCP.parse_eq_some hparse).2.2.2.2.1,
    hpacket.trans (TCP.bytes_onWire t).symm, hsource, hdestination, hsequence⟩

theorem FromProbe.parse (h : FromProbe submission) :
    ∃ t : TCP, TCP.parse submission.packet = some t ∧ t.onWire = t ∧ submission.packet = t.bytes ∧
      t.sourcePort = submission.sourcePort ∧ t.destinationPort = submission.port.number ∧
        t.sequenceNumber = submission.sequenceNumber :=
  exists_parse_of_bytes h.segment

namespace LinuxNetworkScanTransport

variable {ctx : NetworkScanContext}

/-! ### The packets in the frames -/

/-- The IPv4 header of a probe's packet. -/
def header4 (submission : PortSubmission) : IPv4 where
  totalLength := UInt16.ofNat (20 + submission.packet.length)
  protocol := 6
  sourceAddress := submission.sourceIp.ipv4Word
  destinationAddress := submission.targetIp.ipv4Word

/-- The IPv6 header of a probe's packet. -/
def header6 (submission : PortSubmission) : IPv6 where
  payloadLength := UInt16.ofNat submission.packet.length
  nextHeader := 6
  sourceAddress := submission.sourceIp.bytes
  destinationAddress := submission.targetIp.bytes

/-- The IP packet that a frame carries for a submission, whose segment is `t`. -/
inductive Emitted (submission : PortSubmission) (t : TCP) : List UInt8 → Prop
  | ipv4 (hsource : submission.sourceIp.isIpv4) (htarget : submission.targetIp.isIpv4)
      (hlength : 20 + submission.packet.length ≤ 65535) (c : UInt16) :
      Emitted submission t ((header4 submission).withChecksum.bytes ++
        { t with checksum := c }.bytes)
  | ipv6 (hsource : submission.sourceIp.isIpv6) (htarget : submission.targetIp.isIpv6)
      (hlength : submission.packet.length ≤ 65535) (c : UInt16) :
      Emitted submission t ((header6 submission).bytes ++ { t with checksum := c }.bytes)

/-- A segment whose checksum was filled in is parsed as it is. -/
theorem wire_eq {pseudoHeader : List UInt8 → UInt16} {t u : TCP} {bytes : List UInt8}
    (honWire : t.onWire = t) (hbytes : t.serializeWith pseudoHeader = some bytes)
    (hparse : TCP.parse bytes = some u) : t.validate ∧ ∃ c, u = { t with checksum := c } := by
  obtain ⟨hvalid, c, rfl⟩ := TCP.serializeWith_eq hbytes
  have hfilled : TCP.parse { t with checksum := c }.bytes =
      some { t.onWire with checksum := c } := TCP.parse_bytes (t := { t with checksum := c }) hvalid
  rw [hfilled, honWire] at hparse
  exact ⟨hvalid, c, (Option.some.inj hparse).symm⟩

theorem serialize_eq {ethernet : Ethernet} {ip : IpHeader} {u : TCP} {frame : List UInt8}
    (h : Packet.serialize { ethernet := some ethernet, ip := some ip, transport := some (.tcp u) } =
      some frame) :
    ∃ header body, (ip.compose u.serializedSize).serialize = some header ∧
      Transport.serialize (.tcp u) ip = some body ∧ frame.drop 14 = header ++ body := by
  rw [Packet.serialize] at h
  dsimp only at h
  split_ifs at h
  obtain ⟨front, hfront, h⟩ := Option.bind_eq_some_iff.mp h
  obtain ⟨header, hheader, h⟩ := Option.bind_eq_some_iff.mp h
  obtain ⟨body, hbody, h⟩ := Option.bind_eq_some_iff.mp h
  obtain rfl := Option.some.inj h
  have hlength : front.length = 14 := by
    rw [Ethernet.serialize] at hfront
    split_ifs at hfront
    obtain rfl := Option.some.inj hfront
    exact Ethernet.length_bytes ethernet
  refine ⟨header, body, hheader, hbody, ?_⟩
  rw [List.append_assoc, ← hlength, List.drop_left]

/-- A total length that wraps around is less than a header. -/
theorem length_le_of_validate (hbound : submission.packet.length ≤ 65535)
    (h : (header4 submission).validate) : 20 + submission.packet.length ≤ 65535 := by
  simp only [IPv4.validate, Bool.and_eq_true, decide_eq_true_eq] at h
  have hle : 20 ≤ (UInt16.ofNat (20 + submission.packet.length)).toNat := h.2
  rw [UInt16.toNat_ofNat'] at hle
  omega

/-- **A frame** carries the submission's segment in the packet that its header describes. -/
theorem emitted_of_composeFrame {mac : Option MacAddress} {frame : List UInt8} {t : TCP}
    (hvalid : submission.targetIp.valid) (hparse : TCP.parse submission.packet = some t)
    (honWire : t.onWire = t) (hpacket : submission.packet = t.bytes)
    (h : composeFrame ctx mac submission = some frame) : Emitted submission t (frame.drop 14) := by
  have hlength : submission.packet.length = t.serializedSize := by
    rw [hpacket, TCP.length_bytes]
  have hbound : submission.packet.length ≤ 65535 := (TCP.parse_eq_some hparse).2.2.2.1
  rw [composeFrame, effectiveAddress_of_valid hvalid] at h
  obtain ⟨targetIp, htarget, h⟩ := Option.bind_eq_some_iff.mp h
  obtain rfl := Option.some.inj htarget
  dsimp only at h
  split_ifs at h with hsource hv4 hv6
  all_goals
    obtain ⟨tcp, htcp, h⟩ := Option.bind_eq_some_iff.mp h
    obtain rfl : t = tcp := Option.some.inj (hparse.symm.trans htcp)
    obtain ⟨destination, -, h⟩ := Option.bind_eq_some_iff.mp h
  · obtain ⟨filled, hfilled, h⟩ := Option.bind_eq_some_iff.mp h
    obtain ⟨wire, hwire, h⟩ := Option.bind_eq_some_iff.mp h
    obtain ⟨htvalid, c, rfl⟩ := wire_eq honWire hfilled hwire
    obtain ⟨header, body, hheader, hbody, hframe⟩ := serialize_eq h
    obtain ⟨-, c', rfl⟩ := TCP.serializeWith_eq hbody
    have hcomposed : IPv4.serialize (header4 submission) = some header := by
      rw [header4, hlength]
      exact hheader
    rw [IPv4.serialize] at hcomposed
    split_ifs at hcomposed with hheaderValid
    obtain rfl := Option.some.inj hcomposed
    rw [Bool.and_eq_true] at hv4
    rw [hframe]
    exact .ipv4 hv4.2 hv4.1 (length_le_of_validate hbound hheaderValid) c'
  · obtain ⟨filled, hfilled, h⟩ := Option.bind_eq_some_iff.mp h
    obtain ⟨wire, hwire, h⟩ := Option.bind_eq_some_iff.mp h
    obtain ⟨htvalid, c, rfl⟩ := wire_eq honWire hfilled hwire
    obtain ⟨header, body, hheader, hbody, hframe⟩ := serialize_eq h
    obtain ⟨-, c', rfl⟩ := TCP.serializeWith_eq hbody
    have hcomposed : IPv6.serialize (header6 submission) = some header := by
      rw [header6, hlength]
      exact hheader
    rw [IPv6.serialize] at hcomposed
    split_ifs at hcomposed
    obtain rfl := Option.some.inj hcomposed
    rw [Bool.and_eq_true] at hv6
    rw [hframe]
    exact .ipv6 hv6.2 hv6.1 hbound c'
  · cases h

/-! ### Quotes -/

/-- The bytes of an IPv4 header that may have changed on the way: the traffic class, the hop count
and the checksum. -/
def rewritten4 : List ℕ := [1, 8, 10, 11]

/-- The same for IPv6: the traffic class, the flow label and the hop limit. The first byte has the
version beside a half of the traffic class. -/
def rewritten6 : List ℕ := [0, 1, 2, 3, 7]

/-- A quote of an emitted packet, cut off anywhere behind eight bytes of TCP. -/
inductive Requoted (packet quote : List UInt8) : Prop
  | ipv4 (hversion : packet.getD 0 0 >>> 4 = 4) (hlong : 20 + 8 ≤ quote.length)
      (hcut : quote.length ≤ packet.length)
      (hsame : ∀ i < quote.length, i ∉ rewritten4 → quote.getD i 0 = packet.getD i 0)
      (hchecksum : Checksum.internet (quote.take 20) = 0)
  | ipv6 (hversion : packet.getD 0 0 >>> 4 = 6) (hlong : 40 + 8 ≤ quote.length)
      (hcut : quote.length ≤ packet.length)
      (hsame : ∀ i < quote.length, i ∉ rewritten6 → quote.getD i 0 = packet.getD i 0)
      (hnibble : quote.getD 0 0 >>> 4 = 6)

/-- An ICMP or ICMPv6 destination unreachable, where it was sent to, and what it quotes. No
observation of the parser holds both (`PacketReceiver.Parsed`). -/
inductive Unreachable (o : PacketObservation) : IpAddress → List UInt8 → Prop
  | icmp {ip : IPv4} {icmp : ICMP} (hip : o.ipv4 = some ip) (hother : o.ipv6 = none)
      (hicmp : o.icmp = some icmp) (htype : icmp.type = .destinationUnreachable) :
      Unreachable o (.fromIpv4 ip.destinationAddress) icmp.payload
  | icmpv6 {ip : IPv6} {icmpv6 : ICMPv6} (hip : o.ipv6 = some ip) (hother : o.ipv4 = none)
      (hicmpv6 : o.icmpv6 = some icmpv6) (honly : o.icmp = none)
      (htype : icmpv6.type = .destinationUnreachable) :
      Unreachable o (.fromIpv6 ip.destinationAddress) icmpv6.payload

/-- What identifies a probe: its addresses, its ports and its sequence number. -/
structure Identity where
  source : IpAddress
  target : IpAddress
  sourcePort : UInt16
  destinationPort : UInt16
  sequence : UInt32
  deriving DecidableEq

/-- The identity of the probe in an IP packet without options. -/
def identity (packet : List UInt8) : Identity :=
  if packet.getD 0 0 >>> 4 = 6 then
    { source := .fromIpv6 (readVector 16 packet 8)
      target := .fromIpv6 (readVector 16 packet 24)
      sourcePort := readU16 packet 40
      destinationPort := readU16 packet 42
      sequence := readU32 packet 44 }
  else
    { source := .fromIpv4 (readU32 packet 12)
      target := .fromIpv4 (readU32 packet 16)
      sourcePort := readU16 packet 20
      destinationPort := readU16 packet 22
      sequence := readU32 packet 24 }

/-! ### Reading a byte string that agrees with another one -/

theorem quotesSegment_iff {quoted : List UInt8} :
    quotesSegment quoted packet ↔ ∀ i < min quoted.length packet.length, i ≠ 16 → i ≠ 17 →
      quoted.getD i 0 = packet.getD i 0 := by
  rw [quotesSegment, List.all_eq_true]
  simp only [List.mem_range, Bool.or_eq_true, decide_eq_true_eq]
  grind

/-! ### The headers of an emitted packet -/

section Emitted

variable {submission : PortSubmission} {t : TCP} {quote : List UInt8} {o : PacketObservation}
  {c : UInt16}

/-- What the header says of an IPv4 packet. -/
structure Header4 (submission : PortSubmission) (packet : List UInt8) : Prop where
  first : packet.getD 0 0 = 0x45
  protocol : packet.getD 9 0 = 6
  total : (readU16 packet 2).toNat = 20 + submission.packet.length
  fragment : readU16 packet 6 = 0
  source : readU32 packet 12 = submission.sourceIp.ipv4Word
  target : readU32 packet 16 = submission.targetIp.ipv4Word

theorem header4_fields (hlength : 20 + submission.packet.length ≤ 65535) (segment : List UInt8) :
    Header4 submission ((header4 submission).withChecksum.bytes ++ segment) where
  first := by
    show (4 : UInt8) <<< 4 ||| (5 &&& 0x0F) = 0x45
    decide
  protocol := rfl
  total := by
    have htotal : readU16 ((header4 submission).withChecksum.bytes ++ segment) 2 =
        UInt16.ofNat (20 + submission.packet.length) := u16OfBytes_split _
    rw [htotal, UInt16.toNat_ofNat_of_lt' (Nat.lt_succ_of_le hlength)]
  fragment := u16OfBytes_split 0
  source := u32OfBytes_split _
  target := u32OfBytes_split _

/-- What the header says of an IPv6 packet. -/
structure Header6 (submission : PortSubmission) (packet : List UInt8) : Prop where
  version : packet.getD 0 0 >>> 4 = 6
  nextHeader : packet.getD 6 0 = 6
  payload : (readU16 packet 4).toNat = submission.packet.length
  source : readVector 16 packet 8 = submission.sourceIp.bytes
  target : readVector 16 packet 24 = submission.targetIp.bytes

theorem header6_fields (hlength : submission.packet.length ≤ 65535) (segment : List UInt8) :
    Header6 submission ((header6 submission).bytes ++ segment) where
  version := by
    show ((6 : UInt8) <<< 4 ||| (0 : UInt8) >>> 4) >>> 4 = 6
    decide
  nextHeader := rfl
  payload := by
    have hpayload : readU16 ((header6 submission).bytes ++ segment) 4 =
        UInt16.ofNat submission.packet.length := u16OfBytes_split _
    rw [hpayload, UInt16.toNat_ofNat_of_lt' (Nat.lt_succ_of_le hlength)]
  source := by
    have hread := readVector_append (header6 submission).frontBytes submission.sourceIp.bytes
      (submission.targetIp.bytes.toList ++ segment)
    rwa [← List.append_assoc, ← List.append_assoc,
      List.append_assoc _ _ submission.targetIp.bytes.toList]
      at hread
  target := by
    have hread := readVector_append
      ((header6 submission).frontBytes ++ submission.sourceIp.bytes.toList)
        submission.targetIp.bytes
      segment
    have hfront : ((header6 submission).frontBytes ++ submission.sourceIp.bytes.toList).length =
        24 := by
      rw [List.length_append, Vector.length_toList]
      rfl
    rwa [hfront, ← List.append_assoc, List.append_assoc _ _
      submission.targetIp.bytes.toList] at hread

/-- The header of a quote says what the header of the packet does. -/
theorem Header4.requoted (h : Header4 submission packet) (hlong : 20 + 8 ≤ quote.length)
    (hsame : ∀ i < quote.length, i ∉ rewritten4 → quote.getD i 0 = packet.getD i 0) :
    Header4 submission quote := by
  -- the fields are among the bytes that nobody rewrites
  have hword : ∀ i, 12 ≤ i → i + 4 ≤ 28 → readU32 quote i = readU32 packet i := by
    intro i hlow hhigh
    refine readU32_congr fun j hi hj ↦ hsame j (by omega) ?_
    simp only [rewritten4, List.mem_cons, List.not_mem_nil, or_false, not_or]
    omega
  have hhalf : ∀ i, 2 ≤ i → i + 2 ≤ 8 → readU16 quote i = readU16 packet i := by
    intro i hlow hhigh
    refine readU16_congr fun j hi hj ↦ hsame j (by omega) ?_
    simp only [rewritten4, List.mem_cons, List.not_mem_nil, or_false, not_or]
    omega
  exact
    { first := (hsame 0 (by omega) (by decide)).trans h.first
      protocol := (hsame 9 (by omega) (by decide)).trans h.protocol
      total := hhalf 2 (by omega) (by omega) ▸ h.total
      fragment := (hhalf 6 (by omega) (by omega)).trans h.fragment
      source := (hword 12 (by omega) (by omega)).trans h.source
      target := (hword 16 (by omega) (by omega)).trans h.target }

theorem Header6.requoted (h : Header6 submission packet) (hlong : 40 + 8 ≤ quote.length)
    (hsame : ∀ i < quote.length, i ∉ rewritten6 → quote.getD i 0 = packet.getD i 0)
    (hnibble : quote.getD 0 0 >>> 4 = 6) : Header6 submission quote := by
  have haddress : ∀ i, 8 ≤ i → i + 16 ≤ 48 → readVector 16 quote i = readVector 16 packet i := by
    intro i hlow hhigh
    refine readVector_congr fun j hi hj ↦ hsame j (by omega) ?_
    simp only [rewritten6, List.mem_cons, List.not_mem_nil, or_false, not_or]
    omega
  have hhalf : readU16 quote 4 = readU16 packet 4 := by
    refine readU16_congr fun j hi hj ↦ hsame j (by omega) ?_
    simp only [rewritten6, List.mem_cons, List.not_mem_nil, or_false, not_or]
    omega
  exact
    { version := hnibble
      nextHeader := (hsame 6 (by omega) (by decide)).trans h.nextHeader
      payload := hhalf ▸ h.payload
      source := (haddress 8 (by omega) (by omega)).trans h.source
      target := (haddress 24 (by omega) (by omega)).trans h.target }

/-- The quoted segment is compared with the submission's own bytes, of which the emitted ones differ
in the checksum. -/
theorem quotesSegment_of_requoted {header : List UInt8} (hpacket : submission.packet = t.bytes)
    (hsame : ∀ i < quote.length, header.length ≤ i →
      quote.getD i 0 = (header ++ { t with checksum := c }.bytes).getD i 0) :
    quotesSegment (quote.drop header.length) submission.packet := by
  rw [quotesSegment_iff]
  intro i hi hhigh hlow
  rw [List.length_drop] at hi
  rw [getD_drop, hsame _ (by omega) (by omega), List.getD_append_right _ _ _ _ (by omega),
    Nat.add_sub_cancel_left, TCP.getD_bytes_checksum t c hhigh hlow, hpacket]

/-- The codes that have a reason are among those that are matched. -/
theorem code_le_of_classifyIcmpCode {code : UInt8} (h : (classifyIcmpCode code).isSome) :
    code ≤ 15 := by
  rw [classifyIcmpCode] at h
  split_ifs at h with h₁ h₂ h₃ h₄
  · rcases h₁ with rfl | rfl | rfl | rfl | rfl <;> decide
  · exact h₂ ▸ by decide
  · exact h₃ ▸ by decide
  · rcases h₄ with rfl | rfl | rfl <;> decide
  · exact absurd h (by decide)

theorem code_le_of_classifyIcmpv6Code {code : UInt8} (h : (classifyIcmpv6Code code).isSome) :
    code ≤ 6 := by
  rw [classifyIcmpv6Code] at h
  split_ifs at h with h₁ h₂ h₃
  · rcases h₁ with rfl | rfl | rfl <;> decide
  · rcases h₂ with rfl | rfl | rfl <;> decide
  · exact h₃ ▸ by decide
  · exact absurd h (by decide)

/-- **Completeness over IPv4.** A quote of the probe matches, wherever it is cut off and whatever
the network has rewritten. -/
theorem matches_of_requoted4 {ip : IPv4} {icmp : ICMP}
    (hprobe : submission.probe = .tcpSyn ∨ submission.probe = .tcpAck)
    (hpacket : submission.packet = t.bytes) (hsize : 20 ≤ submission.packet.length)
    (hsource : submission.sourceIp = .fromIpv4 submission.sourceIp.ipv4Word)
    (htarget : submission.targetIp = .fromIpv4 submission.targetIp.ipv4Word)
    (hlength : 20 + submission.packet.length ≤ 65535) (hlong : 20 + 8 ≤ icmp.payload.length)
    (hsame : ∀ i < icmp.payload.length, i ∉ rewritten4 → icmp.payload.getD i 0 =
      ((header4 submission).withChecksum.bytes ++ { t with checksum := c }.bytes).getD i 0)
    (hchecksum : Checksum.internet (icmp.payload.take 20) = 0) (hvalid : o.valid)
    (hip : o.ipv4 = some ip) (hother : o.ipv6 = none) (hicmp : o.icmp = some icmp)
    (htype : icmp.type = .destinationUnreachable) (hcode : icmp.code ≤ 15)
    (hdestination : (IpAddress.fromIpv4 ip.destinationAddress).bytes = submission.sourceIp.bytes) :
    matchesTcpUnreachable submission o := by
  obtain ⟨hfirst, hprotocol, htotal, hfragment, hsourceRead, htargetRead⟩ :=
    (header4_fields hlength { t with checksum := c }.bytes).requoted hlong hsame
  have hsegment : quotesSegment (icmp.payload.drop 20) submission.packet := by
    have hheader := IPv4.length_bytes (header4 submission).withChecksum
    rw [← hheader]
    refine quotesSegment_of_requoted (c := c) hpacket fun i hi hle ↦ hsame i hi ?_
    rw [hheader] at hle
    simp only [rewritten4, List.mem_cons, List.not_mem_nil, or_false, not_or]
    omega
  rw [matchesTcpUnreachable, hip, hother, hicmp]
  dsimp only
  rw [hfirst, hprotocol, htotal, hfragment, hsourceRead, htargetRead, ← hsource, ← htarget,
    hchecksum, hdestination, hsegment, hvalid, htype]
  have hfamilies : submission.sourceIp.isIpv4 ∧ submission.targetIp.isIpv4 := by
    rw [hsource, htarget]
    exact ⟨rfl, rfl⟩
  simp only [hfamilies.1, hfamilies.2, hsize, hlong, hcode, Bool.or_eq_true, Bool.and_eq_true,
    decide_eq_true_eq, hprobe]
  decide

/-- **Completeness over IPv6.** -/
theorem matches_of_requoted6 {ip : IPv6} {icmpv6 : ICMPv6}
    (hprobe : submission.probe = .tcpSyn ∨ submission.probe = .tcpAck)
    (hpacket : submission.packet = t.bytes) (hsize : 20 ≤ submission.packet.length)
    (hsource : submission.sourceIp.isIpv6) (htarget : submission.targetIp.isIpv6)
    (hlength : submission.packet.length ≤ 65535) (hlong : 40 + 8 ≤ icmpv6.payload.length)
    (hsame : ∀ i < icmpv6.payload.length, i ∉ rewritten6 → icmpv6.payload.getD i 0 =
      ((header6 submission).bytes ++ { t with checksum := c }.bytes).getD i 0)
    (hnibble : icmpv6.payload.getD 0 0 >>> 4 = 6) (hvalid : o.valid) (hip : o.ipv6 = some ip)
    (hother : o.ipv4 = none) (hicmpv6 : o.icmpv6 = some icmpv6)
    (htype : icmpv6.type = .destinationUnreachable) (hcode : icmpv6.code ≤ 6)
    (hdestination : ip.destinationAddress = submission.sourceIp.bytes) :
    matchesTcpUnreachable submission o := by
  obtain ⟨-, hnextHeader, hpayload, hsourceRead, htargetRead⟩ :=
    (header6_fields hlength { t with checksum := c }.bytes).requoted hlong hsame hnibble
  have hsegment : quotesSegment (icmpv6.payload.drop 40) submission.packet := by
    have hheader : (header6 submission).bytes.length = 40 := IPv6.length_bytes _
    rw [← hheader]
    refine quotesSegment_of_requoted (c := c) hpacket fun i hi hle ↦ hsame i hi ?_
    simp only [rewritten6, List.mem_cons, List.not_mem_nil, or_false, not_or]
    omega
  rw [matchesTcpUnreachable, hip, hother, hicmpv6]
  dsimp only
  rw [hnibble, hnextHeader, hpayload, hsourceRead, htargetRead, hdestination, hsegment, hvalid,
    htype]
  simp only [hsource, htarget, hsize, hlong, hcode, Bool.or_eq_true, Bool.and_eq_true,
    decide_eq_true_eq, hprobe]
  decide

/-- A header does not begin like one of the other version. -/
theorem version_ne (hfirst : packet.getD 0 0 = 0x45) : packet.getD 0 0 >>> 4 ≠ 6 := by
  rw [hfirst]
  decide

/-- **Completeness.** A quote of the probe matches, wherever it is cut off and whatever the network
has rewritten. -/
theorem matches_of_requoted {destination : IpAddress} {reason : ScanReason}
    (hprobe : submission.probe = .tcpSyn ∨ submission.probe = .tcpAck)
    (hpacket : submission.packet = t.bytes) (hsource : submission.sourceIp.Canonical)
    (htarget : submission.targetIp.Canonical) (hemitted : Emitted submission t packet)
    (hquote : Requoted packet quote) (hvalid : o.valid) (ho : Unreachable o destination quote)
    (hdestination : sameOnWire destination submission.sourceIp)
    (hreason : classifyTcpUnreachableReason o = some reason) :
    matchesTcpUnreachable submission o := by
  have hsize : 20 ≤ submission.packet.length := by
    rw [hpacket, TCP.length_bytes, TCP.serializedSize, TCP.headerSize]
    omega
  simp only [sameOnWire, Bool.and_eq_true, decide_eq_true_eq] at hdestination
  obtain ⟨hfamily, hbytes⟩ := hdestination
  rw [classifyTcpUnreachableReason] at hreason
  cases ho with
  | @icmp ip icmp hip hother hicmp htype =>
    have hcode : icmp.code ≤ 15 := by
      rw [hicmp, Option.filter_some, if_pos (by simpa using htype)] at hreason
      exact code_le_of_classifyIcmpCode (Option.isSome_of_eq_some hreason)
    cases hemitted with
    | ipv6 hsource6 =>
      have hfamily6 : submission.sourceIp.family = .ipv6 := of_decide_eq_true hsource6
      cases hfamily.trans hfamily6
    | ipv4 hsource4 htarget4 hlength c =>
      cases hquote with
      | ipv6 hversion =>
        exact absurd hversion (version_ne (header4_fields hlength _).first)
      | ipv4 _ hlong _ hsame hchecksum =>
        refine matches_of_requoted4 hprobe hpacket hsize ?_ ?_ hlength hlong hsame hchecksum hvalid
          hip hother hicmp htype hcode hbytes
        · exact hsource.resolve_left fun h6 ↦
            absurd (IpAddress.isIpv4_eq_false_of_isIpv6 h6) (by simp [hsource4])
        · exact htarget.resolve_left fun h6 ↦
            absurd (IpAddress.isIpv4_eq_false_of_isIpv6 h6) (by simp [htarget4])
  | @icmpv6 ip icmpv6 hip hother hicmpv6 honly htype =>
    have hcode : icmpv6.code ≤ 6 := by
      rw [hicmpv6, honly, Option.filter_some, if_pos (by simpa using htype)] at hreason
      exact code_le_of_classifyIcmpv6Code (Option.isSome_of_eq_some hreason)
    cases hemitted with
    | ipv4 hsource4 =>
      have hfamily4 : submission.sourceIp.family = .ipv4 := of_decide_eq_true hsource4
      cases hfamily.trans hfamily4
    | ipv6 hsource6 htarget6 hlength c =>
      cases hquote with
      | ipv4 hversion =>
        rw [(header6_fields hlength _).version] at hversion
        exact absurd hversion (by decide)
      | ipv6 _ hlong _ hsame hnibble =>
        exact matches_of_requoted6 hprobe hpacket hsize hsource6 htarget6 hlength hlong hsame
          hnibble
          hvalid hip hother hicmpv6 htype hcode hbytes

/-! ### What is always compared -/

/-- The identity of a submission's probe. Scopes do not travel. -/
def probeIdentity (submission : PortSubmission) : Identity where
  source := { submission.sourceIp with scope := none }
  target := { submission.targetIp with scope := none }
  sourcePort := submission.sourcePort
  destinationPort := submission.port.number
  sequence := submission.sequenceNumber

theorem unscoped_of_isIpv6 {a : IpAddress} (h : a.isIpv6) :
    { a with scope := none } = IpAddress.fromIpv6 a.bytes := by
  have hfamily : a.family = .ipv6 := of_decide_eq_true h
  rw [hfamily]
  rfl

theorem unscoped_of_isIpv4 {a : IpAddress} (h : a.isIpv4) {w : UInt32}
    (hbytes : (IpAddress.fromIpv4 w).bytes = a.bytes) :
    { a with scope := none } = IpAddress.fromIpv4 w := by
  have hfamily : a.family = .ipv4 := of_decide_eq_true h
  rw [hfamily, ← hbytes]
  rfl

/-- The ports and the sequence number of a serialized segment, wherever it begins. -/
theorem segment_fields {n : ℕ} (hsame : ∀ i < 8, packet.getD (n + i) 0 = t.bytes.getD i 0) :
    readU16 packet n = t.sourcePort ∧ readU16 packet (n + 2) = t.destinationPort ∧
      readU32 packet (n + 4) = t.sequenceNumber := by
  have hsource : readU16 t.bytes 0 = t.sourcePort := u16OfBytes_split _
  have hdestination : readU16 t.bytes 2 = t.destinationPort := u16OfBytes_split _
  have hsequence : readU32 t.bytes 4 = t.sequenceNumber := u32OfBytes_split _
  rw [← hsource, ← hdestination, ← hsequence, readU16, readU16, readU32, readU16, readU16, readU32]
  simp only [Nat.add_assoc, Nat.reduceAdd]
  rw [hsame 1 (by omega), hsame 2 (by omega), hsame 3 (by omega), hsame 4 (by omega),
    hsame 5 (by omega), hsame 6 (by omega), hsame 7 (by omega)]
  exact ⟨congrArg (u16OfBytes · _) (hsame 0 (by omega)), rfl, rfl⟩

theorem fields_of_append (header : List UInt8) (c : UInt16) :
    readU16 (header ++ { t with checksum := c }.bytes) header.length = t.sourcePort ∧
      readU16 (header ++ { t with checksum := c }.bytes) (header.length + 2) = t.destinationPort ∧
      readU32 (header ++ { t with checksum := c }.bytes) (header.length + 4) =
        t.sequenceNumber := by
  refine segment_fields fun i hi ↦ ?_
  rw [List.getD_append_right _ _ _ _ (by omega), Nat.add_sub_cancel_left]
  exact TCP.getD_bytes_checksum t c (by omega) (by omega)

/-- **The identity of an emitted packet** is that of its submission. -/
theorem identity_emitted (hsource : submission.sourceIp.Canonical)
    (htarget : submission.targetIp.Canonical) (hsourcePort : t.sourcePort = submission.sourcePort)
    (hdestinationPort : t.destinationPort = submission.port.number)
    (hsequence : t.sequenceNumber = submission.sequenceNumber)
    (hemitted : Emitted submission t packet) : identity packet = probeIdentity submission := by
  have hunscoped : ∀ {a : IpAddress}, a.isIpv4 → a.Canonical →
      { a with scope := none } = IpAddress.fromIpv4 a.ipv4Word := by
    intro a h4 hcanonical
    have heq := hcanonical.resolve_left fun h6 ↦
      absurd (IpAddress.isIpv4_eq_false_of_isIpv6 h6) (by simp [h4])
    exact unscoped_of_isIpv4 h4 (congrArg IpAddress.bytes heq.symm)
  cases hemitted with
  | ipv4 hsource4 htarget4 hlength c =>
    have hheader := header4_fields hlength { t with checksum := c }.bytes
    have hfields := fields_of_append (t := t) (header4 submission).withChecksum.bytes c
    rw [IPv4.length_bytes] at hfields
    rw [identity, if_neg (version_ne hheader.first), probeIdentity, hheader.source, hheader.target,
      hfields.1, hfields.2.1, hfields.2.2, hsourcePort, hdestinationPort, hsequence,
      hunscoped hsource4 hsource, hunscoped htarget4 htarget]
  | ipv6 hsource6 htarget6 hlength c =>
    have hheader := header6_fields hlength { t with checksum := c }.bytes
    have hfields := fields_of_append (t := t) (header6 submission).bytes c
    rw [IPv6.length_bytes] at hfields
    rw [identity, if_pos hheader.version, probeIdentity, hheader.source, hheader.target,
      hfields.1, hfields.2.1, hfields.2.2, hsourcePort, hdestinationPort, hsequence,
      unscoped_of_isIpv6 hsource6, unscoped_of_isIpv6 htarget6]

/-- **Soundness.** What a matched quote says of the probe's identity is true. -/
theorem identity_of_matches {destination : IpAddress} (hpacket : submission.packet = t.bytes)
    (hsourcePort : t.sourcePort = submission.sourcePort)
    (hdestinationPort : t.destinationPort = submission.port.number)
    (hsequence : t.sequenceNumber = submission.sequenceNumber)
    (ho : Unreachable o destination quote) (hmatches : matchesTcpUnreachable submission o) :
      identity quote = probeIdentity submission := by
  have hquoted : ∀ {n : ℕ}, n + 8 ≤ quote.length →
      quotesSegment (quote.drop n) submission.packet →
      readU16 quote n = submission.sourcePort ∧ readU16 quote (n + 2) = submission.port.number ∧
        readU32 quote (n + 4) = submission.sequenceNumber := by
    intro n hlong hsegment
    rw [← hsourcePort, ← hdestinationPort, ← hsequence]
    refine segment_fields fun i hi ↦ ?_
    rw [← getD_drop, ← hpacket]
    refine quotesSegment_iff.mp hsegment i ?_ (by omega) (by omega)
    have hsize : 20 ≤ submission.packet.length := by
      rw [hpacket, TCP.length_bytes, TCP.serializedSize, TCP.headerSize]
      omega
    rw [List.length_drop]
    omega
  cases ho with
  | @icmp ip icmp hip hother hicmp htype =>
    rw [matchesTcpUnreachable, hip, hother, hicmp] at hmatches
    simp only [Bool.and_eq_true, decide_eq_true_eq] at hmatches
    obtain ⟨-, ⟨⟨⟨⟨⟨⟨⟨⟨⟨⟨⟨⟨⟨hsource4, htarget4⟩, -⟩, -⟩, -⟩, hlong⟩, hfirst⟩, -⟩, -⟩, -⟩, -⟩,
      hsource⟩,
      htarget⟩, hsegment⟩⟩ := hmatches
    obtain ⟨hsourceRead, hdestinationRead, hsequenceRead⟩ := hquoted hlong hsegment
    rw [identity, if_neg (version_ne hfirst), probeIdentity, unscoped_of_isIpv4 hsource4 hsource,
      unscoped_of_isIpv4 htarget4 htarget, ← hsourceRead, ← hdestinationRead, ← hsequenceRead]
  | @icmpv6 ip icmpv6 hip hother hicmpv6 honly htype =>
    rw [matchesTcpUnreachable, hip, hother, hicmpv6] at hmatches
    simp only [Bool.and_eq_true, decide_eq_true_eq] at hmatches
    obtain ⟨-, ⟨⟨⟨⟨⟨⟨⟨⟨⟨⟨⟨hsource6, htarget6⟩, -⟩, -⟩, -⟩, hlong⟩, hversion⟩, -⟩, -⟩, hsource⟩,
      htarget⟩, hsegment⟩⟩ := hmatches
    obtain ⟨hsourceRead, hdestinationRead, hsequenceRead⟩ := hquoted hlong hsegment
    rw [identity, if_pos hversion, probeIdentity, unscoped_of_isIpv6 hsource6,
      unscoped_of_isIpv6 htarget6, ← hsourceRead, ← hdestinationRead, ← hsequenceRead, hsource,
        htarget]

end Emitted

end LinuxNetworkScanTransport

end Skan.Net
