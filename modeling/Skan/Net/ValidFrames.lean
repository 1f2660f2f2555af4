import Skan.Net.PacketReceiver
import Skan.Packet.ExtensionChain
import Skan.Packet.IPv6Quote

/-!
# Frames that are observed as valid

What a frame must be for `PacketReceiver::parse` to call it valid, layer by layer and said of the
frame's bytes: `LinkAccepted` for the Ethernet header and its VLAN tag, then the IP header, then
`TransportAccepted4` for what an IPv4 packet carries. Each layer has the lemma that the parser asks
for exactly that.

`valid_parse_iff4` and `valid_parse6` put them together.
-/

namespace Skan.Net

open Skan.Core Skan.Packet BigEndian

namespace PacketReceiver

variable {maxFrameSize : ℕ} {frame : List UInt8} {receivedAt : TimePoint}

/-! ### Where things are in a frame -/

/-- A VLAN tag, or a service tag, follows the Ethernet header. -/
def tagged (frame : List UInt8) : Bool := readU16 frame 12 = 0x8100 || readU16 frame 12 = 0x88A8

def linkHeaderSize (frame : List UInt8) : ℕ := if tagged frame then 18 else 14

/-- The type of what the link header carries. -/
def networkType (frame : List UInt8) : UInt16 :=
  if tagged frame then readU16 frame 16 else readU16 frame 12

/-- What follows the link header, padding of the frame included. -/
def networkBytes (frame : List UInt8) : List UInt8 := frame.drop (linkHeaderSize frame)

/-- The IPv4 packet of a frame. -/
def ipv4Packet (frame : List UInt8) : List UInt8 :=
  (networkBytes frame).take (readU16 (networkBytes frame) 2).toNat

/-- The IPv6 packet of a frame. -/
def ipv6Packet (frame : List UInt8) : List UInt8 :=
  (networkBytes frame).take (40 + (readU16 (networkBytes frame) 4).toNat)

/-- The UDP datagram at the front of a packet's payload, by its own length field. -/
def datagram (transport : List UInt8) : List UInt8 := transport.take (readU16 transport 4).toNat

/-- The frame has a whole link header, and is not too long. -/
structure LinkAccepted (maxFrameSize : ℕ) (frame : List UInt8) : Prop where
  bounded : frame.length ≤ min maxFrameSize maximumFrameSize
  whole : linkHeaderSize frame ≤ frame.length
  typed : readU16 frame 12 ≠ 0

/-- What an IPv4 packet may carry: a TCP segment with its checksum, a UDP datagram with its checksum
or none, an ICMP message. -/
def TransportAccepted4 (ip : IPv4) (transport : List UInt8) : Prop :=
  let checksum := Checksum.ipv4PseudoHeader ip.sourceAddress ip.destinationAddress ip.protocol
  ip.protocol = 6 ∧ (TCP.parse transport).isSome ∧ checksum transport = 0 ∨
  ip.protocol = 17 ∧ (∃ u, UDP.parse (datagram transport) = some u ∧
    (u.checksum = 0 ∨ checksum (datagram transport) = 0)) ∨
  ip.protocol = 1 ∧ (ICMP.parse transport).isSome

/-! ### Transports -/

variable {o : PacketObservation} {transport : List UInt8}

theorem valid_parseTcp_iff (checksum : List UInt8 → UInt16) :
    (parseTcp checksum o transport).status = .valid ↔
      (TCP.parse transport).isSome ∧ checksum transport = 0 := by
  constructor
  · intro h
    rw [parseTcp] at h
    dsimp only at h
    split_ifs at h with hshort hmalformed
    rw [not_or, not_not] at hmalformed
    refine ⟨Option.isSome_iff_ne_none.mpr fun hnone ↦ hmalformed.1 ?_, hmalformed.2⟩
    rw [hnone]
    rfl
  · rintro ⟨hparse, hchecksum⟩
    obtain ⟨t, ht⟩ := Option.isSome_iff_exists.mp hparse
    rw [parseTcp_eq ht hchecksum]
    rfl

theorem valid_parseIcmp_iff :
    (parseIcmp o transport).status = .valid ↔ (ICMP.parse transport).isSome := by
  constructor
  · intro h
    rw [parseIcmp] at h
    dsimp only at h
    split_ifs at h with hshort hmalformed
    exact Option.isSome_iff_ne_none.mpr fun hnone ↦ hmalformed (by rw [hnone]; rfl)
  · intro hparse
    obtain ⟨m, hm⟩ := Option.isSome_iff_exists.mp hparse
    rw [parseIcmp_eq hm]
    rfl

/-- A datagram that is one by its own length field is entered. -/
theorem parseUdp_of_datagram {malformed : UDP → List UInt8 → Bool} {u : UDP}
    (hparse : UDP.parse (datagram transport) = some u)
    (hsound : malformed u (datagram transport) = false) (o : PacketObservation) :
    parseUdp malformed o transport = enter o (.udp u) := by
  have hdatagram := hparse
  rw [UDP.parse] at hdatagram
  dsimp only at hdatagram
  split_ifs at hdatagram with hshort hlength
  rw [not_or, not_not] at hlength
  have hlong : 8 ≤ (datagram transport).length := not_lt.mp hshort
  have hread : readU16 (datagram transport) 4 = readU16 transport 4 := by
    refine readU16_congr fun j _ hj ↦ getD_take ?_
    rw [datagram, List.length_take] at hlong
    omega
  have hsize : (readU16 transport 4).toNat ≤ transport.length := by
    have hsame := hlength.2
    rw [hread, datagram, List.length_take] at hsame
    omega
  rw [datagram, List.length_take] at hlong
  rw [parseUdp, if_neg (by omega)]
  dsimp only
  rw [if_neg (by omega), if_neg (by omega)]
  rw [show transport.take (readU16 transport 4).toNat = datagram transport from rfl, hparse,
    Option.all_some, hsound]
  rfl

theorem valid_parseUdp {malformed : UDP → List UInt8 → Bool}
    (h : (parseUdp malformed o transport).status = .valid) :
    ∃ u, UDP.parse (datagram transport) = some u ∧ malformed u (datagram transport) = false := by
  rw [parseUdp] at h
  dsimp only at h
  split_ifs at h with hshort hsmall hlong hmalformed
  rcases hparse : UDP.parse (datagram transport) with - | u
  · exact absurd (congrArg (Option.all _) hparse) hmalformed
  · refine ⟨u, rfl, eq_false_of_ne_true fun hbad ↦ hmalformed ?_⟩
    exact (congrArg (Option.all _) hparse).trans hbad

theorem valid_parseTransport4_iff (ip : IPv4) :
    (parseTransport4 ip o transport).status = .valid ↔ TransportAccepted4 ip transport := by
  rw [parseTransport4, TransportAccepted4]
  split_ifs with htcp hudp hicmp
  · rw [valid_parseTcp_iff, htcp]
    simp
  · rw [hudp]
    simp only [true_and, show (17 : UInt8) ≠ 6 from by decide, show (17 : UInt8) ≠ 1 from by decide,
      false_and, or_false, false_or]
    constructor
    · intro h
      obtain ⟨u, hu, hsound⟩ := valid_parseUdp h
      rw [Bool.and_eq_false_iff, decide_eq_false_iff_not, decide_eq_false_iff_not, not_not,
        not_not] at hsound
      exact ⟨u, hu, hsound⟩
    · rintro ⟨u, hu, hsound⟩
      rw [parseUdp_of_datagram hu _ o]
      · rfl
      · rwa [Bool.and_eq_false_iff, decide_eq_false_iff_not, decide_eq_false_iff_not, not_not,
          not_not]
  · rw [valid_parseIcmp_iff, hicmp]
    simp
  · simp [htcp, hudp, hicmp]

/-! ### IP packets -/

/-- What a header parsed off the front of the input says of the bytes. -/
theorem fields_of_parseIpv4 {input : List UInt8} {ip : IPv4} (h : IPv4.parse input = some ip) :
    20 ≤ input.length ∧ input.getD 0 0 >>> 4 = 4 ∧ input.getD 0 0 &&& 0x0F = 5 ∧
      ip.flagsFragmentOffset = readU16 input 6 ∧ 20 ≤ (readU16 input 2).toNat ∧
      (readU16 input 2).toNat ≤ input.length := by
  rw [IPv4.parse] at h
  dsimp only at h
  split_ifs at h with hshort hheader hinvalid
  rw [not_or, not_or, not_not, not_not] at hheader
  rw [not_or, not_or, Bool.not_eq_true, Bool.not_eq_false', IPv4.validate] at hinvalid
  obtain ⟨hvalid, htotal, -⟩ := hinvalid
  simp only [Bool.and_eq_true, decide_eq_true_eq, IPv4.serializedSize, hheader.2.1] at hvalid
  refine ⟨not_lt.mp hshort, hheader.1, hheader.2.1, (Option.some.inj h) ▸ rfl, ?_, not_lt.mp htotal⟩
  exact hvalid.2

theorem fields_of_parseIpv6 {input : List UInt8} {ip : IPv6} (h : IPv6.parse input = some ip) :
    40 ≤ input.length ∧ input.getD 0 0 >>> 4 = 6 ∧
      40 + (readU16 input 4).toNat ≤ input.length ∧ ip = quotedIpv6 input := by
  rw [IPv6.parse] at h
  dsimp only at h
  split_ifs at h with hguard hlong
  rw [not_or, not_not] at hguard
  exact ⟨by omega, hguard.2, by omega, (Option.some.inj h).symm⟩

theorem valid_parseIpv4_iff (ipInput : List UInt8) :
    (parseIpv4 o ipInput).status = .valid ↔
      ∃ ip, IPv4.parse (ipInput.take (readU16 ipInput 2).toNat) = some ip ∧
        TransportAccepted4 ip ((ipInput.take (readU16 ipInput 2).toNat).drop 20) := by
  constructor
  · intro h
    rw [parseIpv4] at h
    dsimp only at h
    split_ifs at h with hshort hheader hsmall htotal hlong
    rw [not_or, not_not, not_not] at hheader
    rw [hheader.2] at h
    split at h
    · exact absurd h (by simp)
    · next ip hip => exact ⟨ip, hip, (valid_parseTransport4_iff ip).mp h⟩
  · rintro ⟨ip, hip, haccepted⟩
    obtain ⟨hlength, hversion, hihl, -, htotal, hwhole⟩ := fields_of_parseIpv4 hip
    rw [List.length_take] at hlength hwhole
    have hread : readU16 (ipInput.take (readU16 ipInput 2).toNat) 2 = readU16 ipInput 2 :=
      readU16_congr fun j _ hj ↦ getD_take (by omega)
    rw [hread] at htotal hwhole
    rw [getD_take (by omega)] at hversion hihl
    rw [parseIpv4, if_neg (by omega)]
    dsimp only
    rw [hversion, hihl, if_neg (by simp)]
    show (if ipInput.length < 20 then _ else _ : PacketObservation).status = _
    rw [if_neg (by omega)]
    show (if (readU16 ipInput 2).toNat < 20 then _ else _ : PacketObservation).status = _
    rw [if_neg (by omega), if_neg (by omega), hip]
    exact (valid_parseTransport4_iff ip).mpr haccepted

/-! ### Frames -/

/-- **Behind the link header** the network header is parsed, of an observation that holds nothing
else yet. -/
theorem parse_of_linkAccepted (h : LinkAccepted maxFrameSize frame) (receivedAt : TimePoint) :
    ∃ o, NoTransport o ∧ o.ipv4 = none ∧ o.ipv6 = none ∧
      parse frame receivedAt maxFrameSize =
        parseNetwork o (networkType frame) (networkBytes frame) := by
  have hsize := h.bounded
  have hlink := h.whole
  have hfourteen : 14 ≤ linkHeaderSize frame := by
    rw [linkHeaderSize]
    split_ifs <;> omega
  have hne : frame ≠ [] := List.ne_nil_of_length_pos (by omega)
  have htype : readU16 (frame.take 14) 12 = readU16 frame 12 :=
    readU16_congr fun j _ hj ↦ getD_take (by omega)
  have hethernet : ∃ ethernet, Ethernet.parse (frame.take 14) = some ethernet ∧
      ethernet.etherType = readU16 frame 12 := by
    rw [Ethernet.parse, if_neg (by rw [List.length_take]; omega)]
    dsimp only
    rw [htype, if_pos (by simpa [Ethernet.validate] using h.typed)]
    exact ⟨_, rfl, rfl⟩
  obtain ⟨ethernet, hparse, hetherType⟩ := hethernet
  rw [parse]
  dsimp only
  rw [if_neg (by omega), if_neg hne, if_neg (by omega), hparse]
  dsimp only
  rw [hetherType, networkType, networkBytes]
  by_cases htagged : tagged frame
  · rw [linkHeaderSize, if_pos htagged] at hlink
    rw [linkHeaderSize, if_pos htagged, if_pos htagged,
      if_pos (by simpa [tagged] using htagged), if_neg (by omega)]
    exact ⟨_, ⟨rfl, rfl, rfl, rfl⟩, rfl, rfl, rfl⟩
  · rw [linkHeaderSize, if_neg htagged, if_neg htagged, if_neg (by simpa [tagged] using htagged)]
    exact ⟨_, ⟨rfl, rfl, rfl, rfl⟩, rfl, rfl, rfl⟩

/-- A frame the link layer does not accept is not valid. -/
theorem linkAccepted_of_valid (h : (parse frame receivedAt maxFrameSize).status = .valid) :
    LinkAccepted maxFrameSize frame := by
  rw [parse] at h
  dsimp only at h
  split at h
  · exact absurd h (by simp)
  next hsize =>
  split at h
  · exact absurd h (by simp)
  split at h
  · exact absurd h (by simp)
  next hshort =>
  split at h
  · exact absurd h (by simp)
  next ethernet hparse =>
  have htype : readU16 (frame.take 14) 12 = readU16 frame 12 :=
    readU16_congr fun j _ hj ↦ getD_take (by omega)
  rw [Ethernet.parse, htype] at hparse
  dsimp only at hparse
  split_ifs at hparse with hempty htyped
  obtain rfl := Option.some.inj hparse
  refine ⟨by omega, ?_, by simpa [Ethernet.validate] using htyped⟩
  rw [linkHeaderSize]
  by_cases htagged : tagged frame
  · rw [if_pos (by simpa [tagged] using htagged)] at h
    rw [if_pos htagged]
    split at h
    · exact absurd h (by simp)
    · omega
  · rw [if_neg htagged]
    omega

/-- **A frame of IPv4 is valid** where its link header, its IP header and what it carries are. -/
theorem valid_parse_iff4 (htype : networkType frame = 0x0800) (receivedAt : TimePoint)
    (maxFrameSize : ℕ) :
    (parse frame receivedAt maxFrameSize).status = .valid ↔
      LinkAccepted maxFrameSize frame ∧ ∃ ip, IPv4.parse (ipv4Packet frame) = some ip ∧
        TransportAccepted4 ip ((ipv4Packet frame).drop 20) := by
  constructor
  · intro h
    have hlink := linkAccepted_of_valid h
    obtain ⟨o, -, -, -, hparse⟩ := parse_of_linkAccepted hlink receivedAt
    rw [hparse, parseNetwork, htype] at h
    exact ⟨hlink, (valid_parseIpv4_iff _).mp h⟩
  · rintro ⟨hlink, hip⟩
    obtain ⟨o, -, -, -, hparse⟩ := parse_of_linkAccepted hlink receivedAt
    rw [hparse, parseNetwork, htype]
    exact (valid_parseIpv4_iff _).mpr hip

/-- A valid frame is of IPv4 or of IPv6. -/
theorem networkType_of_valid (h : (parse frame receivedAt maxFrameSize).status = .valid) :
    networkType frame = 0x0800 ∨ networkType frame = 0x86DD := by
  obtain ⟨o, -, -, -, hparse⟩ := parse_of_linkAccepted (linkAccepted_of_valid h) receivedAt
  rw [hparse, parseNetwork] at h
  split_ifs at h with hsix hfour
  · exact .inr hsix
  · exact .inl (not_not.mp hfour)

/-- What the parser found in a valid IPv6 packet: a fixed header, a chain of extension headers
without a fragment header, up to a transport. -/
structure Observed6 (packet : List UInt8) (ip : IPv6) (extensions : IPv6ExtensionParseResult) :
    Prop where
  header : IPv6.parse packet = some ip
  chain : parseIpv6Extensions (packet.drop 40) ip.nextHeader 8 2048 = extensions
  complete : extensions.status = .complete
  whole : ∀ header ∈ extensions.headers, header.kind ≠ .fragment

theorem valid_parseIpv6 {o : PacketObservation} {ipInput : List UInt8}
    (h : (parseIpv6 o ipInput).status = .valid) :
    ∃ ip extensions,
      Observed6 (ipInput.take (40 + (readU16 ipInput 4).toNat)) ip extensions ∧
      parseIpv6 o ipInput =
        parseTransport6 ip extensions.terminalNextHeader
          { o with ipv6 := some ip, ipv6Extensions := extensions }
          (((ipInput.take (40 + (readU16 ipInput 4).toNat)).drop 40).drop
            extensions.consumedBytes) := by
  have hparse := h
  rw [parseIpv6] at hparse
  dsimp only at hparse
  split_ifs at hparse with hshort hversion hlong
  split at hparse
  · exact absurd hparse (by simp)
  next ip hip =>
  split at hparse
  · exact absurd hparse (by simp)
  · exact absurd hparse (by simp)
  · exact absurd hparse (by simp)
  · exact absurd hparse (by simp)
  next hcomplete =>
  split_ifs at hparse with hfragment
  refine ⟨ip, _, ⟨hip, rfl, hcomplete, ?_⟩, ?_⟩
  · intro header hheader hkind
    exact hfragment (List.any_eq_true.mpr ⟨header, hheader, by simpa using hkind⟩)
  · rw [parseIpv6, if_neg hshort]
    dsimp only
    rw [if_neg hversion, if_neg hlong, hip]
    dsimp only
    rw [hcomplete]
    exact if_neg hfragment

/-- What the parser found in a valid frame of IPv6. -/
theorem observed_of_valid6 (h : (parse frame receivedAt maxFrameSize).status = .valid)
    (htype : networkType frame = 0x86DD) :
    ∃ o ip extensions, NoTransport o ∧ Observed6 (ipv6Packet frame) ip extensions ∧
      parse frame receivedAt maxFrameSize =
        parseTransport6 ip extensions.terminalNextHeader
          { o with ipv6 := some ip, ipv6Extensions := extensions }
          (((ipv6Packet frame).drop 40).drop extensions.consumedBytes) := by
  obtain ⟨o, hnone, -, -, hparse⟩ := parse_of_linkAccepted (linkAccepted_of_valid h) receivedAt
  have hnetwork : parseNetwork o (networkType frame) (networkBytes frame) =
      parseIpv6 o (networkBytes frame) := by
    rw [parseNetwork, if_pos htype]
  rw [hparse, hnetwork] at h ⊢
  obtain ⟨ip, extensions, hobserved, htransport⟩ := valid_parseIpv6 h
  exact ⟨o, ip, extensions, hnone, hobserved, htransport⟩

/-! ### Fragments -/

/-- **The packet is a fragment**: of IPv4 with an offset or with more fragments to come, of IPv6
with a fragment header that says so. -/
def IsFragment (frame : List UInt8) : Prop :=
  networkType frame = 0x0800 ∧ readU16 (networkBytes frame) 6 &&& 0x3FFF ≠ 0 ∨
  networkType frame = 0x86DD ∧ ∃ headers stop last,
    Walk ((ipv6Packet frame).drop 40) 0 ((networkBytes frame).getD 6 0) headers stop last ∧
    ∃ header ∈ headers, header.kind = .fragment ∧
      (header.fragmentOffset ≠ 0 ∨ header.moreFragments)

/-- A fragment of IPv4 whose headers are right and whose bytes read as a transport. -/
structure AcceptedFragment (maxFrameSize : ℕ) (frame : List UInt8) : Prop where
  type : networkType frame = 0x0800
  fragment : readU16 (networkBytes frame) 6 &&& 0x3FFF ≠ 0
  link : LinkAccepted maxFrameSize frame
  ip : ∃ ip, IPv4.parse (ipv4Packet frame) = some ip ∧
    TransportAccepted4 ip ((ipv4Packet frame).drop 20)

/-- An IPv6 packet that is observed has no fragment header on any walk. -/
theorem Observed6.not_fragment {packet : List UInt8} {ip : IPv6}
    {extensions : IPv6ExtensionParseResult} (h : Observed6 packet ip extensions)
    {headers : List IPv6ExtensionHeader} {stop : ℕ} {last : UInt8}
    (hwalk : Walk (packet.drop 40) 0 ip.nextHeader headers stop last) :
    ∀ header ∈ headers, header.kind ≠ .fragment := by
  obtain ⟨final, hfits⟩ := fits_of_settled h.chain (.inl h.complete)
  have hpassed := Walk.isPrefix_of_other hfits.other hfits.walk hwalk
  exact fun header hmem ↦ h.whole header (hpassed.subset hmem)

/-- **Fragments get through** exactly where they are of IPv4 and look whole otherwise. -/
theorem valid_not_fragment_iff (frame : List UInt8) (receivedAt : TimePoint) (maxFrameSize : ℕ) :
    ((parse frame receivedAt maxFrameSize).status = .valid → ¬ IsFragment frame) ↔
      ¬ AcceptedFragment maxFrameSize frame := by
  constructor
  · rintro h ⟨htype, hfragment, hlink, hip⟩
    exact h ((valid_parse_iff4 htype receivedAt maxFrameSize).mpr ⟨hlink, hip⟩)
      (.inl ⟨htype, hfragment⟩)
  · rintro h hvalid (⟨htype, hfragment⟩ | ⟨htype, headers, stop, last, hwalk, hfragment⟩)
    · obtain ⟨hlink, hip⟩ := (valid_parse_iff4 htype receivedAt maxFrameSize).mp hvalid
      exact h ⟨htype, hfragment, hlink, hip⟩
    · obtain ⟨header, hmem, hkind, -⟩ := hfragment
      obtain ⟨o, ip, extensions, -, hobserved, -⟩ := observed_of_valid6 hvalid htype
      obtain ⟨-, -, -, hfields⟩ := fields_of_parseIpv6 hobserved.header
      have hnext : ip.nextHeader = (networkBytes frame).getD 6 0 := by
        rw [hfields]
        exact getD_take (by omega)
      rw [← hnext] at hwalk
      exact hobserved.not_fragment hwalk header hmem hkind

/-- A later fragment of a UDP datagram, the bytes of which read as a datagram of their own. -/
def laterFragment : List UInt8 :=
  List.replicate 12 0 ++ [0x08, 0x00] ++
    [0x45, 0, 0, 28, 0, 7, 0x20, 185, 64, 17, 0x46, 0x0F, 10, 0, 0, 1, 10, 0, 0, 2] ++
    [0, 53, 0, 53, 0, 8, 0, 0]

theorem not_valid_not_fragment :
    ¬ ∀ frame receivedAt maxFrameSize,
      (parse frame receivedAt maxFrameSize).status = .valid → ¬ IsFragment frame := by
  intro h
  have hvalid : (parse laterFragment 0 65535).status = .valid := by decide
  have hfragment : IsFragment laterFragment := .inl ⟨by decide, by decide⟩
  exact h laterFragment 0 65535 hvalid hfragment

end PacketReceiver

end Skan.Net
