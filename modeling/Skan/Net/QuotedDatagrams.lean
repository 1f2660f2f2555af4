import Mathlib.Data.List.Infix
import Skan.Net.ValidFrames

/-!
# Quoted datagrams and whole ones

An ICMPv6 error quotes the front of the packet it is about. `parse_ipv6_udp_quote` reads such a
quote on its own, with the packet's length fields larger than what is left of the packet. It agrees
with the packet receiver on the whole packet: wherever the quote covers the UDP header, and the
headers keep to the quote's limit, both see the same addresses, extension headers, ports and length.

The extension headers are where the two could differ. Both walk the same chain: a walk that ends
within the quote is a walk of the quote (`Walk.of_isPrefix`), and the parser follows it.
-/

namespace Skan.Net

open Skan.Core Skan.Packet BigEndian

namespace PacketReceiver

variable {short long : List UInt8}

/-! ### What the layers leave alone -/

section Frame

variable (o : PacketObservation) (transport : List UInt8)

theorem parseTcp_frame (checksum : List UInt8 → UInt16) :
    ∃ tcp status, parseTcp checksum o transport = { o with tcp, status } := by
  rw [parseTcp]
  dsimp only
  split_ifs <;> exact ⟨_, _, rfl⟩

theorem parseUdp_frame (malformed : UDP → List UInt8 → Bool) :
    ∃ udp status, parseUdp malformed o transport = { o with udp, status } := by
  rw [parseUdp]
  dsimp only
  split_ifs <;> exact ⟨_, _, rfl⟩

theorem parseIcmp_frame :
    ∃ icmp status, parseIcmp o transport = { o with icmp, status } := by
  rw [parseIcmp]
  dsimp only
  split_ifs <;> exact ⟨_, _, rfl⟩

theorem parseIcmpv6_frame (checksum : List UInt8 → UInt16) :
    ∃ icmpv6 status, parseIcmpv6 checksum o transport = { o with icmpv6, status } := by
  rw [parseIcmpv6]
  dsimp only
  split_ifs <;> exact ⟨_, _, rfl⟩

theorem ipv6_parseTransport4 (ip : IPv4) : (parseTransport4 ip o transport).ipv6 = o.ipv6 := by
  rw [parseTransport4]
  split_ifs
  · obtain ⟨_, _, h⟩ := parseTcp_frame o transport _
    rw [h]
  · obtain ⟨_, _, h⟩ := parseUdp_frame o transport _
    rw [h]
  · obtain ⟨_, _, h⟩ := parseIcmp_frame o transport
    rw [h]
  · rfl

theorem ipv6_parseIpv4 (ipInput : List UInt8) : (parseIpv4 o ipInput).ipv6 = o.ipv6 := by
  rw [parseIpv4]
  dsimp only
  split_ifs
  any_goals rfl
  split
  · rfl
  · exact ipv6_parseTransport4 _ _ _

end Frame

/-- Over IPv6 a valid transport leaves the IP layer as it was; a datagram is there only where the
extension headers announce one. -/
theorem observed_parseTransport6 {o : PacketObservation} (hnone : o.udp = none) (ip : IPv6)
    (protocol : UInt8) (transport : List UInt8) :
    (parseTransport6 ip protocol o transport).ipv6 = o.ipv6 ∧
      (parseTransport6 ip protocol o transport).ipv6Extensions = o.ipv6Extensions ∧
      ∀ u, (parseTransport6 ip protocol o transport).udp = some u →
        (parseTransport6 ip protocol o transport).status = .valid →
        protocol = 17 ∧ UDP.parse (datagram transport) = some u := by
  rw [parseTransport6]
  split_ifs with htcp hudp hicmp
  · obtain ⟨_, _, h⟩ := parseTcp_frame o transport
      (Checksum.ipv6PseudoHeader ip.sourceAddress ip.destinationAddress protocol)
    rw [h]
    exact ⟨rfl, rfl, fun u hu ↦ absurd (hnone.symm.trans hu) (by simp)⟩
  · refine ⟨?_, ?_, fun u hu hvalid ↦ ⟨hudp, ?_⟩⟩
    · obtain ⟨_, _, h⟩ := parseUdp_frame o transport _
      rw [h]
    · obtain ⟨_, _, h⟩ := parseUdp_frame o transport _
      rw [h]
    · obtain ⟨v, hv, hsound⟩ := valid_parseUdp hvalid
      rw [parseUdp_of_datagram hv hsound] at hu
      rw [hv]
      exact hu
  · obtain ⟨_, _, h⟩ := parseIcmpv6_frame o transport
      (Checksum.ipv6PseudoHeader ip.sourceAddress ip.destinationAddress protocol)
    rw [h]
    exact ⟨rfl, rfl, fun u hu ↦ absurd (hnone.symm.trans hu) (by simp)⟩
  · exact ⟨rfl, rfl, fun u hu ↦ absurd (hnone.symm.trans hu) (by simp)⟩

/-- **A valid datagram over IPv6** is what the packet's own bytes hold behind their extension
headers. -/
theorem datagram_of_valid6 {frame : List UInt8} {receivedAt : TimePoint} {maxFrameSize : ℕ}
    {o : PacketObservation} (ho : parse frame receivedAt maxFrameSize = o)
    (hvalid : o.status = .valid) {ip : IPv6} (hip : o.ipv6 = some ip) {udp : UDP}
    (hudp : o.udp = some udp) :
    Observed6 (ipv6Packet frame) ip o.ipv6Extensions ∧
      o.ipv6Extensions.terminalNextHeader = 17 ∧
      UDP.parse (datagram
        (((ipv6Packet frame).drop 40).drop o.ipv6Extensions.consumedBytes)) = some udp := by
  have hframe : (parse frame receivedAt maxFrameSize).status = .valid := by rwa [ho]
  have htype : networkType frame = 0x86DD := by
    refine (networkType_of_valid hframe).resolve_left fun hfour ↦ ?_
    obtain ⟨before, -, -, hnone, hparse⟩ :=
      parse_of_linkAccepted (linkAccepted_of_valid hframe) receivedAt
    have hsix : (parseNetwork before 0x0800 (networkBytes frame)).ipv6 = none :=
      (ipv6_parseIpv4 before _).trans hnone
    rw [← hfour, ← hparse, ho, hip] at hsix
    exact absurd hsix (by simp)
  obtain ⟨before, ip', extensions, hnone, hobserved, hparse⟩ := observed_of_valid6 hframe htype
  obtain ⟨hipSame, hextSame, hdatagram⟩ := observed_parseTransport6
    (o := { before with ipv6 := some ip', ipv6Extensions := extensions }) hnone.udp ip'
    extensions.terminalNextHeader (((ipv6Packet frame).drop 40).drop extensions.consumedBytes)
  rw [← hparse, ho] at hipSame hextSame hdatagram
  obtain rfl := Option.some.inj (hip.symm.trans hipSame)
  have hsame : o.ipv6Extensions = extensions := hextSame
  rw [hsame]
  exact ⟨hobserved, hdatagram udp hudp hvalid⟩

/-! ### The quote -/

/-- Twenty bits do not reach the reserved ones of a flow label. -/
theorem and_reserved_of_lt {flowLabel : UInt32} (h : flowLabel.toNat < 2 ^ 20) :
    flowLabel &&& 0xFFF00000 = 0 := by
  apply UInt32.toNat_inj.mp
  rw [UInt32.toNat_and]
  refine Nat.eq_of_testBit_eq fun i ↦ ?_
  rw [Nat.testBit_and]
  by_cases hlow : i < 20
  · -- the mask has no bit below 20
    have hmask : Nat.testBit (0xFFF00000 : UInt32).toNat i = false := by
      interval_cases i <;> decide
    rw [hmask, Bool.and_false]
    exact (Nat.zero_testBit i).symm
  · have hhigh : flowLabel.toNat.testBit i = false :=
      Nat.testBit_lt_two_pow (h.trans_le (Nat.pow_le_pow_right (by decide) (by omega)))
    rw [hhigh, Bool.false_and]
    exact (Nat.zero_testBit i).symm

/-- A header read off twenty bits of flow label is valid. -/
theorem validate_quotedIpv6 {packet : List UInt8} (hversion : packet.getD 0 0 >>> 4 = 6) :
    (quotedIpv6 packet).validate = true := by
  have hflow : (quotedIpv6 packet).flowLabel.toNat < 2 ^ 20 := by
    have hword := toNat_u32OfBytes 0 (packet.getD 1 0 &&& 0x0F) (packet.getD 2 0) (packet.getD 3 0)
    have hsecond := (packet.getD 2 0).toNat_lt
    have hthird := (packet.getD 3 0).toNat_lt
    have hsame : (quotedIpv6 packet).flowLabel =
        u32OfBytes 0 (packet.getD 1 0 &&& 0x0F) (packet.getD 2 0) (packet.getD 3 0) := by
      simp [quotedIpv6, u32OfBytes]
    rw [toNat_and_15] at hword
    rw [hsame, hword]
    simp only [UInt8.toNat_zero]
    omega
  rw [IPv6.validate, Bool.and_eq_true, decide_eq_true_eq, decide_eq_true_eq]
  exact ⟨hversion, and_reserved_of_lt hflow⟩

/-- What a datagram's parser reads. -/
theorem fields_of_parseUdp {input : List UInt8} {u : UDP} (h : UDP.parse input = some u) :
    8 ≤ input.length ∧ u.sourcePort = readU16 input 0 ∧ u.destinationPort = readU16 input 2 ∧
      u.length = readU16 input 4 ∧ ¬ readU16 input 4 < 8 := by
  have hvalid := UDP.validate_of_parse h
  rw [UDP.parse] at h
  dsimp only at h
  split_ifs at h with hshort hlength
  rw [not_or, not_not] at hlength
  obtain rfl := Option.some.inj h
  refine ⟨not_lt.mp hshort, rfl, rfl, UInt16.toNat_inj.mp ?_, hlength.1⟩
  rw [UDP.toNat_length hvalid, UDP.serializedSize, List.length_drop, hlength.2]
  omega

theorem quotedIpv6_of_isPrefix (h : short <+: long) (hlength : 40 ≤ short.length) :
    quotedIpv6 short = quotedIpv6 long := by
  have hbyte : ∀ i, i < 40 → short.getD i 0 = long.getD i 0 :=
    fun i hi ↦ getD_of_isPrefix h (by omega)
  have hsource : readVector 16 short 8 = readVector 16 long 8 :=
    readVector_congr fun j _ hj ↦ hbyte j (by omega)
  have hdestination : readVector 16 short 24 = readVector 16 long 24 :=
    readVector_congr fun j _ hj ↦ hbyte j (by omega)
  have hpayload : readU16 short 4 = readU16 long 4 :=
    readU16_congr fun j _ hj ↦ hbyte j (by omega)
  rw [quotedIpv6, quotedIpv6, hsource, hdestination, hpayload, hbyte 0 (by decide),
    hbyte 1 (by decide), hbyte 2 (by decide), hbyte 3 (by decide), hbyte 6 (by decide),
    hbyte 7 (by decide)]

/-- The front of a datagram, which its quote holds, gives the ports and the length. -/
theorem readU16_quoted (h : short <+: long) {consumed i : ℕ}
    (hlength : 40 + consumed + 8 ≤ short.length)
    (hlong : 8 ≤ (datagram ((long.drop 40).drop consumed)).length) (hi : i + 2 ≤ 8) :
    readU16 ((short.drop 40).drop consumed) i =
      readU16 (datagram ((long.drop 40).drop consumed)) i := by
  rw [datagram, List.length_take] at hlong
  refine readU16_congr fun j hj hlt ↦ ?_
  rw [datagram, getD_take (by omega), getD_drop, getD_drop, getD_drop, getD_drop]
  exact getD_of_isPrefix h (by omega)

/-- The chain of extension headers is the same in the quote. -/
theorem chain_of_isPrefix {ip : IPv6} {extensions : IPv6ExtensionParseResult} (h : short <+: long)
    (hobserved : Observed6 long ip extensions)
    (hlength : 40 + extensions.consumedBytes + 8 ≤ short.length) (hsize : short.length ≤ 2048) :
    parseIpv6Extensions (short.drop 40) ip.nextHeader 8 (min 2048 (short.drop 40).length) =
      extensions := by
  have hdrop : (short.drop 40).length = short.length - 40 := List.length_drop
  obtain ⟨last, hfits⟩ := fits_of_settled hobserved.chain (.inl hobserved.complete)
  have hwhole := parseIpv6Extensions_of_fits (by decide) (by decide) hfits
  have hquoted : Fits (short.drop 40) ip.nextHeader 8 (min 2048 (short.drop 40).length)
      extensions.headers extensions.consumedBytes last :=
    { walk := hfits.walk.of_isPrefix (h.drop 40) (by omega)
      other := hfits.other
      headers_le := hfits.headers_le
      stop_le := by omega }
  rw [parseIpv6Extensions_of_fits (by decide) (by omega) hquoted, ← hobserved.chain, hwhole]

/-- The packet is no longer than its own length field says. -/
theorem length_ipv6Packet_le (frame : List UInt8) :
    (ipv6Packet frame).length ≤ 40 + (readU16 (ipv6Packet frame) 4).toNat := by
  have hread : readU16 (ipv6Packet frame) 4 = readU16 (networkBytes frame) 4 :=
    readU16_congr fun j _ hj ↦ getD_take (by omega)
  rw [hread]
  exact List.length_take_le _ _

/-- **Quotes agree with whole packets.** Of a valid UDP packet over IPv6 whose headers take no more
than 2048 bytes, any part from its front that covers the UDP header is parsed as a quote, with the
same fixed header, extension headers, ports and length. -/
theorem parseIpv6UdpQuote_of_valid {frame : List UInt8} {receivedAt : TimePoint}
    {maxFrameSize : ℕ} {o : PacketObservation} (ho : parse frame receivedAt maxFrameSize = o)
    (hvalid : o.status = .valid) {ip : IPv6} (hip : o.ipv6 = some ip) {udp : UDP}
    (hudp : o.udp = some udp) (hsize : 40 + o.ipv6Extensions.consumedBytes + 8 ≤ 2048)
    {quoted : List UInt8} (hfront : quoted <+: ipv6Packet frame)
    (hcovers : 40 + o.ipv6Extensions.consumedBytes + 8 ≤ quoted.length) :
    ∃ quote, parseIpv6UdpQuote quoted = some quote ∧ quote.ip = ip ∧
      quote.extensions = o.ipv6Extensions ∧ quote.sourcePort = udp.sourcePort ∧
      quote.destinationPort = udp.destinationPort ∧ quote.length = udp.length := by
  obtain ⟨hobserved, hterminal, hdatagram⟩ := datagram_of_valid6 ho hvalid hip hudp
  obtain ⟨hlong, hsource, hdestination, hlength, hsmall⟩ := fields_of_parseUdp hdatagram
  obtain ⟨-, hversion, hpayload, hfields⟩ := fields_of_parseIpv6 hobserved.header
  -- the quote parser looks at no more than 2048 bytes
  have hbounded : quoted.take (min quoted.length 2048) <+: ipv6Packet frame :=
    List.IsPrefix.trans ( List.take_prefix _ _) hfront
  have hmin : (quoted.take (min quoted.length 2048)).length = min quoted.length 2048 := by
    rw [List.length_take]
    omega
  rw [parseIpv6UdpQuote, if_neg (by omega)]
  dsimp only
  generalize quoted.take (min quoted.length 2048) = bounded at hbounded hmin
  have hheader : quotedIpv6 bounded = ip := by
    rw [quotedIpv6_of_isPrefix hbounded (by omega), hfields]
  have hread := @readU16_quoted bounded (ipv6Packet frame) hbounded o.ipv6Extensions.consumedBytes
  have hchain := chain_of_isPrefix hbounded hobserved (by omega) (by omega)
  have hvalidHeader : ip.validate = true := by
    rw [hfields]
    exact validate_quotedIpv6 hversion
  have hfragment : (o.ipv6Extensions.headers.any fun header ↦
      header.kind = .fragment && header.fragmentOffset ≠ 0) = false := by
    rw [List.any_eq_false]
    intro header hmem
    simp [hobserved.whole header hmem]
  have hannounced : ¬ ip.payloadLength.toNat < o.ipv6Extensions.consumedBytes + 8 := by
    have hle := length_ipv6Packet_le frame
    rw [datagram, List.length_take, List.length_drop, List.length_drop] at hlong
    have hsame : ip.payloadLength = readU16 (ipv6Packet frame) 4 := by rw [hfields]; rfl
    rw [hsame]
    omega
  have hfour : bounded.getD 0 0 >>> 4 = 6 := by rw [getD_of_isPrefix hbounded (by omega), hversion]
  have hrest : ((bounded.drop 40).drop o.ipv6Extensions.consumedBytes).length =
      bounded.length - 40 - o.ipv6Extensions.consumedBytes := by
    rw [List.length_drop, List.length_drop]
  have hlongEnough : ¬ (bounded.length < 48 ∨ bounded.getD 0 0 >>> 4 ≠ 6) := by
    rw [not_or, hfour]
    exact ⟨by omega, not_not_intro rfl⟩
  rw [if_neg hlongEnough, hheader, hchain, hvalidHeader, hobserved.complete, hterminal,
    hfragment, if_neg, if_neg]
  · exact ⟨_, rfl, rfl, rfl, (hread (by omega) hlong (by decide)).trans hsource.symm,
      (hread (by omega) hlong (by decide)).trans hdestination.symm,
      (hread (by omega) hlong (by decide)).trans hlength.symm⟩
  · rw [hread (by omega) hlong (by decide), hrest, not_or]
    exact ⟨by omega, hsmall⟩
  · rw [List.length_drop]
    simp only [Bool.not_true, Bool.false_eq_true, ne_eq, not_true_eq_false, false_or, or_false,
      not_or]
    exact ⟨by omega, hannounced⟩

/-- A datagram of four bytes, behind a hop-by-hop header. -/
def optionsFrame : List UInt8 :=
  List.replicate 12 0 ++ [0x86, 0xDD] ++
    [0x60, 0, 0, 0, 0, 20, 0, 64, 0, 0, 0, 0, 0, 0, 0, 0, 0, 0, 0, 0, 0, 0, 0, 1,
      0, 0, 0, 0, 0, 0, 0, 0, 0, 0, 0, 0, 0, 0, 0, 2] ++
    [17, 0, 1, 4, 0, 0, 0, 0] ++ [0, 53, 0, 99, 0, 12, 0xFB, 0x35, 1, 2, 3, 4]

theorem parseIpv6UdpQuote_of_valid_options :
    ∃ quote, parseIpv6UdpQuote ((optionsFrame.drop 14).take 56) = some quote ∧
      quote.sourcePort = 53 ∧ quote.destinationPort = 99 ∧ quote.length = 12 := by
  have hip : (parse optionsFrame 0 65535).ipv6 = some (quotedIpv6 (optionsFrame.drop 14)) := by
    decide +kernel
  have hudp : (parse optionsFrame 0 65535).udp =
      some
        { sourcePort := 53, destinationPort := 99, checksum := 0xFB35,
          payload := [1, 2, 3, 4] } := by
    decide +kernel
  have hconsumed : (parse optionsFrame 0 65535).ipv6Extensions.consumedBytes = 8 := by
    decide +kernel
  obtain ⟨quote, hquote, -, -, hsource, hdestination, hlength⟩ :=
    @parseIpv6UdpQuote_of_valid optionsFrame 0 65535 _ rfl (by decide +kernel) _ hip _ hudp
      (by rw [hconsumed]; decide) ((optionsFrame.drop 14).take 56) ⟨[1, 2, 3, 4], by decide +kernel⟩
      (by rw [hconsumed]; decide +kernel)
  exact ⟨quote, hquote, hsource, hdestination, hlength⟩

end PacketReceiver

end Skan.Net
