import Skan.Net.PacketReceiver

/-!
# The checksums against the standard

`src/packet/checksum.cpp` sums words as it reads them: the words of a pseudo-header first, the two
addresses of an IPv6 one in turns, then the words of the transport. Here each of its three functions
is compared with `OnesComplement.checksum` of a byte string, for the pseudo-headers the byte string
of RFC 793 and RFC 8200 in front of the transport. One's-complement sums depend on the total only,
so the order of the words is no matter, and an even pseudo-header leaves the pairing of the
transport bytes alone.

A transport longer than the length field of its pseudo-header can say has no pseudo-header; the
source answers zero for it, and so do the equations here.

## Verification

`checksum_standard` also says that what the serializers write into the checksum field is accepted by
the matching check of `packet_receiver.cpp`, for segments as byte strings and as the values that are
serialized.
-/

namespace Skan.Packet

open Skan.Core BigEndian OnesComplement

namespace Checksum

/-- The pseudo-header of an IPv4 packet with a transport of the given length. -/
def pseudoHeader4 (source destination : UInt32) (protocol : UInt8) (length : ℕ) : List UInt8 :=
  u32Bytes source ++ u32Bytes destination ++ [0, protocol] ++ u16Bytes (UInt16.ofNat length)

/-- The pseudo-header of an IPv6 packet with a transport of the given length. -/
def pseudoHeader6 (source destination : Bytes16) (nextHeader : UInt8) (length : ℕ) : List UInt8 :=
  source.toList ++ destination.toList ++ u32Bytes (UInt32.ofNat length) ++ [0, 0, 0, nextHeader]

@[simp] theorem length_pseudoHeader4 (source destination : UInt32) (protocol : UInt8)
    (length : ℕ) : (pseudoHeader4 source destination protocol length).length = 12 := rfl

@[simp] theorem length_pseudoHeader6 (source destination : Bytes16) (nextHeader : UInt8)
    (length : ℕ) : (pseudoHeader6 source destination nextHeader length).length = 40 := by
  simp [pseudoHeader6]

/-! ### Totals -/

/-- The words of the source are those of the standard. -/
theorem map_toNat_words (bytes : List UInt8) :
    (words bytes).map UInt16.toNat = OnesComplement.words (padded bytes) := by
  induction bytes using words.induct with
  | case1 => rfl
  | case2 hi =>
    rw [words, List.map_cons, toNat_u16OfBytes]
    rfl
  | case3 hi lo bytes ih =>
    -- two bytes in front do not change the parity
    have hpadded : padded (hi :: lo :: bytes) =
        hi :: lo :: padded bytes := by
      have hparity : (hi :: lo :: bytes).length % 2 = bytes.length % 2 := by
        simp only [List.length_cons]
        omega
      rw [padded, padded, hparity]
      split_ifs <;> rfl
    rw [words, List.map_cons, toNat_u16OfBytes, ih, hpadded, OnesComplement.words]

/-- The checksum is the complement of the sum. -/
theorem checksum_eq_total (bytes : List UInt8) :
    checksum bytes = 65535 - OnesComplement.norm (total bytes) := by
  rw [checksum_eq, ← map_toNat_words, total]

theorem total_append {front : List UInt8} (heven : front.length % 2 = 0) (back : List UInt8) :
    total (front ++ back) = total front + total back := by
  rw [total, words_append heven, List.map_append, List.sum_append, total, total]

theorem total_u16Bytes (w : UInt16) : total (u16Bytes w) = w.toNat := by
  rw [total, words_u16Bytes]
  exact Nat.add_zero _

/-- A 32-bit word is summed in halves. -/
theorem total_u32Bytes (w : UInt32) : total (u32Bytes w) = w.toNat / 65536 + w.toNat % 65536 := by
  have hw : w.toNat < 4294967296 := w.toNat_lt
  show (u16OfBytes (w >>> 24).toUInt8 (w >>> 16).toUInt8).toNat +
    ((u16OfBytes (w >>> 8).toUInt8 w.toUInt8).toNat + 0) = _
  rw [toNat_u16OfBytes, toNat_u16OfBytes]
  simp [Nat.shiftRight_eq_div_pow]
  omega

/-- **A sum of words with the same total** as a byte string is the checksum of the byte string. -/
theorem toNat_complement_eq {ws : List UInt16} {bytes : List UInt8}
    (htotal : (ws.map UInt16.toNat).sum = total bytes) :
    (complement (sumWords ws)).toNat = checksum bytes := by
  rw [toNat_complement_sumWords, htotal, checksum_eq_total]

/-! ### The three functions -/

/-- The code computes this checksum. -/
theorem toNat_internet (bytes : List UInt8) :
    (internet bytes).toNat = checksum bytes :=
  toNat_complement_eq rfl

theorem toNat_highHalf (w : UInt32) : (w >>> 16).toUInt16.toNat = w.toNat / 65536 := by
  have hw : w.toNat < 4294967296 := w.toNat_lt
  simp [Nat.shiftRight_eq_div_pow]
  omega

theorem toNat_lowHalf (w : UInt32) : (w &&& 0xFFFF).toUInt16.toNat = w.toNat % 65536 := by
  have hand : (w &&& 0xFFFF).toNat = w.toNat % 65536 := by
    rw [UInt32.toNat_and]
    exact Nat.and_two_pow_sub_one_eq_mod _ 16
  rw [UInt32.toNat_toUInt16, hand, Nat.mod_mod]

/-- Also over an IPv4 pseudo-header. -/
theorem toNat_ipv4PseudoHeader (source destination : UInt32) (protocol : UInt8)
    {transport : List UInt8} (hlength : transport.length ≤ 65535) :
    (ipv4PseudoHeader source destination protocol transport).toNat =
      checksum
        (pseudoHeader4 source destination protocol transport.length ++ transport) := by
  rw [ipv4PseudoHeader, if_neg (by omega)]
  apply toNat_complement_eq
  have hprotocol : total [0, protocol] = protocol.toNat := by
    show (u16OfBytes 0 protocol).toNat + 0 = _
    rw [toNat_u16OfBytes]
    simp
  have hheader : total (pseudoHeader4 source destination protocol transport.length) =
      (source.toNat / 65536 + source.toNat % 65536) +
        (destination.toNat / 65536 + destination.toNat % 65536) + protocol.toNat +
        (UInt16.ofNat transport.length).toNat := by
    rw [pseudoHeader4, total_append (by simp), total_append (by simp), total_append (by simp),
      total_u32Bytes,
      total_u32Bytes, hprotocol, total_u16Bytes]
  rw [total_append (by simp), hheader, List.map_append, List.sum_append, ← total]
  simp only [List.map_cons, List.map_nil, List.sum_cons, List.sum_nil, toNat_highHalf,
    toNat_lowHalf, UInt8.toNat_toUInt16]
  omega

/-- The total of a string of even length, word by word at its offsets. -/
theorem total_eq_sum_range (count : ℕ) (bytes : List UInt8) (hlength : bytes.length = 2 * count) :
    total bytes = ((List.range count).map fun i ↦ (readU16 bytes (2 * i)).toNat).sum := by
  induction count generalizing bytes with
  | zero =>
    rw [List.length_eq_zero_iff.mp hlength]
    rfl
  | succ count ih =>
    obtain - | ⟨hi, - | ⟨lo, bytes⟩⟩ := bytes
    · simp at hlength
    · simp at hlength
      omega
    · have hrest : bytes.length = 2 * count := by
        simp only [List.length_cons] at hlength
        omega
      have hshift : ∀ i, readU16 (hi :: lo :: bytes) (2 * (i + 1)) = readU16 bytes (2 * i) :=
        fun i ↦ rfl
      rw [show hi :: lo :: bytes = [hi, lo] ++ bytes from rfl, total_append (by simp),
        ih bytes hrest,
        List.range_succ_eq_map, List.map_cons, List.sum_cons, List.map_map]
      simp only [Function.comp_def, Nat.succ_eq_add_one]
      rfl

/-- The addresses are summed in turns, to the same total. -/
theorem sum_addressWords (source destination : Bytes16) :
    ((addressWords source destination).map UInt16.toNat).sum =
      total source.toList + total destination.toList := by
  rw [total_eq_sum_range 8 _ (by rw [Vector.length_toList]),
    total_eq_sum_range 8 _ (by rw [Vector.length_toList])]
  show List.sum [_, _, _, _, _, _, _, _, _, _, _, _, _, _, _, _] =
    List.sum [_, _, _, _, _, _, _, _] + List.sum [_, _, _, _, _, _, _, _]
  simp only [List.sum_cons, List.sum_nil]
  omega

/-- And over an IPv6 one. -/
theorem toNat_ipv6PseudoHeader (source destination : Bytes16) (nextHeader : UInt8)
    {transport : List UInt8} (hlength : transport.length ≤ 4294967295) :
    (ipv6PseudoHeader source destination nextHeader transport).toNat =
      checksum
        (pseudoHeader6 source destination nextHeader transport.length ++ transport) := by
  rw [ipv6PseudoHeader, if_neg (by omega)]
  apply toNat_complement_eq
  have hnext : total [0, 0, 0, nextHeader] = nextHeader.toNat := by
    show (u16OfBytes 0 0).toNat + ((u16OfBytes 0 nextHeader).toNat + 0) = _
    rw [toNat_u16OfBytes, toNat_u16OfBytes]
    simp
  have hheader : total (pseudoHeader6 source destination nextHeader transport.length) =
      total source.toList + total destination.toList +
        (transport.length / 65536 + transport.length % 65536) + nextHeader.toNat := by
    rw [pseudoHeader6, total_append (by simp), total_append (by simp), total_append (by simp),
      total_u32Bytes, hnext, UInt32.toNat_ofNat_of_lt' (by show _ < 4294967296; omega)]
  have hhigh : (UInt16.ofNat (transport.length >>> 16)).toNat = transport.length / 65536 := by
    rw [Nat.shiftRight_eq_div_pow, UInt16.toNat_ofNat_of_lt' (by show _ < 65536; omega)]
  have hlow : (UInt16.ofNat transport.length).toNat = transport.length % 65536 :=
    UInt16.toNat_ofNat'
  rw [total_append (by simp), hheader, List.map_append, List.map_append, List.sum_append,
    List.sum_append, sum_addressWords, ← total]
  simp only [List.map_cons, List.map_nil, List.sum_cons, List.sum_nil, hhigh, hlow,
    UInt8.toNat_toUInt16]
  omega

/-! ### Filling the field -/

/-- A segment whose checksum field, between `front` and `back`, holds `checksum`. -/
def segment (front back : List UInt8) (checksum : UInt16) : List UInt8 :=
  front ++ u16Bytes checksum ++ back

/-- What the field may be filled with: the checksum over the zeroed field as computed, or with zero
written as its other representation. -/
def Computed (pseudoHeader : List UInt8 → UInt16) (front back : List UInt8) (c : UInt16) : Prop :=
  let calculated := pseudoHeader (segment front back 0)
  c = calculated ∨ c = nonzero calculated

theorem nonzero_ne_zero (c : UInt16) : nonzero c ≠ 0 := by
  rw [nonzero]
  split_ifs with hzero
  · decide
  · exact hzero

variable {front back : List UInt8} {c : UInt16} (heven : front.length % 2 = 0)

include heven

/-- A filled-in checksum sums to zero. -/
theorem complement_segment (header : List UInt16)
    (hc : c = complement (sumWords (header ++ words (segment front back 0))) ∨
      c = nonzero (complement (sumWords (header ++ words (segment front back 0))))) :
    complement (sumWords (header ++ words (segment front back c))) = 0 := by
  rcases hc with rfl | rfl
  · exact complement_fill heven header
  · exact complement_fill_nonzero heven header

/-- A filled segment verifies over IPv4; one that is too long is answered with zero here, too. -/
theorem ipv4PseudoHeader_segment {source destination : UInt32} {protocol : UInt8}
    (hc : Computed (ipv4PseudoHeader source destination protocol) front back c) :
    ipv4PseudoHeader source destination protocol (segment front back c) = 0 := by
  have hlength : (segment front back c).length = (segment front back 0).length := by
    simp only [segment, List.length_append, length_u16Bytes]
  rw [Computed, ipv4PseudoHeader] at hc
  rw [ipv4PseudoHeader, hlength]
  split_ifs at hc ⊢
  · rfl
  · exact complement_segment heven _ hc

theorem ipv6PseudoHeader_segment {source destination : Bytes16} {nextHeader : UInt8}
    (hc : Computed (ipv6PseudoHeader source destination nextHeader) front back c) :
    ipv6PseudoHeader source destination nextHeader (segment front back c) = 0 := by
  have hlength : (segment front back c).length = (segment front back 0).length := by
    simp only [segment, List.length_append, length_u16Bytes]
  rw [Computed, ipv6PseudoHeader] at hc
  rw [ipv6PseudoHeader, hlength]
  split_ifs at hc ⊢
  · rfl
  · exact complement_segment heven _ hc

omit heven

/-! ### Verified by the receiver -/

open Skan.Net PacketReceiver

theorem tcp_accepted4 {t : TCP} (h : t.validate) {ip : IPv4} (hprotocol : ip.protocol = 6) :
    ∃ bytes, t.serializeWithChecksum4 ip.sourceAddress ip.destinationAddress = some bytes ∧
      ∀ o, (parseTransport4 ip o bytes).status = .valid := by
  obtain ⟨c, bytes, hserialize, -, hparse, hzero⟩ :=
    TCP.parse_serializeWithChecksum4 ip.sourceAddress ip.destinationAddress h
  refine ⟨bytes, hserialize, fun o ↦ ?_⟩
  rw [parseTransport4, hprotocol, if_pos rfl, parseTcp_eq hparse hzero]
  rfl

theorem tcp_accepted6 {t : TCP} (h : t.validate) (ip : IPv6) :
    ∃ bytes, t.serializeWithChecksum6 ip.sourceAddress ip.destinationAddress = some bytes ∧
      ∀ o, (parseTransport6 ip 6 o bytes).status = .valid := by
  obtain ⟨c, bytes, hserialize, -, hparse, hzero⟩ :=
    TCP.parse_serializeWithChecksum6 ip.sourceAddress ip.destinationAddress h
  refine ⟨bytes, hserialize, fun o ↦ ?_⟩
  rw [parseTransport6, if_pos rfl, parseTcp_eq hparse hzero]
  rfl

theorem udp_accepted4 {u : UDP} (h : u.validate) {ip : IPv4} (hprotocol : ip.protocol = 17) :
    ∃ bytes, u.serializeWithChecksum4 ip.sourceAddress ip.destinationAddress = some bytes ∧
      ∀ o, (parseTransport4 ip o bytes).status = .valid := by
  obtain ⟨c, bytes, hserialize, hlength, hfield, -, hparse, hzero⟩ :=
    UDP.parse_serializeWithChecksum4 ip.sourceAddress ip.destinationAddress h
  have hsize : (readU16 bytes 4).toNat = bytes.length := by
    rw [hfield, UDP.toNat_length h, hlength]
  refine ⟨bytes, hserialize, fun o ↦ ?_⟩
  rw [parseTransport4, hprotocol, if_neg (by decide), if_pos rfl,
    parseUdp_eq hparse hsize (by simp [hzero])]
  rfl

theorem udp_accepted6 {u : UDP} (h : u.validate) (ip : IPv6) :
    ∃ bytes, u.serializeWithChecksum6 ip.sourceAddress ip.destinationAddress = some bytes ∧
      ∀ o, (parseTransport6 ip 17 o bytes).status = .valid := by
  obtain ⟨c, bytes, hserialize, hlength, hfield, hnonzero, hparse, hzero⟩ :=
    UDP.parse_serializeWithChecksum6 ip.sourceAddress ip.destinationAddress h
  have hsize : (readU16 bytes 4).toNat = bytes.length := by
    rw [hfield, UDP.toNat_length h, hlength]
  refine ⟨bytes, hserialize, fun o ↦ ?_⟩
  rw [parseTransport6, if_neg (by decide), if_pos rfl,
    parseUdp_eq hparse hsize (by simp [hzero, hnonzero])]
  rfl

/-! ### The standard -/

/-- **The checksums are those of the standard**, over the bytes, and over the pseudo-header and the
transport where the transport has a pseudo-header; filled into the field of a TCP or UDP segment
they verify, and the receiver accepts every segment that can be serialized. -/
theorem checksum_standard :
    (∀ bytes, (internet bytes).toNat = OnesComplement.checksum bytes) ∧
    (∀ source destination protocol transport,
      (ipv4PseudoHeader source destination protocol transport).toNat =
        if transport.length ≤ 65535 then
          OnesComplement.checksum
            (pseudoHeader4 source destination protocol transport.length ++ transport)
        else 0) ∧
    (∀ source destination nextHeader transport,
      (ipv6PseudoHeader source destination nextHeader transport).toNat =
        if transport.length ≤ 4294967295 then
          OnesComplement.checksum
            (pseudoHeader6 source destination nextHeader transport.length ++ transport)
        else 0) ∧
    -- TCP: the field is at offset 16
    (∀ front back c, front.length = 16 →
      (∀ source destination, Computed (ipv4PseudoHeader source destination 6) front back c →
        ipv4PseudoHeader source destination 6 (segment front back c) = 0) ∧
      ∀ source destination, Computed (ipv6PseudoHeader source destination 6) front back c →
        ipv6PseudoHeader source destination 6 (segment front back c) = 0) ∧
    -- UDP: the field is at offset 6, and a zero in it reads as an absent checksum
    (∀ front back, front.length = 6 →
      (∀ source destination,
        let c := nonzero (ipv4PseudoHeader source destination 17 (segment front back 0))
        c ≠ 0 ∧ ipv4PseudoHeader source destination 17 (segment front back c) = 0) ∧
      ∀ source destination,
        let c := nonzero (ipv6PseudoHeader source destination 17 (segment front back 0))
        c ≠ 0 ∧ ipv6PseudoHeader source destination 17 (segment front back c) = 0) ∧
    (∀ t : TCP, t.validate →
      (∀ ip : IPv4, ip.protocol = 6 →
        ∃ bytes, t.serializeWithChecksum4 ip.sourceAddress ip.destinationAddress = some bytes ∧
          ∀ o, (parseTransport4 ip o bytes).status = .valid) ∧
      ∀ ip : IPv6,
        ∃ bytes, t.serializeWithChecksum6 ip.sourceAddress ip.destinationAddress = some bytes ∧
          ∀ o, (parseTransport6 ip 6 o bytes).status = .valid) ∧
    ∀ u : UDP, u.validate →
      (∀ ip : IPv4, ip.protocol = 17 →
        ∃ bytes, u.serializeWithChecksum4 ip.sourceAddress ip.destinationAddress = some bytes ∧
          ∀ o, (parseTransport4 ip o bytes).status = .valid) ∧
      ∀ ip : IPv6,
        ∃ bytes, u.serializeWithChecksum6 ip.sourceAddress ip.destinationAddress = some bytes ∧
          ∀ o, (parseTransport6 ip 17 o bytes).status = .valid := by
  refine ⟨toNat_internet, fun source destination protocol transport ↦ ?_,
    fun source destination nextHeader transport ↦ ?_, fun front back c hfront ↦ ⟨?_, ?_⟩,
    fun front back hfront ↦ ⟨?_, ?_⟩,
    fun t h ↦ ⟨fun ip hprotocol ↦ tcp_accepted4 h hprotocol, tcp_accepted6 h⟩,
    fun u h ↦ ⟨fun ip hprotocol ↦ udp_accepted4 h hprotocol, udp_accepted6 h⟩⟩
  · split_ifs with hlength
    · exact toNat_ipv4PseudoHeader source destination protocol hlength
    · rw [ipv4PseudoHeader, if_pos (by omega)]
      rfl
  · split_ifs with hlength
    · exact toNat_ipv6PseudoHeader source destination nextHeader hlength
    · rw [ipv6PseudoHeader, if_pos (by omega)]
      rfl
  · exact fun source destination ↦ ipv4PseudoHeader_segment (by rw [hfront])
  · exact fun source destination ↦ ipv6PseudoHeader_segment (by rw [hfront])
  · exact fun source destination ↦
      ⟨nonzero_ne_zero _, ipv4PseudoHeader_segment (by rw [hfront]) (.inr rfl)⟩
  · exact fun source destination ↦
      ⟨nonzero_ne_zero _, ipv6PseudoHeader_segment (by rw [hfront]) (.inr rfl)⟩

/-- An address pair, a segment with an odd payload and the two ways to fill its field. -/
theorem checksum_standard_segment :
    let front := List.replicate 16 (0xFF : UInt8)
    let filled := nonzero (ipv4PseudoHeader 1 2 6 (segment front [0, 0, 7] 0))
    ipv4PseudoHeader 1 2 6 (segment front [0, 0, 7] filled) = 0 :=
  (checksum_standard.2.2.2.1 (List.replicate 16 0xFF) [0, 0, 7] _ rfl).1 1 2 (.inr rfl)

/-- A transport that is one byte longer than an IPv4 pseudo-header can say: the answer is zero. -/
theorem not_pseudoHeader_of_long :
    ¬ ∀ (source destination : UInt32) (protocol : UInt8) (transport : List UInt8),
      (ipv4PseudoHeader source destination protocol transport).toNat =
        OnesComplement.checksum
          (pseudoHeader4 source destination protocol transport.length ++ transport) := by
  intro hall
  have hzeros : ∀ n, total (List.replicate (2 * n) 0) = 0 := by
    intro n
    induction n with
    | zero => rfl
    | succ n ih =>
      rw [Nat.mul_succ, Nat.add_comm, List.replicate_add, total_append (by simp), ih]
      rfl
  have hlong := hall 0 0 6 (List.replicate (2 * 32768) 0)
  rw [ipv4PseudoHeader, if_pos (by rw [List.length_replicate]; omega), checksum_eq_total,
    total_append (by rw [length_pseudoHeader4]), hzeros, List.length_replicate] at hlong
  exact absurd hlong (by decide)

end Checksum

end Skan.Packet
