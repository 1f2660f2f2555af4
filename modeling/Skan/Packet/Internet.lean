import Mathlib.Tactic.IntervalCases
import Skan.Packet.Checksum

/-!
# Ethernet, IPv4 and IPv6 headers

`src/packet/ethernet.cpp`, `ipv4.cpp`, `ipv6.cpp` and `ipv6_extensions.cpp`. The IPv4 header has no
options in this program (its size is always five words), and its checksum is filled when it is
serialized and verified when it is parsed.

The chain of IPv6 extension headers is walked with the number of headers still allowed as the
measure. -/

namespace Skan.Packet

open Skan.Core BigEndian

abbrev MacAddress := Vector UInt8 6

/-! ### Ethernet -/

/-- `packet::Ethernet`. -/
structure Ethernet where
  destination : MacAddress := Vector.replicate 6 0
  source : MacAddress := Vector.replicate 6 0
  etherType : UInt16 := 0
  deriving DecidableEq

namespace Ethernet

def serializedSize (_ : Ethernet) : ℕ := 14

def validate (e : Ethernet) : Bool := e.etherType ≠ 0

def bytes (e : Ethernet) : List UInt8 :=
  e.destination.toList ++ e.source.toList ++ u16Bytes e.etherType

/-- `serialize`, into an owned vector. -/
def serialize (e : Ethernet) : Option (List UInt8) := if e.validate then some e.bytes else none

/-- `parse`. -/
def parse (input : List UInt8) : Option Ethernet :=
  if input.length < 14 then none
  else
    let ethernet : Ethernet :=
      { destination := readVector 6 input 0
        source := readVector 6 input 6
        etherType := readU16 input 12 }
    if ethernet.validate then some ethernet else none

@[simp] theorem length_bytes (e : Ethernet) : e.bytes.length = 14 := by simp [bytes]

theorem parse_bytes {e : Ethernet} (h : e.validate) : parse e.bytes = some e := by
  have hshort : ¬ e.bytes.length < 14 := by
    rw [length_bytes]
    decide
  have hdestination : readVector 6 e.bytes 0 = e.destination := by
    have := readVector_append [] e.destination (e.source.toList ++ u16Bytes e.etherType)
    rwa [List.nil_append, ← List.append_assoc] at this
  have hsource : readVector 6 e.bytes 6 = e.source := by
    have := readVector_append e.destination.toList e.source (u16Bytes e.etherType)
    rwa [Vector.length_toList, ← List.append_assoc] at this
  have htype : readU16 e.bytes 12 = e.etherType := by
    have := readU16_append_right (e.destination.toList ++ e.source.toList) (u16Bytes e.etherType) 0
    rw [List.length_append, Vector.length_toList, Vector.length_toList] at this
    exact this.trans (u16OfBytes_split _)
  unfold parse
  rw [if_neg hshort, hdestination, hsource, htype]
  exact if_pos h

end Ethernet

/-! ### IPv4 -/

/-- `packet::IPv4`. -/
structure IPv4 where
  version : UInt8 := 4
  ihl : UInt8 := 5
  dscpEcn : UInt8 := 0
  totalLength : UInt16 := 20
  identification : UInt16 := 0
  flagsFragmentOffset : UInt16 := 0
  ttl : UInt8 := 64
  protocol : UInt8 := 0
  headerChecksum : UInt16 := 0
  sourceAddress : UInt32 := 0
  destinationAddress : UInt32 := 0
  deriving DecidableEq

namespace IPv4

def serializedSize (ip : IPv4) : ℕ := ip.ihl.toNat * 4

def validate (ip : IPv4) : Bool :=
  ip.version = 4 && ip.ihl = 5 && UInt16.ofNat ip.serializedSize ≤ ip.totalLength

/-- What precedes the checksum. -/
def frontBytes (ip : IPv4) : List UInt8 :=
  [ip.version <<< 4 ||| (ip.ihl &&& 0x0F), ip.dscpEcn] ++ u16Bytes ip.totalLength ++
    u16Bytes ip.identification ++ u16Bytes ip.flagsFragmentOffset ++ [ip.ttl, ip.protocol]

/-- What follows the checksum. -/
def backBytes (ip : IPv4) : List UInt8 :=
  u32Bytes ip.sourceAddress ++ u32Bytes ip.destinationAddress

def bytes (ip : IPv4) : List UInt8 := ip.frontBytes ++ u16Bytes ip.headerChecksum ++ ip.backBytes

/-- The header as serialized: the checksum is always computed. -/
def withChecksum (ip : IPv4) : IPv4 :=
  { ip with headerChecksum := Checksum.internet { ip with headerChecksum := 0 }.bytes }

/-- `serialize`, into an owned vector. -/
def serialize (ip : IPv4) : Option (List UInt8) :=
  if ip.validate then some ip.withChecksum.bytes else none

/-- `parse`, of a whole packet: the header's checksum is verified and its total length must be
there. -/
def parse (input : List UInt8) : Option IPv4 :=
  if input.length < 20 then none
  else
    let version := input.getD 0 0 >>> 4
    let ihl := input.getD 0 0 &&& 0x0F
    let headerSize := ihl.toNat * 4
    if version ≠ 4 ∨ ihl ≠ 5 ∨ input.length < headerSize then none
    else
      let ipv4 : IPv4 :=
        { version
          ihl
          dscpEcn := input.getD 1 0
          totalLength := readU16 input 2
          identification := readU16 input 4
          flagsFragmentOffset := readU16 input 6
          ttl := input.getD 8 0
          protocol := input.getD 9 0
          headerChecksum := readU16 input 10
          sourceAddress := readU32 input 12
          destinationAddress := readU32 input 16 }
      if !ipv4.validate ∨ ipv4.totalLength.toNat > input.length ∨
          Checksum.internet (input.take headerSize) ≠ 0 then
        none
      else some ipv4

/-- A parsed header lies within the input. -/
theorem headerSize_le_of_parse {input : List UInt8} {ip : IPv4} (h : parse input = some ip) :
    ip.ihl.toNat * 4 ≤ input.length := by
  rw [parse] at h
  dsimp only at h
  split_ifs at h with hshort hheader hinvalid
  obtain rfl := Option.some.inj h
  rw [not_or, not_or] at hheader
  exact not_lt.mp hheader.2.2

@[simp] theorem length_bytes (ip : IPv4) : ip.bytes.length = 20 := rfl

/-- **Serialized headers parse back** off the front of a packet of their total length. -/
theorem parse_bytes {ip : IPv4} (h : ip.validate) {transport : List UInt8}
    (htotal : ip.totalLength.toNat ≤ 20 + transport.length) :
    parse (ip.withChecksum.bytes ++ transport) = some ip.withChecksum := by
  have hverify : Checksum.internet ip.withChecksum.bytes = 0 :=
    @Checksum.internet_fill ip.frontBytes ip.backBytes (by simp [frontBytes])
  have hvalid : ip.withChecksum.validate = true := h
  have hwtotal : ip.withChecksum.totalLength.toNat ≤ 20 + transport.length := htotal
  obtain ⟨⟨hversion, hihl⟩, -⟩ : (ip.withChecksum.version = 4 ∧ ip.withChecksum.ihl = 5) ∧ _ := by
    simpa only [validate, Bool.and_eq_true, decide_eq_true_eq] using hvalid
  generalize ip.withChecksum = w at *
  have hfirst : (w.bytes ++ transport).getD 0 0 = 0x45 := by
    show w.version <<< 4 ||| (w.ihl &&& 0x0F) = 0x45
    rw [hversion, hihl]
    decide
  have hlength : (w.bytes ++ transport).length = 20 + transport.length := by
    rw [List.length_append, length_bytes]
  have htake : (w.bytes ++ transport).take 20 = w.bytes := by
    rw [← length_bytes w, List.take_left]
  have htotalRead : readU16 (w.bytes ++ transport) 2 = w.totalLength := u16OfBytes_split _
  have hidentification : readU16 (w.bytes ++ transport) 4 = w.identification :=
    u16OfBytes_split _
  have hflags : readU16 (w.bytes ++ transport) 6 = w.flagsFragmentOffset := u16OfBytes_split _
  have hchecksum : readU16 (w.bytes ++ transport) 10 = w.headerChecksum := u16OfBytes_split _
  have hsource : readU32 (w.bytes ++ transport) 12 = w.sourceAddress := u32OfBytes_split _
  have hdestination : readU32 (w.bytes ++ transport) 16 = w.destinationAddress :=
    u32OfBytes_split _
  have hnibbles : (0x45 : UInt8) >>> 4 = w.version ∧ (0x45 : UInt8) &&& 0x0F = w.ihl := by
    rw [hversion, hihl]
    decide
  unfold parse
  rw [hfirst, hnibbles.1, hnibbles.2, htotalRead, hidentification, hflags, hchecksum, hsource,
    hdestination, hlength]
  have hsize : w.ihl.toNat * 4 = 20 := by
    rw [hihl]
    rfl
  dsimp only
  rw [if_neg (by omega), hsize, htake, hverify, if_neg]
  · have hsound : ¬ ((!w.validate) = true ∨ w.totalLength.toNat > 20 + transport.length ∨
        (0 : UInt16) ≠ 0) := by
      rw [hvalid]
      simpa using hwtotal
    exact if_neg hsound
  · rw [hversion, hihl]
    simp

end IPv4

/-! ### IPv6 -/

/-- `packet::IPv6`. -/
structure IPv6 where
  version : UInt8 := 6
  trafficClass : UInt8 := 0
  flowLabel : UInt32 := 0
  payloadLength : UInt16 := 0
  nextHeader : UInt8 := 0
  hopLimit : UInt8 := 64
  sourceAddress : Bytes16 := Vector.replicate 16 0
  destinationAddress : Bytes16 := Vector.replicate 16 0
  deriving DecidableEq

namespace IPv6

def serializedSize (_ : IPv6) : ℕ := 40

def validate (ip : IPv6) : Bool := ip.version = 6 && ip.flowLabel &&& 0xFFF00000 = 0

/-- What precedes the addresses. -/
def frontBytes (ip : IPv6) : List UInt8 :=
  [ip.version <<< 4 ||| ip.trafficClass >>> 4,
    ip.trafficClass <<< 4 ||| ((ip.flowLabel >>> 16) &&& 0x0F).toUInt8,
    (ip.flowLabel >>> 8).toUInt8, (ip.flowLabel &&& 0xFF).toUInt8] ++
    u16Bytes ip.payloadLength ++ [ip.nextHeader, ip.hopLimit]

def bytes (ip : IPv6) : List UInt8 :=
  ip.frontBytes ++ (ip.sourceAddress.toList ++ ip.destinationAddress.toList)

/-- `serialize`, into an owned vector. -/
def serialize (ip : IPv6) : Option (List UInt8) := if ip.validate then some ip.bytes else none

/-- `parse`, of a whole packet, which must have the payload length. -/
def parse (input : List UInt8) : Option IPv6 :=
  if input.length < 40 ∨ input.getD 0 0 >>> 4 ≠ 6 then none
  else
    let payloadLength := readU16 input 4
    if payloadLength.toNat > input.length - 40 then none
    else some
      { version := input.getD 0 0 >>> 4
        trafficClass := (input.getD 0 0 &&& 0x0F) <<< 4 ||| input.getD 1 0 >>> 4
        flowLabel := ((input.getD 1 0 &&& 0x0F).toUInt32 <<< 16) |||
          ((input.getD 2 0).toUInt32 <<< 8) ||| (input.getD 3 0).toUInt32
        payloadLength
        nextHeader := input.getD 6 0
        hopLimit := input.getD 7 0
        sourceAddress := readVector 16 input 8
        destinationAddress := readVector 16 input 24 }

theorem version_of_parse {input : List UInt8} {ip : IPv6} (h : parse input = some ip) :
    input.getD 0 0 >>> 4 = 6 := by
  rw [parse] at h
  split_ifs at h with hguard
  exact not_not.mp (not_or.mp hguard).2

@[simp] theorem length_bytes (ip : IPv6) : ip.bytes.length = 40 := by
  simp [bytes, frontBytes]

/-- The low nibble of the second byte: the top of the flow label. -/
theorem toNat_flowNibble (flowLabel : UInt32) :
    ((flowLabel >>> 16) &&& 0x0F).toUInt8.toNat = flowLabel.toNat / 65536 % 16 := by
  have hand : ((flowLabel >>> 16) &&& 0x0F).toNat = (flowLabel >>> 16).toNat % 16 := by
    rw [UInt32.toNat_and]
    exact Nat.and_two_pow_sub_one_eq_mod _ 4
  rw [UInt32.toNat_toUInt8, hand]
  simp [Nat.shiftRight_eq_div_pow]
  omega

/-- A flow label is twenty bits. -/
theorem flowLabel_lt {flowLabel : UInt32} (h : flowLabel &&& 0xFFF00000 = 0) :
    flowLabel.toNat < 2 ^ 20 := by
  have hlt : flowLabel.toNat < 2 ^ 32 := flowLabel.toNat_lt
  have hand := congrArg UInt32.toNat h
  rw [UInt32.toNat_and] at hand
  refine Nat.lt_pow_two_of_testBit _ fun i hi ↦ ?_
  by_cases hhigh : i < 32
  · -- the mask has every bit from 20 to 31
    have hbit : (flowLabel.toNat &&& (0xFFF00000 : UInt32).toNat).testBit i = false := by
      rw [hand]
      exact Nat.zero_testBit i
    have hmask : Nat.testBit (0xFFF00000 : UInt32).toNat i = true := by
      interval_cases i <;> decide
    rwa [Nat.testBit_and, hmask, Bool.and_true] at hbit
  · exact Nat.testBit_lt_two_pow (hlt.trans_le (Nat.pow_le_pow_right (by decide) (by omega)))

/-- The first byte: the version and the high nibble of the traffic class. -/
theorem toNat_versionByte (trafficClass : UInt8) :
    ((6 : UInt8) <<< 4 ||| trafficClass >>> 4).toNat = 6 * 16 + trafficClass.toNat / 16 := by
  have htraffic : trafficClass.toNat < 256 := trafficClass.toNat_lt
  have hlo : (trafficClass >>> 4).toNat < 16 := by
    rw [toNat_shiftRight_4]
    omega
  rw [toNat_nibbles _ hlo, toNat_shiftRight_4]
  rfl

/-- The second byte: the low nibble of the traffic class and the top of the flow label. -/
theorem toNat_classByte (trafficClass : UInt8) (flowLabel : UInt32) :
    (trafficClass <<< 4 ||| ((flowLabel >>> 16) &&& 0x0F).toUInt8).toNat =
      trafficClass.toNat % 16 * 16 + flowLabel.toNat / 65536 % 16 := by
  have hnibble := toNat_flowNibble flowLabel
  have hlt : ((flowLabel >>> 16) &&& 0x0F).toUInt8.toNat < 16 := by
    rw [hnibble]
    omega
  rw [toNat_nibbles _ hlt, hnibble]

/-- The traffic class is read back off the nibbles that the two bytes have in common. -/
theorem trafficClass_of_nibbles {first second trafficClass : UInt8} {flowNibble : ℕ}
    (hfirst : first.toNat = 6 * 16 + trafficClass.toNat / 16)
    (hsecond : second.toNat = trafficClass.toNat % 16 * 16 + flowNibble % 16) :
    (first &&& 0x0F) <<< 4 ||| second >>> 4 = trafficClass := by
  have htraffic : trafficClass.toNat < 256 := trafficClass.toNat_lt
  have hhi : (second >>> 4).toNat < 16 := by
    rw [toNat_shiftRight_4, hsecond]
    omega
  apply UInt8.toNat_inj.mp
  rw [toNat_nibbles _ hhi, toNat_and_15, toNat_shiftRight_4, hfirst, hsecond]
  omega

/-- The flow label is read back off its nibble and the two bytes after it. -/
theorem flowLabel_of_bytes {flowLabel : UInt32} (hlt : flowLabel.toNat < 2 ^ 20) {second : UInt8}
    {classNibble : ℕ} (hsecond : second.toNat = classNibble * 16 + flowLabel.toNat / 65536 % 16) :
    ((second &&& 0x0F).toUInt32 <<< 16) ||| ((flowLabel >>> 8).toUInt8.toUInt32 <<< 8) |||
      (flowLabel &&& 0xFF).toUInt8.toUInt32 = flowLabel := by
  have hjoin := toNat_u32OfBytes 0 (second &&& 0x0F) (flowLabel >>> 8).toUInt8
    (flowLabel &&& 0xFF).toUInt8
  have hlow : (flowLabel &&& 0xFF).toNat = flowLabel.toNat % 256 := by
    rw [UInt32.toNat_and]
    exact Nat.and_two_pow_sub_one_eq_mod _ 8
  have hshift : (flowLabel >>> 8).toNat = flowLabel.toNat / 256 := by
    simp [Nat.shiftRight_eq_div_pow]
  rw [toNat_and_15, hsecond, UInt32.toNat_toUInt8, UInt32.toNat_toUInt8, hlow, hshift] at hjoin
  have hzero : u32OfBytes 0 (second &&& 0x0F) (flowLabel >>> 8).toUInt8
      (flowLabel &&& 0xFF).toUInt8 = ((second &&& 0x0F).toUInt32 <<< 16) |||
        ((flowLabel >>> 8).toUInt8.toUInt32 <<< 8) |||
          (flowLabel &&& 0xFF).toUInt8.toUInt32 := by
    simp [u32OfBytes]
  rw [← hzero]
  apply UInt32.toNat_inj.mp
  rw [hjoin]
  simp only [UInt8.toNat_zero]
  omega

/-- **Serialized headers parse back** off the front of a packet of their payload length. -/
theorem parse_bytes {ip : IPv6} (h : ip.validate) {payload : List UInt8}
    (hpayload : ip.payloadLength.toNat ≤ payload.length) :
    parse (ip.bytes ++ payload) = some ip := by
  obtain ⟨hversion, hflow⟩ : ip.version = 6 ∧ ip.flowLabel &&& 0xFFF00000 = 0 := by
    simpa only [validate, Bool.and_eq_true, decide_eq_true_eq] using h
  have hlength : (ip.bytes ++ payload).length = 40 + payload.length := by
    rw [List.length_append, length_bytes]
  -- the two bytes that share their nibbles between fields
  set first := ip.version <<< 4 ||| ip.trafficClass >>> 4 with hfirst
  set second := ip.trafficClass <<< 4 ||| ((ip.flowLabel >>> 16) &&& 0x0F).toUInt8 with hsecond
  have hfirstNat : first.toNat = 6 * 16 + ip.trafficClass.toNat / 16 := by
    rw [hfirst, hversion, toNat_versionByte]
  have hsecondNat : second.toNat =
      ip.trafficClass.toNat % 16 * 16 + ip.flowLabel.toNat / 65536 % 16 := toNat_classByte _ _
  have hversionRead : first >>> 4 = ip.version := by
    apply UInt8.toNat_inj.mp
    rw [toNat_shiftRight_4, hfirstNat, hversion]
    have htraffic : ip.trafficClass.toNat < 256 := ip.trafficClass.toNat_lt
    show _ = 6
    omega
  have htrafficRead : (first &&& 0x0F) <<< 4 ||| second >>> 4 = ip.trafficClass :=
    trafficClass_of_nibbles hfirstNat hsecondNat
  have hflowRead : ((second &&& 0x0F).toUInt32 <<< 16) |||
      ((ip.flowLabel >>> 8).toUInt8.toUInt32 <<< 8) |||
        (ip.flowLabel &&& 0xFF).toUInt8.toUInt32 = ip.flowLabel :=
    flowLabel_of_bytes (flowLabel_lt hflow) hsecondNat
  have hpayloadRead : readU16 (ip.bytes ++ payload) 4 = ip.payloadLength := u16OfBytes_split _
  have hsource : readVector 16 (ip.bytes ++ payload) 8 = ip.sourceAddress := by
    have := readVector_append ip.frontBytes ip.sourceAddress
      (ip.destinationAddress.toList ++ payload)
    rwa [← List.append_assoc ip.sourceAddress.toList, ← List.append_assoc] at this
  have hdestination : readVector 16 (ip.bytes ++ payload) 24 = ip.destinationAddress := by
    have := readVector_append (ip.frontBytes ++ ip.sourceAddress.toList) ip.destinationAddress
      payload
    rwa [List.length_append, Vector.length_toList, List.append_assoc,
      ← List.append_assoc ip.sourceAddress.toList, ← List.append_assoc] at this
  unfold parse
  rw [hpayloadRead, hsource, hdestination, hlength]
  show (if 40 + payload.length < 40 ∨ first >>> 4 ≠ 6 then none else
    if ip.payloadLength.toNat > 40 + payload.length - 40 then none else some
      ({ version := first >>> 4
         trafficClass := (first &&& 0x0F) <<< 4 ||| second >>> 4
         flowLabel := ((second &&& 0x0F).toUInt32 <<< 16) |||
            ((ip.flowLabel >>> 8).toUInt8.toUInt32 <<< 8) |||
              (ip.flowLabel &&& 0xFF).toUInt8.toUInt32
         payloadLength := ip.payloadLength
         nextHeader := ip.nextHeader
         hopLimit := ip.hopLimit
         sourceAddress := ip.sourceAddress
         destinationAddress := ip.destinationAddress } : IPv6)) = some ip
  rw [htrafficRead, hflowRead, hversionRead, if_neg, if_neg (by omega)]
  rw [hversion]
  simp

end IPv6

/-! ### IPv6 extension headers -/

inductive IPv6ExtensionParseStatus where
  | complete
  | malformed
  | limitExceeded
  | unsupported
  | noNextHeader
  deriving DecidableEq

inductive IPv6ExtensionKind where
  | hopByHop
  | routing
  | fragment
  | destinationOptions
  deriving DecidableEq

/-- The next-header values of `is_supported_extension`. -/
def IPv6ExtensionKind.ofByte (nextHeader : UInt8) : Option IPv6ExtensionKind :=
  if nextHeader = 0 then some .hopByHop
  else if nextHeader = 43 then some .routing
  else if nextHeader = 44 then some .fragment
  else if nextHeader = 60 then some .destinationOptions
  else none

structure IPv6ExtensionHeader where
  kind : IPv6ExtensionKind
  nextHeader : UInt8 := 59
  offset : ℕ := 0
  length : ℕ := 0
  fragmentOffset : UInt16 := 0
  moreFragments : Bool := false
  fragmentIdentification : UInt32 := 0
  deriving DecidableEq

structure IPv6ExtensionParseResult where
  status : IPv6ExtensionParseStatus := .malformed
  terminalNextHeader : UInt8 := 59
  consumedBytes : ℕ := 0
  headers : List IPv6ExtensionHeader := []
  deriving DecidableEq

/-- `is_terminal_protocol`. -/
def isTerminalProtocol (nextHeader : UInt8) : Bool :=
  nextHeader = 6 || nextHeader = 17 || nextHeader = 58 || nextHeader = 59

/-- The extension header at `offset`, `length` bytes long. -/
def readExtension (payload : List UInt8) (kind : IPv6ExtensionKind) (offset length : ℕ) :
    IPv6ExtensionHeader :=
  let header : IPv6ExtensionHeader :=
    { kind, nextHeader := payload.getD offset 0, offset, length }
  if kind = .fragment then
    let fragment := readU16 payload (offset + 2)
    { header with
      fragmentOffset := (fragment >>> 3) &&& 0x1FFF
      moreFragments := fragment &&& 0x0001 ≠ 0
      fragmentIdentification := readU32 payload (offset + 4) }
  else header

/-- The loop of `parse_ipv6_extensions`: `room` is the number of headers still allowed. -/
def extensionLoop (payload : List UInt8) (first : UInt8) (maxBytes room offset : ℕ)
    (nextHeader : UInt8) (headers : List IPv6ExtensionHeader) : IPv6ExtensionParseResult :=
  let failure (status : IPv6ExtensionParseStatus) : IPv6ExtensionParseResult :=
    { status, terminalNextHeader := first, consumedBytes := offset, headers }
  match IPv6ExtensionKind.ofByte nextHeader, room with
  | some _, 0 => failure .limitExceeded
  | some kind, room + 1 =>
    if offset ≥ maxBytes then failure .limitExceeded
    else
      let remainingBudget := maxBytes - offset
      let available := payload.length - offset
      if available < 2 ∨ remainingBudget < 2 then failure .malformed
      else
        let length :=
          if nextHeader = 44 then 8 else ((payload.getD (offset + 1) 0).toNat + 1) * 8
        if length > available ∨ length > remainingBudget then
          failure (if length > remainingBudget then .limitExceeded else .malformed)
        else
          extensionLoop payload first maxBytes room (offset + length) (payload.getD offset 0)
            (headers ++ [readExtension payload kind offset length])
  | none, _ =>
    { status :=
        if nextHeader = 59 then .noNextHeader
        else if isTerminalProtocol nextHeader then .complete
        else .unsupported
      terminalNextHeader := nextHeader
      consumedBytes := offset
      headers }
termination_by structural room

/-- `parse_ipv6_extensions`. -/
def parseIpv6Extensions (payload : List UInt8) (firstNextHeader : UInt8)
    (maxHeaders maxBytes : ℕ) : IPv6ExtensionParseResult :=
  if maxHeaders = 0 ∨ maxBytes = 0 then
    { status := .limitExceeded, terminalNextHeader := firstNextHeader }
  else extensionLoop payload firstNextHeader maxBytes maxHeaders 0 firstNextHeader []

/-- A transport protocol right after the fixed header is found at once. -/
theorem parseIpv6Extensions_of_terminal {nextHeader : UInt8}
    (hterminal : nextHeader = 6 ∨ nextHeader = 17 ∨ nextHeader = 58) (payload : List UInt8)
    {maxHeaders maxBytes : ℕ} (hlimits : ¬ (maxHeaders = 0 ∨ maxBytes = 0)) :
    parseIpv6Extensions payload nextHeader maxHeaders maxBytes =
      { status := .complete, terminalNextHeader := nextHeader, consumedBytes := 0 } := by
  rw [parseIpv6Extensions, if_neg hlimits, extensionLoop.eq_def]
  rcases hterminal with rfl | rfl | rfl <;> rfl

end Skan.Packet
