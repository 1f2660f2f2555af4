import Skan.Packet.Checksum

/-!
# UDP datagrams, ICMP and ICMPv6 messages

`src/packet/udp.cpp`, `icmp.cpp` and `icmpv6.cpp`. Each is a header of eight bytes and a payload;
each has its round trip (`parse_bytes`) and its checksum filled and verified. ICMP verifies its
checksum while parsing; UDP and ICMPv6 leave that to the caller, who has the pseudo-header.
-/

namespace Skan.Packet

open Skan.Core BigEndian

/-! ### UDP -/

/-- `packet::UDP`. -/
structure UDP where
  sourcePort : UInt16 := 0
  destinationPort : UInt16 := 0
  checksum : UInt16 := 0
  payload : List UInt8 := []
  deriving DecidableEq

namespace UDP

variable {u : UDP}

def serializedSize (u : UDP) : ℕ := 8 + u.payload.length

def length (u : UDP) : UInt16 := UInt16.ofNat u.serializedSize

def validate (u : UDP) : Bool := u.serializedSize ≤ 65535

/-- What precedes the checksum. -/
def frontBytes (u : UDP) : List UInt8 :=
  u16Bytes u.sourcePort ++ u16Bytes u.destinationPort ++ u16Bytes u.length

def bytes (u : UDP) : List UInt8 := u.frontBytes ++ u16Bytes u.checksum ++ u.payload

/-- `serialize`, into an owned vector. -/
def serialize (u : UDP) : Option (List UInt8) := if u.validate then some u.bytes else none

/-- `serialize_with_checksum` over a pseudo-header. -/
def serializeWith (pseudoHeader : List UInt8 → UInt16) (u : UDP) : Option (List UInt8) :=
  if u.validate then
    let calculated := pseudoHeader { u with checksum := 0 }.bytes
    some { u with checksum := Checksum.nonzero calculated }.bytes
  else none

/-- `serialize_with_checksum` for IPv4 addresses. -/
def serializeWithChecksum4 (source destination : UInt32) (u : UDP) : Option (List UInt8) :=
  u.serializeWith (Checksum.ipv4PseudoHeader source destination 17)

/-- `serialize_with_checksum` for IPv6 addresses. -/
def serializeWithChecksum6 (source destination : Bytes16) (u : UDP) : Option (List UInt8) :=
  u.serializeWith (Checksum.ipv6PseudoHeader source destination 17)

/-- `parse`. -/
def parse (input : List UInt8) : Option UDP :=
  if input.length < 8 then none
  else
    let length := readU16 input 4
    if length < 8 ∨ length.toNat ≠ input.length then none
    else some
      { sourcePort := readU16 input 0
        destinationPort := readU16 input 2
        checksum := readU16 input 6
        payload := input.drop 8 }

theorem length_bytes (u : UDP) : u.bytes.length = u.serializedSize := by
  show u.payload.length + 8 = _
  rw [serializedSize, Nat.add_comm]

theorem toNat_length (h : u.validate) : u.length.toNat = u.serializedSize := by
  have hle : u.serializedSize ≤ 65535 := of_decide_eq_true h
  rw [length, UInt16.toNat_ofNat_of_lt' (Nat.lt_succ_of_le hle)]

/-- **Serialized datagrams parse back.** -/
theorem parse_bytes (h : u.validate) : parse u.bytes = some u := by
  have hlength := length_bytes u
  have hfield : readU16 u.bytes 4 = u.length := u16OfBytes_split _
  have hsize := toNat_length h
  have hshort : ¬ u.bytes.length < 8 := by
    rw [hlength, serializedSize]
    omega
  unfold parse
  rw [if_neg hshort, hfield, if_neg]
  · have hsource : readU16 u.bytes 0 = u.sourcePort := u16OfBytes_split _
    have hdestination : readU16 u.bytes 2 = u.destinationPort := u16OfBytes_split _
    have hchecksum : readU16 u.bytes 6 = u.checksum := u16OfBytes_split _
    rw [hsource, hdestination, hchecksum]
    rfl
  · rw [not_or, UInt16.not_lt]
    refine ⟨?_, by rw [hsize, hlength]; simp⟩
    show (8 : UInt16).toNat ≤ u.length.toNat
    rw [hsize, serializedSize]
    exact Nat.le_add_right 8 _

/-- A parsed datagram is as long as its length field says. -/
theorem validate_of_parse {input : List UInt8} (h : parse input = some u) : u.validate := by
  rw [parse] at h
  dsimp only at h
  split_ifs at h with hshort hlength
  have hsize : (readU16 input 4).toNat = input.length := not_not.mp (not_or.mp hlength).2
  have hpayload : u.payload = input.drop 8 := (Option.some.inj h) ▸ rfl
  have hlt := (readU16 input 4).toNat_lt
  refine decide_eq_true ?_
  rw [serializedSize, hpayload, List.length_drop]
  omega

/-- A parsed datagram is serialized again, and parsed to itself. -/
theorem parse_serialize_of_parse {input : List UInt8} (h : parse input = some u) :
    u.serialize = some u.bytes ∧ parse u.bytes = some u :=
  ⟨if_pos (validate_of_parse h), parse_bytes (validate_of_parse h)⟩

/-- **A datagram serialized with its checksum** is parsed back, verifies, and has a checksum. -/
theorem parse_serializeWith {pseudoHeader : List UInt8 → UInt16}
    (hfill : ∀ {front back : List UInt8}, front.length % 2 = 0 →
      front.length + 2 + back.length ≤ 65535 →
      pseudoHeader (front ++ u16Bytes
        (Checksum.nonzero (pseudoHeader (front ++ u16Bytes 0 ++ back))) ++ back) = 0)
    (h : u.validate) :
    ∃ c bytes, u.serializeWith pseudoHeader = some bytes ∧ bytes.length = u.serializedSize ∧
      readU16 bytes 4 = u.length ∧ c ≠ 0 ∧ parse bytes = some { u with checksum := c } ∧
      pseudoHeader bytes = 0 := by
  have hle : u.serializedSize ≤ 65535 := of_decide_eq_true h
  have hback : u.frontBytes.length + 2 + u.payload.length ≤ 65535 := hle
  refine ⟨_, _, if_pos h, length_bytes _, u16OfBytes_split _, ?_,
    parse_bytes (u := { u with checksum := _ }) h, ?_⟩
  · unfold Checksum.nonzero
    split_ifs with hzero
    · decide
    · exact hzero
  · exact @hfill u.frontBytes u.payload (by simp [frontBytes]) hback

theorem parse_serializeWithChecksum4 (source destination : UInt32) (h : u.validate) :
    ∃ c bytes, u.serializeWithChecksum4 source destination = some bytes ∧
      bytes.length = u.serializedSize ∧ readU16 bytes 4 = u.length ∧ c ≠ 0 ∧
      parse bytes = some { u with checksum := c } ∧
      Checksum.ipv4PseudoHeader source destination 17 bytes = 0 :=
  parse_serializeWith (fun heven ↦ Checksum.ipv4PseudoHeader_fill heven source destination 17) h

theorem parse_serializeWithChecksum6 (source destination : Bytes16) (h : u.validate) :
    ∃ c bytes, u.serializeWithChecksum6 source destination = some bytes ∧
      bytes.length = u.serializedSize ∧ readU16 bytes 4 = u.length ∧ c ≠ 0 ∧
      parse bytes = some { u with checksum := c } ∧
      Checksum.ipv6PseudoHeader source destination 17 bytes = 0 :=
  parse_serializeWith
    (fun heven _ ↦ Checksum.ipv6PseudoHeader_fill heven source destination 17) h

end UDP

/-! ### ICMP -/

inductive IcmpType where
  | echoReply
  | destinationUnreachable
  | echoRequest
  deriving DecidableEq

namespace IcmpType

def toByte : IcmpType → UInt8
  | .echoReply => 0
  | .destinationUnreachable => 3
  | .echoRequest => 8

def ofByte (b : UInt8) : Option IcmpType :=
  if b = 8 then some .echoRequest
  else if b = 0 then some .echoReply
  else if b = 3 then some .destinationUnreachable
  else none

@[simp] theorem ofByte_toByte (type : IcmpType) : ofByte type.toByte = some type := by
  cases type <;> rfl

end IcmpType

/-- `packet::ICMP`. -/
structure ICMP where
  type : IcmpType := .echoRequest
  code : UInt8 := 0
  identifier : UInt16 := 0
  sequence : UInt16 := 0
  checksum : UInt16 := 0
  payload : List UInt8 := []
  deriving DecidableEq

namespace ICMP

def serializedSize (m : ICMP) : ℕ := 8 + m.payload.length

def validate (m : ICMP) : Bool := m.serializedSize ≤ 65535

/-- What follows the checksum. -/
def backBytes (m : ICMP) : List UInt8 :=
  u16Bytes m.identifier ++ u16Bytes m.sequence ++ m.payload

def bytes (m : ICMP) : List UInt8 := [m.type.toByte, m.code] ++ u16Bytes m.checksum ++ m.backBytes

/-- The message as serialized: the checksum is always computed. -/
def withChecksum (m : ICMP) : ICMP :=
  { m with checksum := Checksum.internet { m with checksum := 0 }.bytes }

/-- `serialize`, into an owned vector. -/
def serialize (m : ICMP) : Option (List UInt8) :=
  if m.validate then some m.withChecksum.bytes else none

/-- `parse`. -/
def parse (input : List UInt8) : Option ICMP :=
  if input.length < 8 then none
  else
    (IcmpType.ofByte (input.getD 0 0)).bind fun type ↦
      if Checksum.internet input ≠ 0 then none
      else some
        { type
          code := input.getD 1 0
          checksum := readU16 input 2
          identifier := readU16 input 4
          sequence := readU16 input 6
          payload := input.drop 8 }

theorem length_bytes (m : ICMP) : m.bytes.length = m.serializedSize := by
  show m.payload.length + 8 = _
  rw [serializedSize, Nat.add_comm]

/-- **Serialized messages parse back**, with their checksum filled in. -/
theorem parse_bytes (m : ICMP) : parse m.withChecksum.bytes = some m.withChecksum := by
  set w := m.withChecksum with hw
  have hverify : Checksum.internet w.bytes = 0 :=
    @Checksum.internet_fill [m.type.toByte, m.code] m.backBytes (by simp)
  have hshort : ¬ w.bytes.length < 8 := by
    rw [length_bytes, serializedSize]
    omega
  have htype : IcmpType.ofByte (w.bytes.getD 0 0) = some w.type := IcmpType.ofByte_toByte _
  unfold parse
  rw [if_neg hshort, htype, Option.bind_some, if_neg (not_not_intro hverify)]
  have hchecksum : readU16 w.bytes 2 = w.checksum := u16OfBytes_split _
  have hidentifier : readU16 w.bytes 4 = w.identifier := u16OfBytes_split _
  have hsequence : readU16 w.bytes 6 = w.sequence := u16OfBytes_split _
  rw [hchecksum, hidentifier, hsequence]
  rfl

end ICMP

/-! ### ICMPv6 -/

inductive Icmpv6Type where
  | destinationUnreachable
  | packetTooBig
  | timeExceeded
  | parameterProblem
  | echoRequest
  | echoReply
  | neighborSolicitation
  | neighborAdvertisement
  deriving DecidableEq

namespace Icmpv6Type

def toByte : Icmpv6Type → UInt8
  | .destinationUnreachable => 1
  | .packetTooBig => 2
  | .timeExceeded => 3
  | .parameterProblem => 4
  | .echoRequest => 128
  | .echoReply => 129
  | .neighborSolicitation => 135
  | .neighborAdvertisement => 136

/-- The types of `is_supported_type`. -/
def ofByte (b : UInt8) : Option Icmpv6Type :=
  if b = 1 then some .destinationUnreachable
  else if b = 2 then some .packetTooBig
  else if b = 3 then some .timeExceeded
  else if b = 4 then some .parameterProblem
  else if b = 128 then some .echoRequest
  else if b = 129 then some .echoReply
  else if b = 135 then some .neighborSolicitation
  else if b = 136 then some .neighborAdvertisement
  else none

@[simp] theorem ofByte_toByte (type : Icmpv6Type) : ofByte type.toByte = some type := by
  cases type <;> rfl

/-- Types whose code must be zero. -/
def codeless : Icmpv6Type → Bool
  | .packetTooBig | .echoRequest | .echoReply | .neighborSolicitation | .neighborAdvertisement =>
    true
  | _ => false

def neighbor : Icmpv6Type → Bool
  | .neighborSolicitation | .neighborAdvertisement => true
  | _ => false

end Icmpv6Type

/-- `packet::ICMPv6`. -/
structure ICMPv6 where
  type : Icmpv6Type := .echoRequest
  code : UInt8 := 0
  checksum : UInt16 := 0
  restWord : UInt32 := 0
  payload : List UInt8 := []
  deriving DecidableEq

namespace ICMPv6

def identifier (m : ICMPv6) : UInt16 := (m.restWord >>> 16).toUInt16

def sequence (m : ICMPv6) : UInt16 := (m.restWord &&& 0xFFFF).toUInt16

def setIdentifier (value : UInt16) (m : ICMPv6) : ICMPv6 :=
  { m with restWord := (value.toUInt32 <<< 16) ||| (m.restWord &&& 0xFFFF) }

def setSequence (value : UInt16) (m : ICMPv6) : ICMPv6 :=
  { m with restWord := (m.restWord &&& 0xFFFF0000) ||| value.toUInt32 }

def serializedSize (m : ICMPv6) : ℕ := 8 + m.payload.length

/-- The loop of `validate` over the options of a neighbor message; every option takes at least eight
bytes. -/
def validOptions : ℕ → List UInt8 → Bool
  | 0, _ => true
  | _ + 1, [] => true
  | _ + 1, [_] => false
  | fuel + 1, kind :: units :: body =>
    let length := units.toNat * 8
    !(length < 8 || length > body.length + 2) && !((kind = 1 || kind = 2) && length ≠ 8) &&
      validOptions fuel (body.drop (length - 2))

def validate (m : ICMPv6) : Bool :=
  m.serializedSize ≤ 65535 && !(m.type.codeless && m.code ≠ 0) &&
    (!m.type.neighbor ||
      !(m.payload.length < 16 || m.payload.getD 0 0 = 0xFF) &&
        !(m.type = .neighborSolicitation && m.restWord ≠ 0) &&
        validOptions m.payload.length (m.payload.drop 16))

/-- What follows the checksum. -/
def backBytes (m : ICMPv6) : List UInt8 := u32Bytes m.restWord ++ m.payload

def bytes (m : ICMPv6) : List UInt8 := [m.type.toByte, m.code] ++ u16Bytes m.checksum ++ m.backBytes

/-- `serialize`, into an owned vector. -/
def serialize (m : ICMPv6) : Option (List UInt8) := if m.validate then some m.bytes else none

/-- `serialize_with_checksum`. -/
def serializeWithChecksum (source destination : Bytes16) (m : ICMPv6) : Option (List UInt8) :=
  if m.validate then
    let calculated := Checksum.ipv6PseudoHeader source destination 58 { m with checksum := 0 }.bytes
    some { m with checksum := Checksum.nonzero calculated }.bytes
  else none

/-- `parse`. -/
def parse (input : List UInt8) : Option ICMPv6 :=
  if input.length < 8 then none
  else
    (Icmpv6Type.ofByte (input.getD 0 0)).bind fun type ↦
      let message : ICMPv6 :=
        { type
          code := input.getD 1 0
          checksum := readU16 input 2
          restWord := readU32 input 4
          payload := input.drop 8 }
      if message.validate then some message else none

theorem length_bytes (m : ICMPv6) : m.bytes.length = m.serializedSize := by
  show m.payload.length + 8 = _
  rw [serializedSize, Nat.add_comm]

/-- **Serialized messages parse back.** -/
theorem parse_bytes {m : ICMPv6} (h : m.validate) : parse m.bytes = some m := by
  have hshort : ¬ m.bytes.length < 8 := by
    rw [length_bytes, serializedSize]
    omega
  have htype : Icmpv6Type.ofByte (m.bytes.getD 0 0) = some m.type := Icmpv6Type.ofByte_toByte _
  have hchecksum : readU16 m.bytes 2 = m.checksum := u16OfBytes_split _
  have hrest : readU32 m.bytes 4 = m.restWord := u32OfBytes_split _
  unfold parse
  rw [if_neg hshort, htype, Option.bind_some, hchecksum, hrest]
  exact if_pos h

/-- **A message serialized with its checksum** is parsed back, and verifies. -/
theorem parse_serializeWithChecksum (source destination : Bytes16) {m : ICMPv6} (h : m.validate) :
    ∃ c bytes, m.serializeWithChecksum source destination = some bytes ∧
      bytes.length = m.serializedSize ∧ parse bytes = some { m with checksum := c } ∧
      Checksum.ipv6PseudoHeader source destination 58 bytes = 0 := by
  refine ⟨_, _, if_pos h, length_bytes _, parse_bytes (m := { m with checksum := _ }) h, ?_⟩
  exact @Checksum.ipv6PseudoHeader_fill [m.type.toByte, m.code] m.backBytes (by simp) source
    destination 58

end ICMPv6

end Skan.Packet
