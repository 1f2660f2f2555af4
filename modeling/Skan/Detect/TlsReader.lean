import Skan.Detect.Types
import Skan.Library.Loops
import Skan.Library.Numerals

/-!
# Reading TLS records and certificates

`src/detect/tls_metadata.cpp`: what `parse_tls_metadata` tells about a server from the bytes it
sent, with the reader of DER (`der_next`) under it.

**Every access is checked here and every loop is counted**, though not in the source: reading a
byte or a part that is not there is the fault `outOfRange`, and a loop without an end the fault
`endless`. Sums and differences of a `std::size_t` are modulo 2 ^ 64 (`add64`, `sub64`).

A `DerValue` and an offset that `der_next` has changed before it fails are not read by any of its
callers, so it fails with nothing.
-/

namespace Skan.Detect.Tls

open Skan.Core Loops

/-- `kMaximumTlsBytes`. -/
def maximumTlsBytes : ℕ := 65536

/-- `kMaximumCertificateBytes`. -/
def maximumCertificateBytes : ℕ := 49152

/-- `kMaximumNames`. -/
def maximumNames : ℕ := 32

/-- `kMaximumTextBytes`. -/
def maximumTextBytes : ℕ := 1024

inductive Fault where
  | outOfRange
  | endless
  deriving DecidableEq

abbrev Reads := Except Fault

def add64 (a b : ℕ) : ℕ := (a + b) % 2 ^ 64

def sub64 (a b : ℕ) : ℕ := (a + (2 ^ 64 - b)) % 2 ^ 64

/-- `bytes[offset]`. -/
def byteAt (bytes : Text) (offset : ℕ) : Reads UInt8 :=
  match bytes[offset]? with
  | some b => pure b
  | none => throw .outOfRange

/-- `bytes.subspan(offset, length)`. -/
def subspan (bytes : Text) (offset length : ℕ) : Reads Text :=
  if offset + length ≤ bytes.length then pure ((bytes.drop offset).take length)
  else throw .outOfRange

/-- `read_u16`. -/
def readU16 (bytes : Text) (offset : ℕ) : Reads ℕ := do
  let high ← byteAt bytes offset
  let low ← byteAt bytes (add64 offset 1)
  return high.toNat * 256 + low.toNat

/-- `read_u24`. -/
def readU24 (bytes : Text) (offset : ℕ) : Reads ℕ := do
  let high ← byteAt bytes offset
  let middle ← byteAt bytes (add64 offset 1)
  let low ← byteAt bytes (add64 offset 2)
  return high.toNat * 65536 + middle.toNat * 256 + low.toNat

/-- `tls_version_name`. -/
def tlsVersionName (version : ℕ) : Text :=
  if version = 0x0301 then literal "TLS 1.0"
  else if version = 0x0302 then literal "TLS 1.1"
  else if version = 0x0303 then literal "TLS 1.2"
  else if version = 0x0304 then literal "TLS 1.3"
  else []

/-! ### DER -/

structure DerValue where
  tag : UInt8 := 0
  value : Text := []
  deriving DecidableEq

/-- The bytes of a length in the long form, and the offset after them. -/
def derLength (input : Text) : ℕ → ℕ → ℕ → Reads (Option (ℕ × ℕ))
  | 0, offset, length => return some (offset, length)
  | remaining + 1, offset, length => do
    if input.length / 256 < length then return none
    let byte ← byteAt input offset
    derLength input remaining (add64 offset 1) (length * 256 % 2 ^ 64 + byte.toNat)

/-- The length of an element and the offset after it, from its first byte on; the offset is the one
after that byte. -/
def announcedLength (input : Text) (offset : ℕ) (first : UInt8) : Reads (Option (ℕ × ℕ)) :=
  let lengthBytes := (first &&& 0x7F).toNat
  if first &&& 0x80 = 0 then return some (offset, first.toNat)
  else if lengthBytes = 0 || 8 < lengthBytes || input.length < add64 offset lengthBytes then
    return none
  else derLength input lengthBytes offset 0

/-- `der_next`: the element at the offset, and the offset after it. -/
def derNext (input : Text) (offset : ℕ) : Reads (Option (DerValue × ℕ)) := do
  if input.length < add64 offset 2 then return none
  let tag ← byteAt input offset
  let offset := add64 offset 1
  let first ← byteAt input offset
  let offset := add64 offset 1
  match ← announcedLength input offset first with
  | none => return none
  | some (offset, length) =>
    if sub64 input.length offset < length then return none
    let value ← subspan input offset length
    return some ({ tag, value }, add64 offset length)

/-! ### Texts of a certificate -/

/-- `std::to_string`. -/
def decimal (n : ℕ) : Text := (Nat.toDigits 10 n).map fun c ↦ UInt8.ofNat c.toNat

/-- One round of the loop of `oid_text`: the index, the component so far and the output. -/
def oidStep (oid : Text) : ℕ × ℕ × Text → Reads ((ℕ × ℕ × Text) ⊕ Text)
  | (index, component, output) => do
    if oid.length ≤ index then return .inr (if component = 0 then output else [])
    if (2 ^ 64 - 1) / 128 < component then return .inr []
    let byte ← byteAt oid index
    let component := component * 128 + byte.toNat % 128
    if byte &&& 0x80 = 0 then
      return .inl (add64 index 1, 0, output ++ literal "." ++ decimal component)
    return .inl (add64 index 1, component, output)

/-- `oid_text`. -/
def oidText (oid : Text) : Reads Text := do
  if oid = [] then return []
  let first ← byteAt oid 0
  let start := decimal (first.toNat / 40) ++ literal "." ++ decimal (first.toNat % 40)
  loop .endless (oidStep oid) (oid.length + 1) (1, 0, start)

/-- One round of the loop of `asn1_text` over a `BMPString`: the index and the output. -/
def bmpStep (value : Text) : ℕ × Text → Reads ((ℕ × Text) ⊕ Text)
  | (index, output) => do
    if value.length ≤ add64 index 1 then return .inr output
    let high ← byteAt value index
    let low ← byteAt value (add64 index 1)
    if high ≠ 0 || low < 0x20 then return .inr []
    return .inl (add64 index 2, output ++ [low])

/-- `asn1_text`. -/
def asn1Text (value : DerValue) : Reads Text :=
  if maximumTextBytes < value.value.length then return []
  else if value.tag = 0x1E then
    loop .endless (bmpStep value.value) (value.value.length + 1) (0, [])
  else if value.tag ∈ [0x0C, 0x13, 0x14, 0x16, 0x17, 0x18] then return value.value
  else return []

/-- `attribute_label`. -/
def attributeLabel (oid : Text) : Option Text :=
  if oid = literal "2.5.4.3" then some (literal "CN")
  else if oid = literal "2.5.4.6" then some (literal "C")
  else if oid = literal "2.5.4.7" then some (literal "L")
  else if oid = literal "2.5.4.8" then some (literal "ST")
  else if oid = literal "2.5.4.10" then some (literal "O")
  else if oid = literal "2.5.4.11" then some (literal "OU")
  else none

/-- An element that has to have a certain tag. -/
def derExpect (tag : UInt8) (input : Text) (offset : ℕ) : Reads (Option (DerValue × ℕ)) := do
  return (← derNext input offset).filter (·.1.tag = tag)

/-- One round of the loop of `parse_name`: the offset of a set, and the output. -/
def nameStep (sequence : Text) : ℕ × Text → Reads ((ℕ × Text) ⊕ Text)
  | (setOffset, output) => do
    if sequence.length ≤ setOffset then return .inr output
    let some (set, setOffset) ← derExpect 0x31 sequence setOffset | return .inr []
    let some (pair, _) ← derExpect 0x30 set.value 0 | return .inr []
    let some (oid, attributeOffset) ← derExpect 0x06 pair.value 0 | return .inr []
    let some (text, _) ← derNext pair.value attributeOffset | return .inr []
    let label := attributeLabel (← oidText oid.value)
    let decoded ← asn1Text text
    match label with
    | some label =>
      if decoded = [] then return .inl (setOffset, output)
      let output := (if output = [] then [] else output ++ literal ", ") ++ label ++ literal "=" ++
        decoded
      if maximumTextBytes < output.length then return .inr []
      return .inl (setOffset, output)
    | none => return .inl (setOffset, output)

/-- `parse_name`. -/
def parseName (encoded : Text) : Reads Text := do
  let some (sequence, offset) ← derExpect 0x30 encoded 0 | return []
  if offset ≠ encoded.length then return []
  loop .endless (nameStep sequence.value) (sequence.value.length + 1) (0, [])

/-! ### Certificates -/

/-- One round of the loop of `parse_san_extension`. -/
def sanStep (names : Text) : ℕ × TlsMetadata → Reads ((ℕ × TlsMetadata) ⊕ TlsMetadata)
  | (nameOffset, metadata) => do
    if names.length ≤ nameOffset || maximumNames ≤ metadata.certificateSanNames.length then
      return .inr metadata
    let some (name, nameOffset) ← derNext names nameOffset | return .inr metadata
    if name.tag = 0x82 && name.value ≠ [] && name.value.length ≤ 253 then
      let certificateSanNames := metadata.certificateSanNames ++ [name.value]
      return .inl (nameOffset, { metadata with certificateSanNames })
    return .inl (nameOffset, metadata)

/-- `parse_san_extension`. -/
def parseSanExtension (encoded : Text) (metadata : TlsMetadata) : Reads TlsMetadata := do
  let some (names, _) ← derExpect 0x30 encoded 0 | return metadata
  loop .endless (sanStep names.value) (names.value.length + 1) (0, metadata)

/-- The value of an extension, after a flag that says whether it is critical. -/
def extensionValue (extension : Text) (fieldOffset : ℕ) : Reads (Option DerValue) := do
  let some (value, fieldOffset) ← derNext extension fieldOffset | return none
  if value.tag = 0x01 then return (← derNext extension fieldOffset).map (·.1)
  return some value

/-- What is read in an extension. -/
def parseExtension (extension : Text) (metadata : TlsMetadata) : Reads TlsMetadata := do
  let some (oid, fieldOffset) ← derExpect 0x06 extension 0 | return metadata
  let some value ← extensionValue extension fieldOffset | return metadata
  if (← oidText oid.value) = literal "2.5.29.17" && value.tag = 0x04 then
    parseSanExtension value.value metadata
  else return metadata

/-- One round of the loop of `parse_extensions`. -/
def extensionsStep (sequence : Text) : ℕ × TlsMetadata → Reads ((ℕ × TlsMetadata) ⊕ TlsMetadata)
  | (offset, metadata) => do
    if sequence.length ≤ offset then return .inr metadata
    let some (extension, offset) ← derExpect 0x30 sequence offset | return .inr metadata
    return .inl (offset, ← parseExtension extension.value metadata)

/-- `parse_extensions`. -/
def parseExtensions (encoded : Text) (metadata : TlsMetadata) : Reads TlsMetadata := do
  let some (sequence, _) ← derExpect 0x30 encoded 0 | return metadata
  loop .endless (extensionsStep sequence.value) (sequence.value.length + 1) (0, metadata)

/-- The two times of a validity, if there are two. -/
def parseValidity (validity : Text) (metadata : TlsMetadata) : Reads TlsMetadata := do
  let some (notBefore, validityOffset) ← derNext validity 0 | return metadata
  let some (notAfter, _) ← derNext validity validityOffset | return metadata
  let certificateNotBefore ← asn1Text notBefore
  let certificateNotAfter ← asn1Text notAfter
  return { metadata with certificateNotBefore, certificateNotAfter }

/-- One round of the loop of `parse_certificate` over what follows the public key. -/
def trailingStep (tbs : Text) : ℕ × TlsMetadata → Reads ((ℕ × TlsMetadata) ⊕ TlsMetadata)
  | (offset, metadata) => do
    if tbs.length ≤ offset then return .inr metadata
    let some (field, offset) ← derNext tbs offset | return .inr metadata
    if field.tag = 0xA3 then return .inr (← parseExtensions field.value metadata)
    return .inl (offset, metadata)

/-- The offset after the serial number, which may follow a version. -/
def serialNumber (tbs : Text) : Reads (Option ℕ) := do
  let some (field, offset) ← derNext tbs 0 | return none
  if field.tag = 0xA0 then return (← derNext tbs offset).map (·.2)
  return some offset

/-- What `parse_certificate` reads of the part that is signed. -/
def parseTbs (tbs : Text) (metadata : TlsMetadata) : Reads TlsMetadata := do
  let some offset ← serialNumber tbs | return metadata
  let some (_, issuerStart) ← derNext tbs offset | return metadata
  let some (_, offset) ← derExpect 0x30 tbs issuerStart | return metadata
  let issuer ← subspan tbs issuerStart (sub64 offset issuerStart)
  let certificateIssuer ← parseName issuer
  let metadata := { metadata with certificateIssuer }
  let some (validity, subjectStart) ← derExpect 0x30 tbs offset | return metadata
  let metadata ← parseValidity validity.value metadata
  let some (_, offset) ← derExpect 0x30 tbs subjectStart | return metadata
  let subject ← subspan tbs subjectStart (sub64 offset subjectStart)
  let certificateSubject ← parseName subject
  let metadata := { metadata with certificateSubject }
  let some (_, offset) ← derExpect 0x30 tbs offset | return metadata
  loop .endless (trailingStep tbs) (tbs.length + 1) (offset, metadata)

/-- `parse_certificate`. -/
def parseCertificate (der : Text) (metadata : TlsMetadata) : Reads TlsMetadata := do
  if der = [] || maximumCertificateBytes < der.length then return metadata
  let some (certificate, _) ← derExpect 0x30 der 0 | return metadata
  let some (tbs, _) ← derExpect 0x30 certificate.value 0 | return metadata
  parseTbs tbs.value metadata

/-! ### Handshakes -/

/-- One round of the loop over the protocols of an ALPN extension. -/
def alpnStep (value : Text) : ℕ × TlsMetadata → Reads ((ℕ × TlsMetadata) ⊕ TlsMetadata)
  | (alpnOffset, metadata) => do
    if value.length ≤ alpnOffset || maximumNames ≤ metadata.alpn.length then return .inr metadata
    let nameLength := (← byteAt value alpnOffset).toNat
    let alpnOffset := add64 alpnOffset 1
    if nameLength = 0 || sub64 value.length alpnOffset < nameLength then return .inr metadata
    let name ← subspan value alpnOffset nameLength
    return .inl (add64 alpnOffset nameLength, { metadata with alpn := metadata.alpn ++ [name] })

/-- What is read in an extension of a server hello. -/
def helloExtension (type : ℕ) (value : Text) (metadata : TlsMetadata) : Reads TlsMetadata := do
  if type = 0x002B && value.length = 2 then
    return { metadata with protocolVersion := tlsVersionName (← readU16 value 0) }
  else if type = 0x0010 && 3 ≤ value.length then
    loop .endless (alpnStep value) (value.length + 1) (2, metadata)
  else return metadata

/-- One round of the loop of `parse_server_hello`. -/
def helloStep (hello : Text) (last : ℕ) :
    ℕ × TlsMetadata → Reads ((ℕ × TlsMetadata) ⊕ TlsMetadata)
  | (offset, metadata) => do
    if last < add64 offset 4 then return .inr metadata
    let type ← readU16 hello offset
    let length ← readU16 hello (add64 offset 2)
    let offset := add64 offset 4
    if sub64 last offset < length then return .inr metadata
    let value ← subspan hello offset length
    return .inl (add64 offset length, ← helloExtension type value metadata)

/-- `parse_server_hello`. -/
def parseServerHello (hello : Text) (metadata : TlsMetadata) : Reads TlsMetadata := do
  if hello.length < 38 then return metadata
  let metadata := { metadata with protocolVersion := tlsVersionName (← readU16 hello 0) }
  let sessionLength := (← byteAt hello 34).toNat
  if sub64 hello.length 35 < sessionLength || sub64 (sub64 hello.length 35) sessionLength < 3 then
    return metadata
  -- cipher suite and compression
  let offset := add64 35 (add64 sessionLength 3)
  if offset = hello.length || sub64 hello.length offset < 2 then return metadata
  let extensionsLength ← readU16 hello offset
  let offset := add64 offset 2
  if sub64 hello.length offset < extensionsLength then return metadata
  loop .endless (helloStep hello (add64 offset extensionsLength)) (hello.length + 1)
    (offset, metadata)

/-- `parse_certificate_message`. -/
def parseCertificateMessage (message : Text) (metadata : TlsMetadata) : Reads TlsMetadata := do
  if message.length < 6 then return metadata
  let listLength ← readU24 message 0
  if sub64 message.length 3 < listLength then return metadata
  let certificateLength ← readU24 message 3
  if sub64 message.length 6 < certificateLength then return metadata
  parseCertificate (← subspan message 6 certificateLength) metadata

/-- What a record adds to the metadata and to the handshake. -/
def readRecord (type : UInt8) (version : ℕ) (body : Text) :
    TlsMetadata × Text → TlsMetadata × Text
  | (metadata, handshake) =>
    let metadata :=
      if type = 0x15 || type = 0x16 then
        { metadata with
          detected := true
          protocolVersion :=
            if metadata.protocolVersion = [] then tlsVersionName version
            else metadata.protocolVersion }
      else metadata
    if type = 0x16 && body.length ≤ sub64 maximumTlsBytes handshake.length then
      (metadata, handshake ++ body)
    else (metadata, handshake)

/-- One round of the loop of `parse_tls_metadata` over the records. -/
def recordStep (response : Text) :
    ℕ × TlsMetadata × Text → Reads ((ℕ × TlsMetadata × Text) ⊕ (TlsMetadata × Text))
  | (offset, read) => do
    if response.length < add64 offset 5 then return .inr read
    let type ← byteAt response offset
    let version ← readU16 response (add64 offset 1)
    let length ← readU16 response (add64 offset 3)
    let offset := add64 offset 5
    if sub64 response.length offset < length then return .inr read
    let body ← subspan response offset length
    return .inl (add64 offset length, readRecord type version body read)

/-- What is read in a handshake message. -/
def readMessage (type : UInt8) (message : Text) (metadata : TlsMetadata) : Reads TlsMetadata :=
  if type = 0x02 then parseServerHello message metadata
  else if type = 0x0B then parseCertificateMessage message metadata
  else return metadata

/-- One round of the loop of `parse_tls_metadata` over the handshake messages. -/
def messageStep (messages : Text) :
    ℕ × TlsMetadata → Reads ((ℕ × TlsMetadata) ⊕ TlsMetadata)
  | (offset, metadata) => do
    if messages.length < add64 offset 4 then return .inr metadata
    let type ← byteAt messages offset
    let length ← readU24 messages (add64 offset 1)
    let offset := add64 offset 4
    if sub64 messages.length offset < length then return .inr metadata
    let message ← subspan messages offset length
    return .inl (add64 offset length, ← readMessage type message metadata)

/-- `parse_tls_metadata`. -/
def parseTlsMetadata (response : Text) : Reads TlsMetadata := do
  if response.length < 5 || maximumTlsBytes < response.length then return {}
  let (metadata, messages) ←
    loop .endless (recordStep response) (response.length + 1) (0, {}, [])
  loop .endless (messageStep messages) (messages.length + 1) (0, metadata)

end Skan.Detect.Tls
