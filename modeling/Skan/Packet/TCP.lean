import Skan.Packet.Checksum

/-!
# TCP segments

`src/packet/tcp.cpp`: the segment, its five known options, serialization with and without a
checksum, and parsing. The options are parsed with fuel for the whole option area, of which every
option takes at least one byte.

## What survives the wire

An option has fields its kind has no place for on the wire, and the flags are nine bits of which
eight travel; `onWire` forgets the rest. `parse_serialize` is the round trip for **every** segment
that can be serialized. What a peer sends need not be such a segment: unknown options are skipped,
and the parsed segment then no longer fills its data offset (`validate_iff_of_parse`). -/

namespace Skan.Packet

open Skan.Core BigEndian

inductive TcpOptionKind where
  | nop
  | mss
  | windowScale
  | sackPermitted
  | timestamp
  deriving DecidableEq

structure TcpOption where
  kind : TcpOptionKind := .mss
  value : UInt16 := 0
  timestampValue : UInt32 := 0
  timestampEcho : UInt32 := 0
  deriving DecidableEq

namespace TcpOption

/-- `option_size`. -/
def size : TcpOptionKind → ℕ
  | .nop => 1
  | .mss => 4
  | .windowScale => 3
  | .sackPermitted => 2
  | .timestamp => 10

/-- An iteration of `append_options`. -/
def bytes (o : TcpOption) : List UInt8 :=
  match o.kind with
  | .nop => [1]
  | .mss => [2, 4] ++ u16Bytes o.value
  | .windowScale => [3, 3, o.value.toUInt8]
  | .sackPermitted => [4, 2]
  | .timestamp => [8, 10] ++ u32Bytes o.timestampValue ++ u32Bytes o.timestampEcho

/-- What the kind of the option has a place for on the wire. -/
def onWire (o : TcpOption) : TcpOption :=
  match o.kind with
  | .nop => { kind := .nop }
  | .mss => { kind := .mss, value := o.value }
  | .windowScale => { kind := .windowScale, value := o.value }
  | .sackPermitted => { kind := .sackPermitted }
  | .timestamp =>
    { kind := .timestamp, timestampValue := o.timestampValue, timestampEcho := o.timestampEcho }

/-- A window scale is a byte. -/
def valid (o : TcpOption) : Bool := !(o.kind = .windowScale && o.value > 255)

@[simp] theorem length_bytes (o : TcpOption) : o.bytes.length = size o.kind := by
  unfold bytes
  cases o.kind <;> rfl

end TcpOption

/-- `padded_options_size`. -/
def paddedOptionsSize (options : List TcpOption) : ℕ :=
  ((options.map fun o ↦ TcpOption.size o.kind).sum + 3) / 4 * 4

/-- `packet::TCP`. -/
structure TCP where
  sourcePort : UInt16 := 0
  destinationPort : UInt16 := 0
  sequenceNumber : UInt32 := 0
  acknowledgmentNumber : UInt32 := 0
  dataOffset : UInt8 := 5
  flags : UInt16 := 0
  window : UInt16 := 0
  checksum : UInt16 := 0
  urgentPointer : UInt16 := 0
  options : List TcpOption := []
  payload : List UInt8 := []
  deriving DecidableEq

namespace TCP

variable {t : TCP} {input : List UInt8} {o : TcpOption}

inductive Flag where
  | fin
  | syn
  | rst
  | psh
  | ack
  | urg
  | ece
  | cwr
  deriving DecidableEq

def Flag.bit : Flag → UInt16
  | .fin => 0x0001
  | .syn => 0x0002
  | .rst => 0x0004
  | .psh => 0x0008
  | .ack => 0x0010
  | .urg => 0x0020
  | .ece => 0x0040
  | .cwr => 0x0080

/-- `has_flag`. -/
def hasFlag (flags : UInt16) (flag : Flag) : Bool := flags &&& flag.bit ≠ 0

/-- `set_options`. -/
def setOptions (options : List TcpOption) (t : TCP) : TCP :=
  { t with options, dataOffset := UInt8.ofNat (5 + paddedOptionsSize options / 4) }

def headerSize (t : TCP) : ℕ := 20 + paddedOptionsSize t.options

def serializedSize (t : TCP) : ℕ := t.headerSize + t.payload.length

def validate (t : TCP) : Bool :=
  paddedOptionsSize t.options ≤ 40 && t.payload.length ≤ 65535 - t.headerSize &&
    5 ≤ t.dataOffset && t.dataOffset ≤ 15 && t.headerSize = t.dataOffset.toNat * 4 &&
    t.options.all TcpOption.valid

/-! ### Serialization -/

/-- The first sixteen bytes. -/
def frontBytes (t : TCP) : List UInt8 :=
  u16Bytes t.sourcePort ++ u16Bytes t.destinationPort ++ u32Bytes t.sequenceNumber ++
    u32Bytes t.acknowledgmentNumber ++ [t.dataOffset <<< 4, (t.flags &&& 0xFF).toUInt8] ++
    u16Bytes t.window

/-- The option area: the options, padded with zeros. -/
def optionBytes (t : TCP) : List UInt8 :=
  let bytes := t.options.flatMap TcpOption.bytes
  bytes ++ List.replicate (paddedOptionsSize t.options - bytes.length) 0

/-- What follows the checksum. -/
def backBytes (t : TCP) : List UInt8 := u16Bytes t.urgentPointer ++ t.optionBytes ++ t.payload

def bytes (t : TCP) : List UInt8 := t.frontBytes ++ u16Bytes t.checksum ++ t.backBytes

/-- `serialize`, into an owned vector. -/
def serialize (t : TCP) : Option (List UInt8) := if t.validate then some t.bytes else none

/-- `serialize_with_checksum` over a pseudo-header: the checksum field is zeroed, the checksum
computed and written into it. -/
def serializeWith (pseudoHeader : List UInt8 → UInt16) (t : TCP) : Option (List UInt8) :=
  if t.validate then
    let calculated := pseudoHeader { t with checksum := 0 }.bytes
    some { t with checksum := Checksum.nonzero calculated }.bytes
  else none

/-- `serialize_with_checksum` for IPv4 addresses. -/
def serializeWithChecksum4 (source destination : UInt32) (t : TCP) : Option (List UInt8) :=
  t.serializeWith (Checksum.ipv4PseudoHeader source destination 6)

/-- `serialize_with_checksum` for IPv6 addresses. -/
def serializeWithChecksum6 (source destination : Bytes16) (t : TCP) : Option (List UInt8) :=
  t.serializeWith (Checksum.ipv6PseudoHeader source destination 6)

/-! ### Parsing -/

/-- An option of the given kind and length whose value starts `body`: nothing when the length is
wrong for the kind, and no option when the kind is unknown. -/
def parseOption (kind length : UInt8) (body : List UInt8) : Option (Option TcpOption) :=
  if kind = 2 then
    if length ≠ 4 then none else some (some { kind := .mss, value := readU16 body 0 })
  else if kind = 3 then
    if length ≠ 3 then none
    else some (some { kind := .windowScale, value := (body.getD 0 0).toUInt16 })
  else if kind = 4 then
    if length ≠ 2 then none else some (some { kind := .sackPermitted })
  else if kind = 8 then
    if length ≠ 10 then none
    else some (some
      { kind := .timestamp, timestampValue := readU32 body 0, timestampEcho := readU32 body 4 })
  else some none

/-- The loop of `parse` over what is left of the option area. -/
def parseOptions : ℕ → List UInt8 → Option (List TcpOption)
  | 0, _ => some []
  | _ + 1, [] => some []
  | fuel + 1, kind :: rest =>
    if kind = 0 then some []
    else if kind = 1 then (parseOptions fuel rest).map ({ kind := .nop } :: ·)
    else
      match rest with
      | [] => none
      | length :: body =>
        if length < 2 ∨ body.length + 2 < length.toNat then none
        else
          (parseOption kind length body).bind fun option ↦
            (parseOptions fuel (body.drop (length.toNat - 2))).map (option.toList ++ ·)

/-- `parse`. -/
def parse (input : List UInt8) : Option TCP :=
  if input.length < 20 then none
  else
    let dataOffset := input.getD 12 0 >>> 4
    let headerSize := dataOffset.toNat * 4
    if dataOffset < 5 ∨ dataOffset > 15 ∨ input.length < headerSize then none
    else
      (parseOptions (headerSize - 20) ((input.take headerSize).drop 20)).bind fun options ↦
        if input.length - headerSize > 65535 - headerSize then none
        else some
          { sourcePort := readU16 input 0
            destinationPort := readU16 input 2
            sequenceNumber := readU32 input 4
            acknowledgmentNumber := readU32 input 8
            dataOffset
            flags := (input.getD 13 0).toUInt16
            window := readU16 input 14
            checksum := readU16 input 16
            urgentPointer := readU16 input 18
            options
            payload := input.drop headerSize }

/-! ### Sizes -/

/-- What travels of a segment: eight flags, and of each option what its kind has a place for. -/
def onWire (t : TCP) : TCP :=
  { t with flags := t.flags &&& 0xFF, options := t.options.map TcpOption.onWire }

@[simp] theorem length_frontBytes (t : TCP) : t.frontBytes.length = 16 := rfl

theorem length_flatMap_bytes (options : List TcpOption) :
    (options.flatMap TcpOption.bytes).length =
      (options.map fun o ↦ TcpOption.size o.kind).sum := by
  rw [List.length_flatMap]
  simp only [TcpOption.length_bytes]

@[simp] theorem length_optionBytes (t : TCP) :
    t.optionBytes.length = paddedOptionsSize t.options := by
  have hle : (t.options.flatMap TcpOption.bytes).length ≤ paddedOptionsSize t.options := by
    rw [length_flatMap_bytes, paddedOptionsSize]
    omega
  rw [optionBytes, List.length_append, List.length_replicate]
  omega

theorem length_bytes (t : TCP) : t.bytes.length = t.serializedSize := by
  simp only [bytes, backBytes, List.length_append, length_frontBytes, length_u16Bytes,
    length_optionBytes, serializedSize, headerSize]
  omega

theorem length_bytes_le (h : t.validate) : t.bytes.length ≤ 65535 := by
  simp only [validate, Bool.and_eq_true, decide_eq_true_eq] at h
  rw [length_bytes, serializedSize]
  have hheader : t.headerSize ≤ 60 := by
    have := h.1.1.1.1.1
    rw [headerSize]
    omega
  have := h.1.1.1.1.2
  omega

/-! ### The round trip -/

/-- A step of the loop over an option with a length. -/
theorem parseOptions_step {kind length : UInt8} {value tail : List UInt8}
    (hkind : kind ≠ 0 ∧ kind ≠ 1) (hlength : length.toNat = value.length + 2)
    (hoption : parseOption kind length (value ++ tail) = some (some o)) (fuel : ℕ) :
    parseOptions (fuel + 1) (kind :: length :: (value ++ tail)) =
      (parseOptions fuel tail).map (o :: ·) := by
  have hfits : ¬ (length < 2 ∨ (value ++ tail).length + 2 < length.toNat) := by
    rw [UInt8.lt_iff_toNat_lt, hlength, List.length_append]
    show ¬ (value.length + 2 < 2 ∨ _)
    omega
  rw [parseOptions, if_neg hkind.1, if_neg hkind.2, if_neg hfits, hoption, Option.bind_some,
    hlength, Nat.add_sub_cancel, List.drop_left]
  rfl

/-- One option is parsed back, and the rest of the area after it. -/
theorem parseOptions_cons (hvalid : o.valid) (fuel : ℕ) (tail : List UInt8) :
    parseOptions (fuel + 1) (o.bytes ++ tail) =
      (parseOptions fuel tail).map (o.onWire :: ·) := by
  rcases o with ⟨kind, value, timestampValue, timestampEcho⟩
  cases kind with
  | nop => rfl
  | mss =>
    have hoption : parseOption 2 4 (u16Bytes value ++ tail) =
        some (some { kind := .mss, value }) := by
      have hread : readU16 (u16Bytes value ++ tail) 0 = value := u16OfBytes_split value
      show some (some ({ kind := .mss, value := readU16 _ 0 } : TcpOption)) = _
      rw [hread]
    exact parseOptions_step (by decide) rfl hoption fuel
  | windowScale =>
    have hbyte : value.toUInt8.toUInt16 = value := by
      have hle : value ≤ 255 := by simpa [TcpOption.valid] using hvalid
      apply UInt16.toNat_inj.mp
      have : value.toNat ≤ 255 := hle
      simp
      omega
    have hoption : parseOption 3 3 ([value.toUInt8] ++ tail) =
        some (some { kind := .windowScale, value }) := by
      show some (some ({ kind := .windowScale, value := value.toUInt8.toUInt16 } : TcpOption)) = _
      rw [hbyte]
    exact parseOptions_step (by decide) rfl hoption fuel
  | sackPermitted =>
    have hoption : parseOption 4 2 ([] ++ tail) = some (some { kind := .sackPermitted }) := rfl
    exact parseOptions_step (by decide) rfl hoption fuel
  | timestamp =>
    have hoption : parseOption 8 10 (u32Bytes timestampValue ++ u32Bytes timestampEcho ++ tail) =
        some (some { kind := .timestamp, timestampValue, timestampEcho }) := by
      have hvalue : readU32 (u32Bytes timestampValue ++ u32Bytes timestampEcho ++ tail) 0 =
          timestampValue := u32OfBytes_split timestampValue
      have hecho : readU32 (u32Bytes timestampValue ++ u32Bytes timestampEcho ++ tail) 4 =
          timestampEcho := u32OfBytes_split timestampEcho
      show some (some (TcpOption.mk .timestamp 0 (readU32 _ 0) (readU32 _ 4))) = _
      rw [hvalue, hecho]
    exact parseOptions_step (by decide) rfl hoption fuel

/-- A padded option area is parsed back. -/
theorem parseOptions_bytes {options : List TcpOption} (hvalid : options.all TcpOption.valid)
    (padding : ℕ) {fuel : ℕ} (hfuel : options.length + padding ≤ fuel) :
    parseOptions fuel (options.flatMap TcpOption.bytes ++ List.replicate padding 0) =
      some (options.map TcpOption.onWire) := by
  induction options generalizing fuel with
  | nil =>
    cases padding with
    | zero => cases fuel <;> rfl
    | succ padding =>
      obtain ⟨fuel, rfl⟩ := Nat.exists_eq_succ_of_ne_zero (show fuel ≠ 0 by omega)
      rfl
  | cons o options ih =>
    rw [List.all_cons, Bool.and_eq_true] at hvalid
    rw [List.length_cons] at hfuel
    obtain ⟨fuel, rfl⟩ := Nat.exists_eq_succ_of_ne_zero (show fuel ≠ 0 by omega)
    rw [List.flatMap_cons, List.append_assoc, parseOptions_cons hvalid.1, ih hvalid.2 (by omega)]
    rfl

theorem length_le_length_flatMap (options : List TcpOption) :
    options.length ≤ (options.flatMap TcpOption.bytes).length := by
  induction options with
  | nil => exact Nat.le_refl 0
  | cons o options ih =>
    have hpos : 1 ≤ TcpOption.size o.kind := by cases o.kind <;> decide
    rw [List.flatMap_cons, List.length_append, List.length_cons, TcpOption.length_bytes]
    omega

/-- A nibble shifted up and down again. -/
theorem shiftRight_shiftLeft {d : UInt8} (h : d ≤ 15) : d <<< 4 >>> 4 = d := by
  have hd : d.toNat ≤ 15 := h
  apply UInt8.toNat_inj.mp
  simp [Nat.shiftLeft_eq, Nat.shiftRight_eq_div_pow]
  omega

theorem flags_toUInt8 (flags : UInt16) : (flags &&& 0xFF).toUInt8.toUInt16 = flags &&& 0xFF := by
  have hand : (flags &&& 0xFF).toNat = flags.toNat % 256 := by
    rw [UInt16.toNat_and]
    exact Nat.and_two_pow_sub_one_eq_mod _ 8
  apply UInt16.toNat_inj.mp
  rw [UInt8.toNat_toUInt16, UInt16.toNat_toUInt8, hand]
  omega

theorem toUInt16_and (b : UInt8) : b.toUInt16 &&& 0xFF = b.toUInt16 := by
  have hb : b.toNat < 256 := b.toNat_lt
  have hand : (b.toUInt16 &&& 0xFF).toNat = b.toUInt16.toNat % 256 := by
    rw [UInt16.toNat_and]
    exact Nat.and_two_pow_sub_one_eq_mod _ 8
  apply UInt16.toNat_inj.mp
  rw [hand, UInt8.toNat_toUInt16, Nat.mod_eq_of_lt hb]

/-- **Serialized segments parse back.** -/
theorem parse_bytes (h : t.validate) : parse t.bytes = some t.onWire := by
  have hlength := length_bytes t
  have hle := length_bytes_le h
  simp only [validate, Bool.and_eq_true, decide_eq_true_eq] at h
  obtain ⟨⟨⟨⟨⟨hpadded, hpayload⟩, hlow⟩, hhigh⟩, hheader⟩, hoptions⟩ := h
  have hoffset : t.bytes.getD 12 0 >>> 4 = t.dataOffset := shiftRight_shiftLeft hhigh
  have hsize : t.dataOffset.toNat * 4 = 20 + paddedOptionsSize t.options := hheader.symm
  -- the twenty fixed bytes, then the option area, then the payload
  have hfixed : t.bytes = (t.frontBytes ++ u16Bytes t.checksum ++ u16Bytes t.urgentPointer) ++
      (t.optionBytes ++ t.payload) := by
    simp only [bytes, backBytes, List.append_assoc]
  have hfixedLength :
      (t.frontBytes ++ u16Bytes t.checksum ++ u16Bytes t.urgentPointer).length = 20 := rfl
  have hdrop : t.bytes.drop (t.dataOffset.toNat * 4) = t.payload := by
    rw [hfixed, hsize, ← hfixedLength, ← length_optionBytes, ← List.length_append,
      ← List.append_assoc]
    exact List.drop_left
  have harea : (t.bytes.take (t.dataOffset.toNat * 4)).drop 20 = t.optionBytes := by
    rw [hfixed, hsize, ← hfixedLength, ← length_optionBytes, ← List.length_append,
      ← List.append_assoc,
      List.take_left, List.drop_left]
  have hparsed : parseOptions (t.dataOffset.toNat * 4 - 20) t.optionBytes =
      some (t.options.map TcpOption.onWire) := by
    refine parseOptions_bytes hoptions _ ?_
    have hcount := length_le_length_flatMap t.options
    have harea := length_optionBytes t
    rw [optionBytes, List.length_append, List.length_replicate] at harea
    omega
  unfold parse
  rw [serializedSize, headerSize] at hlength
  rw [if_neg (by omega), hoffset, if_neg, harea, hparsed, Option.bind_some, if_neg (by omega),
    hdrop]
  · have hsource : readU16 t.bytes 0 = t.sourcePort := u16OfBytes_split _
    have hdestination : readU16 t.bytes 2 = t.destinationPort := u16OfBytes_split _
    have hsequence : readU32 t.bytes 4 = t.sequenceNumber := u32OfBytes_split _
    have hacknowledgment : readU32 t.bytes 8 = t.acknowledgmentNumber := u32OfBytes_split _
    have hflags : (t.bytes.getD 13 0).toUInt16 = t.flags &&& 0xFF := flags_toUInt8 _
    have hwindow : readU16 t.bytes 14 = t.window := u16OfBytes_split _
    have hchecksum : readU16 t.bytes 16 = t.checksum := u16OfBytes_split _
    have hurgent : readU16 t.bytes 18 = t.urgentPointer := u16OfBytes_split _
    rw [hsource, hdestination, hsequence, hacknowledgment, hflags, hwindow, hchecksum, hurgent,
      onWire]
  · rw [not_or, not_or, UInt8.not_lt, UInt8.not_lt]
    exact ⟨hlow, hhigh, by omega⟩

theorem parse_serialize {bytes : List UInt8} (h : t.serialize = some bytes) :
    parse bytes = some t.onWire := by
  rw [serialize] at h
  split_ifs at h with hvalid
  obtain rfl := Option.some.inj h
  exact parse_bytes hvalid

/-! ### Checksums -/

/-- **A segment serialized with its checksum** is parsed back, and verifies. -/
theorem parse_serializeWith {pseudoHeader : List UInt8 → UInt16}
    (hfill : ∀ {front back : List UInt8}, front.length % 2 = 0 →
      front.length + 2 + back.length ≤ 65535 →
      pseudoHeader (front ++ u16Bytes
        (Checksum.nonzero (pseudoHeader (front ++ u16Bytes 0 ++ back))) ++ back) = 0)
    (h : t.validate) :
    ∃ c bytes, t.serializeWith pseudoHeader = some bytes ∧ bytes.length = t.serializedSize ∧
      parse bytes = some { t.onWire with checksum := c } ∧ pseudoHeader bytes = 0 := by
  have hlength := length_bytes_le h
  have hback : t.frontBytes.length + 2 + t.backBytes.length ≤ 65535 := by
    rw [bytes, List.length_append, List.length_append, length_u16Bytes] at hlength
    exact hlength
  refine ⟨_, _, if_pos h, length_bytes _, parse_bytes (t := { t with checksum := _ }) h, ?_⟩
  exact @hfill t.frontBytes t.backBytes (by rw [length_frontBytes]) hback

theorem parse_serializeWithChecksum4 (source destination : UInt32) (h : t.validate) :
    ∃ c bytes, t.serializeWithChecksum4 source destination = some bytes ∧
      bytes.length = t.serializedSize ∧ parse bytes = some { t.onWire with checksum := c } ∧
      Checksum.ipv4PseudoHeader source destination 6 bytes = 0 :=
  parse_serializeWith (fun heven ↦ Checksum.ipv4PseudoHeader_fill heven source destination 6) h

theorem parse_serializeWithChecksum6 (source destination : Bytes16) (h : t.validate) :
    ∃ c bytes, t.serializeWithChecksum6 source destination = some bytes ∧
      bytes.length = t.serializedSize ∧ parse bytes = some { t.onWire with checksum := c } ∧
      Checksum.ipv6PseudoHeader source destination 6 bytes = 0 :=
  parse_serializeWith
    (fun heven _ ↦ Checksum.ipv6PseudoHeader_fill heven source destination 6) h

/-! ### What a peer sends -/

/-- A parsed option is as it travels, and valid. -/
theorem onWire_of_parseOption {kind length : UInt8} {body : List UInt8}
    (h : parseOption kind length body = some (some o)) : o.onWire = o ∧ o.valid := by
  have hscale : ∀ b : UInt8, ¬ b.toUInt16 > 255 := by
    intro b
    have hb : b.toNat < 256 := b.toNat_lt
    rw [gt_iff_lt, UInt16.lt_iff_toNat_lt, UInt8.toNat_toUInt16, Nat.not_lt]
    exact Nat.le_of_lt_succ hb
  unfold parseOption at h
  split_ifs at h <;> simp only [Option.some.injEq, reduceCtorEq] at h <;> subst h
  · exact ⟨rfl, rfl⟩
  · exact ⟨rfl, by simp [TcpOption.valid, hscale]⟩
  · exact ⟨rfl, rfl⟩
  · exact ⟨rfl, rfl⟩

theorem onWire_of_parseOptions {fuel : ℕ} {area : List UInt8} {options : List TcpOption}
    (h : parseOptions fuel area = some options) : ∀ o ∈ options, o.onWire = o ∧ o.valid := by
  induction fuel generalizing area options with
  | zero =>
    obtain rfl := Option.some.inj h
    simp
  | succ fuel ih =>
    rcases area with - | ⟨kind, rest⟩
    · obtain rfl := Option.some.inj h
      simp
    rw [parseOptions.eq_def] at h
    dsimp only at h
    split_ifs at h
    · obtain rfl := Option.some.inj h
      simp
    · obtain ⟨options, hrest, rfl⟩ := Option.map_eq_some_iff.mp h
      exact List.forall_mem_cons.mpr ⟨⟨rfl, rfl⟩, ih hrest⟩
    · rcases rest with - | ⟨length, body⟩
      · exact absurd h (by simp)
      dsimp only at h
      split_ifs at h
      obtain ⟨option, hoption, hmap⟩ := Option.bind_eq_some_iff.mp h
      obtain ⟨options, hrest, rfl⟩ := Option.map_eq_some_iff.mp hmap
      rcases option with - | o
      · exact ih hrest
      · exact List.forall_mem_cons.mpr ⟨onWire_of_parseOption hoption, ih hrest⟩

section

variable (h : parse input = some t)

include h

/-- What `parse` promises of any segment. -/
theorem parse_eq_some :
    5 ≤ t.dataOffset ∧ t.dataOffset ≤ 15 ∧
      t.payload.length + t.dataOffset.toNat * 4 = input.length ∧ input.length ≤ 65535 ∧
      t.onWire = t ∧ t.options.all TcpOption.valid := by
  unfold parse at h
  dsimp only at h
  split_ifs at h with hshort hoffset hlong
  · exact absurd h (by simp)
  simp only [not_or, UInt8.not_lt] at hoffset
  obtain ⟨options, hoptions, hrest⟩ := Option.bind_eq_some_iff.mp h
  obtain rfl := Option.some.inj hrest
  have hall := onWire_of_parseOptions hoptions
  refine ⟨hoffset.1, hoffset.2.1, ?_, ?_, ?_, ?_⟩
  · show (input.drop _).length + (input.getD 12 0 >>> 4).toNat * 4 = _
    rw [List.length_drop]
    omega
  · have hsmall : (input.getD 12 0 >>> 4).toNat ≤ 15 := hoffset.2.1
    omega
  · have hoptionsWire : options.map TcpOption.onWire = options :=
      (List.map_congr_left fun o ho ↦ (hall o ho).1).trans (List.map_id options)
    rw [onWire]
    simp only [hoptionsWire, toUInt16_and]
  · exact List.all_eq_true.mpr fun o ho ↦ (hall o ho).2

/-- **A parsed segment can be serialized again** exactly when its known options, padded, fill its
data offset. -/
theorem validate_iff_of_parse : t.validate = decide (t.headerSize = t.dataOffset.toNat * 4) := by
  obtain ⟨hlow, hhigh, hlength, hle, -, hvalid⟩ := parse_eq_some h
  have hsmall : t.dataOffset.toNat ≤ 15 := hhigh
  rw [Bool.eq_iff_iff, decide_eq_true_eq]
  refine ⟨fun hv ↦ ?_, fun hheader ↦ ?_⟩
  · simp only [validate, Bool.and_eq_true, decide_eq_true_eq] at hv
    exact hv.1.2
  · have hsize := hheader
    rw [headerSize] at hsize
    simp only [validate, Bool.and_eq_true, decide_eq_true_eq]
    exact ⟨⟨⟨⟨⟨by omega, by omega⟩, hlow⟩, hhigh⟩, hheader⟩, hvalid⟩

/-- A parsed segment that can be serialized again is not changed by the second round. -/
theorem parse_serialize_of_parse {bytes : List UInt8} (hserialize : t.serialize = some bytes) :
    parse bytes = some t := by
  rw [parse_serialize hserialize, (parse_eq_some h).2.2.2.2.1]

end

end TCP

end Skan.Packet
