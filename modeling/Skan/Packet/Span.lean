import Skan.Packet.Packet

/-!
# Packets serialized in place

`Packet::serialize(std::span)` of `src/packet/packet.cpp`: the layers are written over the caller's
bytes one after the other, and the first that refuses ends the call. A layer's own `serialize`
writes all of its bytes or none.

The caller is promised that a refused packet leaves the bytes alone and that an accepted one has
length fields that count what was written. The second always holds. The first fails where the IP
header's length field wraps: **the Ethernet header has been written by then** (`promised_iff`).

`serialize_eq_serializeInto` is the way back to the owned vector of `Packet.serialize`.
-/

namespace Skan.Packet

open Skan.Core BigEndian

variable {ip : IpHeader}

set_option linter.dupNamespace false

/-! ### Writing over bytes -/

/-- `bytes` written over `output` from `offset` on. -/
def overwrite (output : List UInt8) (offset : ℕ) (bytes : List UInt8) : List UInt8 :=
  output.take offset ++ bytes ++ output.drop (offset + bytes.length)

/-- The layers written one after the other from `offset` on; a layer without bytes is one that
refuses. -/
def writeLayers : List (Option (List UInt8)) → ℕ → List UInt8 → StatusCode × List UInt8
  | [], _, output => (.ok, output)
  | none :: _, _, output => (.invalidArgument, output)
  | some bytes :: layers, offset, output =>
    writeLayers layers (offset + bytes.length) (overwrite output offset bytes)

@[simp] theorem overwrite_nil (output : List UInt8) (offset : ℕ) :
    overwrite output offset [] = output := by
  simp [overwrite]

/-- Two layers in a row are one. -/
theorem overwrite_overwrite {output : List UInt8} {offset : ℕ} (h : offset ≤ output.length)
    (first second : List UInt8) :
    overwrite (overwrite output offset first) (offset + first.length) second =
      overwrite output offset (first ++ second) := by
  have htake : (output.take offset ++ first).length = offset + first.length := by
    rw [List.length_append, List.length_take, Nat.min_eq_left h]
  have hfront : (overwrite output offset first).take (offset + first.length) =
      output.take offset ++ first := by
    rw [overwrite, ← htake, List.take_left]
  have hback : (overwrite output offset first).drop (offset + first.length + second.length) =
      output.drop (offset + first.length + second.length) := by
    rw [overwrite, List.drop_append, List.drop_eq_nil_of_le (by omega), htake, List.nil_append,
      List.drop_drop, Nat.add_sub_cancel_left]
  rw [overwrite, hfront, hback, overwrite]
  simp [Nat.add_assoc]

/-- At the front nothing precedes what is written. -/
theorem overwrite_zero (output bytes : List UInt8) :
    overwrite output 0 bytes = bytes ++ output.drop bytes.length := by
  rw [overwrite, List.take_zero, List.nil_append, Nat.zero_add]

/-- **Layers that have bytes** are written whole, before the rest. -/
theorem writeLayers_append (layers : List (List UInt8)) (rest : List (Option (List UInt8)))
    {offset : ℕ} {output : List UInt8} (h : offset ≤ output.length) :
    writeLayers (layers.map some ++ rest) offset output =
      writeLayers rest (offset + layers.flatten.length)
        (overwrite output offset layers.flatten) := by
  induction layers generalizing offset output with
  | nil => simp
  | cons bytes layers ih =>
    have hlength : offset + bytes.length ≤ (overwrite output offset bytes).length := by
      rw [overwrite, List.length_append, List.length_append, List.length_take]
      omega
    rw [List.map_cons, List.cons_append, writeLayers, ih hlength, overwrite_overwrite h,
      List.flatten_cons, List.length_append, Nat.add_assoc]

/-! ### Sizes -/

/-- A valid transport is at most 65535 bytes long. -/
theorem Transport.serializedSize_le {transport : Transport} (h : transport.validate ip) :
    transport.serializedSize ≤ 65535 := by
  cases transport with
  | tcp t =>
    have hvalid : t.validate = true := by
      cases ip <;> exact (Bool.and_eq_true_iff.mp h).1
    show t.serializedSize ≤ 65535
    rw [← TCP.length_bytes]
    exact TCP.length_bytes_le hvalid
  | udp u =>
    have hvalid : u.validate = true := by
      cases ip <;> exact (Bool.and_eq_true_iff.mp h).1
    exact of_decide_eq_true hvalid
  | icmp m =>
    cases ip with
    | ipv4 ip => exact of_decide_eq_true (Bool.and_eq_true_iff.mp h).1
    | ipv6 ip => exact absurd h (by simp [validate])
  | icmpv6 m =>
    cases ip with
    | ipv4 ip => exact absurd h (by simp [validate])
    | ipv6 ip =>
      have hvalid : m.validate = true := (Bool.and_eq_true_iff.mp h).1
      rw [ICMPv6.validate, Bool.and_eq_true, Bool.and_eq_true, decide_eq_true_eq] at hvalid
      exact hvalid.1.1

/-- A valid transport is serialized, in as many bytes as it says; a datagram's length field counts
them. -/
theorem Transport.serialize_of_validate {transport : Transport} (h : transport.validate ip) :
    ∃ body, transport.serialize ip = some body ∧ body.length = transport.serializedSize ∧
      ∀ u, transport = .udp u → (readU16 body 4).toNat = body.length := by
  cases transport with
  | tcp t =>
    have hvalid : t.validate = true := by
      cases ip <;> exact (Bool.and_eq_true_iff.mp h).1
    have hserialize : ∀ pseudoHeader, ∃ body, t.serializeWith pseudoHeader = some body ∧
        body.length = t.serializedSize ∧
        ∀ u, Transport.tcp t = .udp u → (readU16 body 4).toNat = body.length :=
      fun pseudoHeader ↦ ⟨_, if_pos hvalid, TCP.length_bytes _, by simp⟩
    cases ip <;> exact hserialize _
  | udp u =>
    have hvalid : u.validate = true := by
      cases ip <;> exact (Bool.and_eq_true_iff.mp h).1
    have hserialize : ∀ pseudoHeader, ∃ body, u.serializeWith pseudoHeader = some body ∧
        body.length = u.serializedSize ∧
        ∀ v, Transport.udp u = .udp v → (readU16 body 4).toNat = body.length := by
      intro pseudoHeader
      refine ⟨_, if_pos hvalid, UDP.length_bytes _, fun v _ ↦ ?_⟩
      have hread : ∀ c : UInt16, readU16 { u with checksum := c }.bytes 4 = u.length :=
        fun _ ↦ u16OfBytes_split _
      rw [hread, UDP.toNat_length hvalid, UDP.length_bytes]
      rfl
    cases ip <;> exact hserialize _
  | icmp m =>
    cases ip with
    | ipv4 ip => exact ⟨_, if_pos (Bool.and_eq_true_iff.mp h).1, ICMP.length_bytes _, by simp⟩
    | ipv6 ip => exact absurd h (by simp [validate])
  | icmpv6 m =>
    cases ip with
    | ipv4 ip => exact absurd h (by simp [validate])
    | ipv6 ip =>
      exact ⟨_, if_pos (Bool.and_eq_true_iff.mp h).1, ICMPv6.length_bytes _, by simp⟩

/-- The header's length field counts what was written behind it, and of IPv4 itself too. -/
def IpHeader.Counts (header body : List UInt8) : IpHeader → Prop
  | .ipv4 _ => (readU16 header 2).toNat = header.length + body.length
  | .ipv6 _ => (readU16 header 4).toNat = body.length

/-- The length field has a place for the size of the transport. -/
def IpHeader.Room (transportSize : ℕ) : IpHeader → Prop
  | .ipv4 ip => ip.serializedSize + transportSize ≤ 65535
  | .ipv6 _ => True

/-- **A composed header** is written where its length field has a place for the transport's size,
and then counts it; otherwise the wrapped length is less than the header's own. -/
theorem IpHeader.serialize_compose (hvalid : ip.validate) {n : ℕ} (hn : n ≤ 65535) :
    (ip.Room n → ∃ header, (ip.compose n).serialize = some header ∧
      header.length = ip.serializedSize ∧
        ∀ body : List UInt8, body.length = n → ip.Counts header body) ∧
    (¬ ip.Room n → (ip.compose n).serialize = none) := by
  cases ip with
  | ipv4 ip =>
    obtain ⟨⟨hversion, hihl⟩, -⟩ : (ip.version = 4 ∧ ip.ihl = 5) ∧ _ := by
      simpa only [validate, IPv4.validate, Bool.and_eq_true, decide_eq_true_eq] using hvalid
    have hsize : ip.serializedSize = 20 := by rw [IPv4.serializedSize, hihl]; rfl
    set composed : IPv4 := { ip with totalLength := UInt16.ofNat (20 + n) } with hcomposed
    have hcompose : (IpHeader.ipv4 ip).compose n = .ipv4 composed := by
      rw [IpHeader.compose, hsize]
    have hcomposedValid : composed.validate = true ↔ 20 + n ≤ 65535 := by
      rw [IPv4.validate, Bool.and_eq_true, Bool.and_eq_true, decide_eq_true_eq, decide_eq_true_eq,
        decide_eq_true_eq, and_iff_right ⟨hversion, hihl⟩]
      show UInt16.ofNat ip.serializedSize ≤ UInt16.ofNat (20 + n) ↔ _
      rw [hsize, UInt16.le_iff_toNat_le, UInt16.toNat_ofNat', UInt16.toNat_ofNat']
      omega
    have hread : ∀ w : IPv4, readU16 w.bytes 2 = w.totalLength := fun _ ↦ u16OfBytes_split _
    rw [hcompose, IpHeader.Room, hsize]
    refine ⟨fun hroom ↦ ⟨composed.withChecksum.bytes, if_pos (hcomposedValid.mpr hroom), ?_,
      fun body hbody ↦ ?_⟩, fun hroom ↦ if_neg (mt hcomposedValid.mp hroom)⟩
    · exact (IPv4.length_bytes _).trans hsize.symm
    · rw [IpHeader.Counts, hread, IPv4.length_bytes, hbody]
      show (UInt16.ofNat (20 + n)).toNat = 20 + n
      exact UInt16.toNat_ofNat_of_lt' (Nat.lt_succ_of_le hroom)
  | ipv6 ip =>
    have hread : ∀ w : IPv6, readU16 w.bytes 4 = w.payloadLength := fun _ ↦ u16OfBytes_split _
    refine ⟨fun _ ↦ ⟨IPv6.bytes { ip with payloadLength := UInt16.ofNat n }, if_pos hvalid,
      IPv6.length_bytes _, fun body hbody ↦ ?_⟩, fun hroom ↦ absurd trivial hroom⟩
    rw [IpHeader.Counts, hread, UInt16.toNat_ofNat_of_lt' (Nat.lt_succ_of_le hn), hbody]

/-! ### The packet -/

namespace Packet

/-- `serialized_size`. -/
def serializedSize (p : Packet) : ℕ :=
  p.ethernet.elim 0 Ethernet.serializedSize + p.ip.elim 0 IpHeader.serializedSize +
    p.transport.elim 0 Transport.serializedSize

/-- `serialize(std::span)`: the status, and what is in the caller's bytes afterwards. -/
def serializeInto (p : Packet) (output : List UInt8) : StatusCode × List UInt8 :=
  if !p.validate ∨ output.length < p.serializedSize then (.invalidArgument, output)
  else
    match p.ip, p.transport with
    | some ip, some transport =>
      let transportSize := transport.serializedSize
      writeLayers
        (p.ethernet.toList.map Ethernet.serialize ++
          [(ip.compose transportSize).serialize, transport.serialize ip]) 0 output
    | _, _ => (.invalidArgument, output)

/-- The bytes of the Ethernet header, where there is one. -/
def link (p : Packet) : List UInt8 := p.ethernet.elim [] Ethernet.bytes

/-- The caller's bytes hold the packet, and behind it what was there before; the length fields count
what was written. -/
structure Written (p : Packet) (output after : List UInt8) (ip : IpHeader) (transport : Transport)
    (header body : List UInt8) : Prop where
  after_eq : after = p.link ++ header ++ body ++ output.drop (p.link ++ header ++ body).length
  header_size : header.length = ip.serializedSize
  body_size : body.length = transport.serializedSize
  counts : ip.Counts header body
  datagram : ∀ u, transport = .udp u → (readU16 body 4).toNat = body.length

/-- **What a caller of `serialize` is promised**: a refused packet leaves the bytes alone, an
accepted one has length fields that count what was written. -/
structure Promised (p : Packet) (output : List UInt8) : Prop where
  atomic : (p.serializeInto output).1 ≠ .ok → (p.serializeInto output).2 = output
  counted : (p.serializeInto output).1 = .ok → ∃ ip transport header body,
    p.ip = some ip ∧ p.transport = some transport ∧
      p.Written output (p.serializeInto output).2 ip transport header body

/-- The packet is valid and there are bytes enough for it, but its IP length field has no place for
its size, and its Ethernet header is not in the bytes already. -/
structure Torn (p : Packet) (output : List UInt8) : Prop where
  valid : p.validate = true
  enough : p.serializedSize ≤ output.length
  wraps : ∃ ip transport, p.ip = some ip ∧ p.transport = some transport ∧
    ¬ ip.Room transport.serializedSize
  unlike : output.take p.link.length ≠ p.link

variable {p : Packet} {output : List UInt8}

/-- A packet that is refused at once leaves the bytes alone. -/
theorem promised_of_refused (h : !p.validate ∨ output.length < p.serializedSize) :
    p.Promised output := by
  have hrefused : p.serializeInto output = (.invalidArgument, output) := if_pos h
  exact ⟨fun _ ↦ by rw [hrefused], fun hok ↦ absurd (hrefused ▸ hok) (by simp)⟩

/-- The layers of a valid packet, all of them valid. -/
theorem layers_of_validate (hvalid : p.validate = true) :
    ∃ ip transport, p.ip = some ip ∧ p.transport = some transport ∧ ip.validate = true ∧
      transport.validate ip = true ∧
        ∀ ethernet, p.ethernet = some ethernet → ethernet.validate = true := by
  rw [validate] at hvalid
  rcases hip : p.ip with - | ip
  · rw [hip] at hvalid
    exact absurd hvalid (by simp)
  rcases htransport : p.transport with - | transport
  · rw [hip, htransport] at hvalid
    exact absurd hvalid (by simp)
  rw [hip, htransport] at hvalid
  simp only [Bool.and_eq_true] at hvalid
  refine ⟨ip, transport, rfl, rfl, hvalid.1.2, hvalid.2, fun ethernet hethernet ↦ ?_⟩
  rw [hethernet] at hvalid
  exact hvalid.1.1

variable {ip : IpHeader} {transport : Transport}

section

variable (hvalid : p.validate = true)

include hvalid

/-- The Ethernet header, where there is one, never refuses: what is left is the IP header and the
transport, behind it. -/
theorem serializeInto_eq (henough : p.serializedSize ≤ output.length) (hip : p.ip = some ip)
    (htransport : p.transport = some transport)
    (hethernet : ∀ ethernet, p.ethernet = some ethernet → ethernet.validate = true) :
    p.serializeInto output =
      writeLayers [(ip.compose transport.serializedSize).serialize, transport.serialize ip]
        (0 + p.link.length) (overwrite output 0 p.link) := by
  have hlink : p.ethernet.toList.map Ethernet.serialize =
      (p.ethernet.toList.map Ethernet.bytes).map some := by
    rcases hp : p.ethernet with - | ethernet
    · rfl
    · exact congrArg (fun bytes ↦ [bytes]) (if_pos (hethernet ethernet hp))
  have hlinkBytes : (p.ethernet.toList.map Ethernet.bytes).flatten = p.link := by
    rw [link]
    rcases p.ethernet with - | ethernet
    · rfl
    · exact List.append_nil _
  rw [serializeInto, if_neg (by rw [hvalid]; simpa using henough), hip, htransport]
  dsimp only
  rw [hlink, writeLayers_append _ _ (Nat.zero_le _), hlinkBytes]

/-- The same of the owned vector. -/
theorem serialize_eq_bind (hip : p.ip = some ip) (htransport : p.transport = some transport)
    (hethernet : ∀ ethernet, p.ethernet = some ethernet → ethernet.validate = true) :
    p.serialize = ((ip.compose transport.serializedSize).serialize).bind fun header ↦
      (transport.serialize ip).bind fun body ↦ some (p.link ++ header ++ body) := by
  rw [serialize, hip, htransport]
  dsimp only
  rw [if_pos hvalid, link]
  rcases hp : p.ethernet with - | ethernet
  · rfl
  · show (Ethernet.serialize ethernet).bind _ = _
    rw [Ethernet.serialize, if_pos (hethernet ethernet hp)]
    rfl

/-- **What a valid packet does to bytes that are enough for it**: all of it is written, or its
Ethernet header only. -/
theorem serializeInto_cases (henough : p.serializedSize ≤ output.length) :
    ∃ ip transport, p.ip = some ip ∧ p.transport = some transport ∧
      (ip.Room transport.serializedSize → ∃ after header body,
        p.serializeInto output = (.ok, after) ∧
          p.Written output after ip transport header body ∧
          p.serialize = some (p.link ++ header ++ body)) ∧
      (¬ ip.Room transport.serializedSize →
        p.serializeInto output = (.invalidArgument, p.link ++ output.drop p.link.length) ∧
          p.serialize = none) := by
  obtain ⟨ip, transport, hip, htransport, hipValid, htransportValid, hethernet⟩ :=
    layers_of_validate hvalid
  have hinto := serializeInto_eq hvalid henough hip htransport hethernet
  have howned := serialize_eq_bind hvalid hip htransport hethernet
  obtain ⟨hwritten, hrefused⟩ := IpHeader.serialize_compose hipValid
    (Transport.serializedSize_le htransportValid)
  obtain ⟨body, hbody, hbodySize, hdatagram⟩ := Transport.serialize_of_validate htransportValid
  refine ⟨ip, transport, hip, htransport, fun hroom ↦ ?_, fun hroom ↦ ?_⟩
  · obtain ⟨header, hheader, hheaderSize, hcounts⟩ := hwritten hroom
    have hfront : p.link.length ≤ (overwrite output 0 p.link).length := by
      rw [overwrite_zero, List.length_append]
      exact Nat.le_add_right _ _
    have hlast := @writeLayers_append [header, body] [] (0 + p.link.length)
      (overwrite output 0 p.link) (by omega)
    rw [List.append_nil] at hlast
    refine ⟨overwrite (overwrite output 0 p.link) (0 + p.link.length) [header, body].flatten,
      header, body, ?_, ⟨?_, hheaderSize, hbodySize, hcounts body hbodySize, hdatagram⟩, ?_⟩
    · rw [hinto, hheader, hbody]
      exact hlast
    · rw [overwrite_overwrite (Nat.zero_le _), overwrite_zero]
      simp
    · rw [howned, hheader, hbody]
      rfl
  · refine ⟨?_, ?_⟩
    · rw [hinto, hrefused hroom, writeLayers, overwrite_zero]
    · rw [howned, hrefused hroom]
      rfl

end

/-- **The owned vector** is what an array of zeros of the packet's size holds after the call. -/
theorem serialize_eq_serializeInto (p : Packet) :
    p.serialize =
      let written := p.serializeInto (List.replicate p.serializedSize 0)
      if written.1 = .ok then some written.2 else none := by
  by_cases hvalid : p.validate = true
  · have henough : p.serializedSize ≤ (List.replicate p.serializedSize (0 : UInt8)).length := by
      rw [List.length_replicate]
    obtain ⟨ip, transport, hip, htransport, hwritten, htorn⟩ := serializeInto_cases hvalid henough
    by_cases hroom : ip.Room transport.serializedSize
    · obtain ⟨after, header, body, hinto, hbytes, howned⟩ := hwritten hroom
      have hsize : (p.link ++ header ++ body).length = p.serializedSize := by
        rw [List.length_append, List.length_append, hbytes.header_size, hbytes.body_size,
          serializedSize, hip, htransport, link]
        rcases p.ethernet with - | ethernet
        · rfl
        · show ethernet.bytes.length + _ + _ = _
          rw [Ethernet.length_bytes]
          rfl
      rw [howned, hinto, hbytes.after_eq, hsize, List.drop_replicate]
      simp
    · obtain ⟨hinto, howned⟩ := htorn hroom
      rw [howned, hinto]
      rfl
  · have hrefused : p.serializeInto (List.replicate p.serializedSize 0) =
        (.invalidArgument, List.replicate p.serializedSize 0) :=
      if_pos (.inl (by rw [Bool.not_eq_true] at hvalid; rw [hvalid]; rfl))
    rw [hrefused, serialize]
    rcases p.ip with - | ip
    · rfl
    · rcases p.transport with - | transport
      · rfl
      · exact if_neg hvalid

/-- Its own Ethernet header changes the bytes unless it is in them already. -/
theorem link_append_drop_iff :
    p.link ++ output.drop p.link.length = output ↔ output.take p.link.length = p.link := by
  constructor
  · intro h
    have hfront := congrArg (List.take p.link.length) h
    rw [List.take_left] at hfront
    exact hfront.symm
  · intro h
    conv_rhs => rw [← List.take_append_drop p.link.length output, h]

theorem Torn.not_promised (h : p.Torn output) : ¬ p.Promised output := by
  intro hpromised
  obtain ⟨ip, transport, hip, htransport, -, htorn⟩ := serializeInto_cases h.valid h.enough
  obtain ⟨ip', transport', hip', htransport', hwraps⟩ := h.wraps
  obtain rfl := Option.some.inj (hip.symm.trans hip')
  obtain rfl := Option.some.inj (htransport.symm.trans htransport')
  obtain ⟨hinto, -⟩ := htorn hwraps
  have hatomic := hpromised.atomic (by rw [hinto]; simp)
  rw [hinto] at hatomic
  exact h.unlike (link_append_drop_iff.mp hatomic)

theorem promised_of_not_torn (h : ¬ p.Torn output) : p.Promised output := by
  by_cases hrefused : !p.validate ∨ output.length < p.serializedSize
  · exact promised_of_refused hrefused
  rw [not_or, Bool.not_eq_true, Bool.not_eq_false', not_lt] at hrefused
  obtain ⟨hvalid, henough⟩ := hrefused
  obtain ⟨ip, transport, hip, htransport, hwritten, htorn⟩ := serializeInto_cases hvalid henough
  by_cases hroom : ip.Room transport.serializedSize
  · obtain ⟨after, header, body, hinto, hbytes, -⟩ := hwritten hroom
    refine ⟨fun hbad ↦ absurd (by rw [hinto]) hbad, fun _ ↦ ?_⟩
    exact ⟨ip, transport, header, body, hip, htransport, by rwa [hinto]⟩
  · obtain ⟨hinto, -⟩ := htorn hroom
    refine ⟨fun _ ↦ ?_, fun hok ↦ absurd hok (by rw [hinto]; simp)⟩
    rw [hinto]
    refine link_append_drop_iff.mpr (by_contra fun hunlike ↦ h ?_)
    exact ⟨hvalid, henough, ⟨ip, transport, hip, htransport, hroom⟩, hunlike⟩

/-- **The promise is kept** unless the packet tears. -/
theorem promised_iff (p : Packet) (output : List UInt8) : p.Promised output ↔ ¬ p.Torn output :=
  ⟨fun hpromised htorn ↦ htorn.not_promised hpromised, promised_of_not_torn⟩

/-- A datagram over IPv4 and Ethernet. -/
def datagramOver4 (payload : List UInt8) : Packet where
  ethernet := some { etherType := 0x0800 }
  ip := some (.ipv4 { protocol := 17 })
  transport := some (.udp { payload })

/-- 65508 bytes are one byte too many for the IPv4 length field. -/
theorem torn_datagramOver4 {payload : List UInt8} (h : payload.length = 65508) :
    (datagramOver4 payload).Torn (List.replicate 65550 0) where
  valid := by
    have hudp : UDP.validate { payload } = true := by
      rw [UDP.validate, UDP.serializedSize, h]
      decide
    show (true && true && (UDP.validate { payload } && true)) = true
    rw [hudp]
    rfl
  enough := by
    show 14 + 20 + (8 + payload.length) ≤ _
    rw [h, List.length_replicate]
  wraps := by
    refine ⟨_, _, rfl, rfl, ?_⟩
    show ¬ 20 + (8 + payload.length) ≤ 65535
    rw [h]
    decide
  unlike := by
    rw [List.take_replicate]
    show List.replicate 14 0 ≠ Ethernet.bytes { etherType := 0x0800 }
    decide

theorem not_promised : ¬ ∀ (p : Packet) (output : List UInt8), p.Promised output := by
  intro h
  have htorn := @torn_datagramOver4 (List.replicate 65508 0) List.length_replicate
  exact htorn.not_promised (h _ _)

end Packet

end Skan.Packet
