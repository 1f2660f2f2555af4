import Skan.Net.LinuxDiscoveryTransport
import Skan.Net.Unreachables

/-!
# Quotes of the discovery probes

The discovery transport hands what an ICMP error quotes to the parsers of whole packets. A quote
that is cut off has no room for the length that its IP header announces, so `IPv4::parse` and
`IPv6::parse` refuse it: of the quotes of a pending TCP probe **the complete ones are recognised and
no others** (`unreachable_iff_complete`), although routers need not quote more than eight bytes of
TCP, which is all that the scan transport asks for (`matches_of_requoted`).
-/

namespace Skan.Net

open Skan.Core Skan.Packet Skan.PortScan Skan.Discovery BigEndian

namespace LinuxDiscoveryTransport

variable {ctx : NetworkScanContext} {s : LinuxDiscoveryTransport} {id : ProbeId}
  {p submission : ProbeSubmission} {answers : DiscoveryAnswers} {o : PacketObservation} {t : TCP}
  {c : UInt16}

/-! ### What is pending -/

/-- A submission as one of the discovery probes builds it. -/
def Built (inet : Inet) (submission : ProbeSubmission) : Prop :=
  ∃ type id host config, (probeOf inet type).build id host config = .ok submission

/-- The submissions that a run is given are those of the probes. -/
def Event.Built (inet : Inet) : Event → Prop
  | .submit _ submission => LinuxDiscoveryTransport.Built inet submission
  | _ => True

/-- What is pending was submitted, and has the addresses that were selected for it. -/
structure Submitted (ctx : NetworkScanContext) (id : ProbeId) (p : ProbeSubmission) : Prop where
  id_eq : p.id = id
  effective : ∃ submission targetIp sourceIp, Built ctx.inet submission ∧
    effectiveAddress ctx.inet submission.targetIp submission.target = some targetIp ∧
      sourceAddressFor ctx targetIp = some sourceIp ∧
        p = effectiveSubmission submission targetIp sourceIp

@[simp] theorem pending_destinationMac (answers : DiscoveryAnswers) (now : TimePoint)
    (targetIp : IpAddress) :
    (destinationMac ctx answers now targetIp s).2.pending = s.pending := by
  rw [destinationMac]
  split_ifs
  · rfl
  · split
    · rfl
    · split_ifs <;> rfl
  · rfl
  · rfl

theorem lookup_of_erase {id' : ProbeId} {pending : KeyedStore ProbeId ProbeSubmission}
    (h : (pending.erase id').lookup id = some p) : pending.lookup id = some p := by
  rw [AList.lookup_erase_eq_ite] at h
  split_ifs at h
  exact h

theorem pending_solicit (h : (solicit ctx answers submission s).2.pending.lookup id = some p) :
    s.pending.lookup id = some p ∨ id = submission.id ∧ p = submission := by
  rw [solicit] at h
  split at h
  · exact .inl h
  split_ifs at h
  · exact .inl h
  · exact .inl h
  · rw [AList.lookup_insert_eq_ite] at h
    split_ifs at h with hid
    · exact .inr ⟨hid, (Option.some.inj h).symm⟩
    · exact .inl h

theorem pending_launch (h : (launch ctx answers submission s).2.pending.lookup id = some p) :
    s.pending.lookup id = some p ∨ id = submission.id ∧ p = submission := by
  have hmac := @pending_destinationMac ctx s answers answers.composedAt
    submission.targetIp
  rw [launch] at h
  dsimp only at h
  split at h
  · exact .inl (hmac ▸ h)
  split_ifs at h
  · exact .inl (hmac ▸ h)
  · exact .inl (hmac ▸ h)
  · rw [AList.lookup_insert_eq_ite, hmac] at h
    split_ifs at h with hid
    · exact .inr ⟨hid, (Option.some.inj h).symm⟩
    · exact .inl h

/-- **A submission** adds at most itself, with the addresses that are selected for it. -/
theorem pending_submit (h : (submit ctx answers submission s).2.pending.lookup id = some p) :
    s.pending.lookup id = some p ∨ ∃ targetIp sourceIp,
      effectiveAddress ctx.inet submission.targetIp submission.target = some targetIp ∧
        sourceAddressFor ctx targetIp = some sourceIp ∧ id = submission.id ∧
          p = effectiveSubmission submission targetIp sourceIp := by
  rw [submit] at h
  split at h
  · exact .inl h
  split at h
  · exact .inl h
  rename_i targetIp htarget
  split at h
  · exact .inl h
  split at h
  · exact .inl h
  rename_i sourceIp hsource
  have hmac := @pending_destinationMac ctx s answers answers.now targetIp
  refine Or.imp_right (fun hnew ↦ ⟨targetIp, sourceIp, htarget, hsource, hnew⟩) ?_
  dsimp only at h
  split at h
  · split at h
    · rename_i kept heq
      have hkept : kept.pending = s.pending := by rw [← hmac, heq]
      exact hkept ▸ pending_solicit h
    · rename_i kept heq
      have hkept : kept.pending = s.pending := by rw [← hmac, heq]
      exact hkept ▸ pending_launch h
  · exact pending_launch h

theorem pending_resolveNeighbor {resolved : LinuxDiscoveryTransport}
    (hresolved : resolveNeighbor ctx answers o s = some resolved)
    (h : resolved.pending.lookup id = some p) : s.pending.lookup id = some p := by
  rw [resolveNeighbor] at hresolved
  split at hresolved
  · split at hresolved
    · obtain ⟨waiting, -, hresolved⟩ := Option.bind_eq_some_iff.mp hresolved
      obtain ⟨original, -, hresolved⟩ := Option.bind_eq_some_iff.mp hresolved
      dsimp only at hresolved
      split_ifs at hresolved
      · obtain rfl := Option.some.inj hresolved
        have hkept := lookup_of_erase h
        rwa [pending_destinationMac] at hkept
      · obtain rfl := Option.some.inj hresolved
        rwa [pending_destinationMac] at h
    · exact nomatch hresolved
  · exact nomatch hresolved

/-- **A packet** leaves what is pending, or takes something away. -/
theorem pending_dispatchObservation
    (h : (dispatchObservation ctx answers o s).2.pending.lookup id = some p) :
    s.pending.lookup id = some p := by
  rw [dispatchObservation] at h
  split at h
  · rename_i resolved hresolved
    exact pending_resolveNeighbor hresolved h
  · split at h
    · exact lookup_of_erase h
    · split at h
      · exact h
      · split_ifs at h
        · exact h
        · exact lookup_of_erase h

/-- **What is pending after a step** was so before, or was just submitted. -/
theorem pending_step {event : Event} (h : (step ctx s event).pending.lookup id = some p) :
    s.pending.lookup id = some p ∨ ∃ answers submission targetIp sourceIp,
      event = .submit answers submission ∧
        effectiveAddress ctx.inet submission.targetIp submission.target = some targetIp ∧
          sourceAddressFor ctx targetIp = some sourceIp ∧ id = submission.id ∧
            p = effectiveSubmission submission targetIp sourceIp := by
  cases event with
  | submit answers submission =>
    refine (pending_submit h).imp_right ?_
    rintro ⟨targetIp, sourceIp, hentered⟩
    exact ⟨answers, submission, targetIp, sourceIp, rfl, hentered⟩
  | neighborTimeout id' => exact .inl (lookup_of_erase h)
  | dispatchObservation answers o => exact .inl (pending_dispatchObservation h)
  | reorder pending neighborTimers =>
    refine .inl ?_
    rw [step] at h
    split_ifs at h with hperm
    · exact (AList.perm_lookup hperm.1).symm.trans h
    · exact h

/-- In a run on the submissions of the probes, everything pending is one of them. -/
theorem submitted_run {events : List Event} (hevents : ∀ event ∈ events, event.Built ctx.inet) :
    ∀ id p, (Runs.run (step ctx) {} events).pending.lookup id = some p → Submitted ctx id p := by
  refine Runs.run_invariant_within
    (I := fun s : LinuxDiscoveryTransport ↦
      ∀ id p, s.pending.lookup id = some p → Submitted ctx id p)
    (P := fun _ (event : Event) ↦ event.Built ctx.inet) (fun s event hevent hs id p h ↦ ?_)
    (fun _ _ h ↦ absurd h (by simp)) (Runs.within_of_forall (fun event h _ ↦ hevents event h) _)
  obtain hkept | ⟨answers, submission, targetIp, sourceIp, rfl, htarget, hsource, rfl, rfl⟩ :=
    pending_step h
  · exact hs id p hkept
  · exact ⟨rfl, submission, targetIp, sourceIp, hevent, htarget, hsource, rfl⟩

/-! ### Pending TCP probes -/

/-- What `TcpDiscoveryProbe` promises of a submission. -/
structure TcpProbe (p : ProbeSubmission) : Prop where
  id_le : p.id ≤ 0xFFFF
  sequence_eq : p.sequenceNumber = TcpDiscoveryProbe.sequenceFor p.id
  target_valid : p.targetIp.valid
  targetIpv4_eq : p.targetIp.isIpv4 → p.targetIpv4 = p.targetIp.ipv4Word
  segment : ∃ t : TCP, t.validate ∧ p.packet = t.bytes ∧ t.sourcePort = p.sourcePort ∧
    t.destinationPort = p.port ∧ t.sequenceNumber = p.sequenceNumber

theorem tcpProbe_of_build {inet : Inet} {host : Host} {config : DiscoveryConfig}
    (h : TcpDiscoveryProbe.build inet id host config = .ok p) : TcpProbe p := by
  rw [TcpDiscoveryProbe.build] at h
  split at h
  · cases h
  rename_i targetIp htarget
  have hvalid := valid_of_effectiveAddress htarget
  dsimp only at h
  split_ifs at h with hrefused hfamily
  all_goals
    have hid : id ≤ 0xFFFF := UInt64.not_lt.mp (not_or.mp (not_or.mp hrefused).2).2
    split at h
    · cases h
    rename_i packet hpacket
    obtain rfl := Except.ok.inj h
    obtain ⟨hsegment, c, rfl⟩ := TCP.serializeWith_eq hpacket
  · exact ⟨hid, rfl, hvalid, fun _ ↦ rfl,
      { TcpDiscoveryProbe.synSegment id config.tcpPort with checksum := c },
      hsegment, rfl, rfl, rfl, rfl⟩
  · exact ⟨hid, rfl, hvalid, fun h4 ↦ absurd h4 hfamily,
      { TcpDiscoveryProbe.synSegment id config.tcpPort with checksum := c },
      hsegment, rfl, rfl, rfl, rfl⟩

/-- What is known of a pending TCP probe. -/
structure PendingTcp (ctx : NetworkScanContext) (id : ProbeId) (p : ProbeSubmission) : Prop where
  id_eq : p.id = id
  probe : TcpProbe p
  source4 : p.targetIp.isIpv4 →
    p.sourceIpv4 = ctx.sourceIpv4 ∧ p.sourceIp = .fromIpv4 ctx.sourceIpv4

theorem Submitted.pendingTcp (h : Submitted ctx id p) (htype : p.type = .tcp) :
    PendingTcp ctx id p := by
  obtain ⟨hid, submission, targetIp, sourceIp, ⟨type, id', host, config, hbuild⟩, htarget, hsource,
    rfl⟩ := h
  obtain rfl : type = .tcp := (about_of_build hbuild).type_eq.symm.trans htype
  have hprobe : TcpProbe submission := tcpProbe_of_build hbuild
  rw [effectiveAddress_of_valid hprobe.target_valid] at htarget
  obtain rfl := Option.some.inj htarget
  refine ⟨hid, ⟨hprobe.id_le, hprobe.sequence_eq, hprobe.target_valid, hprobe.targetIpv4_eq,
    hprobe.segment⟩, fun h4 ↦ ?_⟩
  have h4' : submission.targetIp.isIpv4 = true := h4
  rw [sourceAddressFor, LinuxNetworkScanTransport.sourceAddressFor, if_pos h4'] at hsource
  split_ifs at hsource
  obtain rfl := Option.some.inj hsource
  refine ⟨?_, rfl⟩
  show (if submission.targetIp.isIpv4 then _ else _) = _
  rw [if_pos h4', IpAddress.ipv4Word_fromIpv4]

/-- The probe as the scan transport would have it. -/
def asScan (p : ProbeSubmission) : PortSubmission where
  id := p.id
  probe := .tcpSyn
  target := p.target
  port := { number := p.port }
  packet := p.packet
  sourcePort := p.sourcePort
  sequenceNumber := p.sequenceNumber
  targetIp := p.targetIp
  sourceIp := p.sourceIp

open LinuxNetworkScanTransport (Emitted Header4 Header6 Requoted Unreachable header4 header6
  header4_fields header6_fields length_le_of_validate rewritten4 rewritten6 serialize_eq)

/-- **A frame** carries the probe's segment in the packet that a scan would have sent it in. -/
theorem emitted_of_composeFrame (h : PendingTcp ctx id p) (htype : p.type = .tcp)
    (hparse : TCP.parse p.packet = some t) (hpacket : p.packet = t.bytes)
    {mac : Option MacAddress} {frame : List UInt8} (hframe : composeFrame ctx mac p = some frame) :
    t.validate ∧ Emitted (asScan p) t (frame.drop 14) := by
  have hlength : p.packet.length = t.serializedSize := by
    rw [hpacket, TCP.length_bytes]
  have hbound : p.packet.length ≤ 65535 := (TCP.parse_eq_some hparse).2.2.2.1
  rw [composeFrame, effectiveAddress_of_valid h.probe.target_valid, Option.filter_some,
    if_pos (by simp [htype])] at hframe
  dsimp only at hframe
  obtain ⟨destination, -, hframe⟩ := Option.bind_eq_some_iff.mp hframe
  split_ifs at hframe with h4 h6
  · rw [transport4, htype] at hframe
    dsimp only at hframe
    rw [hparse] at hframe
    obtain ⟨header, body, hheader, hbody, hdrop⟩ := serialize_eq hframe
    obtain ⟨hsegment, c, rfl⟩ := TCP.serializeWith_eq hbody
    rw [Bool.and_eq_true] at h4
    have hsource := (h.source4 h4.1).2
    have hcomposed : IPv4.serialize (header4 (asScan p)) = some header := by
      have hword : p.sourceIp.ipv4Word = ctx.sourceIpv4 := by
        rw [hsource, IpAddress.ipv4Word_fromIpv4]
      rw [header4]
      simp only [asScan, hlength, hword]
      exact hheader
    rw [IPv4.serialize] at hcomposed
    split_ifs at hcomposed with hvalid
    obtain rfl := Option.some.inj hcomposed
    have hsource4 : p.sourceIp.isIpv4 := by
      rw [hsource]
      rfl
    rw [hdrop]
    exact ⟨hsegment, .ipv4 hsource4 h4.1 (length_le_of_validate hbound hvalid) c⟩
  · rw [transport6, htype] at hframe
    dsimp only at hframe
    rw [hparse] at hframe
    obtain ⟨header, body, hheader, hbody, hdrop⟩ := serialize_eq hframe
    obtain ⟨hsegment, c, rfl⟩ := TCP.serializeWith_eq hbody
    rw [Bool.and_eq_true] at h6
    have hcomposed : IPv6.serialize (header6 (asScan p)) = some header := by
      rw [header6]
      simp only [asScan, hlength]
      exact hheader
    rw [IPv6.serialize] at hcomposed
    split_ifs at hcomposed
    obtain rfl := Option.some.inj hcomposed
    rw [hdrop]
    exact ⟨hsegment, .ipv6 h6.2 h6.1 hbound c⟩

/-! ### What the parsers of whole packets make of a quote -/

section Quotes

variable {submission : PortSubmission} {t : TCP} {quote : List UInt8}

/-- **A quote that is cut off** is shorter than its total length, and is refused. -/
theorem parse4_of_cut (h : Header4 submission quote)
    (hcut : quote.length < 20 + submission.packet.length) : IPv4.parse quote = none := by
  unfold IPv4.parse
  dsimp only
  split_ifs with hshort hheader hinvalid
  · rfl
  · rfl
  · rfl
  · refine absurd (.inr (.inl ?_)) hinvalid
    rw [h.total]
    exact hcut

/-- **A complete quote** is accepted. -/
theorem parse4_of_complete (h : Header4 submission quote)
    (hlength : quote.length = 20 + submission.packet.length)
    (hchecksum : Checksum.internet (quote.take 20) = 0) :
    ∃ ip, IPv4.parse quote = some ip ∧ ip.serializedSize = 20 ∧ ip.protocol = 6 ∧
      ip.sourceAddress = submission.sourceIp.ipv4Word ∧
        ip.destinationAddress = submission.targetIp.ipv4Word := by
  have hversion : quote.getD 0 0 >>> 4 = 4 := h.first ▸ by decide
  have hihl : quote.getD 0 0 &&& 0x0F = 5 := h.first ▸ by decide
  have htotal : 20 ≤ (readU16 quote 2).toNat := by
    rw [h.total]
    exact Nat.le_add_right 20 _
  unfold IPv4.parse
  dsimp only
  rw [if_neg (by omega), hversion, hihl, if_neg (by simp; omega), if_neg]
  · exact ⟨_, rfl, rfl, h.protocol, h.source, h.target⟩
  · rw [not_or, not_or]
    refine ⟨?_, ?_, not_not_intro hchecksum⟩
    · simpa [IPv4.validate, IPv4.serializedSize, UInt16.le_iff_toNat_le] using htotal
    · rw [h.total, hlength]
      exact Nat.lt_irrefl _

theorem parse6_of_cut (h : Header6 submission quote)
    (hcut : quote.length < 40 + submission.packet.length) : IPv6.parse quote = none := by
  unfold IPv6.parse
  dsimp only
  split_ifs with hshort htotal
  · rfl
  · rfl
  · rw [h.payload] at htotal
    have hlong := (not_or.mp hshort).1
    omega

theorem parse6_of_complete (h : Header6 submission quote)
    (hlength : quote.length = 40 + submission.packet.length) :
    ∃ ip, IPv6.parse quote = some ip ∧ ip.serializedSize = 40 ∧ ip.nextHeader = 6 ∧
      ip.sourceAddress = submission.sourceIp.bytes ∧
        ip.destinationAddress = submission.targetIp.bytes := by
  unfold IPv6.parse
  dsimp only
  rw [if_neg, if_neg]
  · exact ⟨_, rfl, rfl, h.nextHeader, h.source, h.target⟩
  · rw [h.payload]
    omega
  · rw [not_or, not_not]
    exact ⟨by omega, h.version⟩

/-- The segment of a complete quote. -/
theorem drop_of_complete {header segment : List UInt8}
    (hlength : quote.length = (header ++ segment).length)
    (hsame : ∀ i < quote.length, header.length ≤ i →
      quote.getD i 0 = (header ++ segment).getD i 0) : quote.drop header.length = segment := by
  rw [List.length_append] at hlength
  refine List.ext_getElem (by rw [List.length_drop]; omega) fun i hi hsegment ↦ ?_
  have hread := hsame (header.length + i) (by omega) (Nat.le_add_right _ _)
  rw [← getD_drop, List.getD_append_right _ _ _ _ (by omega), Nat.add_sub_cancel_left,
    List.getD_eq_getElem _ _ hi, List.getD_eq_getElem _ _ hsegment] at hread
  exact hread

/-- What the segment of a complete quote is compared with. -/
theorem quotesTcp_eq (hvalid : t.validate) (c : UInt16) (p : ProbeSubmission) :
    quotesTcp { t with checksum := c }.bytes p =
      (t.sourcePort = p.sourcePort && t.destinationPort = p.port &&
        t.sequenceNumber = p.sequenceNumber) := by
  have hparse : TCP.parse { t with checksum := c }.bytes = some { t.onWire with checksum := c } :=
    TCP.parse_bytes (t := { t with checksum := c }) hvalid
  rw [quotesTcp, hparse]
  rfl

end Quotes

/-! ### The probe that is quoted -/

theorem sequenceFor_injective {id' : ProbeId} (hid : id ≤ 0xFFFF) (hid' : id' ≤ 0xFFFF)
    (h : TcpDiscoveryProbe.sequenceFor id = TcpDiscoveryProbe.sequenceFor id') : id = id' := by
  have hlow : ∀ i : ProbeId, (TcpDiscoveryProbe.sequenceFor i).toUInt16 = i.toUInt32.toUInt16 := by
    intro i
    rw [TcpDiscoveryProbe.sequenceFor, UInt32.toUInt16_or]
    exact UInt16.zero_or
  have hsame := congrArg UInt32.toUInt16 h
  rw [hlow, hlow] at hsame
  have htoNat := congrArg UInt16.toNat hsame
  rw [UInt32.toNat_toUInt16, UInt32.toNat_toUInt16, UInt64.toNat_toUInt32,
    UInt64.toNat_toUInt32] at htoNat
  have hle : id.toNat ≤ 65535 := hid
  have hle' : id'.toNat ≤ 65535 := hid'
  exact UInt64.toNat_inj.mp (by omega)

/-- The segment of a probe's packet. -/
structure Carries (p : ProbeSubmission) (t : TCP) : Prop where
  valid : t.validate
  packet_eq : p.packet = t.bytes
  sourcePort_eq : t.sourcePort = p.sourcePort
  destinationPort_eq : t.destinationPort = p.port
  sequence_eq : t.sequenceNumber = p.sequenceNumber

theorem Carries.quotesTcp (h : Carries p t) (c : UInt16) :
    quotesTcp { t with checksum := c }.bytes p := by
  rw [quotesTcp_eq h.valid, h.sourcePort_eq, h.destinationPort_eq, h.sequence_eq]
  simp

/-- Whatever probe the segment is found to be of has its sequence number. -/
theorem Carries.sequence_of_quotesTcp {p' : ProbeSubmission} (h : Carries p t)
    (hquotes : LinuxDiscoveryTransport.quotesTcp { t with checksum := c }.bytes p') :
    p'.sequenceNumber = p.sequenceNumber := by
  rw [quotesTcp_eq h.valid, Bool.and_eq_true, decide_eq_true_eq] at hquotes
  exact hquotes.2.symm.trans h.sequence_eq

section Pending

variable (hsubmitted : ∀ id p, s.pending.lookup id = some p → Submitted ctx id p) {id : ProbeId}
  {p : ProbeSubmission} (hlookup : s.pending.lookup id = some p) (htype : p.type = .tcp)

include hsubmitted hlookup htype

/-- A sequence number belongs to one pending probe, wherever the hash map lists it. -/
theorem findFirst_of_sequence {q : ProbeSubmission → Bool} (hq : q p = true)
    (honly : ∀ p', q p' = true → p'.type = .tcp ∧ p'.sequenceNumber = p.sequenceNumber) :
    s.pending.findFirst q = some (id, p) := by
  refine AList.findFirst_of_unique hlookup hq fun id' p' hlookup' hq' ↦ ?_
  obtain ⟨htype', hsequence⟩ := honly p' hq'
  have h := (hsubmitted id p hlookup).pendingTcp htype
  have h' := (hsubmitted id' p' hlookup').pendingTcp htype'
  rw [h.probe.sequence_eq, h'.probe.sequence_eq] at hsequence
  rw [← h.id_eq, ← h'.id_eq]
  exact sequenceFor_injective h'.probe.id_le h.probe.id_le hsequence

/-- **Over IPv4** the pending probe is found when its quote is complete. -/
theorem quoted4_of_requoted {ip : IPv4} {icmp : ICMP} (hcarries : Carries p t)
    (htarget : p.targetIp.isIpv4) (hlength : 20 + p.packet.length ≤ 65535) (hvalid : o.valid)
    (hip : o.ipv4 = some ip) (hicmp : o.icmp = some icmp)
    (herror : icmp.type = .destinationUnreachable)
    (hdestination : ip.destinationAddress = ctx.sourceIpv4) (hlong : 20 + 8 ≤ icmp.payload.length)
    (hcut : icmp.payload.length ≤ 20 + p.packet.length)
    (hsame : ∀ i < icmp.payload.length, i ∉ rewritten4 →
      icmp.payload.getD i 0 = ((header4 (asScan p)).withChecksum.bytes ++
        { t with checksum := c }.bytes).getD i 0)
    (hchecksum : Checksum.internet (icmp.payload.take 20) = 0) :
    quoted4 ctx o s =
      if icmp.payload.length = 20 + p.packet.length then some (id, p) else none := by
  have hpending := (hsubmitted id p hlookup).pendingTcp htype
  have hheader : Header4 (asScan p) icmp.payload :=
    (@header4_fields (asScan p) hlength _).requoted hlong hsame
  have hread : quoted4 ctx o s = (IPv4.parse icmp.payload).bind fun quotedIp ↦
      if icmp.payload.length < quotedIp.serializedSize then none
      else s.pending.findFirst
        (quotedBy4 quotedIp (icmp.payload.drop quotedIp.serializedSize)) := by
    rw [quoted4, hip, hicmp, Option.filter_some, if_pos (by simp [hvalid, hdestination]),
      Option.filter_some, if_pos (by simp [herror])]
    rfl
  rw [hread]
  split_ifs with hcomplete
  · obtain ⟨quotedIp, hparse, hsize, hprotocol, hsourceRead, htargetRead⟩ :=
      parse4_of_complete hheader hcomplete hchecksum
    have hdrop : icmp.payload.drop 20 = { t with checksum := c }.bytes := by
      have hsegment : ({ t with checksum := c } : TCP).bytes.length = p.packet.length := by
        rw [hcarries.packet_eq, TCP.length_bytes, TCP.length_bytes]
        rfl
      rw [← IPv4.length_bytes (header4 (asScan p)).withChecksum]
      refine drop_of_complete ?_ fun i hi hle ↦ hsame i hi ?_
      · rw [List.length_append, IPv4.length_bytes, hsegment, hcomplete]
      · rw [IPv4.length_bytes] at hle
        simp only [rewritten4, List.mem_cons, List.not_mem_nil, or_false, not_or]
        omega
    have hsourceIpv4 : p.sourceIpv4 = quotedIp.sourceAddress := by
      obtain ⟨hword, hsource⟩ := hpending.source4 htarget
      rw [hsourceRead, hword]
      show _ = p.sourceIp.ipv4Word
      rw [hsource, IpAddress.ipv4Word_fromIpv4]
    have htargetIpv4 : p.targetIpv4 = quotedIp.destinationAddress :=
      (hpending.probe.targetIpv4_eq htarget).trans htargetRead.symm
    rw [hparse, Option.bind_some, hsize, if_neg (by omega), hdrop]
    refine findFirst_of_sequence hsubmitted hlookup htype ?_ fun p' hquoted ↦ ?_
    · rw [quotedBy4, if_pos ⟨htype, hprotocol⟩, hcarries.quotesTcp c, hsourceIpv4, htargetIpv4]
      simp
    · rw [quotedBy4, hprotocol, Bool.and_eq_true] at hquoted
      obtain ⟨-, hquoted⟩ := hquoted
      split_ifs at hquoted with htcp hecho
      · exact ⟨htcp.1, hcarries.sequence_of_quotesTcp hquoted⟩
      · exact absurd hecho.2 (by decide)
  · rw [parse4_of_cut hheader (lt_of_le_of_ne hcut hcomplete)]
    rfl

/-- **Over IPv6.** -/
theorem quoted6_of_requoted {ip : IPv6} {icmpv6 : ICMPv6} (hcarries : Carries p t)
    (hlength : p.packet.length ≤ 65535) (hvalid : o.valid) (hip : o.ipv6 = some ip)
    (hicmpv6 : o.icmpv6 = some icmpv6) (herror : icmpv6.type = .destinationUnreachable)
    (hdestination : ip.destinationAddress = p.sourceIp.bytes)
    (hlong : 40 + 8 ≤ icmpv6.payload.length) (hcut : icmpv6.payload.length ≤ 40 + p.packet.length)
    (hsame : ∀ i < icmpv6.payload.length, i ∉ rewritten6 → icmpv6.payload.getD i 0 =
      ((header6 (asScan p)).bytes ++ { t with checksum := c }.bytes).getD i 0)
    (hnibble : icmpv6.payload.getD 0 0 >>> 4 = 6) :
    quoted6 o s = if icmpv6.payload.length = 40 + p.packet.length then some (id, p) else none := by
  have hheader : Header6 (asScan p) icmpv6.payload :=
    (@header6_fields (asScan p) hlength _).requoted hlong hsame hnibble
  have hread : quoted6 o s = (IPv6.parse icmpv6.payload).bind fun quotedIp ↦
      if icmpv6.payload.length < quotedIp.serializedSize then none
      else s.pending.findFirst
        (quotedBy6 ip quotedIp (icmpv6.payload.drop quotedIp.serializedSize)) := by
    rw [quoted6, hip, hicmpv6, Option.filter_some, if_pos hvalid, Option.filter_some,
      if_pos (by simp [herror])]
    rfl
  rw [hread]
  split_ifs with hcomplete
  · obtain ⟨quotedIp, hparse, hsize, hnextHeader, hsourceRead, htargetRead⟩ :=
      parse6_of_complete hheader hcomplete
    have hdrop : icmpv6.payload.drop 40 = { t with checksum := c }.bytes := by
      have hsegment : ({ t with checksum := c } : TCP).bytes.length = p.packet.length := by
        rw [hcarries.packet_eq, TCP.length_bytes, TCP.length_bytes]
        rfl
      rw [← IPv6.length_bytes (header6 (asScan p))]
      refine drop_of_complete ?_ fun i hi hle ↦ hsame i hi ?_
      · rw [List.length_append, IPv6.length_bytes, hsegment, hcomplete]
      · rw [IPv6.length_bytes] at hle
        simp only [rewritten6, List.mem_cons, List.not_mem_nil, or_false, not_or]
        omega
    have hsource : p.sourceIp.bytes = quotedIp.sourceAddress := hsourceRead.symm
    have htarget : p.targetIp.bytes = quotedIp.destinationAddress := htargetRead.symm
    rw [hparse, Option.bind_some, hsize, if_neg (by omega), hdrop]
    refine findFirst_of_sequence hsubmitted hlookup htype ?_ fun p' hquoted ↦ ?_
    · rw [quotedBy6, if_pos ⟨htype, hnextHeader⟩, hcarries.quotesTcp c, hdestination, hsource,
        htarget]
      simp
    · rw [quotedBy6, hnextHeader, Bool.and_eq_true] at hquoted
      obtain ⟨-, hquoted⟩ := hquoted
      split_ifs at hquoted with htcp hecho
      · exact ⟨htcp.1, hcarries.sequence_of_quotesTcp hquoted⟩
      · exact absurd hecho.2 (by decide)
  · rw [parse6_of_cut hheader (lt_of_le_of_ne hcut hcomplete)]
    rfl

/-- **A quote of a pending probe** finds it when the quote is complete, and nothing else. -/
theorem quoted_of_requoted {destination : IpAddress} {mac : Option MacAddress}
    {frame quote : List UInt8} (hframe : composeFrame ctx mac p = some frame) (hvalid : o.valid)
    (ho : Unreachable o destination quote) (hdestination : sameOnWire destination p.sourceIp)
    (hquote : Requoted (frame.drop 14) quote) :
    (quoted6 o s).or (quoted4 ctx o s) =
      if quote.length = (frame.drop 14).length then some (id, p) else none := by
  have hpending := (hsubmitted id p hlookup).pendingTcp htype
  obtain ⟨t, hparse, -, hpacket, hsourcePort, hdestinationPort, hsequence⟩ :=
    exists_parse_of_bytes hpending.probe.segment
  obtain ⟨hsegment, hemitted⟩ := emitted_of_composeFrame hpending htype hparse hpacket hframe
  have hcarries : Carries p t := ⟨hsegment, hpacket, hsourcePort, hdestinationPort, hsequence⟩
  have hsize : ∀ c, ({ t with checksum := c } : TCP).bytes.length = p.packet.length := by
    intro c
    rw [hpacket, TCP.length_bytes, TCP.length_bytes]
    rfl
  have hsameBytes := hdestination
  simp only [sameOnWire, Bool.and_eq_true, decide_eq_true_eq] at hsameBytes
  obtain ⟨hfamily, hbytes⟩ := hsameBytes
  generalize frame.drop 14 = packet at hemitted hquote
  cases ho with
  | @icmp ip icmp hip hother hicmp herror =>
    cases hemitted with
    | ipv6 hsource6 =>
      have hfamily6 : p.sourceIp.family = .ipv6 := of_decide_eq_true hsource6
      cases hfamily.trans hfamily6
    | ipv4 hsource4 htarget4 hlength c =>
      have hpacketLength : ((header4 (asScan p)).withChecksum.bytes ++
          ({ t with checksum := c } : TCP).bytes).length = 20 + p.packet.length := by
        rw [List.length_append, IPv4.length_bytes, hsize]
      have haddress : ip.destinationAddress = ctx.sourceIpv4 := by
        have hscoped := LinuxNetworkScanTransport.scoped_eq_of_sameOnWire hdestination
        rw [(hpending.source4 htarget4).2] at hscoped
        exact IpAddress.fromIpv4_injective hscoped
      have hnone : quoted6 o s = none := by
        rw [quoted6, hother]
        rfl
      cases hquote with
      | ipv6 hversion =>
        refine absurd hversion (LinuxNetworkScanTransport.version_ne ?_)
        exact (header4_fields hlength _).first
      | ipv4 _ hlong hcut hsame hchecksum =>
        rw [hpacketLength] at hcut ⊢
        rw [hnone, Option.none_or]
        exact quoted4_of_requoted hsubmitted hlookup htype hcarries htarget4 hlength hvalid hip
          hicmp herror haddress hlong hcut hsame hchecksum
  | @icmpv6 ip icmpv6 hip hother hicmpv6 honly herror =>
    cases hemitted with
    | ipv4 hsource4 =>
      have hfamily4 : p.sourceIp.family = .ipv4 := of_decide_eq_true hsource4
      cases hfamily.trans hfamily4
    | ipv6 hsource6 htarget6 hlength c =>
      have hpacketLength : ((header6 (asScan p)).bytes ++
          ({ t with checksum := c } : TCP).bytes).length = 40 + p.packet.length := by
        rw [List.length_append, IPv6.length_bytes, hsize]
      have hnone : quoted4 ctx o s = none := by
        rw [quoted4, hother]
        rfl
      cases hquote with
      | ipv4 hversion =>
        rw [(header6_fields hlength _).version] at hversion
        exact absurd hversion (by decide)
      | ipv6 _ hlong hcut hsame hnibble =>
        rw [hpacketLength] at hcut ⊢
        rw [hnone, Option.or_none]
        exact quoted6_of_requoted hsubmitted hlookup htype hcarries hlength hvalid hip hicmpv6
          herror hbytes hlong hcut hsame hnibble

end Pending

/-- An error is not an advertisement. -/
theorem resolveNeighbor_of_unreachable {destination : IpAddress} {quote : List UInt8}
    (ho : Unreachable o destination quote) : resolveNeighbor ctx answers o s = none := by
  cases ho with
  | icmp _ hother =>
    rw [resolveNeighbor, hother]
    rfl
  | icmpv6 _ _ hicmpv6 _ herror =>
    have hfilter : o.icmpv6.filter (·.type = .neighborAdvertisement) = none := by
      rw [hicmpv6, Option.filter_some, if_neg (by simp [herror])]
    rw [resolveNeighbor, hfilter]
    split
    · rename_i h _
      exact nomatch h
    · rfl

/-- **Of the quotes of a pending TCP probe, the complete ones are recognised.** In every run on the
submissions of the discovery probes, a destination unreachable that was sent back to a pending TCP
probe's source and quotes its frame, cut off and rewritten as the network may, is reported as an
unreachable response for that probe if and only if it quotes the whole packet. -/
theorem unreachable_iff_complete (ctx : NetworkScanContext) (events : List Event)
    (hevents : ∀ event ∈ events, event.Built ctx.inet) (answers : DiscoveryAnswers) :
    let s := Runs.run (step ctx) {} events
    ∀ id p mac frame o destination quote, s.pending.lookup id = some p → p.type = .tcp →
      composeFrame ctx mac p = some frame → o.valid → Unreachable o destination quote →
        sameOnWire destination p.sourceIp → Requoted (frame.drop 14) quote →
          ((∃ response, (dispatchObservation ctx answers o s).1 = some response ∧
            response.probeId = id ∧ response.kind = .unreachable) ↔
              quote.length = (frame.drop 14).length) := by
  intro s id p mac frame o destination quote hlookup htype hframe hvalid ho hdestination hquote
  have hquoted := quoted_of_requoted (submitted_run hevents) hlookup htype hframe hvalid ho
    hdestination hquote
  rw [dispatchObservation, resolveNeighbor_of_unreachable ho, hquoted]
  split_ifs with hcomplete
  · exact ⟨fun _ ↦ hcomplete, fun _ ↦ ⟨_, rfl, rfl, rfl⟩⟩
  · refine ⟨?_, fun h ↦ absurd h hcomplete⟩
    rintro ⟨response, hresponse, -, hkind⟩
    -- what answers a probe is no error
    dsimp only at hresponse
    split at hresponse
    · exact nomatch hresponse
    · split_ifs at hresponse
      obtain rfl := Option.some.inj hresponse
      exact nomatch hkind

open LinuxNetworkScanTransport (scanner portUnreachable)

/-- The TCP probe of 10.0.0.2, as the probe builds it. -/
def synProbe : ProbeSubmission where
  id := 1
  type := .tcp
  target := inetNtop4 0x0A000002
  packet := [156, 64, 0, 80, 83, 75, 0, 1, 0, 0, 0, 0, 80, 2, 250, 240, 187, 19, 0, 0]
  port := 80
  sourcePort := 40000
  sequenceNumber := 0x534B0001
  targetIpv4 := 0x0A000002
  targetIp := .fromIpv4 0x0A000002

/-- The probe as it is pending. -/
def synPending : ProbeSubmission :=
  effectiveSubmission synProbe (.fromIpv4 0x0A000002) (.fromIpv4 0x0A000001)

/-- Its packet. -/
def synPacket : List UInt8 :=
  [69, 0, 0, 40, 0, 0, 0, 0, 64, 6, 102, 206, 10, 0, 0, 1, 10, 0, 0, 2, 156, 64, 0, 80, 83, 75, 0,
    1, 0, 0, 0, 0, 80, 2, 250, 240, 177, 18, 0, 0]

theorem built_synProbe : Built scanner.inet synProbe := by
  refine ⟨.tcp, 1, { address := inetNtop4 0x0A000002, ipAddress := .fromIpv4 0x0A000002 }, {}, ?_⟩
  decide +kernel

theorem composeFrame_synPending :
    composeFrame scanner (some (Vector.replicate 6 0)) synPending =
      some ([0, 0, 0, 0, 0, 0, 0, 0, 0, 0, 0, 0, 8, 0] ++ synPacket) := by
  decide +kernel

theorem lookup_synPending :
    (Runs.run (step scanner) {} [.submit {} synProbe]).pending.lookup 1 = some synPending := by
  decide +kernel

/-- The first bytes of the packet quote it. -/
theorem requoted_synPacket {n : ℕ} (hlong : 28 ≤ n) (hcut : n ≤ 40) :
    Requoted synPacket (synPacket.take n) := by
  have hlength : (synPacket.take n).length = n := by
    rw [List.length_take]
    exact Nat.min_eq_left hcut
  have hshorter : (synPacket.take n).length ≤ synPacket.length := hlength.le.trans hcut
  refine .ipv4 (by decide) (by omega) hshorter (fun i hi _ ↦ ?_) ?_
  · exact getD_take (hlength ▸ hi)
  · rw [List.take_take, Nat.min_eq_left (by omega)]
    decide +kernel

theorem unreachable_portUnreachable (quote : List UInt8) :
    Unreachable (portUnreachable quote) (.fromIpv4 0x0A000001) quote :=
  @Unreachable.icmp (portUnreachable quote)
    { protocol := 1, sourceAddress := 0x0A000002, destinationAddress := 0x0A000001 }
    { type := .destinationUnreachable, code := 3, payload := quote } rfl rfl rfl rfl

/-- A complete quote is reported. -/
theorem unreachable_iff_complete_synPacket :
    (∃ response,
      (dispatchObservation scanner {} (portUnreachable (synPacket.take 40))
        (Runs.run (step scanner) {} [.submit {} synProbe])).1 = some response ∧
      response.probeId = 1 ∧ response.kind = .unreachable) ↔
    (synPacket.take 40).length = synPacket.length :=
  unreachable_iff_complete scanner [.submit {} synProbe]
    (List.forall_mem_singleton.mpr built_synProbe) {} 1 synPending _ _ _ _ _ lookup_synPending rfl
    composeFrame_synPending rfl (unreachable_portUnreachable _) (by decide)
    (requoted_synPacket (by decide) (by decide))

/-- **Eight bytes of TCP are not enough**, though they are for the scan transport. -/
theorem not_unreachable_minimal :
    (Runs.run (step scanner) {} [.submit {} synProbe]).pending.lookup 1 = some synPending ∧
    synPending.type = .tcp ∧
    composeFrame scanner (some (Vector.replicate 6 0)) synPending =
      some ([0, 0, 0, 0, 0, 0, 0, 0, 0, 0, 0, 0, 8, 0] ++ synPacket) ∧
    (portUnreachable (synPacket.take 28)).valid ∧
    Unreachable (portUnreachable (synPacket.take 28)) synPending.sourceIp (synPacket.take 28) ∧
    Requoted synPacket (synPacket.take 28) ∧
    matchesTcpUnreachable (asScan synPending) (portUnreachable (synPacket.take 28)) ∧
    ¬ ∃ response,
      (dispatchObservation scanner {} (portUnreachable (synPacket.take 28))
        (Runs.run (step scanner) {} [.submit {} synProbe])).1 = some response := by
  have hnone : (dispatchObservation scanner {} (portUnreachable (synPacket.take 28))
      (Runs.run (step scanner) {} [.submit {} synProbe])).1 = none := by
    decide +kernel
  refine ⟨lookup_synPending, rfl, composeFrame_synPending, rfl, unreachable_portUnreachable _,
    requoted_synPacket (by decide) (by decide), by decide +kernel, ?_⟩
  rintro ⟨response, hresponse⟩
  exact nomatch hnone.symm.trans hresponse

end LinuxDiscoveryTransport

end Skan.Net
