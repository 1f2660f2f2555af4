import Skan.Net.Unreachables

/-!
# The identities of the TCP probes

A probe derives the source port and the numbers of its segment from its identifier. The port repeats
after 20000 identifiers; the numbers are an affine map of the identifier, masked, modulo 2 ^ 32, and
the ACK probe turns zero into one. No two identifiers below 2 ^ 32 share both (`Unshared`): the
affine maps are injective, and the two identifiers that the ACK probe gives the number one have
different ports. So no two pending submissions of a scan share a key, and the correlation table
never finds one there before (`insert_inserted`).
-/

namespace Skan.PortScan

/-! ### Numbers -/

theorem toUInt32_injective {id id' : PortProbeId} (hid : id < 4294967296) (hid' : id' < 4294967296)
    (h : id.toUInt32 = id'.toUInt32) : id = id' := by
  have htoNat := congrArg UInt32.toNat h
  rw [UInt64.toNat_toUInt32, UInt64.toNat_toUInt32] at htoNat
  have hlt : id.toNat < 4294967296 := hid
  have hlt' : id'.toNat < 4294967296 := hid'
  exact UInt64.toNat_inj.mp (by omega)

/-- An odd factor has an inverse, so nothing is lost. -/
theorem affine_injective {mask factor offset x y : UInt32} (inverse : UInt32)
    (hinverse : factor * inverse = 1)
    (h : (x ^^^ mask) * factor + offset = (y ^^^ mask) * factor + offset) : x = y := by
  have hfactor : (x ^^^ mask) * factor = (y ^^^ mask) * factor := (UInt32.add_left_inj offset).mp h
  have hmask : x ^^^ mask = y ^^^ mask := by
    have hboth := congrArg (· * inverse) hfactor
    simpa only [UInt32.mul_assoc, hinverse, UInt32.mul_one] using hboth
  exact (UInt32.xor_left_inj mask).mp hmask

theorem TcpAckProbe.nonzero_inj {v w : UInt32} (h : nonzero v = nonzero w) :
    v = w ∨ v = 0 ∧ w = 1 ∨ v = 1 ∧ w = 0 := by
  rw [nonzero, nonzero] at h
  split_ifs at h with hv hw hw
  · exact .inl (hv.trans hw.symm)
  · exact .inr (.inl ⟨hv, h.symm⟩)
  · exact .inr (.inr ⟨h, hw⟩)
  · exact .inl h

/-- No two identifiers below 2 ^ 32 share their source port and their number. -/
def Unshared (number : PortProbeId → UInt32) : Prop :=
  ∀ id id', id < 4294967296 → id' < 4294967296 → id ≠ id' →
    (sourcePortFor id, number id) ≠ (sourcePortFor id', number id')

theorem unshared_of_injective {number : PortProbeId → UInt32}
    (h : ∀ {id id'}, id < 4294967296 → id' < 4294967296 → sourcePortFor id = sourcePortFor id' →
      number id = number id' → id = id') : Unshared number := by
  intro id id' hid hid' hne hpair
  obtain ⟨hport, hnumber⟩ := Prod.mk.inj hpair
  exact hne (h hid hid' hport hnumber)

theorem TcpSynProbe.unshared_sequenceFor : Unshared sequenceFor :=
  unshared_of_injective fun hid hid' _ h ↦
    toUInt32_injective hid hid' (affine_injective 4276115653 (by decide) h)

/-- **Numbers that are made nonzero** are unshared if the identifier whose number would be zero and
the one whose number is one have different ports. -/
theorem TcpAckProbe.unshared_nonzero {mask factor offset : UInt32} (inverse : UInt32)
    (hinverse : factor * inverse = 1) (zero one : PortProbeId)
    (hzero : (zero.toUInt32 ^^^ mask) * factor + offset = 0) (hzeroLt : zero < 4294967296)
    (hone : (one.toUInt32 ^^^ mask) * factor + offset = 1) (honeLt : one < 4294967296)
    (hports : sourcePortFor zero ≠ sourcePortFor one) :
    Unshared fun id ↦ nonzero ((id.toUInt32 ^^^ mask) * factor + offset) := by
  refine unshared_of_injective fun {id id'} hid hid' hport h ↦ ?_
  have hunique : ∀ {a b : PortProbeId}, a < 4294967296 → b < 4294967296 →
      (a.toUInt32 ^^^ mask) * factor + offset = (b.toUInt32 ^^^ mask) * factor + offset → a = b :=
    fun ha hb heq ↦ toUInt32_injective ha hb (affine_injective inverse hinverse heq)
  rcases nonzero_inj h with hsame | ⟨hv, hw⟩ | ⟨hv, hw⟩
  · exact hunique hid hid' hsame
  · obtain rfl := hunique hid hzeroLt (hv.trans hzero.symm)
    obtain rfl := hunique hid' honeLt (hw.trans hone.symm)
    exact absurd hport hports
  · obtain rfl := hunique hid honeLt (hv.trans hone.symm)
    obtain rfl := hunique hid' hzeroLt (hw.trans hzero.symm)
    exact absurd hport.symm hports

theorem TcpAckProbe.unshared_sequenceFor : Unshared sequenceFor :=
  unshared_nonzero 4276115653 (by decide) 1520202736 1543247039 (by decide) (by decide) (by decide)
    (by decide) (by decide)

theorem TcpAckProbe.unshared_acknowledgmentFor : Unshared acknowledgmentFor :=
  unshared_nonzero 3066638151 (by decide) 2204414078 951280439 (by decide) (by decide) (by decide)
    (by decide) (by decide)

end Skan.PortScan

namespace Skan.Net

open Skan.Core Skan.PortScan

/-! ### Submissions of one scan -/

/-- A submission as the probe builds it for an identifier below 2 ^ 32. -/
def BuiltBy (probe : PortProbe) (submission : PortSubmission) : Prop :=
  ∃ id target port config, id < 4294967296 ∧ probe.build id target port config = .ok submission

/-- What a submission is told apart by. -/
structure Identified (number : PortProbeId → UInt32) (submission : PortSubmission) : Prop where
  id_lt : submission.id < 4294967296
  sourcePort_eq : submission.sourcePort = sourcePortFor submission.id
  sequenceNumber_eq : submission.sequenceNumber = number submission.id

theorem identified_of_buildTcp {inet : Inet} {type : ScanProbeType} {number : PortProbeId → UInt32}
    {acknowledgment : UInt32} {flag : Packet.TCP.Flag} {id : PortProbeId} {target : Host}
    {port : Port} {submission : PortSubmission} (hid : id < 4294967296)
    (h : buildTcp inet type (number id) acknowledgment flag id target port = .ok submission) :
    Identified number submission := by
  rw [buildTcp] at h
  split_ifs at h
  split at h
  · cases h
  dsimp only at h
  split at h
  · cases h
  · obtain rfl := Except.ok.inj h
    exact ⟨hid, rfl, rfl⟩

/-- Either probe has numbers that are unshared, and builds its submissions with them. -/
theorem exists_identified {inet : Inet} {probe : PortProbe}
    (hprobe : probe = tcpSynProbe inet ∨ probe = tcpAckProbe inet) :
    ∃ number, Unshared number ∧
      ∀ submission, BuiltBy probe submission → Identified number submission := by
  rcases hprobe with rfl | rfl
  · refine ⟨_, TcpSynProbe.unshared_sequenceFor, ?_⟩
    rintro submission ⟨id, target, port, config, hid, hbuild⟩
    exact identified_of_buildTcp hid hbuild
  · refine ⟨_, TcpAckProbe.unshared_sequenceFor, ?_⟩
    rintro submission ⟨id, target, port, config, hid, hbuild⟩
    exact identified_of_buildTcp hid hbuild

namespace LinuxNetworkScanTransport

variable {ctx : NetworkScanContext} {s : LinuxNetworkScanTransport} {probe : PortProbe}
  {number : PortProbeId → UInt32}

/-- The submissions that a run is given are those of one probe. -/
def Event.BuiltBy (probe : PortProbe) : Event → Prop
  | .submit _ submission => Net.BuiltBy probe submission
  | _ => True

/-- What is pending is identified, if the submissions are. -/
theorem identified_run
    (hbuilt : ∀ submission, Net.BuiltBy probe submission → Identified number submission)
    {events : List Event} (hevents : ∀ event ∈ events, event.BuiltBy probe) :
    ∀ id p, (Runs.run (step ctx) {} events).pending.lookup id = some p →
      Identified number p.submission := by
  refine Runs.run_invariant_within
    (I := fun s : LinuxNetworkScanTransport ↦
      ∀ id p, s.pending.lookup id = some p → Identified number p.submission)
    (P := fun _ (event : Event) ↦ event.BuiltBy probe) (fun s event hevent hs id p hlookup ↦ ?_)
    (fun _ _ h ↦ absurd h (by simp)) (Runs.within_of_forall (fun event h _ ↦ hevents event h) _)
  obtain hkept | ⟨answers, submission, targetIp, sourceIp, frame, rfl, -, -, heq, -⟩ :=
    pending_step hlookup
  · exact hs id p hkept
  · obtain ⟨hid, hport, hnumber⟩ := hbuilt submission hevent
    exact heq ▸ ⟨hid, hport, hnumber⟩

/-- A submission that is not pending has a key of its own. -/
theorem Consistent.key_notMem (h : Consistent ctx s) (hunshared : Unshared number)
    (hpending : ∀ id p, s.pending.lookup id = some p → Identified number p.submission)
    {submission : PortSubmission} (hsubmission : Identified number submission)
    (hid : submission.id ∉ s.pending) : correlationKeyOf submission ∉ s.correlation.entries := by
  intro hmem
  obtain ⟨e, he⟩ := Option.isSome_iff_exists.mp (AList.lookup_isSome.mpr hmem)
  obtain ⟨p, hp, hkey⟩ := h.pending_of_entry _ e he
  have hsubmitted := h.submitted e.token p hp
  have hidentified := hpending e.token p hp
  have hsame : correlationKeyOf p.submission = correlationKeyOf submission :=
    hsubmitted.key_eq.symm.trans hkey
  have hport : p.submission.sourcePort = submission.sourcePort :=
    congrArg CorrelationKey.sourcePort hsame
  have hnumber : p.submission.sequenceNumber = submission.sequenceNumber :=
    congrArg CorrelationKey.sequence hsame
  have hne : p.submission.id ≠ submission.id := by
    intro heq
    refine hid (AList.lookup_isSome.mp ?_)
    rw [← heq, hsubmitted.id_eq, hp]
    rfl
  refine hunshared _ _ hidentified.id_lt hsubmission.id_lt hne (Prod.ext ?_ ?_)
  · exact hidentified.sourcePort_eq.symm.trans (hport.trans hsubmission.sourcePort_eq)
  · exact hidentified.sequenceNumber_eq.symm.trans (hnumber.trans hsubmission.sequenceNumber_eq)

/-- **The table never finds a duplicate.** The numbers of either probe are unshared; so in every
state that a run on the submissions of one probe reaches, a submission of that probe that is not
pending is inserted, whatever addresses it is entered with. -/
theorem probeIdentities_distinct :
    (Unshared TcpSynProbe.sequenceFor ∧ Unshared TcpAckProbe.sequenceFor ∧
      Unshared TcpAckProbe.acknowledgmentFor) ∧
    ∀ (ctx : NetworkScanContext) (inet : Inet) (probe : PortProbe),
      probe = tcpSynProbe inet ∨ probe = tcpAckProbe inet →
      ∀ events : List Event, (∀ event ∈ events, event.BuiltBy probe) →
      ∀ submission : PortSubmission, Net.BuiltBy probe submission →
        submission.id ∉ (Runs.run (step ctx) {} events).pending →
      ∀ targetIp sourceIp, ((Runs.run (step ctx) {} events).correlation.insert
        (correlationKeyOf { submission with targetIp, sourceIp }) submission.id none).1 =
          .inserted := by
  refine ⟨⟨TcpSynProbe.unshared_sequenceFor, TcpAckProbe.unshared_sequenceFor,
    TcpAckProbe.unshared_acknowledgmentFor⟩, ?_⟩
  intro ctx inet probe hprobe events hevents submission hsubmission hid targetIp sourceIp
  obtain ⟨number, hunshared, hbuilt⟩ := exists_identified hprobe
  obtain ⟨hlt, hport, hnumber⟩ := hbuilt submission hsubmission
  have hentered : Identified number { submission with targetIp, sourceIp } := ⟨hlt, hport, hnumber⟩
  refine CorrelationTable.insert_eq_inserted.mpr ?_
  exact Consistent.key_notMem (consistent_run events : Consistent ctx _) hunshared
    (identified_run hbuilt hevents) hentered hid

/-- The probe of the same port 20000 identifiers later, from the same source port. -/
def laterSubmission : PortSubmission :=
  { synSubmission with
    id := 20001
    packet := [156, 65, 0, 80, 179, 59, 86, 23, 0, 0, 0, 0, 80, 2, 255, 255, 0, 0, 0, 0]
    sequenceNumber := 3007010327 }

/-- The host 10.0.0.2. -/
def scannedHost : Host := { address := inetNtop4 0x0A000002, ipAddress := .fromIpv4 0x0A000002 }

theorem builtBy_synSubmission : Net.BuiltBy (tcpSynProbe scanner.inet) synSubmission :=
  ⟨1, scannedHost, { number := 80 }, {}, by decide, build_synSubmission⟩

theorem builtBy_laterSubmission : Net.BuiltBy (tcpSynProbe scanner.inet) laterSubmission :=
  ⟨20001, scannedHost, { number := 80 }, {}, by decide, by decide +kernel⟩

theorem probeIdentities_distinct_later :
    (sourcePortFor 1, TcpSynProbe.sequenceFor 1) ≠
      (sourcePortFor 20001, TcpSynProbe.sequenceFor 20001) ∧
    ((Runs.run (step scanner) {} [.submit {} synSubmission]).correlation.insert
      (correlationKeyOf { laterSubmission with sourceIp := .fromIpv4 0x0A000001 }) 20001 none).1 =
        .inserted := by
  refine ⟨probeIdentities_distinct.1.1 1 20001 (by decide) (by decide) (by decide), ?_⟩
  exact probeIdentities_distinct.2 scanner scanner.inet _ (.inl rfl) [.submit {} synSubmission]
    (List.forall_mem_singleton.mpr builtBy_synSubmission) laterSubmission builtBy_laterSubmission
    (by decide +kernel) _ _

end LinuxNetworkScanTransport

end Skan.Net
