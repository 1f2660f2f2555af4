import Skan.Net.NetworkScanCorrelation
import Skan.Net.UdpScanTransport
import Skan.PortScan.UdpRuns

/-!
# UDP evidence, from the wire to the scheduler

What the UDP transport gives to a pending submission is judged again by the scheduler, with a
predicate of its own. The two agree on the ports and on the datagram; they do not agree on the
address. The transport compares what is on the wire and reports a source without a scope, and the
scheduler compares whole addresses: a datagram counts exactly when the target has no scope
(`recorded_iff`).
-/

namespace Skan.Net

open Skan.Core Skan.Packet Skan.PortScan

namespace LinuxUDPScanTransport

variable {ctx : NetworkScanContext} {o : PacketObservation} {udp : UDP} {id : UDPProbeId}
  {submission kept : UDPSubmission} {s : LinuxUDPScanTransport}

/-- The address an observation comes from. -/
def sourceOf (o : PacketObservation) : IpAddress :=
  LinuxNetworkScanTransport.observedSource o

/-- What a matched datagram has in common with its submission. -/
structure Fits (o : PacketObservation) (udp : UDP) (submission : UDPSubmission) : Prop where
  sourcePort_eq : udp.sourcePort = submission.port.number
  destinationPort_eq : udp.destinationPort = submission.sourcePort
  source_valid : (sourceOf o).valid
  source_same : o.ipv4 = none → sameOnWire (sourceOf o) submission.destinationIp

theorem fits_of_answersDatagram (h : answersDatagram ctx o udp submission) :
    Fits o udp submission := by
  simp only [answersDatagram, Bool.and_eq_true, decide_eq_true_eq] at h
  obtain ⟨⟨haddress, hsource⟩, hdestination⟩ := h
  rw [addressesMatch] at haddress
  split at haddress
  · rename_i ip hipv4
    refine ⟨hsource, hdestination, ?_, fun hnone ↦ ?_⟩
    · rw [sourceOf, LinuxNetworkScanTransport.observedSource, hipv4]
      rfl
    · exact absurd (hipv4.symm.trans hnone) (by simp)
  · rename_i ip hipv4 hipv6
    simp only [Bool.and_eq_true, decide_eq_true_eq] at haddress
    obtain ⟨⟨⟨-, htarget⟩, hbytes⟩, -⟩ := haddress
    have hsourceOf : sourceOf o = .fromIpv6 ip.sourceAddress := by
      rw [sourceOf, LinuxNetworkScanTransport.observedSource, hipv4, hipv6]
    refine ⟨hsource, hdestination, hsourceOf ▸ rfl, fun _ ↦ ?_⟩
    rw [hsourceOf, sameOnWire, Bool.and_eq_true]
    exact ⟨decide_eq_true (of_decide_eq_true htarget).symm, decide_eq_true hbytes⟩
  · exact absurd haddress Bool.false_ne_true

/-- The response to a matched datagram. -/
theorem responseFor_datagram {input : List UInt8} (hudp : o.udp = some udp)
    (hparse : UDP.parse input = some udp) :
    ∃ response, responseFor ctx o id .datagram = some response ∧ response.id = id ∧
      response.kind = .datagram ∧ response.receivedAt = o.receivedAt ∧
      response.sourceIp = sourceOf o ∧ response.sourcePort = udp.sourcePort ∧
      response.destinationPort = udp.destinationPort ∧ response.bytes = udp.bytes := by
  obtain ⟨hserialize, -⟩ := UDP.parse_serialize_of_parse hparse
  rw [responseFor, hudp]
  dsimp only
  rw [hserialize, sourceOf, LinuxNetworkScanTransport.observedSource]
  refine ⟨_, rfl, ?_⟩
  cases o.ipv4 with
  | some ip => exact ⟨rfl, rfl, rfl, rfl, rfl, rfl, rfl⟩
  | none =>
    cases o.ipv6 with
    | some ip => exact ⟨rfl, rfl, rfl, rfl, rfl, rfl, rfl⟩
    | none => exact ⟨rfl, rfl, rfl, rfl, rfl, rfl, rfl⟩

/-! ### What the scheduler makes of it -/

/-- The scheduler accepts the response to a matched datagram exactly when it comes from the target,
scope included. -/
theorem assess_of_fits {schedulerCtx : UDPScheduler.Context} {trace : List UDPScheduler.Effect}
    {p : UDPScheduler.Pending} (hlaunched : UDPScheduler.Launched schedulerCtx trace id p)
    (hfits : Fits o udp p.submission) (hparse : UDP.parse udp.bytes = some udp)
    (hsize : udp.serializedSize ≤ p.submission.maxResponseBytes) {response : UDPResponse}
    (hkind : response.kind = .datagram) (hsource : response.sourceIp = sourceOf o)
    (hsourcePort : response.sourcePort = udp.sourcePort)
    (hdestinationPort : response.destinationPort = udp.destinationPort)
    (hbytes : response.bytes = udp.bytes) :
    UDPScheduler.assess schedulerCtx response p =
      if sourceOf o = p.submission.destinationIp then some (.open, .udpResponse) else none := by
  have hport : p.work.port.number = udp.sourcePort := by
    rw [← hlaunched.port_eq, hfits.sourcePort_eq]
  have hlength : udp.bytes.length ≤ p.submission.maxResponseBytes := by
    rwa [UDP.length_bytes]
  have hdatagram : UDPScheduler.assessDatagram schedulerCtx response p =
      some (.open, .udpResponse) := by
    rw [UDPScheduler.assessDatagram, hbytes, hparse]
    refine if_neg ?_
    rw [← hlaunched.maxResponseBytes_eq, hport, ← hfits.destinationPort_eq]
    simpa using hlength
  rw [UDPScheduler.assess, hlaunched.destination_eq, hkind]
  dsimp only
  rw [hdatagram]
  by_cases heq : sourceOf o = p.submission.destinationIp
  · have hhere : UDPScheduler.fromElsewhere response p.submission.destinationIp p = false := by
      simp [UDPScheduler.fromElsewhere, hsource, heq ▸ hfits.source_valid, heq, hsourcePort, hport,
        hdestinationPort, hfits.destinationPort_eq]
    rw [hhere, if_neg Bool.false_ne_true, if_pos heq]
  · have helse : UDPScheduler.fromElsewhere response p.submission.destinationIp p = true := by
      simp [UDPScheduler.fromElsewhere, hsource, hfits.source_valid, heq]
    rw [helse, if_pos rfl, if_neg heq]

/-- The transport keeps a submission under its own identifier. -/
theorem id_of_effective (h : effective ctx submission = some kept) : kept.id = submission.id := by
  obtain ⟨_, -, hsource⟩ := Option.bind_eq_some_iff.mp h
  obtain ⟨_, -, heq⟩ := Option.bind_eq_some_iff.mp hsource
  cases heq
  rfl

/-- The transport keeps the target and the ports of a submission. -/
theorem kept_of_effective (hvalid : submission.destinationIp.valid)
    (h : effective ctx submission = some kept) :
    kept.destinationIp = submission.destinationIp ∧ kept.port = submission.port ∧
      kept.sourcePort = submission.sourcePort := by
  rw [effective, effectiveAddress_of_valid hvalid] at h
  change (sourceAddressFor ctx submission.destinationIp).bind _ = some kept at h
  obtain ⟨sourceIp, -, heq⟩ := Option.bind_eq_some_iff.mp h
  cases heq
  exact ⟨rfl, rfl, rfl⟩

/-! ### What is pending -/

/-- An accepted submission becomes pending with the target and the source selected for it, and a
frame was composed of it. One that is turned down changes nothing. -/
theorem submit_cases (ctx : NetworkScanContext) (answers : SubmitAnswers)
    (submission : UDPSubmission) (s : LinuxUDPScanTransport) :
    (∃ kept frame, effective ctx submission = some kept ∧
      composeFrame ctx answers.destinationMac kept = some frame ∧ submission.id ∉ s.pending ∧
      submit ctx answers submission s =
        (.ok, { pending := s.pending.insert submission.id kept })) ∨
    (submit ctx answers submission s).1 ≠ .ok ∧ (submit ctx answers submission s).2 = s := by
  rw [submit]
  split
  · exact .inr ⟨by simp, rfl⟩
  next hargument =>
  split
  · exact .inr ⟨by simp, rfl⟩
  split
  · exact .inr ⟨by simp, rfl⟩
  have hfresh : submission.id ∉ s.pending := fun hmem ↦
    hargument (.inr (.inr (.inr (.inr hmem))))
  -- the source and the frame, which need the operating system
  cases heffective : effective ctx submission with
  | none => exact .inr ⟨by simp, rfl⟩
  | some kept =>
    dsimp only
    cases hframe : composeFrame ctx answers.destinationMac kept with
    | none => exact .inr ⟨by simp, rfl⟩
    | some frame =>
      dsimp only
      split_ifs with hstored hsent
      · exact .inr ⟨by simp, rfl⟩
      · exact .inl ⟨kept, frame, rfl, hframe, hfresh, rfl⟩
      · exact .inr ⟨hsent, rfl⟩

/-- Under every identifier stands the submission with that identifier, as it was selected, and a
frame could be composed of it. -/
def Composed (ctx : NetworkScanContext) (s : LinuxUDPScanTransport) : Prop :=
  ∀ id kept, s.pending.lookup id = some kept → kept.id = id ∧
    ∃ submission mac frame, effective ctx submission = some kept ∧
      composeFrame ctx mac kept = some frame

theorem Composed.cancel (h : Composed ctx s) (id : UDPProbeId) : Composed ctx (s.cancel id) := by
  intro other kept hlookup
  rw [LinuxUDPScanTransport.cancel, AList.lookup_erase_eq_ite] at hlookup
  split_ifs at hlookup
  exact h other kept hlookup

theorem Composed.step (h : Composed ctx s) (event : Event) : Composed ctx (step ctx s event) := by
  cases event with
  | submit answers submission =>
    rcases submit_cases ctx answers submission s with
      ⟨kept, frame, heffective, hframe, -, haccepted⟩ | ⟨-, hrefused⟩
    · intro id found hlookup
      rw [LinuxUDPScanTransport.step, haccepted, AList.lookup_insert_eq_ite] at hlookup
      split_ifs at hlookup with hid
      · obtain rfl : kept = found := Option.some.inj hlookup
        exact ⟨hid ▸ id_of_effective heffective, submission, _, frame, heffective, hframe⟩
      · exact h id found hlookup
    · rwa [LinuxUDPScanTransport.step, hrefused]
  | cancel id => exact h.cancel id
  | failPending now id =>
    rw [LinuxUDPScanTransport.step, failPending]
    split
    · exact h.cancel id
    · exact h

/-- **What a transport has pending.** After any calls, every pending submission is one that was
submitted, with the target and the source selected for it, and can be sent. -/
theorem composed_run (events : List Event) : Composed ctx (Runs.run (step ctx) {} events) :=
  Runs.run_invariant (fun _ event h ↦ h.step event) (fun _ _ ↦ nofun) events

/-- A pending submission stays as it is until it is retired. -/
theorem lookup_step (hkept : s.pending.lookup id = some kept) {event : Event}
    (hevent : event.retires ≠ some id) : (step ctx s event).pending.lookup id = some kept := by
  cases event with
  | submit answers submission =>
    rcases submit_cases ctx answers submission s with
      ⟨_, _, -, -, hfresh, haccepted⟩ | ⟨-, hrefused⟩
    · rw [step, haccepted, AList.lookup_insert_ne]
      · exact hkept
      · rintro rfl
        exact hfresh (AList.mem_of_lookup hkept)
    · rwa [step, hrefused]
  | cancel other =>
    rw [step, cancel, AList.lookup_erase_ne]
    · exact hkept
    · rintro rfl
      exact hevent rfl
  | failPending now other =>
    rw [step, failPending]
    split
    · rw [cancel, AList.lookup_erase_ne]
      · exact hkept
      · rintro rfl
        exact hevent rfl
    · exact hkept

theorem lookup_run_of_lookup (hkept : s.pending.lookup id = some kept) {events : List Event}
    (hevents : ∀ event ∈ events, event.retires ≠ some id) :
    (Runs.run (step ctx) s events).pending.lookup id = some kept := by
  induction events generalizing s with
  | nil => exact hkept
  | cons event events ih =>
    refine ih (lookup_step hkept (hevents event List.mem_cons_self)) fun later hlater ↦ ?_
    exact hevents later (List.mem_cons_of_mem _ hlater)

/-- **An accepted submission is kept.** Whatever else is called, the submission is pending as it
was selected until it is retired: this is the state that `recorded_iff` is about. -/
theorem lookup_run {answers : SubmitAnswers}
    (haccepted : (submit ctx answers submission s).1 = .ok) {events : List Event}
    (hevents : ∀ event ∈ events, event.retires ≠ some submission.id) :
    ∃ kept, effective ctx submission = some kept ∧
      (Runs.run (step ctx) (submit ctx answers submission s).2 events).pending.lookup
        submission.id = some kept := by
  rcases submit_cases ctx answers submission s with
    ⟨kept, _, heffective, -, -, hsubmit⟩ | ⟨hrefused, -⟩
  · refine ⟨kept, heffective, ?_⟩
    rw [hsubmit]
    exact lookup_run_of_lookup (AList.lookup_insert _) hevents
  · exact absurd haccepted hrefused

/-! ### What is recorded -/

/-- The only pending submission that a datagram answers fits it. -/
theorem fits_of_matchUdp (hudp : o.udp = some udp) (hmatch : matchUdp ctx o s = some id)
    (hkept : s.pending.lookup id = some kept) : Fits o udp kept := by
  rw [matchUdp, hudp] at hmatch
  dsimp only at hmatch
  split_ifs at hmatch
  obtain ⟨found, hfound, hanswers, -⟩ := AList.findUnique_eq_some_iff.mp hmatch
  obtain rfl : found = kept := Option.some.inj (hfound.symm.trans hkept)
  exact fits_of_answersDatagram hanswers

/-- The observed source is the target when the target has no scope, and is, over IPv4, the address
its text says. -/
theorem sourceOf_eq_iff {a : IpAddress} (h : o.ipv4 = none → sameOnWire (sourceOf o) a) :
    sourceOf o = a ↔
      a.scope = none ∧ ∀ ip, o.ipv4 = some ip → sameOnWire (.fromIpv4 ip.sourceAddress) a := by
  have hsource : ∀ ip, o.ipv4 = some ip → sourceOf o = .fromIpv4 ip.sourceAddress := by
    intro ip hip
    rw [sourceOf, LinuxNetworkScanTransport.observedSource, hip]
  have hunscoped : (sourceOf o).scope = none := by
    rw [sourceOf, LinuxNetworkScanTransport.observedSource]
    split
    · rfl
    · rfl
    · rfl
  constructor
  · rintro rfl
    refine ⟨hunscoped, fun ip hip ↦ ?_⟩
    rw [← hsource ip hip]
    simp [sameOnWire]
  · rintro ⟨hscope, hv4⟩
    have hsame : sameOnWire (sourceOf o) a := by
      cases hip : o.ipv4 with
      | none => exact h hip
      | some ip => exact hsource ip hip ▸ hv4 ip hip
    rw [← LinuxNetworkScanTransport.scoped_eq_of_sameOnWire hsame, hscope, ← hunscoped]

/-- **When a datagram counts.** In every state the scheduler reaches, take a probe in flight that
the transport has pending, and a captured datagram that the transport matches to it, within its
limit. The response is accepted as evidence of an open port, and recorded, if and only if the target
has no scope (and is, when the datagram came over IPv4, the address its text says). -/
theorem recorded_iff {schedulerCtx : UDPScheduler.Context}
    (hsteady : schedulerCtx.environment.Steady) (events : List UDPScheduler.Event)
    {p : UDPScheduler.Pending}
    (hp : (Runs.run (UDPScheduler.step schedulerCtx) (UDPScheduler.create schedulerCtx)
      events).pending.lookup id = some p)
    {s : LinuxUDPScanTransport} {kept : UDPSubmission}
    (heffective : effective ctx p.submission = some kept)
    (hkept : s.pending.lookup id = some kept) {frame : List UInt8} {maxFrameSize : ℕ}
    (ho : PacketReceiver.parse frame
      (schedulerCtx.environment.now (Runs.run (UDPScheduler.step schedulerCtx)
        (UDPScheduler.create schedulerCtx) events).trace) maxFrameSize = o)
    (hudp : o.udp = some udp) (hmatch : matchUdp ctx o s = some id)
    (hsize : udp.serializedSize ≤ p.submission.maxResponseBytes) :
    (∃ response, dispatchObservation ctx o s = some response ∧ response.id = id ∧
      UDPScheduler.assess schedulerCtx response p = some (.open, .udpResponse) ∧
      (UDPScheduler.receive schedulerCtx response
        (Runs.run (UDPScheduler.step schedulerCtx) (UDPScheduler.create schedulerCtx)
          events)).pending.lookup id = some (p.observe .open .udpResponse o.receivedAt)) ↔
    p.submission.destinationIp.scope = none ∧
      ∀ ip, o.ipv4 = some ip →
        sameOnWire (.fromIpv4 ip.sourceAddress) p.submission.destinationIp := by
  set scheduler := Runs.run (UDPScheduler.step schedulerCtx) (UDPScheduler.create schedulerCtx)
    events
  have hlaunched := UDPScheduler.allLaunched_run hsteady events id p hp
  have hvalid := valid_of_effectiveAddress hlaunched.destination_eq
  obtain ⟨hdestination, hport, hsourcePort⟩ := kept_of_effective hvalid heffective
  have hfitsKept := fits_of_matchUdp hudp hmatch hkept
  have hfits : Fits o udp p.submission :=
    ⟨hport ▸ hfitsKept.sourcePort_eq, hsourcePort ▸ hfitsKept.destinationPort_eq,
      hfitsKept.source_valid, hdestination ▸ hfitsKept.source_same⟩
  obtain ⟨⟨input, hparse⟩, -⟩ := (ho ▸ PacketReceiver.parsed_parse frame _ maxFrameSize).udp udp
    hudp
  obtain ⟨response, hresponse, hid, hkind, hreceivedAt, hsource, hports⟩ :=
    @responseFor_datagram ctx o udp id input hudp hparse
  have hdispatch : dispatchObservation ctx o s = some response := by
    rw [dispatchObservation, classify, hmatch]
    exact hresponse
  have hassess := assess_of_fits hlaunched hfits (UDP.parse_serialize_of_parse hparse).2 hsize hkind
    hsource hports.1 hports.2.1 hports.2.2
  rw [← sourceOf_eq_iff hfits.source_same]
  constructor
  · rintro ⟨response', hdispatch', -, hassess', -⟩
    obtain rfl : response = response' := Option.some.inj (hdispatch.symm.trans hdispatch')
    by_contra hne
    rw [hassess, if_neg hne] at hassess'
    exact absurd hassess' (by simp)
  · intro heq
    rw [if_pos heq] at hassess
    refine ⟨response, hdispatch, hid, hassess, ?_⟩
    have hfound : scheduler.pending.lookup response.id = some p := hid ▸ hp
    have harrival : o.receivedAt = schedulerCtx.environment.now scheduler.trace :=
      ho ▸ PacketReceiver.receivedAt_parse _ _ _
    have htime : ¬ o.receivedAt < p.startedAt := not_lt.mpr (harrival ▸ hlaunched.startedAt_le)
    have hopen : ¬ PortState.open = .error := by decide
    rw [UDPScheduler.receive, hfound]
    dsimp only
    rw [hassess, hreceivedAt, ← hid]
    by_cases hzero : o.receivedAt = 0
    · -- the arrival time reads as unset, and the clock is read again
      have hread : scheduler.readClock schedulerCtx = (o.receivedAt, scheduler.record .clockRead) :=
        Prod.ext harrival.symm rfl
      dsimp only
      rw [if_pos hzero, hread]
      dsimp only
      rw [if_neg htime, if_neg hopen]
      exact AList.lookup_replace _ hfound
    · dsimp only
      rw [if_neg hzero]
      dsimp only
      rw [if_neg htime, if_neg hopen]
      exact AList.lookup_replace _ hfound

/-- A scheduler whose engine and transport accept everything, with the default probe only. -/
def quietContext : UDPScheduler.Context where
  inet := LinuxNetworkScanTransport.scanner.inet
  environment := { now := fun _ ↦ 1, schedule := fun _ _ ↦ 1, submit := fun _ _ ↦ .ok }
  database := {}
  config := { method := .udp }

/-- The scheduler once it has submitted port 53 of a host. -/
def scanning (host : Host) : UDPScheduler :=
  Runs.run (UDPScheduler.step quietContext) (UDPScheduler.create quietContext)
    [.submit { resolvedHosts := [host] } [{ number := 53, protocol := .udp }]]

/-- The probe that is in flight then. -/
def probing (host : Host) : UDPScheduler.Pending :=
  let definition := quietContext.database.forPort 53
  let port : Port := { number := 53, protocol := .udp }
  let work : UDPScheduler.WorkItem := { host, port, probeName := definition.name }
  let packet := UDPScheduler.probePacket host.ipAddress 40000 port definition
  { work
    submission := UDPScheduler.submissionFor 1 work host.ipAddress 40000 definition
      (packet.serialize.getD [])
    startedAt := 1
    timerId := 1 }

/-- The submission as the transport keeps it, and nothing else pending. -/
def keeping (host : Host) (sourceIp : IpAddress) : LinuxUDPScanTransport where
  pending := (∅ : KeyedStore UDPProbeId UDPSubmission).insert 1
    { (probing host).submission with sourceIp }

/-- The host 10.0.0.2. -/
def resolver : Host where
  address := inetNtop4 0x0A000002
  ipAddress := .fromIpv4 0x0A000002

/-- What 10.0.0.2 answers to the probe. -/
def answerFrame : List UInt8 :=
  (Packet.serialize
    { ethernet := some { etherType := 0x0800 }
      ip := some
        (.ipv4 { protocol := 17, sourceAddress := 0x0A000002, destinationAddress := 0x0A000001 })
      transport := some
        (.udp { sourcePort := 53, destinationPort := 40000, payload := [1] }) }).getD []

theorem recorded_iff_resolver :
    (∃ response,
      dispatchObservation LinuxNetworkScanTransport.scanner (PacketReceiver.parse answerFrame 1)
        (keeping resolver (.fromIpv4 0x0A000001)) = some response ∧ response.id = 1 ∧
      UDPScheduler.assess quietContext response (probing resolver) = some (.open, .udpResponse) ∧
      (UDPScheduler.receive quietContext response (scanning resolver)).pending.lookup 1 =
        some ((probing resolver).observe .open .udpResponse
          (PacketReceiver.parse answerFrame 1).receivedAt)) ↔
    (probing resolver).submission.destinationIp.scope = none ∧
      ∀ ip, (PacketReceiver.parse answerFrame 1).ipv4 = some ip →
        sameOnWire (.fromIpv4 ip.sourceAddress) (probing resolver).submission.destinationIp := by
  have hsteady : quietContext.environment.Steady := fun _ _ _ ↦ le_refl (1 : TimePoint)
  have hp : (scanning resolver).pending.lookup 1 = some (probing resolver) := by decide +kernel
  have heffective : effective LinuxNetworkScanTransport.scanner (probing resolver).submission =
      some { (probing resolver).submission with sourceIp := .fromIpv4 0x0A000001 } := by
    decide +kernel
  have hudp : ∃ udp, (PacketReceiver.parse answerFrame 1).udp = some udp ∧
      udp.serializedSize ≤ (probing resolver).submission.maxResponseBytes := by
    refine ⟨{ sourcePort := 53, destinationPort := 40000, checksum := 20068, payload := [1] }, ?_,
      ?_⟩
    · decide +kernel
    · decide +kernel
  obtain ⟨udp, hudp, hsize⟩ := hudp
  have hmatch : matchUdp LinuxNetworkScanTransport.scanner (PacketReceiver.parse answerFrame 1)
      (keeping resolver (.fromIpv4 0x0A000001)) = some 1 := by
    decide +kernel
  exact recorded_iff hsteady _ hp heffective (AList.lookup_insert _) rfl hudp hmatch hsize

/-- The host fe80::2 on the interface eth0. -/
def neighbour : Host where
  address := [0x66, 0x65, 0x38, 0x30, 0x3A, 0x3A, 0x32, 0x25, 0x65, 0x74, 0x68, 0x30]
  ipAddress :=
    { IpAddress.fromIpv6 #v[0xFE, 0x80, 0, 0, 0, 0, 0, 0, 0, 0, 0, 0, 0, 0, 0, 2] with
      scope := some [0x65, 0x74, 0x68, 0x30] }

/-- The host fe80::1, scanning on eth0. -/
def scanner6 : NetworkScanContext where
  inet := { ntop6 := fun _ ↦ [], pton6 := fun _ ↦ none, ifNametoindex := fun _ ↦ 2 }
  interfaceName := [0x65, 0x74, 0x68, 0x30]
  sourceIpv6 := some (.fromIpv6 #v[0xFE, 0x80, 0, 0, 0, 0, 0, 0, 0, 0, 0, 0, 0, 0, 0, 1])

/-- What fe80::2 answers to the probe. -/
def answerFrame6 : List UInt8 :=
  (Packet.serialize
    { ethernet := some { etherType := 0x86DD }
      ip := some
        (.ipv6
          { nextHeader := 17
            sourceAddress := #v[0xFE, 0x80, 0, 0, 0, 0, 0, 0, 0, 0, 0, 0, 0, 0, 0, 2]
            destinationAddress := #v[0xFE, 0x80, 0, 0, 0, 0, 0, 0, 0, 0, 0, 0, 0, 0, 0, 1] })
      transport := some
        (.udp { sourcePort := 53, destinationPort := 40000, payload := [1] }) }).getD []

/-- The submission as the transport keeps it. -/
def keptNeighbour : UDPSubmission :=
  { (probing neighbour).submission with
    sourceIp :=
      { IpAddress.fromIpv6 #v[0xFE, 0x80, 0, 0, 0, 0, 0, 0, 0, 0, 0, 0, 0, 0, 0, 1] with
        scope := some [0x65, 0x74, 0x68, 0x30] } }

/-- **The answer of a link-local target is matched, delivered, and dropped.** -/
theorem not_recorded_neighbour :
    (scanning neighbour).pending.lookup 1 = some (probing neighbour) ∧
    effective scanner6 (probing neighbour).submission = some keptNeighbour ∧
    matchUdp scanner6 (PacketReceiver.parse answerFrame6 1)
      { pending := (∅ : KeyedStore UDPProbeId UDPSubmission).insert 1 keptNeighbour } = some 1 ∧
    (PacketReceiver.parse answerFrame6 1).udp.any
      (·.serializedSize ≤ (probing neighbour).submission.maxResponseBytes) ∧
    ∃ response,
      dispatchObservation scanner6 (PacketReceiver.parse answerFrame6 1)
        { pending := (∅ : KeyedStore UDPProbeId UDPSubmission).insert 1 keptNeighbour } =
          some response ∧
      UDPScheduler.assess quietContext response (probing neighbour) = none ∧
      UDPScheduler.receive quietContext response (scanning neighbour) = scanning neighbour := by
  refine ⟨by decide +kernel, by decide +kernel, by decide +kernel, by decide +kernel, ?_⟩
  have hp : (scanning neighbour).pending.lookup 1 = some (probing neighbour) := by decide +kernel
  have hresponse : ((dispatchObservation scanner6 (PacketReceiver.parse answerFrame6 1)
      { pending := (∅ : KeyedStore UDPProbeId UDPSubmission).insert 1 keptNeighbour }).map
        fun response ↦ (response.id, UDPScheduler.assess quietContext response
          (probing neighbour))) =
      some (1, none) := by
    decide +kernel
  obtain ⟨response, hdispatch, heq⟩ := Option.map_eq_some_iff.mp hresponse
  obtain ⟨hid, hassess⟩ := Prod.mk.inj heq
  refine ⟨response, hdispatch, hassess, ?_⟩
  rw [UDPScheduler.receive, hid, hp]
  dsimp only
  rw [hassess]

end LinuxUDPScanTransport

end Skan.Net
