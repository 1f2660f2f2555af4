import Skan.Net.NetworkScanTransport

/-!
# The scan transport and its table stay in step

Over every run of `LinuxNetworkScanTransport` the table holds one entry per pending submission and
no other (`Consistent`), so a segment found through the table is a segment a scan of the pending
submissions would find.

## What is lost on the way to the probe

A reply that the correlation policy accepts for one pending submission is handed to the probe as
bytes that are serialized from the parsed segment. `delivered_iff` says exactly when the probe gets
a verdict out of them: the parser skips options it does not know, and a segment whose known options
no longer fill its option area is not serialized, so the callback is never called. -/

namespace Skan.Net

open Skan.Core Skan.Packet Skan.PortScan

namespace LinuxNetworkScanTransport

variable {ctx : NetworkScanContext} {s : LinuxNetworkScanTransport} {id : PortProbeId} {p : Pending}
  {correlation : CorrelationTable} {source destination : IpAddress} {o : PacketObservation}

/-! ### One entry per pending submission -/

/-- The entry a pending submission owns. -/
def entryOf (p : Pending) : CorrelationEntry where
  key := p.correlationKey
  token := p.submission.id
  expiresAt := none

/-- What `submit` has made sure of for a pending submission. -/
structure Submitted (ctx : NetworkScanContext) (id : PortProbeId) (p : Pending) : Prop where
  id_eq : p.submission.id = id
  key_eq : p.correlationKey = correlationKeyOf p.submission
  source_eq : p.submission.targetIp.isIpv4 → p.submission.sourceIp = .fromIpv4 ctx.sourceIpv4

/-- The pending submissions and the table agree. -/
structure Consistent (ctx : NetworkScanContext) (s : LinuxNetworkScanTransport) : Prop where
  submitted : ∀ id p, s.pending.lookup id = some p → Submitted ctx id p
  entry_of_pending : ∀ id p, s.pending.lookup id = some p →
    s.correlation.entries.lookup p.correlationKey = some (entryOf p)
  pending_of_entry : ∀ key e, s.correlation.entries.lookup key = some e →
    ∃ p, s.pending.lookup e.token = some p ∧ p.correlationKey = key

theorem consistent_empty : Consistent ctx {} where
  submitted _ _ h := absurd h (by simp)
  entry_of_pending _ _ h := absurd h (by simp)
  pending_of_entry _ _ h := absurd h (by simp)

section

variable (h : Consistent ctx s)

include h

/-- Two pending submissions do not share a key. -/
theorem Consistent.id_injective {id' : PortProbeId} {p' : Pending}
    (hp : s.pending.lookup id = some p) (hp' : s.pending.lookup id' = some p')
    (hkey : p.correlationKey = p'.correlationKey) : id = id' := by
  have hentry := h.entry_of_pending id p hp
  rw [hkey, h.entry_of_pending id' p' hp'] at hentry
  have htoken : p'.submission.id = p.submission.id :=
    congrArg CorrelationEntry.token (Option.some.inj hentry)
  rw [← (h.submitted id p hp).id_eq, ← (h.submitted id' p' hp').id_eq, htoken]

/-- Only the entries matter. -/
theorem Consistent.of_entries_eq (hentries : correlation.entries = s.correlation.entries) :
    Consistent ctx { s with correlation } where
  submitted := h.submitted
  entry_of_pending := hentries ▸ h.entry_of_pending
  pending_of_entry := hentries ▸ h.pending_of_entry

/-- A new submission with a new key enters both. -/
theorem Consistent.insert (hp : Submitted ctx id p) (hid : id ∉ s.pending)
    (hkey : p.correlationKey ∉ s.correlation.entries)
    (hentries : correlation.entries = s.correlation.entries.insert p.correlationKey (entryOf p)) :
    Consistent ctx { correlation, pending := s.pending.insert id p } where
  submitted id' p' hlookup := by
    rcases eq_or_ne id' id with rfl | hne
    · rw [AList.lookup_insert] at hlookup
      exact Option.some.inj hlookup ▸ hp
    · rw [AList.lookup_insert_ne hne] at hlookup
      exact h.submitted id' p' hlookup
  entry_of_pending id' p' hlookup := by
    show correlation.entries.lookup p'.correlationKey = some (entryOf p')
    rw [hentries]
    rcases eq_or_ne id' id with rfl | hne
    · rw [AList.lookup_insert] at hlookup
      obtain rfl : p = p' := Option.some.inj hlookup
      exact AList.lookup_insert _
    · rw [AList.lookup_insert_ne hne] at hlookup
      have hentry := h.entry_of_pending id' p' hlookup
      have hne' : p'.correlationKey ≠ p.correlationKey := fun heq ↦
        hkey (heq ▸ AList.mem_of_lookup hentry)
      rw [AList.lookup_insert_ne hne', hentry]
  pending_of_entry key e hlookup := by
    rw [hentries] at hlookup
    rcases eq_or_ne key p.correlationKey with rfl | hne
    · rw [AList.lookup_insert] at hlookup
      obtain rfl : entryOf p = e := Option.some.inj hlookup
      refine ⟨p, ?_, rfl⟩
      show (s.pending.insert id p).lookup p.submission.id = some p
      rw [hp.id_eq]
      exact AList.lookup_insert _
    · rw [AList.lookup_insert_ne hne] at hlookup
      obtain ⟨p', hp', hkey'⟩ := h.pending_of_entry key e hlookup
      have hne' : e.token ≠ id := fun heq ↦ hid (heq ▸ AList.mem_of_lookup hp')
      exact ⟨p', by rw [AList.lookup_insert_ne hne', hp'], hkey'⟩

/-- A pending submission leaves both. -/
theorem Consistent.erase (hp : s.pending.lookup id = some p)
    (hentries : correlation.entries = s.correlation.entries.erase p.correlationKey) :
    Consistent ctx { correlation, pending := s.pending.erase id } where
  submitted id' p' hlookup := by
    rcases eq_or_ne id' id with rfl | hne
    · exact absurd hlookup (by simp)
    · rw [AList.lookup_erase_ne hne] at hlookup
      exact h.submitted id' p' hlookup
  entry_of_pending id' p' hlookup := by
    show correlation.entries.lookup p'.correlationKey = some (entryOf p')
    rw [hentries]
    rcases eq_or_ne id' id with rfl | hne
    · exact absurd hlookup (by simp)
    · rw [AList.lookup_erase_ne hne] at hlookup
      have hne' : p'.correlationKey ≠ p.correlationKey := fun heq ↦
        hne (h.id_injective hlookup hp heq)
      rw [AList.lookup_erase_ne hne', h.entry_of_pending id' p' hlookup]
  pending_of_entry key e hlookup := by
    rw [hentries] at hlookup
    rcases eq_or_ne key p.correlationKey with rfl | hne
    · exact absurd hlookup (by simp)
    · rw [AList.lookup_erase_ne hne] at hlookup
      obtain ⟨p', hp', hkey'⟩ := h.pending_of_entry key e hlookup
      have hne' : e.token ≠ id := by
        rintro rfl
        exact hne (hkey' ▸ congrArg Pending.correlationKey (Option.some.inj (hp'.symm.trans hp)))
      exact ⟨p', by rw [AList.lookup_erase_ne hne', hp'], hkey'⟩

end

/-! ### The operations keep them in step -/

section

variable (h : Consistent ctx s)

include h

theorem Consistent.enter (answers : SubmitAnswers) {submission : PortSubmission}
    (hid : submission.id ∉ s.pending)
    (hsource : submission.targetIp.isIpv4 → submission.sourceIp = .fromIpv4 ctx.sourceIpv4) :
    Consistent ctx (enter answers submission s).2 := by
  set p : Pending := { submission, correlationKey := correlationKeyOf submission } with hp
  by_cases hkey : p.correlationKey ∈ s.correlation.entries
  · rw [LinuxNetworkScanTransport.enter, CorrelationTable.insert, AList.emplace, if_pos hkey]
    exact h.of_entries_eq rfl
  · have hentries : (s.correlation.insert p.correlationKey submission.id none).2.entries =
        s.correlation.entries.insert p.correlationKey (entryOf p) :=
      CorrelationTable.entries_insert hkey
    have hstatus : (s.correlation.insert p.correlationKey submission.id none).1 = .inserted :=
      CorrelationTable.insert_eq_inserted.mpr hkey
    rw [LinuxNetworkScanTransport.enter]
    split
    · rename_i correlation hinsert
      rw [hinsert] at hentries
      -- what was inserted is removed again
      have hundone : (correlation.remove p.correlationKey).2.entries = s.correlation.entries := by
        rw [CorrelationTable.entries_remove, hentries]
        exact AList.erase_insert _ hkey
      split_ifs
      · exact h.of_entries_eq hundone
      · exact h.insert (p := p) ⟨rfl, rfl, hsource⟩ hid hkey hentries
      · exact h.of_entries_eq hundone
    · rename_i status correlation hne hinsert
      rw [hinsert] at hstatus
      exact absurd hstatus hne

theorem Consistent.submit (answers : SubmitAnswers) (submission : PortSubmission) :
    Consistent ctx (submit ctx answers submission s).2 := by
  rw [LinuxNetworkScanTransport.submit]
  split
  · exact h
  rename_i hrefused
  have hid : submission.id ∉ s.pending := fun hid ↦ hrefused (.inr (.inr (.inr hid)))
  split
  · exact h
  rename_i targetIp htarget
  split
  · exact h
  split
  · exact h
  rename_i sourceIp hsource
  dsimp only
  split
  · exact h
  refine h.enter answers hid fun hv4 ↦ ?_
  rw [sourceAddressFor, if_pos hv4] at hsource
  split_ifs at hsource
  exact (Option.some.inj hsource).symm

theorem Consistent.cancel (id : PortProbeId) : Consistent ctx (cancel id s) := by
  rw [LinuxNetworkScanTransport.cancel]
  split
  · exact h
  · rename_i p hp
    exact h.erase hp CorrelationTable.entries_remove

/-- A lookup finds what is there, since nothing is ever due. -/
theorem Consistent.lookup (key : CorrelationKey) (now : TimePoint) :
    (s.correlation.lookup key now).1.2 = s.correlation.entries.lookup key ∧
      (s.correlation.lookup key now).2.entries = s.correlation.entries := by
  cases hlookup : s.correlation.entries.lookup key with
  | none =>
    obtain ⟨hfst, hentries⟩ := CorrelationTable.lookup_of_none hlookup now
    exact ⟨by rw [hfst], hentries⟩
  | some e =>
    obtain ⟨p, hp, rfl⟩ := h.pending_of_entry key e hlookup
    have htop : e.expiresAt = none := by
      have hentry := h.entry_of_pending e.token p hp
      rw [hlookup] at hentry
      exact congrArg CorrelationEntry.expiresAt (Option.some.inj hentry)
    obtain ⟨hfst, hentries⟩ := CorrelationTable.lookup_of_top hlookup htop now
    exact ⟨by rw [hfst], hentries⟩

theorem Consistent.findIpv4 (now : TimePoint) (o : PacketObservation) (ip : IPv4) (tcp : TCP) :
    Consistent ctx (findIpv4 now o ip tcp s).2 := by
  rw [LinuxNetworkScanTransport.findIpv4]
  split_ifs
  · exact h.of_entries_eq (h.lookup _ now).2
  · exact h

theorem Consistent.dispatchObservation (now : TimePoint) (o : PacketObservation) :
    Consistent ctx (dispatchObservation ctx now o s).2 := by
  rw [LinuxNetworkScanTransport.dispatchObservation]
  split_ifs
  · exact h
  split
  · exact h
  · split_ifs
    · exact h
    · exact h.findIpv4 now o _ _
  · exact h

theorem Consistent.step (event : Event) : Consistent ctx (step ctx s event) := by
  cases event with
  | submit answers submission => exact h.submit answers submission
  | cancel id => exact h.cancel id
  | failPending systemError now id =>
    show Consistent ctx (LinuxNetworkScanTransport.failPending systemError now id s).2
    rw [LinuxNetworkScanTransport.failPending]
    split
    · exact h
    · exact h.cancel id
  | dispatchObservation now o => exact h.dispatchObservation now o

end

/-- **Every run keeps the table and the pending submissions in step.** -/
theorem consistent_run (events : List Event) : Consistent ctx (Runs.run (step ctx) {} events) :=
  Runs.run_invariant (I := Consistent ctx) (fun _ event h ↦ h.step event) consistent_empty events

/-! ### What the table finds -/

/-- Addresses that are the same on the wire differ in their scope only. -/
theorem scoped_eq_of_sameOnWire {a : IpAddress} (h : sameOnWire source a) :
    { source with scope := a.scope } = a := by
  simp only [sameOnWire, Bool.and_eq_true, decide_eq_true_eq] at h
  rw [h.1, h.2]

theorem observedSource_of_endpoints (h : o.endpoints = some (source, destination)) :
    observedSource o = source ∧ source.valid := by
  rw [PacketObservation.endpoints] at h
  split at h
  · rename_i ip hipv4 hipv6
    obtain ⟨rfl, -⟩ := Prod.mk.inj (Option.some.inj h)
    exact ⟨by rw [observedSource, hipv4], rfl⟩
  · rename_i ip hipv4 hipv6
    obtain ⟨rfl, -⟩ := Prod.mk.inj (Option.some.inj h)
    exact ⟨by rw [observedSource, hipv4, hipv6], rfl⟩
  · exact absurd h (by simp)

/-- What `matches_tcp_reply` compares. -/
structure Answers (submission : PortSubmission) (o : PacketObservation) (tcp : TCP)
    (source destination : IpAddress) : Prop where
  valid : o.valid
  source_same : sameOnWire source submission.targetIp
  destination_same : sameOnWire destination submission.sourceIp
  sourcePort_eq : tcp.sourcePort = submission.port.number
  destinationPort_eq : tcp.destinationPort = submission.sourcePort
  answers : answersProbe submission tcp

theorem answers_of_matchesTcpReply {submission : PortSubmission} {tcp : TCP}
    (htcp : o.tcp = some tcp) (hends : o.endpoints = some (source, destination))
    (h : matchesTcpReply submission o) : Answers submission o tcp source destination := by
  rw [matchesTcpReply, htcp, hends] at h
  simp only [Bool.and_eq_true, decide_eq_true_eq] at h
  obtain ⟨⟨⟨⟨⟨hvalid, hsource⟩, hdestination⟩, hsourcePort⟩, hdestinationPort⟩, hanswers⟩ := h
  exact ⟨hvalid, hsource, hdestination, hsourcePort, hdestinationPort, hanswers⟩

/-- A segment that answers by acknowledging something acknowledges the probe. -/
theorem acknowledges_of_answersProbe {submission : PortSubmission} {tcp : TCP}
    (h : answersProbe submission tcp) (hack : TCP.hasFlag tcp.flags .ack) :
    tcp.acknowledgmentNumber = submission.sequenceNumber + 1 := by
  rw [answersProbe, hack] at h
  split at h
  · simp at h
  · simp only [Bool.and_eq_true, Bool.or_eq_true, decide_eq_true_eq] at h
    rcases h.2 with ⟨-, hnumber⟩ | ⟨-, hack' | hnumber⟩
    · exact hnumber
    · exact absurd hack' (by decide)
    · exact hnumber
  · exact absurd h (by decide)

/-- The key that `find` looks up for a segment. -/
def lookupKey (ip : IPv4) (tcp : TCP) : CorrelationKey where
  targetIpv4 := ip.sourceAddress
  sourcePort := tcp.destinationPort
  destinationPort := tcp.sourcePort
  sequence := tcp.acknowledgmentNumber - 1
  targetIp := .fromIpv4 ip.sourceAddress

/-- A submission without a scope that is acknowledged is pending under the key looked up. -/
theorem Submitted.key_of_matches (hp : Submitted ctx id p) {ip : IPv4} {tcp : TCP}
    (htcp : o.tcp = some tcp)
    (hends : o.endpoints = some (.fromIpv4 ip.sourceAddress, .fromIpv4 ip.destinationAddress))
    (hmatch : matchesTcpReply p.submission o) (hack : TCP.hasFlag tcp.flags .ack)
    (hscope : p.submission.targetIp.scope = none) : p.correlationKey = lookupKey ip tcp := by
  have hanswers := answers_of_matchesTcpReply htcp hends hmatch
  have hip : p.submission.targetIp = .fromIpv4 ip.sourceAddress := by
    rw [← scoped_eq_of_sameOnWire hanswers.source_same, hscope]
    rfl
  have hsequence : tcp.acknowledgmentNumber - 1 = p.submission.sequenceNumber := by
    rw [acknowledges_of_answersProbe hanswers.answers hack]
    exact UInt32.add_sub_cancel _ _
  rw [hp.key_eq, correlationKeyOf, hip, lookupKey, hsequence, hanswers.sourcePort_eq,
    hanswers.destinationPort_eq]
  simp

/-- What `find` is to return: the key of the only pending submission that is answered. -/
def OnlyAnswered (s : LinuxNetworkScanTransport) (o : PacketObservation) (id : PortProbeId)
    (p : Pending) : Prop :=
  s.pending.lookup id = some p ∧ matchesTcpReply p.submission o ∧
    ∀ id' p', s.pending.lookup id' = some p' → matchesTcpReply p'.submission o → id' = id

theorem OnlyAnswered.findUnique (h : OnlyAnswered s o id p) :
    s.pending.findUnique (fun pending ↦ matchesTcpReply pending.submission o) = some id :=
  AList.findUnique_eq_some_iff.mpr ⟨p, h⟩

/-- **The table finds what a scan would find**, unless an IPv4 target was given a scope: the key
that is looked up never has one. -/
theorem OnlyAnswered.findIpv4 (h : Consistent ctx s) (honly : OnlyAnswered s o id p) {ip : IPv4}
    {tcp : TCP} (htcp : o.tcp = some tcp)
    (hends : o.endpoints = some (.fromIpv4 ip.sourceAddress, .fromIpv4 ip.destinationAddress))
    (now : TimePoint) :
    (findIpv4 now o ip tcp s).1 =
      if TCP.hasFlag tcp.flags .ack ∧ p.submission.targetIp.scope ≠ none then none
      else some id := by
  rw [LinuxNetworkScanTransport.findIpv4]
  by_cases hack : TCP.hasFlag tcp.flags .ack = true
  · rw [if_pos hack]
    dsimp only
    rw [(h.lookup _ now).1]
    show ((s.correlation.entries.lookup (lookupKey ip tcp)).bind _ : Option PortProbeId) = _
    have hsubmitted := h.submitted id p honly.1
    by_cases hscope : p.submission.targetIp.scope = none
    · rw [if_neg (fun hnot ↦ hnot.2 hscope)]
      have hentry : s.correlation.entries.lookup (lookupKey ip tcp) = some (entryOf p) :=
        hsubmitted.key_of_matches htcp hends honly.2.1 hack hscope ▸ h.entry_of_pending id p honly.1
      have htoken : (entryOf p).token = id := hsubmitted.id_eq
      rw [hentry]
      show (if (s.pending.lookup (entryOf p).token).any _ = true then some (entryOf p).token
        else none) = some id
      rw [htoken, honly.1]
      exact if_pos honly.2.1
    · rw [if_pos ⟨hack, hscope⟩]
      -- an entry under this key belongs to a target without a scope, which would be answered too
      cases hentry : s.correlation.entries.lookup (lookupKey ip tcp) with
      | none => rfl
      | some e =>
        obtain ⟨p', hp', hkey'⟩ := h.pending_of_entry _ e hentry
        rw [Option.bind_some, hp', Option.any_some]
        refine if_neg fun hmatch ↦ hscope ?_
        have hid := honly.2.2 e.token p' hp' hmatch
        obtain rfl : p' = p := Option.some.inj ((hid ▸ hp').symm.trans honly.1)
        have hip : p'.submission.targetIp = (lookupKey ip tcp).targetIp := by
          rw [← hkey', hsubmitted.key_eq]
          rfl
        rw [hip]
        rfl
  · rw [if_neg hack, if_neg (fun hnot ↦ hack hnot.1)]
    exact honly.findUnique

/-! ### What the probe makes of it -/

/-- The state the flags of a reply call for. -/
def calledFor (probe : ScanProbeType) (tcp : TCP) : PortState × ScanReason :=
  match probe with
  | .tcpAck => (.unfiltered, .ackRst)
  | _ => if TCP.hasFlag tcp.flags .syn then (.open, .synAck) else (.closed, .rst)

/-- The `assess` of the probe that made the submission. -/
def assessBy (inet : Inet) (probe : ScanProbeType) : PortResponse → PortSubmission →
    Except StatusCode (PortState × ScanReason) :=
  match probe with
  | .tcpAck => (tcpAckProbe inet).assess
  | _ => (tcpSynProbe inet).assess

theorem judge_synProbe {submission : PortSubmission} {tcp : TCP}
    (hprobe : submission.probe = .tcpSyn)
    (h : answersProbe submission tcp) :
    TcpSynProbe.judge submission tcp = .ok (calledFor submission.probe tcp) := by
  rw [answersProbe, hprobe] at h
  rw [TcpSynProbe.judge, hprobe]
  show _ = Except.ok
    (if TCP.hasFlag tcp.flags .syn then (PortState.open, ScanReason.synAck)
      else (PortState.closed, ScanReason.rst))
  simp only [Bool.and_eq_true, Bool.or_eq_true, Bool.not_eq_true', decide_eq_true_eq] at h ⊢
  obtain ⟨hfin, ⟨⟨⟨hsyn, hrst⟩, hack⟩, hnumber⟩ | ⟨⟨hrst, hsyn⟩, hnumber⟩⟩ := h
  · rw [if_pos ⟨⟨⟨⟨hsyn, hack⟩, hrst⟩, hfin⟩, hnumber⟩, if_pos hsyn]
  · have hclosed : ¬ TCP.hasFlag tcp.flags .syn = true := by simp [hsyn]
    rw [if_neg fun hopen ↦ hclosed hopen.1.1.1.1, if_pos ⟨⟨⟨hrst, hsyn⟩, hfin⟩, hnumber⟩,
      if_neg hclosed]

theorem judge_ackProbe {submission : PortSubmission} {tcp : TCP}
    (hprobe : submission.probe = .tcpAck)
    (h : answersProbe submission tcp) :
    TcpAckProbe.judge submission tcp = .ok (calledFor submission.probe tcp) := by
  rw [answersProbe, hprobe] at h
  rw [TcpAckProbe.judge, hprobe, calledFor]
  simp only [Bool.and_eq_true, Bool.not_eq_true', decide_eq_true_eq] at h
  obtain ⟨⟨⟨⟨hrst, hack⟩, hsyn⟩, hfin⟩, hnumber⟩ := h
  refine if_neg ?_
  simp [hrst, hack, hsyn, hfin, hnumber]

/-- **The probe and the correlation policy agree on every combination of flags**: whatever segment
answers a submission, its bytes are assessed as the flags call for. -/
theorem assessBy_of_answersProbe (inet : Inet) {submission : PortSubmission} {tcp : TCP}
    (hsourcePort : tcp.sourcePort = submission.port.number)
    (hdestinationPort : tcp.destinationPort = submission.sourcePort)
    (h : answersProbe submission tcp) {response : PortResponse} (hid : response.id = submission.id)
    (hkind : response.kind = .packet) (hfrom : fromTarget response submission)
    (hbytes : TCP.parse response.bytes = some tcp) :
    assessBy inet submission.probe response submission = .ok (calledFor submission.probe tcp) := by
  have hassess : ∀ judge, assessTcp judge response submission = judge tcp := by
    intro judge
    have hports : ¬ (tcp.sourcePort ≠ submission.port.number ∨
        tcp.destinationPort ≠ submission.sourcePort) := by
      rintro (hne | hne)
      · exact hne hsourcePort
      · exact hne hdestinationPort
    rw [assessTcp, hkind]
    dsimp only
    rw [hfrom, if_neg (by decide), hbytes]
    exact if_neg hports
  cases hprobe : submission.probe with
  | tcpSyn =>
    show TcpSynProbe.assess response submission = _
    rw [TcpSynProbe.assess, if_neg (not_not.mpr hid), hassess, ← hprobe]
    exact judge_synProbe hprobe h
  | tcpAck =>
    show TcpAckProbe.assess response submission = _
    rw [TcpAckProbe.assess, if_neg (by simp [hid, hprobe]), hassess, ← hprobe]
    exact judge_ackProbe hprobe h
  | tcpConnect =>
    rw [answersProbe, hprobe] at h
    exact absurd h Bool.false_ne_true
  | udp =>
    rw [answersProbe, hprobe] at h
    exact absurd h Bool.false_ne_true

/-! ### What is delivered -/

@[simp] theorem pending_findIpv4 (now : TimePoint) (o : PacketObservation) (ip : IPv4) (tcp : TCP) :
    (LinuxNetworkScanTransport.findIpv4 now o ip tcp s).2.pending = s.pending := by
  rw [LinuxNetworkScanTransport.findIpv4]
  split_ifs <;> rfl

/-- **The response to an answer**: there is one when the segment can be serialized again, and then
the probe assesses it as the flags call for. -/
theorem packetResponse_of_answers {input : List UInt8} {tcp : TCP} (hid : p.submission.id = id)
    (hparse : TCP.parse input = some tcp) (hends : o.endpoints = some (source, destination))
    (h : Answers p.submission o tcp source destination) :
    (∃ response, packetResponse ctx o tcp p id = some response ∧ response.id = id ∧
      ∀ sourceIp, assessBy ctx.inet p.submission.probe response { p.submission with sourceIp } =
        .ok (calledFor p.submission.probe tcp)) ↔ tcp.validate := by
  constructor
  · rintro ⟨response, hresponse, -⟩
    by_contra hvalid
    rw [packetResponse, TCP.serialize, if_neg hvalid] at hresponse
    exact absurd hresponse (by simp)
  · intro hvalid
    have hserialize : tcp.serialize = some tcp.bytes := if_pos hvalid
    obtain ⟨hobserved, hsourceValid⟩ := observedSource_of_endpoints hends
    have hsource : { observedSource o with scope := p.submission.targetIp.scope } =
        p.submission.targetIp := hobserved ▸ scoped_eq_of_sameOnWire h.source_same
    have hvalidTarget : p.submission.targetIp.valid := by
      rw [← hsource, hobserved]
      exact hsourceValid
    rw [packetResponse, hserialize]
    refine ⟨_, rfl, rfl, fun sourceIp ↦ ?_⟩
    -- the probe looks at no field the source address is in
    have hanswers : answersProbe { p.submission with sourceIp } tcp = true := h.answers
    refine @assessBy_of_answersProbe ctx.inet { p.submission with sourceIp } tcp h.sourcePort_eq
      h.destinationPort_eq hanswers _ hid.symm rfl ?_
      (TCP.parse_serialize_of_parse hparse hserialize)
    rw [fromTarget]
    simp only [hsource, hvalidTarget, if_true, Bool.true_and, decide_true]

/-- The dispatch of a segment that one pending submission accepts. -/
theorem dispatchObservation_of_onlyAnswered (h : Consistent ctx s)
    (hparsed : PacketReceiver.Parsed o) {tcp : TCP} (htcp : o.tcp = some tcp)
    (honly : OnlyAnswered s o id p) (now : TimePoint) :
    (dispatchObservation ctx now o s).1 =
      if o.ipv4.isSome ∧ TCP.hasFlag tcp.flags .ack ∧ p.submission.targetIp.scope ≠ none then none
      else packetResponse ctx o tcp p id := by
  obtain ⟨-, -, hicmp, hicmpv6⟩ := hparsed.tcp tcp htcp
  have hmatch := honly.2.1
  rw [matchesTcpReply, htcp] at hmatch
  cases hends : o.endpoints with
  | none =>
    rw [hends] at hmatch
    exact absurd hmatch Bool.false_ne_true
  | some ends =>
    obtain ⟨source, destination⟩ := ends
    have hanswers := answers_of_matchesTcpReply htcp hends honly.2.1
    have hnoIcmp : ¬ (o.icmp.isSome || o.icmpv6.isSome) = true := by
      rw [hicmp, hicmpv6]
      decide
    rw [LinuxNetworkScanTransport.dispatchObservation, if_neg hnoIcmp, htcp]
    have hends' := hends
    rw [PacketObservation.endpoints] at hends'
    split at hends'
    · rename_i ip hipv4 hipv6
      obtain ⟨rfl, rfl⟩ := Prod.mk.inj (Option.some.inj hends')
      have haccepts : PacketFilter.accepts { protocol := some .tcp } o = true := by
        rw [PacketFilter.accepts, hanswers.valid, htcp]
        rfl
      have htarget : p.submission.targetIp.isIpv4 := by
        rw [← scoped_eq_of_sameOnWire hanswers.source_same]
        rfl
      have hdestination : ip.destinationAddress = ctx.sourceIpv4 := by
        have hsame := scoped_eq_of_sameOnWire hanswers.destination_same
        rw [(h.submitted id p honly.1).source_eq htarget] at hsame
        exact IpAddress.fromIpv4_injective hsame
      have hfilter : ¬ ((!PacketFilter.accepts { protocol := some .tcp } o) = true ∨
          ip.destinationAddress ≠ ctx.sourceIpv4) := by
        rintro (hne | hne)
        · rw [haccepts] at hne
          exact absurd hne (by decide)
        · exact hne hdestination
      rw [hipv6, hipv4]
      dsimp only [Option.filter_none]
      rw [if_neg hfilter, pending_findIpv4, honly.findIpv4 h htcp hends now]
      simp only [Option.isSome_some, true_and]
      split_ifs
      · rfl
      · rw [Option.bind_some, honly.1]
        rfl
    · rename_i ip hipv4 hipv6
      rw [hipv6, Option.filter_some, if_pos hanswers.valid, hipv4]
      dsimp only
      rw [honly.findUnique, Option.bind_some, honly.1, if_neg (by simp)]
      rfl
    · exact absurd hends' (by simp)

/-- **When an answer reaches its probe.** In every state the transport reaches, a captured segment
that the correlation policy accepts for exactly one pending submission is delivered, and assessed as
its flags call for, if and only if it can be serialized again and, when the table has to find it,
its IPv4 target has no scope. The assessment does not depend on the source address, which the
scheduler's copy of the submission lacks. -/
theorem delivered_iff (ctx : NetworkScanContext) (events : List Event) {frame : List UInt8}
    {receivedAt : TimePoint} {maxFrameSize : ℕ} {tcp : TCP}
    (htcp : (PacketReceiver.parse frame receivedAt maxFrameSize).tcp = some tcp)
    {id : PortProbeId} {p : Pending}
    (honly : OnlyAnswered (Runs.run (step ctx) {} events)
      (PacketReceiver.parse frame receivedAt maxFrameSize) id p) (now : TimePoint) :
    (∃ response,
      (dispatchObservation ctx now (PacketReceiver.parse frame receivedAt maxFrameSize)
        (Runs.run (step ctx) {} events)).1 = some response ∧
      response.id = id ∧
      ∀ sourceIp, assessBy ctx.inet p.submission.probe response { p.submission with sourceIp } =
        .ok (calledFor p.submission.probe tcp)) ↔
    tcp.validate ∧
      ((PacketReceiver.parse frame receivedAt maxFrameSize).ipv4.isSome →
        TCP.hasFlag tcp.flags .ack → p.submission.targetIp.scope = none) := by
  set o := PacketReceiver.parse frame receivedAt maxFrameSize
  set s := Runs.run (step ctx) {} events
  have hconsistent : Consistent ctx s := consistent_run events
  have hparsed : PacketReceiver.Parsed o := PacketReceiver.parsed_parse frame receivedAt
    maxFrameSize
  obtain ⟨⟨input, hparse⟩, -⟩ := hparsed.tcp tcp htcp
  have hid := (hconsistent.submitted id p honly.1).id_eq
  rw [dispatchObservation_of_onlyAnswered hconsistent hparsed htcp honly now]
  by_cases hscoped : o.ipv4.isSome ∧ TCP.hasFlag tcp.flags .ack ∧
      p.submission.targetIp.scope ≠ none
  · rw [if_pos hscoped]
    constructor
    · rintro ⟨response, hresponse, -⟩
      exact absurd hresponse (by simp)
    · rintro ⟨-, hscope⟩
      exact absurd (hscope hscoped.1 hscoped.2.1) hscoped.2.2
  · rw [if_neg hscoped]
    have hends : ∃ source destination, o.endpoints = some (source, destination) := by
      have hmatch := honly.2.1
      rw [matchesTcpReply, htcp] at hmatch
      cases hends : o.endpoints with
      | none =>
        rw [hends] at hmatch
        exact absurd hmatch Bool.false_ne_true
      | some ends => exact ⟨ends.1, ends.2, rfl⟩
    obtain ⟨source, destination, hends⟩ := hends
    rw [packetResponse_of_answers hid hparse hends
      (answers_of_matchesTcpReply htcp hends honly.2.1)]
    refine ⟨fun hvalid ↦ ⟨hvalid, fun hv4 hack ↦ ?_⟩, And.left⟩
    by_contra hscope
    exact hscoped ⟨hv4, hack, hscope⟩

/-- `findUnique` at a state whose only answered submission is `p`. -/
theorem onlyAnswered_of_findUnique
    (hfind : s.pending.findUnique (fun pending ↦ matchesTcpReply pending.submission o) = some id)
    (hlookup : s.pending.lookup id = some p) : OnlyAnswered s o id p := by
  obtain ⟨v, hv, hmatch, honly⟩ := AList.findUnique_eq_some_iff.mp hfind
  obtain rfl : v = p := Option.some.inj (hv.symm.trans hlookup)
  exact ⟨hv, hmatch, honly⟩

/-- The host 10.0.0.1, scanning. -/
def scanner : NetworkScanContext where
  inet := { ntop6 := fun _ ↦ [], pton6 := fun _ ↦ none, ifNametoindex := fun _ ↦ 0 }
  interfaceName := []
  sourceIpv4 := 0x0A000001

/-- The SYN probe of port 80 of 10.0.0.2, as the probe builds it. -/
def synSubmission : PortSubmission where
  id := 1
  probe := .tcpSyn
  target := inetNtop4 0x0A000002
  port := { number := 80 }
  packet := [156, 65, 0, 80, 66, 183, 113, 183, 0, 0, 0, 0, 80, 2, 255, 255, 0, 0, 0, 0]
  sourcePort := 40001
  sequenceNumber := 1119318455
  targetIp := .fromIpv4 0x0A000002

theorem build_synSubmission :
    TcpSynProbe.build scanner.inet 1
        { address := inetNtop4 0x0A000002, ipAddress := .fromIpv4 0x0A000002 } { number := 80 } {} =
      .ok synSubmission := by
  decide +kernel

/-- The submission as it is pending. -/
def synPending : Pending where
  submission := { synSubmission with sourceIp := .fromIpv4 0x0A000001 }
  correlationKey := correlationKeyOf synSubmission

/-- A SYN-ACK of the probe with four bytes of options and the checksum that goes with them. -/
def synAckFrame (checksum options : List UInt8) : List UInt8 :=
  [0, 0, 0, 0, 0, 0, 0, 0, 0, 0, 0, 0, 8, 0, 69, 0, 0, 44, 0, 0, 0, 0, 64, 6, 102, 202, 10, 0, 0, 2,
    10, 0, 0, 1, 0, 80, 156, 65, 0, 0, 0, 7, 66, 183, 113, 184, 96, 18, 3, 232] ++ checksum ++
    [0, 0] ++ options

/-- What is parsed of the SYN-ACK. -/
def synAck (checksum : UInt16) (options : List TcpOption) : TCP where
  sourcePort := 80
  destinationPort := 40001
  sequenceNumber := 7
  acknowledgmentNumber := 1119318456
  dataOffset := 6
  flags := 0x12
  window := 1000
  checksum
  options

theorem delivered_iff_mss :
    (∃ response,
      (dispatchObservation scanner 0 (PacketReceiver.parse (synAckFrame [47, 36] [2, 4, 5, 180]) 0)
        (Runs.run (step scanner) {} [.submit {} synSubmission])).1 = some response ∧
      response.id = 1 ∧
      ∀ sourceIp, assessBy scanner.inet .tcpSyn response { synPending.submission with sourceIp } =
        .ok (.open, .synAck)) ↔
    (synAck 12068 [{ kind := .mss, value := 1460 }]).validate ∧
      ((PacketReceiver.parse (synAckFrame [47, 36] [2, 4, 5, 180]) 0).ipv4.isSome →
        TCP.hasFlag 0x12 .ack → synPending.submission.targetIp.scope = none) := by
  have htcp : (PacketReceiver.parse (synAckFrame [47, 36] [2, 4, 5, 180]) 0).tcp =
      some (synAck 12068 [{ kind := .mss, value := 1460 }]) := by
    decide +kernel
  have honly : OnlyAnswered (Runs.run (step scanner) {} [.submit {} synSubmission])
      (PacketReceiver.parse (synAckFrame [47, 36] [2, 4, 5, 180]) 0) 1 synPending :=
    onlyAnswered_of_findUnique (by decide +kernel) (by decide +kernel)
  exact delivered_iff scanner [.submit {} synSubmission] htcp honly 0

/-- **A SYN-ACK with an option the parser does not know is lost**, here a fast open cookie of two
bytes: it is valid, it answers the only pending probe, and no callback is called. -/
theorem not_delivered_fastOpen :
    (PacketReceiver.parse (synAckFrame [105, 10] [34, 4, 0xAB, 0xCD]) 0).tcp =
      some (synAck 26890 []) ∧
    (PacketReceiver.parse (synAckFrame [105, 10] [34, 4, 0xAB, 0xCD]) 0).valid ∧
    OnlyAnswered (Runs.run (step scanner) {} [.submit {} synSubmission])
      (PacketReceiver.parse (synAckFrame [105, 10] [34, 4, 0xAB, 0xCD]) 0) 1 synPending ∧
    ¬ ∃ response,
      (dispatchObservation scanner 0
        (PacketReceiver.parse (synAckFrame [105, 10] [34, 4, 0xAB, 0xCD]) 0)
        (Runs.run (step scanner) {} [.submit {} synSubmission])).1 = some response := by
  refine ⟨by decide +kernel, by decide +kernel,
    onlyAnswered_of_findUnique (by decide +kernel) (by decide +kernel), ?_⟩
  have hnone : (dispatchObservation scanner 0
      (PacketReceiver.parse (synAckFrame [105, 10] [34, 4, 0xAB, 0xCD]) 0)
      (Runs.run (step scanner) {} [.submit {} synSubmission])).1 = none := by
    decide +kernel
  rintro ⟨response, hresponse⟩
  exact absurd (hnone.symm.trans hresponse) (by simp)

end LinuxNetworkScanTransport

end Skan.Net
