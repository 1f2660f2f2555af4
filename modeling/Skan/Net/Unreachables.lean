import Skan.Net.ProbeQuotes

/-!
# ICMP errors about the probes

The dispatch of destination unreachables over whole runs of `LinuxNetworkScanTransport`. What is
pending was submitted by a probe and had a frame composed for it (`probing_run`), so the two results
on quotes apply to every pending submission; with distinct submissions pending they make the scan of
`dispatch_observation` find the one that is quoted, and nothing when none is
(`unreachable_recognised`).
-/

namespace Skan.Net

open Skan.Core Skan.Packet Skan.PortScan

namespace LinuxNetworkScanTransport

variable {ctx : NetworkScanContext} {id : PortProbeId} {p : Pending} {o : PacketObservation}
  {destination : IpAddress} {quote : List UInt8}

/-! ### What is pending -/

/-- What is known of a pending submission of a probe: a frame was composed for it. -/
structure Probing (ctx : NetworkScanContext) (submission : PortSubmission) : Prop where
  fromProbe : FromProbe submission
  composed : ∃ mac frame, composeFrame ctx mac submission = some frame

/-- The submissions that a run is given are those of probes. -/
def Event.FromProbe : Event → Prop
  | .submit _ submission => Net.FromProbe submission
  | _ => True

variable {s : LinuxNetworkScanTransport}

/-- **A submission** adds at most itself, after a frame was composed for it. -/
theorem pending_submit {answers : SubmitAnswers} {submission : PortSubmission}
    (hlookup : (submit ctx answers submission s).2.pending.lookup id = some p) :
    s.pending.lookup id = some p ∨ ∃ targetIp sourceIp frame,
      effectiveAddress ctx.inet submission.targetIp submission.target = some targetIp ∧
        (submission.probe = .tcpSyn ∨ submission.probe = .tcpAck) ∧
          p.submission = { submission with targetIp, sourceIp } ∧
            composeFrame ctx answers.destinationMac p.submission = some frame := by
  rw [submit] at hlookup
  split at hlookup
  · exact .inl hlookup
  rename_i hrefused
  split at hlookup
  · exact .inl hlookup
  rename_i targetIp htarget
  split at hlookup
  · exact .inl hlookup
  split at hlookup
  · exact .inl hlookup
  rename_i sourceIp hsource
  dsimp only at hlookup
  split at hlookup
  · exact .inl hlookup
  rename_i frame hframe
  rw [enter] at hlookup
  split at hlookup
  · split_ifs at hlookup
    · exact .inl hlookup
    · -- the submission is entered
      by_cases hid : id = submission.id
      · subst hid
        rw [AList.lookup_insert] at hlookup
        obtain rfl := Option.some.inj hlookup
        refine .inr ⟨targetIp, sourceIp, frame, htarget, ?_, rfl, hframe⟩
        by_contra hprobe
        exact hrefused (.inr (.inl (not_or.mp hprobe)))
      · rw [AList.lookup_insert_ne hid] at hlookup
        exact .inl hlookup
    · exact .inl hlookup
  · exact .inl hlookup

theorem pending_cancel {id' : PortProbeId} (hlookup : (cancel id' s).pending.lookup id = some p) :
    s.pending.lookup id = some p := by
  rw [cancel] at hlookup
  split at hlookup
  · exact hlookup
  · rw [AList.lookup_erase_eq_ite] at hlookup
    split_ifs at hlookup
    exact hlookup

theorem pending_dispatchObservation (now : TimePoint) (o : PacketObservation) :
    (dispatchObservation ctx now o s).2.pending = s.pending := by
  rw [dispatchObservation]
  split_ifs
  · rfl
  split
  · rfl
  · split_ifs
    · rfl
    · exact pending_findIpv4 now o _ _
  · rfl

/-- **What is pending after a step** was so before, or was just submitted. -/
theorem pending_step {event : Event} (hlookup : (step ctx s event).pending.lookup id = some p) :
    s.pending.lookup id = some p ∨ ∃ answers submission targetIp sourceIp frame,
      event = .submit answers submission ∧
        effectiveAddress ctx.inet submission.targetIp submission.target = some targetIp ∧
          (submission.probe = .tcpSyn ∨ submission.probe = .tcpAck) ∧
            p.submission = { submission with targetIp, sourceIp } ∧
              composeFrame ctx answers.destinationMac p.submission = some frame := by
  cases event with
  | submit answers submission =>
    refine (pending_submit hlookup).imp_right ?_
    rintro ⟨targetIp, sourceIp, frame, hentered⟩
    exact ⟨answers, submission, targetIp, sourceIp, frame, rfl, hentered⟩
  | cancel id' => exact .inl (pending_cancel hlookup)
  | failPending systemError now id' =>
    have hfailed : (failPending systemError now id' s).2.pending.lookup id = some p := hlookup
    rw [failPending] at hfailed
    split at hfailed
    · exact .inl hfailed
    · exact .inl (pending_cancel hfailed)
  | dispatchObservation now o =>
    exact .inl ((congrArg (AList.lookup id) (pending_dispatchObservation now o)).symm.trans hlookup)

theorem probing_step {event : Event} (hevent : event.FromProbe)
    (hs : ∀ id p, s.pending.lookup id = some p → Probing ctx p.submission) :
    ∀ id p, (step ctx s event).pending.lookup id = some p → Probing ctx p.submission := by
  intro id p hlookup
  obtain hkept | ⟨answers, submission, targetIp, sourceIp, frame, rfl, htarget, hprobe, heq,
    hframe⟩ := pending_step hlookup
  · exact hs id p hkept
  · have hprobed : Net.FromProbe submission := hevent
    rw [effectiveAddress_of_valid hprobed.target.valid] at htarget
    obtain rfl := Option.some.inj htarget
    rw [heq] at hframe ⊢
    exact ⟨⟨hprobe, hprobed.segment, hprobed.target⟩, _, frame, hframe⟩

/-- In a run on the submissions of probes, every pending submission is one. -/
theorem probing_run {events : List Event} (hevents : ∀ event ∈ events, event.FromProbe) :
    ∀ id p, (Runs.run (step ctx) {} events).pending.lookup id = some p → Probing ctx p.submission :=
  Runs.run_invariant_within
    (I := fun s : LinuxNetworkScanTransport ↦
      ∀ id p, s.pending.lookup id = some p → Probing ctx p.submission)
    (P := fun _ (event : Event) ↦ event.FromProbe) (fun _ _ hevent hs ↦ probing_step hevent hs)
    (fun _ _ h ↦ absurd h (by simp)) (Runs.within_of_forall (fun event h _ ↦ hevents event h) _)

/-- No two pending submissions have the same target on the wire, ports and sequence number. -/
def Distinct (s : LinuxNetworkScanTransport) : Prop :=
  ∀ id id' p p', s.pending.lookup id = some p → s.pending.lookup id' = some p' → id ≠ id' →
    ¬ (sameOnWire p.submission.targetIp p'.submission.targetIp ∧
      p.submission.port.number = p'.submission.port.number ∧
        p.submission.sourcePort = p'.submission.sourcePort ∧
          p.submission.sequenceNumber = p'.submission.sequenceNumber)

/-- What a frame composed for a pending submission is, and which identity its packet has. -/
theorem Probing.emitted {submission : PortSubmission} (h : Probing ctx submission)
    (hsource4 : submission.targetIp.isIpv4 → submission.sourceIp = .fromIpv4 ctx.sourceIpv4) :
    submission.sourceIp.Canonical ∧ ∃ t : TCP, submission.packet = t.bytes ∧
      t.sourcePort = submission.sourcePort ∧ t.destinationPort = submission.port.number ∧
        t.sequenceNumber = submission.sequenceNumber ∧
          ∀ mac frame, composeFrame ctx mac submission = some frame →
            Emitted submission t (frame.drop 14) := by
  obtain ⟨t, hparse, honWire, hpacket, hfields⟩ := h.fromProbe.parse
  have hemitted : ∀ mac frame, composeFrame ctx mac submission = some frame →
      Emitted submission t (frame.drop 14) := fun mac frame hframe ↦
    emitted_of_composeFrame h.fromProbe.target.valid hparse honWire hpacket hframe
  refine ⟨?_, t, hpacket, hfields.1, hfields.2.1, hfields.2.2, hemitted⟩
  obtain ⟨mac, frame, hframe⟩ := h.composed
  have hform := hemitted mac frame hframe
  generalize frame.drop 14 = packet at hform
  cases hform with
  | ipv4 _ htarget4 =>
    rw [hsource4 htarget4]
    exact IpAddress.canonical_fromIpv4 _
  | ipv6 hsource6 => exact .inl hsource6

/-- A destination unreachable is looked for among the pending submissions, and nothing else is
done. -/
theorem dispatchObservation_of_unreachable (ho : Unreachable o destination quote)
    (now : TimePoint) :
    (dispatchObservation ctx now o s).1 =
      (s.pending.findUnique fun pending ↦ matchesTcpUnreachable pending.submission o).bind
        (unreachableResponse ctx o) := by
  have hicmp : (o.icmp.isSome || o.icmpv6.isSome) = true := by
    cases ho with
    | icmp _ _ hicmp =>
      rw [hicmp]
      rfl
    | icmpv6 _ _ hicmpv6 =>
      rw [hicmpv6]
      exact Bool.or_true _
  rw [dispatchObservation, if_pos hicmp]

section Pending

variable (hprobing : ∀ id p, s.pending.lookup id = some p → Probing ctx p.submission)
  (hconsistent : Consistent ctx s)

include hprobing hconsistent

/-- Whatever matches has the identity of the quote. -/
theorem identity_of_pending (hlookup : s.pending.lookup id = some p)
    (ho : Unreachable o destination quote) (hmatches : matchesTcpUnreachable p.submission o) :
    identity quote = probeIdentity p.submission := by
  obtain ⟨-, t, hpacket, hsourcePort, hdestinationPort, hsequence, -⟩ :=
    (hprobing id p hlookup).emitted (hconsistent.submitted id p hlookup).source_eq
  exact identity_of_matches hpacket hsourcePort hdestinationPort hsequence ho hmatches

/-- **A quote of a pending probe** is found to be that probe's. -/
theorem findUnique_of_requoted (hdistinct : Distinct s) {mac : Option MacAddress}
    {frame : List UInt8} {reason : ScanReason} (hlookup : s.pending.lookup id = some p)
    (hframe : composeFrame ctx mac p.submission = some frame) (hvalid : o.valid)
    (ho : Unreachable o destination quote)
    (hdestination : sameOnWire destination p.submission.sourceIp)
    (hquote : Requoted (frame.drop 14) quote)
    (hreason : classifyTcpUnreachableReason o = some reason) :
    s.pending.findUnique (fun pending ↦ matchesTcpUnreachable pending.submission o) = some id := by
  obtain ⟨hsource, t, hpacket, -, -, -, hemitted⟩ :=
    (hprobing id p hlookup).emitted (hconsistent.submitted id p hlookup).source_eq
  have hprobed := (hprobing id p hlookup).fromProbe
  have hmatches := matches_of_requoted hprobed.probe hpacket hsource hprobed.target
    (hemitted mac frame hframe) hquote hvalid ho hdestination hreason
  refine AList.findUnique_eq_some_iff.mpr ⟨p, hlookup, hmatches, fun id' p' hlookup' hmatches' ↦ ?_⟩
  by_contra hne
  -- a second one would have the same identity
  have heq : probeIdentity p'.submission = probeIdentity p.submission :=
    (identity_of_pending hprobing hconsistent hlookup' ho hmatches').symm.trans
      (identity_of_pending hprobing hconsistent hlookup ho hmatches)
  simp only [probeIdentity, Identity.mk.injEq, IpAddress.mk.injEq] at heq
  obtain ⟨-, ⟨hfamily, hbytes, -⟩, hsourcePort, hdestinationPort, hsequence⟩ := heq
  refine hdistinct id' id p' p hlookup' hlookup hne ⟨?_, hdestinationPort, hsourcePort, hsequence⟩
  simp [sameOnWire, hfamily, hbytes]

/-- **A quote of nothing that was sent** is found to be no probe's. -/
theorem findUnique_of_differs (ho : Unreachable o destination quote)
    (hdiffers : ∀ id p mac frame, s.pending.lookup id = some p →
      composeFrame ctx mac p.submission = some frame → identity quote ≠ identity (frame.drop 14)) :
    s.pending.findUnique (fun pending ↦ matchesTcpUnreachable pending.submission o) = none := by
  by_contra hsome
  obtain ⟨id, hid⟩ := Option.ne_none_iff_exists'.mp hsome
  obtain ⟨p, hlookup, hmatches, -⟩ := AList.findUnique_eq_some_iff.mp hid
  obtain ⟨hsource, t, -, hsourcePort, hdestinationPort, hsequence, hemitted⟩ :=
    (hprobing id p hlookup).emitted (hconsistent.submitted id p hlookup).source_eq
  obtain ⟨mac, frame, hframe⟩ := (hprobing id p hlookup).composed
  have hsent := identity_emitted hsource (hprobing id p hlookup).fromProbe.target hsourcePort
    hdestinationPort hsequence (hemitted mac frame hframe)
  exact hdiffers id p mac frame hlookup hframe
    ((identity_of_pending hprobing hconsistent hlookup ho hmatches).trans hsent.symm)

end Pending

/-- **ICMP errors about the probes are recognised, and others never are.** In every run on the
submissions of probes that leaves distinct ones pending, a destination unreachable that was sent
back to a pending submission's source and quotes its frame, cut off and rewritten as the network
may, calls its callback with the reason of the code; and one whose quote differs in an address, a
port or the sequence number from every frame of a pending submission calls none. -/
theorem unreachable_recognised (ctx : NetworkScanContext) (events : List Event)
    (hevents : ∀ event ∈ events, event.FromProbe)
    (hdistinct : Distinct (Runs.run (step ctx) {} events)) (now : TimePoint) :
    let s := Runs.run (step ctx) {} events
    (∀ id p mac frame o destination quote reason, s.pending.lookup id = some p →
      composeFrame ctx mac p.submission = some frame → o.valid → Unreachable o destination quote →
        sameOnWire destination p.submission.sourceIp → Requoted (frame.drop 14) quote →
          classifyTcpUnreachableReason o = some reason →
            ∃ response, (dispatchObservation ctx now o s).1 = some response ∧ response.id = id ∧
              response.kind = .unreachable ∧ response.reason = reason) ∧
      ∀ o destination quote, Unreachable o destination quote →
        (∀ id p mac frame, s.pending.lookup id = some p →
          composeFrame ctx mac p.submission = some frame →
            identity quote ≠ identity (frame.drop 14)) →
          (dispatchObservation ctx now o s).1 = none := by
  intro s
  have hprobing : ∀ id p, s.pending.lookup id = some p → Probing ctx p.submission :=
    probing_run hevents
  have hconsistent : Consistent ctx s := consistent_run events
  constructor
  · intro id p mac frame o destination quote reason hlookup hframe hvalid ho hdestination hquote
      hreason
    rw [dispatchObservation_of_unreachable ho, findUnique_of_requoted hprobing hconsistent hdistinct
      hlookup hframe hvalid ho hdestination hquote hreason, Option.bind_some, unreachableResponse,
      hreason]
    exact ⟨_, rfl, rfl, rfl, rfl⟩
  · intro o destination quote ho hdiffers
    rw [dispatchObservation_of_unreachable ho,
      findUnique_of_differs hprobing hconsistent ho hdiffers]
    rfl

/-- The frame of the SYN probe. -/
def synFrame : List UInt8 :=
  [0, 0, 0, 0, 0, 0, 0, 0, 0, 0, 0, 0, 8, 0, 69, 0, 0, 40, 0, 0, 0, 0, 64, 6, 102, 206, 10, 0, 0, 1,
    10, 0, 0, 2, 156, 65, 0, 80, 66, 183, 113, 183, 0, 0, 0, 0, 80, 2, 255, 255, 74, 224, 0, 0]

/-- Its quote thirteen hops away, marked for congestion control, with a source port. -/
def synQuote (sourcePort : List UInt8) : List UInt8 :=
  [69, 32, 0, 40, 0, 0, 0, 0, 51, 6, 115, 174, 10, 0, 0, 1, 10, 0, 0, 2] ++ sourcePort ++
    [0, 80, 66, 183, 113, 183]

/-- A port unreachable from 10.0.0.2. -/
def portUnreachable (quote : List UInt8) : PacketObservation where
  ipv4 := some { protocol := 1, sourceAddress := 0x0A000002, destinationAddress := 0x0A000001 }
  icmp := some { type := .destinationUnreachable, code := 3, payload := quote }
  status := .valid

theorem fromProbe_synSubmission : FromProbe synSubmission := by
  refine fromProbe_of_buildTcp (.inl rfl) ?_ build_synSubmission
  rintro a h
  rw [effectiveAddress_of_valid rfl] at h
  exact Option.some.inj h ▸ IpAddress.canonical_fromIpv4 _

theorem pending_synSubmission (id : PortProbeId) :
    (Runs.run (step scanner) {} [.submit {} synSubmission]).pending.lookup id =
      if id = 1 then some synPending else none := by
  split_ifs with hid
  · rw [hid]
    decide +kernel
  · have hkeys : (Runs.run (step scanner) {} [.submit {} synSubmission]).pending.keys = [1] := by
      decide +kernel
    rw [AList.lookup_eq_none, AList.mem_keys, hkeys, List.mem_singleton]
    exact hid

/-- A quote of the only probe, and one of a probe from another port. -/
theorem unreachable_recognised_port :
    (∃ response,
      (dispatchObservation scanner 0 (portUnreachable (synQuote [156, 65]))
        (Runs.run (step scanner) {} [.submit {} synSubmission])).1 = some response ∧
      response.id = 1 ∧ response.kind = .unreachable ∧ response.reason = .icmpPortUnreachable) ∧
    (dispatchObservation scanner 0 (portUnreachable (synQuote [156, 66]))
      (Runs.run (step scanner) {} [.submit {} synSubmission])).1 = none := by
  have hdistinct : Distinct (Runs.run (step scanner) {} [.submit {} synSubmission]) := by
    intro id id' p p' hp hp' hne
    rw [pending_synSubmission] at hp hp'
    split_ifs at hp hp' with hid hid'
    exact absurd (hid.trans hid'.symm) hne
  have hframe : composeFrame scanner (some (Vector.replicate 6 0)) synPending.submission =
      some synFrame := by
    decide +kernel
  have hsame : ∀ i < (synQuote [156, 65]).length, i ∉ rewritten4 →
      (synQuote [156, 65]).getD i 0 = (synFrame.drop 14).getD i 0 := by
    decide
  have hevents : ∀ event ∈ [Event.submit {} synSubmission], event.FromProbe :=
    List.forall_mem_singleton.mpr fromProbe_synSubmission
  obtain ⟨hrecognised, hignored⟩ := unreachable_recognised scanner [.submit {} synSubmission]
    hevents hdistinct 0
  refine ⟨hrecognised 1 synPending _ synFrame _ _ _ _ (pending_synSubmission 1) hframe rfl
      (.icmp rfl rfl rfl rfl) (by decide)
      (.ipv4 (by decide) (by decide) (by decide) hsame (by decide +kernel)) (by decide),
    hignored _ _ _ (.icmp rfl rfl rfl rfl) fun id p mac frame hlookup hcomposed ↦ ?_⟩
  rw [pending_synSubmission] at hlookup
  split_ifs at hlookup
  obtain rfl := Option.some.inj hlookup
  have hprobing : Probing scanner synPending.submission :=
    probing_run hevents 1 synPending (pending_synSubmission 1)
  obtain ⟨hsource, t, -, hsourcePort, hdestinationPort, hsequence, hemitted⟩ :=
    hprobing.emitted fun _ ↦ rfl
  rw [identity_emitted hsource hprobing.fromProbe.target hsourcePort hdestinationPort hsequence
    (hemitted mac frame hcomposed)]
  decide +kernel

end LinuxNetworkScanTransport

end Skan.Net
