import Skan.Net.NetworkScanCorrelation

/-!
# The table and the scan select the same submission

An IPv4 segment that acknowledges something is looked up in the correlation table; any other is
matched against every pending submission. `dispatch_is_scan` says that both select what a scan of
the pending submissions with `matches_tcp_reply` selects, after any run of submissions,
cancellations and capture failures, the calls that callbacks make in the middle of a failure
included.

## Where they part

The key that is looked up has no scope, while the key of a pending submission has the scope of its
target. A scope is meaningful only for IPv6, and no text parses to an IPv4 address with one; a
caller that sets one itself has built a submission the table does not find
(`not_dispatchesAsScan_scoped`). -/

namespace Skan.Net

open Skan.Core Skan.Packet Skan.PortScan

namespace LinuxNetworkScanTransport

variable {ctx : NetworkScanContext} {s : LinuxNetworkScanTransport} {o : PacketObservation}
  {ip : IPv4} {tcp : TCP}

/-! ### Capture failures -/

/-- The loop of `on_capture_event` when the capture fails: each pending submission is told, and
retired unless its callback has done so. `drained` lists whom the loop found at the beginning of the
map, each with what its callback did to the transport. -/
def drain (ctx : NetworkScanContext) (s : LinuxNetworkScanTransport)
    (drained : List (PortProbeId × List Event)) : LinuxNetworkScanTransport :=
  drained.foldl (fun s told ↦
    if told.1 ∈ s.pending then cancel told.1 (Runs.run (step ctx) s told.2) else s) s

/-- What happens to an open transport. -/
inductive Activity where
  | event (event : Event)
  | captureFailure (drained : List (PortProbeId × List Event))

def act (ctx : NetworkScanContext) (s : LinuxNetworkScanTransport) :
    Activity → LinuxNetworkScanTransport
  | .event event => step ctx s event
  | .captureFailure drained => drain ctx s drained

theorem Consistent.run_step (h : Consistent ctx s) (events : List Event) :
    Consistent ctx (Runs.run (LinuxNetworkScanTransport.step ctx) s events) :=
  Runs.run_invariant (I := Consistent ctx) (fun _ event h ↦ h.step event) h events

theorem Consistent.drain (h : Consistent ctx s) (drained : List (PortProbeId × List Event)) :
    Consistent ctx (LinuxNetworkScanTransport.drain ctx s drained) := by
  refine Runs.run_invariant (I := Consistent ctx) (fun s told h ↦ ?_) h drained
  show Consistent ctx (if told.1 ∈ s.pending then _ else s)
  split_ifs
  · exact (h.run_step told.2).cancel told.1
  · exact h

theorem Consistent.act (h : Consistent ctx s) (activity : Activity) :
    Consistent ctx (LinuxNetworkScanTransport.act ctx s activity) := by
  cases activity with
  | event event => exact h.step event
  | captureFailure drained => exact h.drain drained

theorem consistent_act (ctx : NetworkScanContext) (activities : List Activity) :
    Consistent ctx (Runs.run (act ctx) {} activities) :=
  Runs.run_invariant (I := Consistent ctx) (fun _ activity h ↦ h.act activity) consistent_empty
    activities

/-! ### One entry for each pending submission, and no other -/

theorem Consistent.entry_eq (h : Consistent ctx s) {key : CorrelationKey} {e : CorrelationEntry}
    (hlookup : s.correlation.entries.lookup key = some e) :
    ∃ id p, s.pending.lookup id = some p ∧ p.correlationKey = key ∧ entryOf p = e := by
  obtain ⟨p, hp, hkey⟩ := h.pending_of_entry key e hlookup
  have hentry := h.entry_of_pending e.token p hp
  rw [hkey, hlookup] at hentry
  exact ⟨e.token, p, hp, hkey, (Option.some.inj hentry).symm⟩

/-- **The table is the list of the entries that the pending submissions own.** -/
theorem Consistent.entries_perm (h : Consistent ctx s) :
    s.correlation.entries.entries.Perm
      (s.pending.values.map fun p ↦ ⟨p.correlationKey, entryOf p⟩) := by
  refine (List.perm_ext_iff_of_nodup s.correlation.entries.nodupKeys.nodup ?_).mpr fun e ↦ ?_
  · rw [AList.values, List.map_map]
    refine List.Nodup.map_on (fun e he e' he' heq ↦ ?_) s.pending.nodupKeys.nodup
    have hp := AList.mem_lookup_iff.mpr he
    have hp' := AList.mem_lookup_iff.mpr he'
    have hid := h.id_injective hp hp' (congrArg Sigma.fst heq)
    have hvalue : e.2 = e'.2 := by
      rw [hid] at hp
      exact Option.some.inj (hp.symm.trans hp')
    exact Sigma.ext hid (heq_of_eq hvalue)
  · constructor
    · intro he
      obtain ⟨id, p, hp, hkey, hentry⟩ := h.entry_eq (AList.mem_lookup_iff.mpr he)
      exact List.mem_map.mpr
        ⟨p, AList.mem_values_of_lookup hp, Sigma.ext hkey (heq_of_eq hentry)⟩
    · intro he
      obtain ⟨p, hp, rfl⟩ := List.mem_map.mp he
      obtain ⟨stored, hstored, rfl⟩ := List.mem_map.mp hp
      exact AList.mem_lookup_iff.mp
        (h.entry_of_pending stored.1 stored.2 (AList.mem_lookup_iff.mpr hstored))

/-! ### The selection -/

/-- No submission that the segment answers by an acknowledgment was given a scope. -/
def Unscoped (s : LinuxNetworkScanTransport) (o : PacketObservation) (tcp : TCP) : Prop :=
  TCP.hasFlag tcp.flags .ack → ∀ id p, s.pending.lookup id = some p →
    matchesTcpReply p.submission o → p.submission.targetIp.scope = none

theorem matches_of_findIpv4 (hack : TCP.hasFlag tcp.flags .ack) {now : TimePoint}
    {id : PortProbeId} (hfind : (findIpv4 now o ip tcp s).1 = some id) :
    ∃ p e, s.pending.lookup id = some p ∧ matchesTcpReply p.submission o ∧
      (s.correlation.lookup (lookupKey ip tcp) now).1.2 = some e ∧ e.token = id := by
  rw [LinuxNetworkScanTransport.findIpv4, if_pos hack] at hfind
  obtain ⟨e, he, hselected⟩ := Option.bind_eq_some_iff.mp hfind
  split at hselected
  · rename_i hany
    obtain rfl : e.token = id := Option.some.inj hselected
    obtain ⟨p, hp, hmatch⟩ := (Option.any_eq_true _ _).mp hany
    exact ⟨p, e, hp, hmatch, he, rfl⟩
  · exact absurd hselected (by simp)

/-- The selection for an IPv4 segment is that of a scan of the pending submissions, which selects
none when it finds none or several. -/
def SelectsAsScan (s : LinuxNetworkScanTransport) (o : PacketObservation) (ip : IPv4) (tcp : TCP) :
    Prop :=
  ∀ now, (findIpv4 now o ip tcp s).1 =
    s.pending.findUnique fun pending ↦ matchesTcpReply pending.submission o

/-- **The table selects what a scan selects**: the key that is looked up is the key of every pending
submission the segment acknowledges, and a key has one owner. -/
theorem Consistent.selectsAsScan (h : Consistent ctx s) (htcp : o.tcp = some tcp)
    (hip : o.ipv4 = some ip) (hunscoped : Unscoped s o tcp) : SelectsAsScan s o ip tcp := by
  intro now
  have hends : ∀ p : Pending, matchesTcpReply p.submission o →
      o.endpoints = some (.fromIpv4 ip.sourceAddress, .fromIpv4 ip.destinationAddress) := by
    intro p hmatch
    rw [matchesTcpReply, htcp] at hmatch
    rw [PacketObservation.endpoints, hip] at hmatch ⊢
    cases hip6 : o.ipv6 with
    | none => rfl
    | some ip6 =>
      rw [hip6] at hmatch
      exact absurd hmatch Bool.false_ne_true
  refine Option.ext fun id ↦ ⟨fun hfind ↦ ?_, fun hscan ↦ ?_⟩
  · by_cases hack : TCP.hasFlag tcp.flags .ack
    · obtain ⟨p, e, hp, hmatch, hentry, htoken⟩ := matches_of_findIpv4 hack hfind
      rw [(h.lookup _ now).1] at hentry
      refine AList.findUnique_eq_some_iff.mpr ⟨p, hp, hmatch, fun id' p' hp' hmatch' ↦ ?_⟩
      have hkey' := (h.submitted id' p' hp').key_of_matches htcp (hends p' hmatch') hmatch' hack
        (hunscoped hack id' p' hp' hmatch')
      have hentry' := h.entry_of_pending id' p' hp'
      rw [hkey', hentry] at hentry'
      rw [← htoken, Option.some.inj hentry']
      exact (h.submitted id' p' hp').id_eq.symm
    · rwa [LinuxNetworkScanTransport.findIpv4, if_neg hack] at hfind
  · obtain ⟨p, hp, hmatch, honly⟩ := AList.findUnique_eq_some_iff.mp hscan
    rw [OnlyAnswered.findIpv4 h ⟨hp, hmatch, honly⟩ htcp (hends p hmatch) now]
    exact if_neg fun hscoped ↦ hscoped.2 (hunscoped hscoped.1 id p hp hmatch)

/-- The response that a scan of the pending submissions would call for. -/
def scanResponse (ctx : NetworkScanContext) (s : LinuxNetworkScanTransport) (o : PacketObservation)
    (tcp : TCP) : Option PortResponse :=
  (s.pending.findUnique fun pending ↦ matchesTcpReply pending.submission o).bind fun id ↦
    (s.pending.lookup id).bind fun pending ↦ packetResponse ctx o tcp pending id

/-- Nothing answers with an invalid packet. -/
theorem findUnique_of_not_valid (h : o.valid = false) :
    (s.pending.findUnique fun pending ↦ matchesTcpReply pending.submission o) = none := by
  refine Option.eq_none_iff_forall_ne_some.mpr fun id hscan ↦ ?_
  obtain ⟨p, -, hmatch, -⟩ := AList.findUnique_eq_some_iff.mp hscan
  rw [matchesTcpReply] at hmatch
  split at hmatch
  · rw [h] at hmatch
    exact absurd hmatch Bool.false_ne_true
  · exact absurd hmatch Bool.false_ne_true

theorem dispatchObservation_of_selectsAsScan (htcp : o.tcp = some tcp) (hip : o.ipv4 = some ip)
    (hdestination : ip.destinationAddress = ctx.sourceIpv4)
    (hicmp : (o.icmp.isSome || o.icmpv6.isSome) = false) (h : SelectsAsScan s o ip tcp)
    (now : TimePoint) : (dispatchObservation ctx now o s).1 = scanResponse ctx s o tcp := by
  rw [LinuxNetworkScanTransport.dispatchObservation, hicmp, if_neg Bool.false_ne_true, htcp, hip]
  cases hvalid : o.valid with
  | false =>
    have hrefused : (!PacketFilter.accepts { protocol := some .tcp } o) = true := by
      rw [PacketFilter.accepts, hvalid]
      rfl
    have hipv6 : o.ipv6.filter (fun _ ↦ false) = none := by
      cases o.ipv6 <;> rfl
    rw [scanResponse, findUnique_of_not_valid hvalid, hipv6]
    dsimp only
    rw [if_pos (.inl hrefused)]
    rfl
  | true =>
    cases o.ipv6 with
    | some ip6 => rfl
    | none =>
      have haccepts : PacketFilter.accepts { protocol := some .tcp } o = true := by
        rw [PacketFilter.accepts, hvalid, htcp]
        rfl
      rw [haccepts]
      dsimp only [Option.filter_none]
      have hpasses : ¬ ((!true) = true ∨ ip.destinationAddress ≠ ctx.sourceIpv4) := by
        simp [hdestination]
      rw [if_neg hpasses, pending_findIpv4, h now]
      rfl

/-- **The table is in step with the pending submissions, and dispatch through it is a scan.** After
any submissions, cancellations and capture failures there is one entry for each pending submission,
under its key and with its token, and no other; and what an IPv4 segment to the scanning address
selects is what a scan of all pending submissions selects, as long as no submission it acknowledges
has an IPv4 target with a scope. -/
theorem dispatch_is_scan (ctx : NetworkScanContext) (activities : List Activity) :
    let s := Runs.run (act ctx) {} activities
    s.correlation.entries.entries.Perm
        (s.pending.values.map fun p ↦ ⟨p.correlationKey, entryOf p⟩) ∧
      (∀ id p, s.pending.lookup id = some p →
        p.submission.id = id ∧ p.correlationKey = correlationKeyOf p.submission ∧
          s.correlation.entries.lookup p.correlationKey = some (entryOf p)) ∧
      ∀ (o : PacketObservation) (ip : IPv4) (tcp : TCP), o.tcp = some tcp → o.ipv4 = some ip →
        ip.destinationAddress = ctx.sourceIpv4 → Unscoped s o tcp →
          SelectsAsScan s o ip tcp ∧
            ((o.icmp.isSome || o.icmpv6.isSome) = false →
              ∀ now, (dispatchObservation ctx now o s).1 = scanResponse ctx s o tcp) := by
  intro s
  have h : Consistent ctx s := consistent_act ctx activities
  refine ⟨h.entries_perm, fun id p hp ↦ ?_, fun o ip tcp htcp hip hdestination hunscoped ↦ ?_⟩
  · exact ⟨(h.submitted id p hp).id_eq, (h.submitted id p hp).key_eq, h.entry_of_pending id p hp⟩
  · have hselects := h.selectsAsScan htcp hip hunscoped
    exact ⟨hselects, fun hicmp ↦
      dispatchObservation_of_selectsAsScan htcp hip hdestination hicmp hselects⟩

theorem dispatch_is_scan_synAck :
    let s := Runs.run (act scanner) {} [.event (.submit {} synSubmission)]
    let o := PacketReceiver.parse (synAckFrame [47, 36] [2, 4, 5, 180]) 0
    let tcp := synAck 12068 [{ kind := .mss, value := 1460 }]
    (scanResponse scanner s o tcp).isSome ∧
      (dispatchObservation scanner 0 o s).1 = scanResponse scanner s o tcp := by
  refine ⟨by decide +kernel, ?_⟩
  have hunscoped : ∀ p ∈
      (Runs.run (act scanner) {} [.event (.submit {} synSubmission)]).pending.values,
        p.submission.targetIp.scope = none := by
    decide +kernel
  exact ((dispatch_is_scan scanner [.event (.submit {} synSubmission)]).2.2 _
    ((PacketReceiver.parse (synAckFrame [47, 36] [2, 4, 5, 180]) 0).ipv4.getD {}) _
    (by decide +kernel) (by decide +kernel) (by decide +kernel)
    fun _ _ p hp _ ↦ hunscoped p (AList.mem_values_of_lookup hp)).2 (by decide +kernel) 0

/-- The SYN probe of `synSubmission`, its target given a scope by the caller. -/
def scopedSubmission : PortSubmission :=
  { synSubmission with
    targetIp := { IpAddress.fromIpv4 0x0A000002 with scope := some [101, 116, 104, 48] } }

/-- **A scope on an IPv4 target hides its probe from the table.** The SYN-ACK of the only pending
submission is what a scan selects, and the table finds nothing under its key. -/
theorem not_dispatch_is_scan_scoped :
    ¬ ∀ (activities : List Activity) (o : PacketObservation) (ip : IPv4) (tcp : TCP),
      o.tcp = some tcp → o.ipv4 = some ip → ip.destinationAddress = scanner.sourceIpv4 →
        SelectsAsScan (Runs.run (act scanner) {} activities) o ip tcp := by
  intro hscan
  have hselects := hscan [.event (.submit {} scopedSubmission)]
    (PacketReceiver.parse (synAckFrame [47, 36] [2, 4, 5, 180]) 0)
    ((PacketReceiver.parse (synAckFrame [47, 36] [2, 4, 5, 180]) 0).ipv4.getD {})
    (synAck 12068 [{ kind := .mss, value := 1460 }]) (by decide +kernel) (by decide +kernel)
    (by decide +kernel) 0
  revert hselects
  decide +kernel

end LinuxNetworkScanTransport

end Skan.Net
