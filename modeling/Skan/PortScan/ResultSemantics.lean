import Skan.PortScan.Quiescence
import Skan.PortScan.TcpProbes

/-!
# The results of the TCP scans can be reported

`valid_port_result_semantics` of `src/portscan/port_types.cpp`, the whitelist by which
`validate_report` of `src/output/result_model.cpp` judges a port result, two subsystems away from
the code that publishes it. Here: every result of a `PortScanScheduler` is in the whitelist, in
every run.

A published verdict has four sources (`Verdict`): the probe's `assess`, a candidate that an earlier
`assess` left behind, the timeout, and the contradiction of two negative observations; every other
result reports a failure (`Blamed`). The candidates are the only state to carry along, so the
invariant is about the results and the attempts in flight (`Board.Reportable`).
-/

namespace Skan.PortScan

open Skan.Core Skan.ScanEngine Skan.Packet

variable {result : PortResult} {reason : ScanReason} {state : PortState} {method : ScanProbeType}

/-! ### The whitelist -/

/-- `valid_port_result_semantics`. -/
def validPortResultSemantics (protocol : Protocol) (probe : ScanProbeType) (state : PortState)
    (reason : ScanReason) : Bool :=
  if decide (protocol = .udp) != decide (probe = .udp) then false
  else
    match state with
    | .open =>
      (probe = .tcpConnect && reason = .immediateSuccess) ||
        (probe = .tcpSyn && reason = .synAck) ||
        (probe = .udp && reason = .udpResponse)
    | .closed =>
      (probe = .tcpConnect && reason = .connectionRefused) ||
        (probe = .tcpSyn && reason = .rst) ||
        (probe = .udp && reason = .icmpPortUnreachable)
    | .filtered =>
      (probe = .tcpConnect && reason = .timeout) ||
        (probe = .tcpSyn &&
          (reason = .timeout || reason = .icmpAdministrativelyProhibited ||
            reason = .icmpPortUnreachable || reason = .icmpProtocolUnreachable)) ||
        (probe = .tcpAck &&
          (reason = .ackTimeout || reason = .icmpAdministrativelyProhibited ||
            reason = .icmpPortUnreachable || reason = .icmpProtocolUnreachable)) ||
        (probe = .udp && reason = .icmpAdministrativelyProhibited)
    | .unknown => reason = .conflictingEvidence
    | .openOrFiltered => probe = .udp && reason = .udpTimeout
    | .unfiltered => probe = .tcpAck && reason = .ackRst
    | .error =>
      reason = .localAddressUnavailable || reason = .socketError || reason = .invalidTarget ||
        reason = .invalidPort || reason = .unsupportedMethod || reason = .capabilityUnavailable ||
        reason = .internalError || reason = .unsupportedProtocol
    | .unreachable =>
      (probe = .tcpConnect && reason = .networkUnreachable) ||
        (probe ≠ .tcpConnect && reason = .icmpNetworkUnreachable)

/-- The checks of `validate_report` on a port result: whether the report is refused for it. A
round-trip time is a finite number here. -/
def rejectsPortResult (result : PortResult) : Bool :=
  result.port.number = 0 || result.target = [] ||
    !validPortResultSemantics result.port.protocol result.probe result.state result.reason ||
    result.rttMs.any (· < 0)

/-- A result that only an empty target text can make a report invalid for. -/
structure PortResult.Reportable (protocol : Protocol) (result : PortResult) : Prop where
  protocol_eq : result.port.protocol = protocol
  number_ne_zero : result.port.number ≠ 0
  semantics : validPortResultSemantics protocol result.probe result.state result.reason
  rtt_nonneg : ∀ rtt ∈ result.rttMs, 0 ≤ rtt

theorem PortResult.Reportable.rejects_iff {protocol : Protocol} (h : result.Reportable protocol) :
    rejectsPortResult result ↔ result.target = [] := by
  have hrtt : result.rttMs.any (· < 0) = false := by
    cases hsome : result.rttMs with
    | none => rfl
    | some rtt => exact decide_eq_false (h.rtt_nonneg rtt hsome).not_gt
  have hsemantics := h.semantics
  rw [← h.protocol_eq] at hsemantics
  simp [rejectsPortResult, h.number_ne_zero, hsemantics, hrtt]

/-! ### The probes -/

/-- The probe that the constructor of `PortScanScheduler` picks for a method. -/
def probeFor (inet : Inet) : ScanProbeType → Option PortProbe
  | .tcpConnect => some (tcpConnectProbe inet)
  | .tcpSyn => some (tcpSynProbe inet)
  | .tcpAck => some (tcpAckProbe inet)
  | .udp => none

/-- What a `PortScanScheduler` is constructed with. -/
def SchedulerContext.construct (inet : Inet) (environment : Environment) (config : PortScanConfig) :
    SchedulerContext where
  inet := inet
  environment := environment
  config := config
  probe := probeFor inet config.method

/-- A verdict of a TCP scan that is in the whitelist. -/
def Whitelisted (method : ScanProbeType) (state : PortState) (reason : ScanReason) : Prop :=
  validPortResultSemantics .tcp method state reason = true

/-- The verdicts on an ICMP error are in the whitelist of both raw probes. -/
theorem whitelisted_assessUnreachable {reported : ScanReason}
    (hmethod : method = .tcpSyn ∨ method = .tcpAck)
    (h : assessUnreachable reported = .ok (state, reason)) : Whitelisted method state reason := by
  unfold assessUnreachable at h
  split at h <;> cases h <;> rcases hmethod with rfl | rfl <;> rfl

/-- So is what a raw probe makes of a response, given what it makes of a segment. -/
theorem whitelisted_assessTcp {judge : TCP → Except StatusCode (PortState × ScanReason)}
    {response : PortResponse} {submission : PortSubmission}
    (hmethod : method = .tcpSyn ∨ method = .tcpAck)
    (hjudge : ∀ tcp, judge tcp = .ok (state, reason) → Whitelisted method state reason)
    (h : assessTcp judge response submission = .ok (state, reason)) :
    Whitelisted method state reason := by
  unfold assessTcp at h
  split at h
  · cases h
    rcases hmethod with rfl | rfl <;> rfl
  · exact whitelisted_assessUnreachable hmethod h
  · cases h
  · cases h
  · split_ifs at h
    split at h
    · cases h
    · split_ifs at h
      exact hjudge _ h

/-- **What a probe makes of a response** is in the whitelist of its method. -/
theorem whitelisted_assess {inet : Inet} {probe : PortProbe}
    (hprobe : probeFor inet method = some probe) {response : PortResponse}
    {submission : PortSubmission} (h : probe.assess response submission = .ok (state, reason)) :
    Whitelisted method state reason := by
  cases method with
  | tcpConnect =>
    cases hprobe
    have h : TcpConnectProbe.assess response submission = .ok (state, reason) := h
    unfold TcpConnectProbe.assess at h
    split at h
    · cases h
    split at h
    · cases h
      rfl
    · cases h
      rfl
    · split_ifs at h <;> cases h <;> rfl
    · cases h
    · cases h
  | tcpSyn =>
    cases hprobe
    have h : TcpSynProbe.assess response submission = .ok (state, reason) := h
    unfold TcpSynProbe.assess at h
    split_ifs at h
    refine whitelisted_assessTcp (.inl rfl) (fun tcp hjudge ↦ ?_) h
    unfold TcpSynProbe.judge at hjudge
    dsimp only at hjudge
    split_ifs at hjudge <;> cases hjudge <;> rfl
  | tcpAck =>
    cases hprobe
    have h : TcpAckProbe.assess response submission = .ok (state, reason) := h
    unfold TcpAckProbe.assess at h
    split_ifs at h
    refine whitelisted_assessTcp (.inr rfl) (fun tcp hjudge ↦ ?_) h
    unfold TcpAckProbe.judge at hjudge
    split_ifs at hjudge
    cases hjudge
    rfl
  | udp => cases hprobe

theorem whitelisted_timeout {inet : Inet} {probe : PortProbe}
    (hprobe : probeFor inet method = some probe) :
    Whitelisted method probe.timeoutState probe.timeoutReason := by
  cases method <;> cases hprobe <;> rfl

/-! ### The invariant -/

section Board

variable {ctx : SchedulerContext} {inet : Inet}

/-- The candidate of an attempt in flight, if it has one, is in the whitelist. -/
def CandidateWhitelisted (method : ScanProbeType) (pending : Pending) : Prop :=
  ∀ state ∈ pending.candidateState, Whitelisted method state pending.candidateReason

theorem candidateWhitelisted_observe (hmethod : method ≠ .udp) {pending : Pending}
    (hpending : CandidateWhitelisted method pending) (h : Whitelisted method state reason)
    (at_ : TimePoint) : CandidateWhitelisted method (Pending.observe pending state reason at_) := by
  unfold Pending.observe
  split
  · rintro _ ⟨⟩
    exact h
  · split
    · rintro _ ⟨⟩
      cases method <;> first | rfl | exact absurd rfl hmethod
    · exact hpending

/-- The results can be reported, and so can the candidates. -/
structure Board.Reportable (ctx : SchedulerContext) (b : Board) : Prop where
  results : ∀ result ∈ b.results, Reported ctx result ∧
    Whitelisted ctx.config.method result.state result.reason
  candidates : ∀ id pending, b.pending.lookup id = some pending →
    CandidateWhitelisted ctx.config.method pending

theorem Blamed.whitelisted (h : Blamed ctx result) (hmethod : ctx.config.method ≠ .udp) :
    Whitelisted ctx.config.method result.state result.reason := by
  rw [h.state]
  cases hm : ctx.config.method with
  | udp => exact absurd hm hmethod
  | _ => rcases h.reason with hreason | hreason | hreason <;> rw [hreason] <;> rfl

theorem Verdict.whitelisted {pending : Pending} (h : Verdict ctx pending state reason)
    (hprobe : ctx.probe = probeFor inet ctx.config.method)
    (hpending : CandidateWhitelisted ctx.config.method pending) :
    Whitelisted ctx.config.method state reason := by
  cases h with
  | assessed hsome hassess => exact whitelisted_assess (hprobe.symm.trans hsome) hassess
  | candidate hcandidate => exact hpending _ hcandidate
  | timedOut hsome => exact whitelisted_timeout (hprobe.symm.trans hsome)
  | conflict hmethod =>
    rw [hmethod]
    rfl

theorem Board.reportable_of_action (hprobe : ctx.probe = probeFor inet ctx.config.method)
    (hmethod : ctx.config.method ≠ .udp) {b b' : Board} (h : Action ctx b b')
    (hb : b.Reportable ctx) : b'.Reportable ctx := by
  have happend : ∀ result, Reported ctx result →
      Whitelisted ctx.config.method result.state result.reason →
        ∀ r ∈ b.results ++ [result], Reported ctx r ∧
          Whitelisted ctx.config.method r.state r.reason := fun result hreported hlisted ↦
    List.forall_mem_append.mpr
      ⟨hb.results, List.forall_mem_singleton.mpr ⟨hreported, hlisted⟩⟩
  have herase : ∀ id other pending, (b.pending.erase id).lookup other = some pending →
      CandidateWhitelisted ctx.config.method pending := by
    intro id other pending hlookup
    rw [AList.lookup_erase_eq_ite] at hlookup
    split_ifs at hlookup
    exact hb.candidates other pending hlookup
  cases h with
  | reject _ _ _ hblamed =>
    exact ⟨happend _ hblamed.toReported (hblamed.whitelisted hmethod), hb.candidates⟩
  | rejectFailing _ _ _ hblamed =>
    exact ⟨happend _ hblamed.toReported (hblamed.whitelisted hmethod), hb.candidates⟩
  | refuse _ _ _ hblamed =>
    exact ⟨happend _ hblamed.toReported (hblamed.whitelisted hmethod), hb.candidates⟩
  | @start id pending work queue limit _ _ _ _ hundecided =>
    refine ⟨hb.results, fun other p hlookup ↦ ?_⟩
    have hlookup : (b.pending.insert id pending).lookup other = some p := hlookup
    rw [AList.lookup_insert_eq_ite] at hlookup
    split_ifs at hlookup
    · obtain rfl := Option.some.inj hlookup
      rw [CandidateWhitelisted, hundecided]
      exact nofun
    · exact hb.candidates other p hlookup
  | @observe id pending state reason at_ hfound hassessed =>
    obtain ⟨probe, response, hsome, hassess⟩ := hassessed
    have hlisted := whitelisted_assess (hprobe.symm.trans hsome) hassess
    refine ⟨hb.results, fun other p hlookup ↦ ?_⟩
    have hlookup : (b.pending.replace id _).lookup other = some p := hlookup
    rw [AList.lookup_replace_eq_ite _ hfound] at hlookup
    split_ifs at hlookup
    · obtain rfl := Option.some.inj hlookup
      exact candidateWhitelisted_observe hmethod (hb.candidates id pending hfound) hlisted at_
    · exact hb.candidates other p hlookup
  | publish hfound _ _ hreported hverdict =>
    refine ⟨happend _ hreported ?_, herase _⟩
    exact hverdict.whitelisted hprobe (hb.candidates _ _ hfound)
  | defer => exact ⟨hb.results, herase _⟩
  | deferFailing _ _ _ hblamed =>
    exact ⟨happend _ hblamed.toReported (hblamed.whitelisted hmethod), herase _⟩

theorem Board.reportable_of_actions (hprobe : ctx.probe = probeFor inet ctx.config.method)
    (hmethod : ctx.config.method ≠ .udp) {b b' : Board} (h : Actions ctx b b')
    (hb : b.Reportable ctx) : b'.Reportable ctx :=
  Runs.steps_invariant (reportable_of_action hprobe hmethod) h hb

end Board

namespace PortScanScheduler

variable {ctx : SchedulerContext} {inet : Inet} {target : Target} {ports : List Port}

theorem reportable_step (hprobe : ctx.probe = probeFor inet ctx.config.method)
    (hmethod : ctx.config.method ≠ .udp) (s : PortScanScheduler) (event : Event)
    (hs : s.board.Reportable ctx) : (step ctx s event).board.Reportable ctx := by
  cases event with
  | receive response =>
    exact Board.reportable_of_actions hprobe hmethod (actions_receive ctx response s) hs
  | onTimeout id => exact Board.reportable_of_actions hprobe hmethod (actions_onTimeout ctx id s) hs
  | onRetryReady id =>
    obtain ⟨-, hsame⟩ | ⟨retry, -, hactions⟩ := actions_onRetryReady ctx id s
    · show (onRetryReady ctx id s).board.Reportable ctx
      rw [hsame]
      exact hs
    · exact Board.reportable_of_actions hprobe hmethod hactions ⟨hs.results, hs.candidates⟩
  | pump => exact Board.reportable_of_actions hprobe hmethod (actions_pump ctx s) hs

/-- A scheduler with a probe does not scan by UDP. -/
theorem Acceptable.method_ne_udp (h : Acceptable ctx target ports)
    (hprobe : ctx.probe = probeFor inet ctx.config.method) : ctx.config.method ≠ .udp := by
  intro hudp
  have hsome := h.probe
  rw [hprobe, hudp] at hsome
  exact nomatch hsome

/-- A result about a submitted pair, with a verdict in the whitelist. -/
theorem reportable_of_whitelisted (haccept : Acceptable ctx target ports)
    (hkey : result.key ∈ submittedPairs target ports) (hreported : Reported ctx result)
    (hlisted : Whitelisted ctx.config.method result.state result.reason) :
    result.Reportable .tcp ∧ result.target ∈ target.resolvedHosts.map Host.address := by
  obtain ⟨hhost, hport⟩ := List.mem_product.mp hkey
  obtain ⟨hprotocol, hnumber⟩ := haccept.ports_valid result.port hport
  refine ⟨⟨hprotocol, hnumber, ?_, hreported.rtt_nonneg⟩, hhost⟩
  rw [hreported.probe]
  exact hlisted

/-- **Every result can be reported**, in every run of every method, and its target is the address of
a submitted host. -/
theorem reportable_run (hprobe : ctx.probe = probeFor inet ctx.config.method) (target : Target)
    (ports : List Port) (events : List Event) :
    ∀ result ∈ (Runs.run (step ctx) (submit ctx target ports (create ctx)).2 events).results,
      result.Reportable .tcp ∧ result.target ∈ target.resolvedHosts.map Host.address := by
  set s := (submit ctx target ports (create ctx)).2 with hs
  obtain ⟨haccept, hvalid⟩ | ⟨hidle, hresults⟩ := submit_cases ctx target ports
  · have hmethod := haccept.method_ne_udp hprobe
    have htotal : ∑ location, (Runs.run (step ctx) s events).holding location =
        submittedPairs target ports :=
      (moves_run ctx s events).total_eq.trans
        (total_submit haccept.config hvalid haccept.ports_valid)
    rw [haccept.submit_eq_pump hvalid] at hs
    have hstart : s.board.Reportable ctx := by
      rw [hs, board_stopIfIdle]
      refine Board.reportable_of_actions hprobe hmethod (actions_pump ctx _) ⟨?_, ?_⟩
      · exact List.forall_mem_nil _
      · intro id pending hlookup
        exact nomatch hlookup
    have hrun := Runs.run_invariant (reportable_step hprobe hmethod) hstart events
    intro result hmem
    obtain ⟨hreported, hlisted⟩ := hrun.results result hmem
    refine reportable_of_whitelisted haccept ?_ hreported hlisted
    -- nothing is published but what was submitted
    have hheld : result.key ∈ ∑ location, (Runs.run (step ctx) s events).holding location := by
      rw [sum_location]
      refine Multiset.mem_add.mpr (.inr (Multiset.mem_add.mpr
        (.inr (Multiset.mem_add.mpr (.inr ?_)))))
      exact Multiset.mem_coe.mpr (List.mem_map_of_mem hmem)
    rw [htotal] at hheld
    exact Multiset.mem_coe.mp hheld
  · have hboard := board_run_of_idle ctx hidle events
    intro result hmem
    rw [← hs] at hboard
    have hsame : (Runs.run (step ctx) s events).results = s.results := congrArg Board.results hboard
    rw [hsame] at hmem
    obtain ⟨haccept, hblamed, hkey⟩ := hresults result hmem
    exact reportable_of_whitelisted haccept hkey hblamed.toReported
      (hblamed.whitelisted (haccept.method_ne_udp hprobe))

end PortScanScheduler

end Skan.PortScan
