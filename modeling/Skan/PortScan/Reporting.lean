import Skan.PortScan.ResultSemantics
import Skan.PortScan.UdpWork

/-!
# The results of every scan can be reported

The UDP scheduler's results are in the whitelist of `valid_port_result_semantics` as well, and with
them those of every scan (`results_reportable`): `validate_report` refuses no report for a port
result that a scanner published, unless a target without a text was submitted.

A `UDPScheduler` may be submitted to more than once, and ignores what comes after the first accepted
submission; so a result is about a pair of some submission (`Asked`).
-/

namespace Skan.PortScan

open Skan.Core Skan.ScanEngine

namespace UDPScheduler

variable {pending : Pending} {state : PortState} {reason : ScanReason}

/-- A verdict of the UDP scan that is in the whitelist. -/
def Whitelisted (state : PortState) (reason : ScanReason) : Prop :=
  validPortResultSemantics .udp .udp state reason = true

/-- **What `receive` makes of a response** is in the whitelist. -/
theorem whitelisted_assess {ctx : Context} {response : UDPResponse}
    (h : assess ctx response pending = some (state, reason)) : Whitelisted state reason := by
  unfold assess at h
  split at h
  · cases h
  split at h
  · -- a datagram: the only verdict is `Open`
    split at h
    · cases h
    unfold assessDatagram at h
    split at h
    · cases h
    · split at h
      · cases h
      · cases h
        rfl
  · cases h
    rfl
  · cases h
    rfl
  · cases h
    rfl
  · cases h
    rfl
  · cases h

/-- The candidate of a probe in flight, if it has one, is in the whitelist. -/
def CandidateWhitelisted (pending : Pending) : Prop :=
  ∀ state ∈ pending.candidateState, Whitelisted state pending.candidateReason

/-- Observing keeps to the table. -/
theorem candidateWhitelisted_observe (hpending : CandidateWhitelisted pending)
    (h : Whitelisted state reason) (at_ : TimePoint) :
    CandidateWhitelisted (pending.observe state reason at_) := by
  unfold Pending.observe
  split
  · rintro _ ⟨⟩
    exact h
  · split
    · rintro _ ⟨⟩
      rfl
    · exact hpending

theorem Blamed.whitelisted {result : PortResult} (h : Blamed result) :
    Whitelisted result.state result.reason := by
  rw [h.state]
  rcases h.reason with hreason | hreason | hreason <;> rw [hreason] <;> rfl

theorem Verdict.whitelisted {ctx : Context} (h : Verdict ctx pending state reason)
    (hpending : CandidateWhitelisted pending) : Whitelisted state reason := by
  cases h with
  | assessed hassess => exact whitelisted_assess hassess
  | candidate hcandidate => exact hpending _ hcandidate
  | timedOut => rfl

/-! ### The invariant -/

/-- The scheduler works on nothing but asked pairs, its results can be reported, and so can the
candidates. -/
structure Board.Reportable (asked : Text × Port → Prop) (b : Board) : Prop where
  queued : ∀ work ∈ b.queue, asked work.key
  pending : ∀ id pending, b.pending.lookup id = some pending →
    asked pending.work.key ∧ CandidateWhitelisted pending
  results : ∀ result ∈ b.results,
    asked result.key ∧ Reported result ∧ Whitelisted result.state result.reason

section Board

variable {ctx : Context} {asked : Text × Port → Prop} {b b' : Board}

theorem Board.Reportable.erase (hb : b.Reportable asked) {id other : UDPProbeId}
    (hlookup : (b.pending.erase id).lookup other = some pending) :
    asked pending.work.key ∧ CandidateWhitelisted pending := by
  rw [AList.lookup_erase_eq_ite] at hlookup
  split_ifs at hlookup
  exact hb.pending other pending hlookup

/-- **An action keeps results reportable.** -/
theorem Board.reportable_of_action (h : Action ctx b b') (hb : b.Reportable asked) :
    b'.Reportable asked := by
  have hqueued : ∀ work ∈ b'.queue, asked work.key := fun work hmem ↦
    hb.queued work ((queue_suffix_of_action h).subset hmem)
  have happend : ∀ result, asked result.key → Reported result →
      Whitelisted result.state result.reason → ∀ r ∈ b.results ++ [result],
        asked r.key ∧ Reported r ∧ Whitelisted r.state r.reason :=
          fun result hkey hreported hlisted ↦
    List.forall_mem_append.mpr
      ⟨hb.results, List.forall_mem_singleton.mpr ⟨hkey, hreported, hlisted⟩⟩
  cases h with
  | fail _ hqueue hkey hblamed =>
    have hasked := hb.queued _ (hqueue ▸ List.mem_cons_self)
    exact ⟨hqueued, hb.pending, happend _ (hkey ▸ hasked) hblamed.toReported hblamed.whitelisted⟩
  | exhaust _ hqueue hkey hblamed =>
    have hasked := hb.queued _ (hqueue ▸ List.mem_cons_self)
    exact ⟨hqueued, hb.pending, happend _ (hkey ▸ hasked) hblamed.toReported hblamed.whitelisted⟩
  | @start id pending work queue _ hqueue _ hwork hundecided =>
    have hasked := hb.queued work (hqueue ▸ List.mem_cons_self)
    refine ⟨hqueued, fun other p hlookup ↦ ?_, hb.results⟩
    have hlookup : (b.pending.insert id pending).lookup other = some p := hlookup
    rw [AList.lookup_insert_eq_ite] at hlookup
    split_ifs at hlookup
    · obtain rfl := Option.some.inj hlookup
      refine ⟨hwork ▸ hasked, ?_⟩
      rw [CandidateWhitelisted, hundecided]
      exact nofun
    · exact hb.pending other p hlookup
  | @observe id pending state reason at_ hfound hassessed =>
    obtain ⟨response, hassess⟩ := hassessed
    obtain ⟨hasked, hcandidate⟩ := hb.pending id pending hfound
    refine ⟨hqueued, fun other p hlookup ↦ ?_, hb.results⟩
    have hlookup : (b.pending.replace id _).lookup other = some p := hlookup
    rw [AList.lookup_replace_eq_ite _ hfound] at hlookup
    split_ifs at hlookup
    · obtain rfl := Option.some.inj hlookup
      rw [observe_work]
      exact ⟨hasked, candidateWhitelisted_observe hcandidate (whitelisted_assess hassess) at_⟩
    · exact hb.pending other p hlookup
  | publish hfound _ hkey hreported hverdict =>
    obtain ⟨hasked, hcandidate⟩ := hb.pending _ _ hfound
    refine ⟨hqueued, fun other p hlookup ↦ hb.erase hlookup, ?_⟩
    exact happend _ (hkey ▸ hasked) hreported (hverdict.whitelisted hcandidate)

theorem Board.reportable_of_actions (h : Actions ctx b b') (hb : b.Reportable asked) :
    b'.Reportable asked :=
  Runs.steps_invariant reportable_of_action h hb

/-- Queueing a probe's item again asks about the same pair. -/
theorem Board.reportable_requeue (hb : b.Reportable asked) {id : UDPProbeId}
    (hfound : b.pending.lookup id = some pending) (timing : Option TimingController) :
    (b.requeue id pending timing).Reportable asked where
  queued := List.forall_mem_cons.mpr ⟨(hb.pending id pending hfound).1, hb.queued⟩
  pending _ _ hlookup := hb.erase hlookup
  results := hb.results

end Board

/-- A pair with a UDP port that can be scanned, of some submission. -/
def Asked (events : List Event) (pair : Text × Port) : Prop :=
  (∃ target ports, .submit target ports ∈ events ∧
      pair ∈ PortScanScheduler.submittedPairs target ports) ∧
    pair.2.protocol = .udp ∧ pair.2.number ≠ 0

variable {ctx : Context} {events : List Event}

/-- So does a submission. -/
theorem reportable_submit {s : UDPScheduler} {target : Target} {ports : List Port}
    (hevent : .submit target ports ∈ events) (hs : s.board.Reportable (Asked events)) :
    (submit ctx target ports s).2.board.Reportable (Asked events) := by
  obtain hsame | ⟨status, hsame⟩ | haccept := submit_cases ctx target ports s
  · rw [hsame]
    exact hs
  · rw [hsame]
    exact ⟨hs.queued, hs.pending, hs.results⟩
  · obtain ⟨results, s₁, hkeys, hblamed, hboard, hsubmit⟩ := haccept.submit_eq
    -- the pairs of any of the hosts are asked about
    have hasked : ∀ (p : Host → Bool) (pair : Text × Port),
        pair ∈ (target.resolvedHosts.filter p).map Host.address ×ˢ ports → Asked events pair := by
      intro p pair hmem
      obtain ⟨hhost, hport⟩ := List.mem_product.mp hmem
      refine ⟨⟨target, ports, hevent, ?_⟩, haccept.ports_valid pair.2 hport⟩
      exact List.mem_product.mpr ⟨List.map_subset _ (List.filter_subset_self _) hhost, hport⟩
    have hs₁ : s₁.board.Reportable (Asked events) := by
      rw [hboard]
      refine ⟨List.forall_mem_append.mpr ⟨hs.queued, fun work hmem ↦ ?_⟩, hs.pending,
        List.forall_mem_append.mpr ⟨hs.results, fun result hmem ↦ ?_⟩⟩
      · refine hasked (validHost ctx) work.key ?_
        rw [← map_key_items ctx]
        exact List.mem_map_of_mem hmem
      · refine ⟨hasked (fun host ↦ !validHost ctx host) result.key ?_,
          (hblamed result hmem).toReported,
          (hblamed result hmem).whitelisted⟩
        rw [← hkeys]
        exact List.mem_map_of_mem hmem
    rw [hsubmit, board_stopIfIdle]
    split
    · exact Board.reportable_of_actions (actions_pump ctx s₁) hs₁
    · exact ⟨List.forall_mem_nil _, hs₁.pending, hs₁.results⟩

/-- And any event. -/
theorem reportable_step (s : UDPScheduler) (event : Event) (hevent : event ∈ events)
    (hs : s.board.Reportable (Asked events)) :
    (step ctx s event).board.Reportable (Asked events) := by
  cases event with
  | submit target ports => exact reportable_submit hevent hs
  | receive response => exact Board.reportable_of_actions (actions_receive ctx response s) hs
  | onTimeout id =>
    obtain hactions | ⟨-, pending, timing, hlookup, -, hactions⟩ := actions_onTimeout ctx id s
    · exact Board.reportable_of_actions hactions hs
    · exact Board.reportable_of_actions hactions (Board.reportable_requeue hs hlookup timing)

/-- **Every UDP result can be reported**, in every run, and its target is the address of a submitted
host. -/
theorem reportable_run (ctx : Context) (events : List Event) :
    ∀ result ∈ (Runs.run (step ctx) (create ctx) events).results,
      result.Reportable .udp ∧ ∃ target ports, .submit target ports ∈ events ∧
        result.target ∈ target.resolvedHosts.map Host.address := by
  have hfresh : (create ctx).board.Reportable (Asked events) := by
    refine ⟨fun _ h ↦ absurd h List.not_mem_nil, fun id p h ↦ ?_,
      fun _ h ↦ absurd h List.not_mem_nil⟩
    have h : (∅ : KeyedStore UDPProbeId Pending).lookup id = some p := h
    rw [AList.lookup_empty] at h
    exact nomatch h
  have hrun : (Runs.run (step ctx) (create ctx) events).board.Reportable (Asked events) :=
    Runs.run_invariant_within (I := fun s : UDPScheduler ↦ s.board.Reportable (Asked events))
      reportable_step hfresh (Runs.within_of_forall (fun event hmem _ ↦ hmem) _)
  intro result hmem
  obtain ⟨⟨⟨target, ports, hevent, hpair⟩, hprotocol, hnumber⟩, hreported, hlisted⟩ :=
    hrun.results result hmem
  refine ⟨⟨hprotocol, hnumber, ?_, hreported.rtt_nonneg⟩, target, ports, hevent,
    (List.mem_product.mp hpair).1⟩
  rw [hreported.probe]
  exact hlisted

end UDPScheduler

/-- **Schedulers only publish reportable results.** In every run of a `PortScanScheduler`, by any of
its methods, and of a `UDPScheduler`, with whatever responses, timeouts, retries and failures: every
result satisfies `valid_port_result_semantics`, and `validate_report` refuses a report for a result
only if its target text is empty, the text being the address of a submitted host. -/
theorem results_reportable (inet : Inet) (environment : Environment) (config : PortScanConfig)
    (target : Target) (ports : List Port) (events : List PortScanScheduler.Event)
    (udpCtx : UDPScheduler.Context) (udpEvents : List UDPScheduler.Event) :
    (let ctx := SchedulerContext.construct inet environment config
      ∀ result ∈ (Runs.run (PortScanScheduler.step ctx)
          (PortScanScheduler.submit ctx target ports (.create ctx)).2 events).results,
        validPortResultSemantics result.port.protocol result.probe result.state result.reason ∧
          (rejectsPortResult result ↔ result.target = []) ∧
          result.target ∈ target.resolvedHosts.map Host.address) ∧
      ∀ result ∈ (Runs.run (UDPScheduler.step udpCtx) (.create udpCtx) udpEvents).results,
        validPortResultSemantics result.port.protocol result.probe result.state result.reason ∧
          (rejectsPortResult result ↔ result.target = []) ∧
          ∃ target ports, .submit target ports ∈ udpEvents ∧
            result.target ∈ target.resolvedHosts.map Host.address := by
  refine ⟨fun result hmem ↦ ?_, fun result hmem ↦ ?_⟩
  · obtain ⟨hreportable, htarget⟩ :=
      @PortScanScheduler.reportable_run _ inet rfl target ports events result hmem
    refine ⟨?_, hreportable.rejects_iff, htarget⟩
    rw [hreportable.protocol_eq]
    exact hreportable.semantics
  · obtain ⟨hreportable, htarget⟩ := UDPScheduler.reportable_run udpCtx udpEvents result hmem
    refine ⟨?_, hreportable.rejects_iff, htarget⟩
    rw [hreportable.protocol_eq]
    exact hreportable.semantics

end Skan.PortScan
