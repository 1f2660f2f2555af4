import Skan.PortScan.UdpScan

/-!
# UDP probes in flight

What `UDPScheduler` makes sure of for every probe it has in flight (`Launched`), over every run: the
submission is for the work item, to the address its host is resolved to, within the limits of the
probe's definition, and no clock reading precedes its start.

Most of what a step does takes probes away and asks the world something (`Narrows`); only `launch`
enters a probe, and only `receive` changes one.
-/

namespace Skan.PortScan

open Skan.Core Skan.Packet Skan.ScanEngine

namespace UDPScheduler

variable {ctx : Context} {s s' : UDPScheduler}

/-- What holds of a probe in flight, at a trace of its scheduler. -/
structure Launched (ctx : Context) (trace : List Effect) (id : UDPProbeId)
    (p : Pending) : Prop where
  id_eq : p.submission.id = id
  target_eq : p.submission.target = p.work.host.address
  port_eq : p.submission.port = p.work.port
  destination_eq : parseTargetIp ctx p.work.host = some p.submission.destinationIp
  maxResponseBytes_eq :
    p.submission.maxResponseBytes = (ctx.database.forPort p.work.port.number).maxResponseBytes
  startedAt_le : p.startedAt ≤ ctx.environment.now trace

theorem Launched.mono (hsteady : ctx.environment.Steady) {trace trace' : List Effect}
    {id : UDPProbeId} {p : Pending} (h : Launched ctx trace id p)
    (htrace : trace <:+ trace') : Launched ctx trace' id p :=
  { h with startedAt_le := h.startedAt_le.trans (hsteady _ _ htrace) }

/-- Evidence leaves what was launched alone. -/
theorem Launched.observe {trace : List Effect} {id : UDPProbeId} {p : Pending}
    (h : Launched ctx trace id p) (state : PortState) (reason : ScanReason) (at_ : TimePoint) :
    Launched ctx trace id (p.observe state reason at_) := by
  obtain ⟨hid, htarget, hport, hdestination, hmax, hstarted⟩ := h
  rw [Pending.observe]
  split
  · exact ⟨hid, htarget, hport, hdestination, hmax, hstarted⟩
  · split_ifs
    · exact ⟨hid, htarget, hport, hdestination, hmax, hstarted⟩
    · exact ⟨hid, htarget, hport, hdestination, hmax, hstarted⟩

def AllLaunched (ctx : Context) (s : UDPScheduler) : Prop :=
  ∀ id p, s.pending.lookup id = some p → Launched ctx s.trace id p

/-- Nothing new in flight, and the trace is longer. -/
structure Narrows (s s' : UDPScheduler) : Prop where
  pending : ∀ id p, s'.pending.lookup id = some p → s.pending.lookup id = some p
  trace : s.trace <:+ s'.trace

theorem AllLaunched.of_narrows (hsteady : ctx.environment.Steady) (h : AllLaunched ctx s)
    (hn : Narrows s s') : AllLaunched ctx s' :=
  fun id p hp ↦ (h id p (hn.pending id p hp)).mono hsteady hn.trace

namespace Narrows

variable {s s' s'' : UDPScheduler}

theorem refl (s : UDPScheduler) : Narrows s s := ⟨fun _ _ h ↦ h, List.suffix_rfl⟩

theorem trans (h : Narrows s s') (h' : Narrows s' s'') : Narrows s s'' :=
  ⟨fun id p hp ↦ h.pending id p (h'.pending id p hp), h.trace.trans h'.trace⟩

/-- A state with the pending probes and the trace of another. -/
theorem of_eq (hpending : s'.pending = s.pending) (htrace : s'.trace = s.trace) : Narrows s s' :=
  ⟨fun _ _ hp ↦ hpending ▸ hp, htrace ▸ List.suffix_rfl⟩

theorem record (e : Effect) (s : UDPScheduler) : Narrows s (s.record e) :=
  ⟨fun _ _ h ↦ h, List.suffix_cons _ _⟩

theorem setStatus (status : StatusCode) (s : UDPScheduler) : Narrows s (s.setStatus status) :=
  ⟨fun _ _ h ↦ h, List.suffix_cons _ _⟩

theorem erase (id : UDPProbeId) (s : UDPScheduler) :
    Narrows s { s with pending := s.pending.erase id } := by
  refine ⟨fun id' p hp ↦ ?_, List.suffix_rfl⟩
  rcases eq_or_ne id' id with rfl | hne
  · exact absurd hp (by simp)
  · rwa [AList.lookup_erase_ne hne] at hp

theorem appendTerminalResult (ctx : Context) (work : WorkItem) (state : PortState)
    (reason : ScanReason)
    (rtt : Option ℚ) (s : UDPScheduler) :
    Narrows s (s.appendTerminalResult ctx work state reason rtt) :=
  ⟨fun _ _ h ↦ h, List.suffix_cons _ _⟩

theorem releaseSourcePort (port : UInt16) (s : UDPScheduler) :
    Narrows s (s.releaseSourcePort port) := by
  rw [UDPScheduler.releaseSourcePort]
  split_ifs
  · exact of_eq rfl rfl
  · exact refl s

theorem retire (id : UDPProbeId) (p : Pending) (s : UDPScheduler) : Narrows s (s.retire id p) :=
  ((record _ s).trans (releaseSourcePort _ _)).trans (erase id _)

theorem failProbe (work : WorkItem) (port : UInt16) (reason : ScanReason) (status : StatusCode)
    (s : UDPScheduler) : Narrows s (s.failProbe ctx work port reason status) := by
  have hresult : Narrows s ((s.releaseSourcePort port).appendTerminalResult ctx work .error reason
      none) := (releaseSourcePort port s).trans (appendTerminalResult _ _ _ _ _ _)
  exact hresult.trans (setStatus status _)

theorem stopIfIdle (s : UDPScheduler) : Narrows s s.stopIfIdle := by
  rw [UDPScheduler.stopIfIdle]
  split_ifs
  · exact record _ s
  · exact refl s

theorem allocateLoop (attempts : ℕ) (s : UDPScheduler) :
    Narrows s (UDPScheduler.allocateLoop attempts s).2 := by
  induction attempts generalizing s with
  | zero => exact refl s
  | succ attempts ih =>
    rw [UDPScheduler.allocateLoop]
    dsimp only
    generalize (if s.nextSourcePort < firstEphemeralPort ∨ s.nextSourcePort > lastEphemeralPort then
      firstEphemeralPort else s.nextSourcePort) = candidate
    split
    · refine trans ?_ (ih _)
      exact of_eq rfl rfl
    · exact of_eq rfl rfl

end Narrows

/-! ### Hosts -/

theorem narrows_rejectHost (ctx : Context) (host : Host) (ports : List Port) (s : UDPScheduler) :
    Narrows s
      (ports.foldl
        (fun s port ↦ s.appendTerminalResult ctx { host, port } .error .invalidTarget none) s) := by
  induction ports generalizing s with
  | nil => exact Narrows.refl s
  | cons port ports ih => exact (Narrows.appendTerminalResult _ _ _ _ _ _).trans (ih _)

theorem narrows_submitHost (ctx : Context) (ports : List Port) (s : UDPScheduler) (host : Host) :
    Narrows s (submitHost ctx ports s host) := by
  rw [submitHost]
  split
  · exact (narrows_rejectHost ctx host ports s).trans (Narrows.of_eq rfl rfl)
  · exact Narrows.of_eq rfl rfl

theorem narrows_submitHosts (ctx : Context) (ports : List Port) (hosts : List Host)
    (s : UDPScheduler) : Narrows s (hosts.foldl (submitHost ctx ports) s) := by
  induction hosts generalizing s with
  | nil => exact Narrows.refl s
  | cons host hosts ih => exact (narrows_submitHost ctx ports s host).trans (ih _)

/-! ### Every run -/

section Run

variable (hsteady : ctx.environment.Steady)

include hsteady

section

variable (h : AllLaunched ctx s)

include h

/-- Handing over keeps what was entered, or takes it back out. -/
theorem allLaunched_handOver {work : WorkItem} {submission : UDPSubmission} {entered : Pending}
    (hentered : Launched ctx s.trace submission.id entered) (timer : TimerId) :
    AllLaunched ctx
      (handOver ctx work submission timer
        { s with pending := s.pending.insert submission.id entered }) := by
  have hinserted : AllLaunched ctx { s with pending := s.pending.insert submission.id entered
      } := by
    intro id p hp
    rcases eq_or_ne id submission.id with rfl | hne
    · obtain rfl : entered = p := Option.some.inj ((AList.lookup_insert _).symm.trans hp)
      exact hentered
    · exact h id p ((AList.lookup_insert_ne hne).symm.trans hp)
  rw [handOver]
  dsimp only [transportSubmit]
  split
  · exact hinserted.of_narrows hsteady (Narrows.record _ _)
  · refine hinserted.of_narrows hsteady ?_
    refine Narrows.trans ?_ (Narrows.failProbe _ _ _ _ _)
    refine Narrows.trans ?_ (Narrows.erase _ _)
    exact (Narrows.record _ _).trans (Narrows.record _ _)

/-- `launch` enters a probe that was launched, if any. -/
theorem allLaunched_launch {work : WorkItem} {submission : UDPSubmission}
    (htarget : submission.target = work.host.address) (hport : submission.port = work.port)
    (hdestination : parseTargetIp ctx work.host = some submission.destinationIp)
    (hmax : submission.maxResponseBytes =
      (ctx.database.forPort work.port.number).maxResponseBytes) :
    AllLaunched ctx (launch ctx work submission s) := by
  rw [launch]
  dsimp only [readClock, schedule]
  set timer := ctx.environment.schedule (s.record .clockRead).trace
    ((s.record .clockRead).probeTimeout ctx)
  set s₂ := (s.record .clockRead).record
    (.timerScheduled ((s.record .clockRead).probeTimeout ctx) submission.id timer)
  have hn : Narrows s s₂ := (Narrows.record _ _).trans (Narrows.record _ _)
  split_ifs
  · exact h.of_narrows hsteady (hn.trans (Narrows.failProbe _ _ _ _ _))
  split
  · exact h.of_narrows hsteady
      (hn.trans ((Narrows.record _ _).trans (Narrows.failProbe _ _ _ _ _)))
  · rename_i pending hpending
    obtain ⟨-, rfl⟩ := AList.emplace_eq_some_iff.mp hpending
    have hentered : Launched ctx s₂.trace submission.id
        { work, submission, startedAt := ctx.environment.now s.trace, timerId := timer } :=
      ⟨rfl, htarget, hport, hdestination, hmax, hsteady _ _ hn.trace⟩
    exact allLaunched_handOver hsteady (h.of_narrows hsteady hn) hentered timer

/-- A started probe was launched. -/
theorem allLaunched_startProbe (work : WorkItem) : AllLaunched ctx (startProbe ctx work s) := by
  have hallocated : Narrows s s.allocateSourcePort.2 := Narrows.allocateLoop _ s
  rw [startProbe]
  split
  · rename_i s₁ hs₁
    rw [hs₁] at hallocated
    refine h.of_narrows hsteady (Narrows.trans ?_ (Narrows.setStatus _ _))
    refine Narrows.trans ?_ (Narrows.appendTerminalResult _ _ _ _ _ _)
    exact hallocated.trans (Narrows.of_eq rfl rfl)
  rename_i sourcePort s₁ hs₁
  rw [hs₁] at hallocated
  split
  · exact h.of_narrows hsteady (hallocated.trans (Narrows.failProbe _ _ _ _ _))
  rename_i destination hdestination
  dsimp only
  split
  · exact h.of_narrows hsteady (hallocated.trans (Narrows.failProbe _ _ _ _ _))
  · refine allLaunched_launch hsteady ?_ rfl rfl hdestination rfl
    exact h.of_narrows hsteady (hallocated.trans (Narrows.of_eq rfl rfl))

theorem allLaunched_pumpLoop (limit fuel : ℕ) : AllLaunched ctx (pumpLoop ctx limit fuel s) := by
  induction fuel generalizing s with
  | zero => exact h
  | succ fuel ih =>
    rw [pumpLoop]
    split
    · exact h
    · rename_i work queue hqueue
      have hs : AllLaunched ctx { s with queue } := h.of_narrows hsteady (Narrows.of_eq rfl rfl)
      split_ifs
      · exact ih (allLaunched_startProbe hsteady hs work)
      · exact h

theorem allLaunched_pump : AllLaunched ctx (pump ctx s) :=
  (allLaunched_pumpLoop hsteady h _ _).of_narrows hsteady (Narrows.stopIfIdle _)

/-- Whatever takes probes away, and then pumps. -/
theorem allLaunched_pump_of_narrows (hn : Narrows s s') : AllLaunched ctx (pump ctx s') :=
  allLaunched_pump hsteady (h.of_narrows hsteady hn)

/-- A result is published and the timing adapted, and the pump is run. -/
theorem allLaunched_publish (hn : Narrows s s') (work : WorkItem) (state : PortState)
    (reason : ScanReason) (rtt : Option ℚ) (timing : Option TimingController) :
    AllLaunched ctx
      (pump ctx { s'.appendTerminalResult ctx work state reason rtt with timing }) := by
  have hresult := hn.trans (Narrows.appendTerminalResult ctx work state reason rtt s')
  exact allLaunched_pump_of_narrows hsteady h (hresult.trans (Narrows.of_eq rfl rfl))

theorem allLaunched_completePending (id : UDPProbeId) (state : PortState) (reason : ScanReason)
    (completedAt : TimePoint) :
    AllLaunched ctx (completePending ctx id state reason completedAt s) := by
  rw [completePending]
  split
  · exact h
  · exact allLaunched_publish hsteady h ((Narrows.record _ s).trans (Narrows.retire _ _ _)) _ _ _ _
      _

/-- A response keeps it so. -/
theorem allLaunched_receive (response : UDPResponse) :
    AllLaunched ctx (receive ctx response s) := by
  rw [receive]
  split
  · exact h
  rename_i pending hpending
  split
  · exact h
  rename_i state reason hassess
  -- reading the clock or not
  have hread : ∀ completedAt s', Narrows s s' → s'.pending = s.pending →
      AllLaunched ctx
        (if completedAt < pending.startedAt then s'
        else if state = .error then completePending ctx response.id state reason completedAt s'
        else
          { s' with
            pending := s'.pending.replace response.id
              (pending.observe state reason completedAt) }) := by
    intro completedAt s' hn hsame
    have hs' := h.of_narrows hsteady hn
    split_ifs
    · exact hs'
    · exact allLaunched_completePending hsteady hs' _ _ _ _
    · intro id p hp
      have hfound : s'.pending.lookup response.id = some pending := hsame ▸ hpending
      rcases eq_or_ne id response.id with rfl | hne
      · obtain rfl := Option.some.inj ((AList.lookup_replace _ hfound).symm.trans hp)
        exact (hs' _ _ hfound).observe state reason completedAt
      · exact hs' id p ((AList.lookup_replace_ne hne _ hfound).symm.trans hp)
  by_cases hat : response.receivedAt = 0
  · rw [if_pos hat]
    exact hread _ _ (Narrows.record _ _) rfl
  · rw [if_neg hat]
    exact hread _ _ (Narrows.refl s) rfl

theorem allLaunched_onTimeout (id : UDPProbeId) : AllLaunched ctx (onTimeout ctx id s) := by
  rw [onTimeout]
  split
  · exact h
  rename_i pending hpending
  have hn : Narrows s (s.retire id pending) := Narrows.retire id pending s
  dsimp only
  split
  · exact allLaunched_publish hsteady h hn _ _ _ _ _
  · have ht : Narrows s
        { s.retire id pending with
          timing := (s.retire id pending).timing.map TimingController.onTimeout } :=
      hn.trans (Narrows.of_eq rfl rfl)
    split_ifs
    · exact allLaunched_pump_of_narrows hsteady h (ht.trans (Narrows.of_eq rfl rfl))
    · exact allLaunched_pump_of_narrows hsteady h
        (ht.trans (Narrows.appendTerminalResult _ _ _ _ _ _))

theorem allLaunched_submit (target : Target) (ports : List Port) :
    AllLaunched ctx (submit ctx target ports s).2 := by
  rw [submit]
  split
  · exact h
  split
  · exact h.of_narrows hsteady (Narrows.of_eq rfl rfl)
  split
  · exact h.of_narrows hsteady (Narrows.of_eq rfl rfl)
  dsimp only
  have hstart : Narrows s { s with submitted := true } := Narrows.of_eq rfl rfl
  have hn := hstart.trans (narrows_submitHosts ctx ports target.resolvedHosts _)
  set s₁ := target.resolvedHosts.foldl (submitHost ctx ports) { s with submitted := true }
  split
  · exact (allLaunched_pump_of_narrows hsteady h hn).of_narrows hsteady (Narrows.stopIfIdle _)
  · have hcleared : Narrows s { s₁ with queue := [] } := hn.trans (Narrows.of_eq rfl rfl)
    exact h.of_narrows hsteady (hcleared.trans (Narrows.stopIfIdle _))

/-- **Every event keeps what is in flight launched.** -/
theorem allLaunched_step (event : Event) : AllLaunched ctx (step ctx s event) := by
  cases event with
  | submit target ports => exact allLaunched_submit hsteady h target ports
  | receive response => exact allLaunched_receive hsteady h response
  | onTimeout id => exact allLaunched_onTimeout hsteady h id

end

/-- **Every probe in flight was launched**, in every state the scheduler reaches. -/
theorem allLaunched_run (events : List Event) :
    AllLaunched ctx (Runs.run (step ctx) (create ctx) events) :=
  Runs.run_invariant (I := AllLaunched ctx) (fun _ event h ↦ allLaunched_step hsteady h event)
    (fun _ _ h ↦ absurd h (by simp [create])) events

end Run

end UDPScheduler

end Skan.PortScan
