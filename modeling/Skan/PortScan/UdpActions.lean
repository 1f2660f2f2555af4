import Skan.PortScan.Quiescence
import Skan.PortScan.UdpScan

/-!
# What the UDP scheduler can do

The same account of `UDPScheduler` as `Skan.PortScan.Actions` gives of the TCP scheduler: a board,
and the actions that change it one work item at a time. A UDP transport does not call back from
`submit`, so an iteration of the pump is exactly one action (`action_startProbe`).

**A source port that is taken is given back or held.** The many exit paths of `pump` are three
  actions.
On every failing path the port that was allocated is free again at the end, so the board's ports are
those from before (`freed_taken`); otherwise the port belongs to the probe that was entered.
-/

namespace Skan.PortScan

open Skan.Core Skan.Packet Skan.ScanEngine

namespace UDPScheduler

variable {port : UInt16} {s s' : UDPScheduler} {reason : ScanReason}

/-! ### Source ports -/

/-- The ports the scheduler may use. -/
def InSpan (port : UInt16) : Prop := firstEphemeralPort ≤ port ∧ port ≤ lastEphemeralPort

instance (port : UInt16) : Decidable (InSpan port) := inferInstanceAs (Decidable (_ ∧ _))

theorem inSpan_iff : InSpan port ↔ 40000 ≤ port.toNat ∧ port.toNat ≤ 60000 := by
  rw [InSpan, UInt16.le_iff_toNat_le, UInt16.le_iff_toNat_le]
  exact Iff.rfl

theorem val_portIndex (h : InSpan port) : (portIndex port).val = port.toNat - 40000 := by
  have hspan := inSpan_iff.mp h
  show (port.toNat - 40000) % 20001 = _
  exact Nat.mod_eq_of_lt (by omega)

/-- Different ports have different entries. -/
theorem portIndex_injective {port' : UInt16} (h : InSpan port) (h' : InSpan port')
    (heq : portIndex port = portIndex port') : port = port' := by
  have hval := congrArg Fin.val heq
  rw [val_portIndex h, val_portIndex h'] at hval
  have hspan := inSpan_iff.mp h
  have hspan' := inSpan_iff.mp h'
  exact UInt16.toNat_inj.mp (by omega)

/-- Every entry is that of a port. -/
theorem exists_portIndex_eq (i : Fin sourcePortSpan) : ∃ port, InSpan port ∧
    portIndex port = i := by
  have hi : i.val < 20001 := i.isLt
  have hport : (UInt16.ofNat (40000 + i.val)).toNat = 40000 + i.val := by
    rw [UInt16.toNat_ofNat']
    exact Nat.mod_eq_of_lt (by omega)
  have hspan : InSpan (UInt16.ofNat (40000 + i.val)) := by
    rw [inSpan_iff, hport]
    omega
  refine ⟨UInt16.ofNat (40000 + i.val), hspan, Fin.ext ?_⟩
  rw [val_portIndex hspan, hport]
  omega

/-- The ports once one of them is given back. -/
def freed (port : UInt16) (sourcePorts : Fin sourcePortSpan → Bool) : Fin sourcePortSpan → Bool :=
  if InSpan port then Function.update sourcePorts (portIndex port) false else sourcePorts

/-- The ports once one of them is taken. -/
def taken (port : UInt16) (sourcePorts : Fin sourcePortSpan → Bool) : Fin sourcePortSpan → Bool :=
  Function.update sourcePorts (portIndex port) true

/-- Giving back what was just taken undoes it. -/
theorem freed_taken (hspan : InSpan port) {sourcePorts : Fin sourcePortSpan → Bool}
    (hfree : sourcePorts (portIndex port) = false) :
    freed port (taken port sourcePorts) = sourcePorts := by
  rw [freed, if_pos hspan, taken, Function.update_idem, ← hfree, Function.update_eq_self]

/-- The port that `allocate_source_port` looks at first. -/
def candidate (s : UDPScheduler) : UInt16 :=
  if s.nextSourcePort < firstEphemeralPort ∨ s.nextSourcePort > lastEphemeralPort then
    firstEphemeralPort
  else s.nextSourcePort

theorem inSpan_candidate (s : UDPScheduler) : InSpan s.candidate := by
  unfold candidate
  split_ifs with hout
  · decide
  · rw [not_or, UInt16.not_lt, gt_iff_lt, UInt16.not_lt] at hout
    exact hout

/-- The port after another one, around the end. -/
def nextPort (port : UInt16) : UInt16 :=
  if port = lastEphemeralPort then firstEphemeralPort else port + 1

theorem toNat_nextPort (h : InSpan port) :
    (nextPort port).toNat = if port.toNat = 60000 then 40000 else port.toNat + 1 := by
  have hspan := inSpan_iff.mp h
  unfold nextPort
  by_cases hlast : port = lastEphemeralPort
  · rw [if_pos hlast, hlast]
    rfl
  · have hne : port.toNat ≠ 60000 := fun heq ↦ hlast (UInt16.toNat_inj.mp heq)
    rw [if_neg hlast, if_neg hne, UInt16.toNat_add]
    exact Nat.mod_eq_of_lt (by simp; omega)

theorem inSpan_nextPort (h : InSpan port) : InSpan (nextPort port) := by
  have hspan := inSpan_iff.mp h
  rw [inSpan_iff, toNat_nextPort h]
  split_ifs <;> omega

theorem candidate_of_inSpan (h : InSpan s.nextSourcePort) : s.candidate = s.nextSourcePort := by
  unfold candidate
  rw [if_neg]
  rw [not_or, UInt16.not_lt, gt_iff_lt, UInt16.not_lt]
  exact h

theorem allocateLoop_succ (attempts : ℕ) (s : UDPScheduler) :
    allocateLoop (attempts + 1) s =
      if s.sourcePorts (portIndex s.candidate) then
        allocateLoop attempts { s with nextSourcePort := nextPort s.candidate }
      else
        (some s.candidate,
          { s with
            nextSourcePort := nextPort s.candidate
            sourcePorts := taken s.candidate s.sourcePorts }) := rfl

/-- **What the search finds** is free, and taken now; nothing else changes but where the next search
starts. -/
theorem allocateLoop_some {attempts : ℕ} (h : allocateLoop attempts s = (some port, s')) :
    InSpan port ∧ s.sourcePorts (portIndex port) = false ∧
      s' = { s with
        nextSourcePort := s'.nextSourcePort
        sourcePorts := taken port s.sourcePorts } := by
  induction attempts generalizing s with
  | zero => cases h
  | succ attempts ih =>
    rw [allocateLoop_succ] at h
    split_ifs at h with htaken
    · exact ih (s := { s with nextSourcePort := nextPort s.candidate }) h
    · cases h
      exact ⟨inSpan_candidate s, by simpa using htaken, rfl⟩

/-- The place of a port, counted from another one around the end. -/
def placeFrom (start port : UInt16) : ℕ :=
    (port.toNat + sourcePortSpan - start.toNat) % sourcePortSpan

theorem placeFrom_nextPort {start : UInt16} (hstart : InSpan start) (hport : InSpan port)
    (hne : port ≠ start) : placeFrom start port = placeFrom (nextPort start) port + 1 := by
  have hs := inSpan_iff.mp hstart
  have hp := inSpan_iff.mp hport
  have hne' : port.toNat ≠ start.toNat := fun heq ↦ hne (UInt16.toNat_inj.mp heq)
  simp only [placeFrom, toNat_nextPort hstart, sourcePortSpan]
  split_ifs <;> omega

/-- **A search that finds nothing** has met every port up to its number of attempts, and all of them
were taken. -/
theorem allocateLoop_none {attempts : ℕ} (h : allocateLoop attempts s = (none, s')) :
    s' = { s with nextSourcePort := s'.nextSourcePort } ∧
      ∀ port, InSpan port → placeFrom s.candidate port < attempts →
        s.sourcePorts (portIndex port) = true := by
  induction attempts generalizing s with
  | zero =>
    cases h
    exact ⟨rfl, fun _ _ hlt ↦ absurd hlt (Nat.not_lt_zero _)⟩
  | succ attempts ih =>
    rw [allocateLoop_succ] at h
    split_ifs at h with htaken
    · obtain ⟨hstate, hmet⟩ := ih (s := { s with nextSourcePort := nextPort s.candidate }) h
      refine ⟨hstate, fun port hport hplace ↦ ?_⟩
      by_cases hfirst : port = s.candidate
      · rw [hfirst]
        exact htaken
      · refine hmet port hport ?_
        rw [candidate_of_inSpan (inSpan_nextPort (inSpan_candidate s))]
        rw [placeFrom_nextPort (inSpan_candidate s) hport hfirst] at hplace
        exact Nat.lt_of_succ_lt_succ hplace
    · cases h

/-- **The allocation fails only when every port is taken**: its attempts go once around. -/
theorem allocateSourcePort_eq_none_iff (s : UDPScheduler) :
    s.allocateSourcePort.1 = none ↔ ∀ i, s.sourcePorts i = true := by
  constructor
  · intro hnone i
    obtain ⟨port, hport, rfl⟩ := exists_portIndex_eq i
    have h : allocateLoop sourcePortSpan s = (none, s.allocateSourcePort.2) := by
      rw [← hnone]
      rfl
    exact (allocateLoop_none h).2 port hport (Nat.mod_lt _ (by decide))
  · intro hall
    by_contra hsome
    obtain ⟨port, hport⟩ := Option.ne_none_iff_exists'.mp hsome
    have h : allocateLoop sourcePortSpan s = (some port, s.allocateSourcePort.2) := by
      rw [← hport]
      rfl
    have hfree := (allocateLoop_some h).2.1
    rw [hall] at hfree
    exact absurd hfree (by decide)

/-! ### The board and its actions -/

/-- The host and the port of an item. -/
def WorkItem.key (work : WorkItem) : Text × Port := (work.host.address, work.port)

/-- The scheduler without its clock, its timers and its counters; of the trace only the failures. -/
structure Board where
  timing : Option TimingController
  queue : List WorkItem
  pending : KeyedStore UDPProbeId Pending
  sourcePorts : Fin sourcePortSpan → Bool
  results : List PortResult
  status : StatusCode
  submitted : Bool
  log : List Effect
  exhaustions : List (List UInt16)

/-- The source ports of the probes in flight. -/
def Board.held (b : Board) : List UInt16 :=
  b.pending.values.map fun pending ↦ pending.submission.sourcePort

/-- The entries of the trace the board keeps. -/
def Effect.isLogged : Effect → Bool
  | .failed _ _ => true
  | _ => false

/-- What holds of every published result. -/
structure Reported (result : PortResult) : Prop where
  probe : result.probe = .udp
  rtt_nonneg : ∀ rtt ∈ result.rttMs, 0 ≤ rtt

/-- A result that reports a failure of the scheduler or its transport. -/
structure Blamed (result : PortResult) : Prop extends Reported result where
  state : result.state = .error
  reason : result.reason = .invalidTarget ∨ result.reason = .internalError ∨
    result.reason = .capabilityUnavailable

/-- The verdicts a probe can end with. -/
inductive Verdict (ctx : Context) (pending : Pending) : PortState → ScanReason → Prop
  | assessed {response : UDPResponse} {state : PortState} {reason : ScanReason}
      (hassess : assess ctx response pending = some (state, reason)) :
      Verdict ctx pending state reason
  | candidate {state : PortState} (hcandidate : pending.candidateState = some state) :
      Verdict ctx pending state pending.candidateReason
  | timedOut : Verdict ctx pending .openOrFiltered .udpTimeout

/-- The board without a probe: its port is free again. -/
def Board.retire (b : Board) (id : UDPProbeId) (pending : Pending) : Board :=
  { b with
    pending := b.pending.erase id
    sourcePorts := freed pending.submission.sourcePort b.sourcePorts }

/-- A change of the board by one work item. -/
inductive Action (ctx : Context) : Board → Board → Prop
  /-- The head of the queue gets an Error result, for a cause the scheduler records in its
  status. -/
  | fail (b : Board) {work : WorkItem} {queue : List WorkItem} {result : PortResult}
      {status : StatusCode} (hstatus : b.status = .ok) (hqueue : b.queue = work :: queue)
      (hkey : result.key = work.key) (hblamed : Blamed result) (hfailed : status ≠ .ok) :
      Action ctx b
        { b with
          queue
          results := b.results ++ [result]
          status
          log := .failed status queue.length :: b.log }
  /-- The same, because no source port is free. -/
  | exhaust (b : Board) {work : WorkItem} {queue : List WorkItem} {result : PortResult}
      (hstatus : b.status = .ok) (hqueue : b.queue = work :: queue) (hkey : result.key = work.key)
      (hblamed : Blamed result) (hall : ∀ i, b.sourcePorts i = true) :
      Action ctx b
        { b with
          queue
          results := b.results ++ [result]
          status := .resourceExhausted
          log := .failed .resourceExhausted queue.length :: b.log
          exhaustions := b.held :: b.exhaustions }
  /-- The head of the queue goes in flight, under a fresh identifier and from a free port. -/
  | start (b : Board) {id : UDPProbeId} {pending : Pending} {work : WorkItem}
      {queue : List WorkItem}
      (hstatus : b.status = .ok) (hqueue : b.queue = work :: queue) (hfresh : id ∉ b.pending)
      (hwork : pending.work = work) (hundecided : pending.candidateState = none)
      (hspan : InSpan pending.submission.sourcePort)
      (hfree : b.sourcePorts (portIndex pending.submission.sourcePort) = false) :
      Action ctx b
        { b with
          queue
          pending := b.pending.insert id pending
          sourcePorts := taken pending.submission.sourcePort b.sourcePorts }
  /-- Evidence is recorded on a probe. -/
  | observe (b : Board) {id : UDPProbeId} {pending : Pending} (state : PortState)
      (reason : ScanReason) (at_ : TimePoint) (hlookup : b.pending.lookup id = some pending)
      (hassessed : ∃ response, assess ctx response pending = some (state, reason)) :
      Action ctx b
        { b with pending := b.pending.replace id (pending.observe state reason at_) }
  /-- A probe ends with a published result. -/
  | publish (b : Board) {id : UDPProbeId} {pending : Pending} {result : PortResult}
      {timing : Option TimingController} (hlookup : b.pending.lookup id = some pending)
      (htiming : TimingStep b.timing timing) (hkey : result.key = pending.work.key)
      (hreported : Reported result) (hverdict : Verdict ctx pending result.state result.reason) :
      Action ctx b { b.retire id pending with timing, results := b.results ++ [result] }

/-- A probe that timed out without evidence is queued again. -/
def Board.requeue (b : Board) (id : UDPProbeId) (pending : Pending)
    (timing : Option TimingController) : Board :=
  { b.retire id pending with
    timing
    queue := { pending.work with retryCount := pending.work.retryCount + 1 } :: b.queue }

/-- Any number of actions. -/
abbrev Actions (ctx : Context) : Board → Board → Prop := Relation.ReflTransGen (Action ctx)

/-- The board of a scheduler. -/
def board (s : UDPScheduler) : Board where
  timing := s.timing
  queue := s.queue
  pending := s.pending
  sourcePorts := s.sourcePorts
  results := s.results
  status := s.status
  submitted := s.submitted
  log := s.trace.filter Effect.isLogged
  exhaustions := s.exhaustions

variable (ctx : Context)

@[simp] theorem board_stopIfIdle (s : UDPScheduler) : s.stopIfIdle.board = s.board := by
  unfold stopIfIdle
  split <;> rfl

theorem board_releaseSourcePort (port : UInt16) (s : UDPScheduler) :
    (s.releaseSourcePort port).board =
      { s.board with sourcePorts := freed port s.board.sourcePorts } := by
  unfold releaseSourcePort freed
  split_ifs with h h' h' <;> first | rfl | exact absurd h h' | exact absurd h' h

theorem board_setStatus (status : StatusCode) (s : UDPScheduler) :
    (s.setStatus status).board =
      { s.board with status, log := .failed status s.board.queue.length :: s.board.log } := rfl

/-- What `append_terminal_result` publishes. -/
theorem board_appendTerminalResult (work : WorkItem) (state : PortState) (reason : ScanReason)
    (rttMs : Option ℚ) (s : UDPScheduler) :
    ∃ result : PortResult, result.key = work.key ∧ result.probe = .udp ∧ result.state = state ∧
      result.reason = reason ∧ result.rttMs = rttMs ∧
      (s.appendTerminalResult ctx work state reason rttMs).board =
        { s.board with results := s.board.results ++ [result] } :=
  ⟨_, rfl, rfl, rfl, rfl, rfl, rfl⟩

theorem rttMs_nonneg (startedAt endedAt : TimePoint) : 0 ≤ rttMs startedAt endedAt :=
  le_max_left _ _

/-- A probe that could not be started: an Error result, a failed status, and its port free again. -/
theorem board_failProbe (work : WorkItem) (sourcePort : UInt16)
    (hreason : reason = .invalidTarget ∨ reason = .internalError ∨ reason = .capabilityUnavailable)
    (status : StatusCode) (s : UDPScheduler) :
    ∃ result : PortResult, result.key = work.key ∧ Blamed result ∧
      (s.failProbe ctx work sourcePort reason status).board =
        { s.board with
          sourcePorts := freed sourcePort s.board.sourcePorts
          results := s.board.results ++ [result]
          status
          log := .failed status s.board.queue.length :: s.board.log } := by
  obtain ⟨result, hkey, hprobe, hstate, hreason', hrtt, happend⟩ :=
    board_appendTerminalResult ctx work .error reason none (s.releaseSourcePort sourcePort)
  refine ⟨result, hkey, ⟨⟨hprobe, by rw [hrtt]; exact nofun⟩, hstate, hreason' ▸ hreason⟩, ?_⟩
  rw [board_releaseSourcePort] at happend
  rw [failProbe, board_setStatus, happend]

/-! ### Starting a probe -/

section Start

variable {ctx} {b : Board} {work : WorkItem} {queue : List WorkItem} {sourcePort : UInt16}

/-- `s` is the board `b` with its head `work` in hand and a port taken for it. -/
structure InHand (b : Board) (work : WorkItem) (queue : List WorkItem) (sourcePort : UInt16)
    (s : UDPScheduler) : Prop where
  status_ok : b.status = .ok
  queue_eq : b.queue = work :: queue
  span : InSpan sourcePort
  free : b.sourcePorts (portIndex sourcePort) = false
  board_eq : s.board = { b with queue, sourcePorts := taken sourcePort b.sourcePorts }

/-- A probe in hand that fails leaves the ports as they were. -/
theorem InHand.action_failProbe (h : InHand b work queue sourcePort s)
    (hreason : reason = .invalidTarget ∨ reason = .internalError ∨ reason = .capabilityUnavailable)
    {status : StatusCode} (hfailed : status ≠ .ok) :
    Action ctx b (s.failProbe ctx work sourcePort reason status).board := by
  obtain ⟨result, hkey, hblamed, hboard⟩ := board_failProbe ctx work sourcePort hreason status s
  rw [h.board_eq] at hboard
  rw [hboard, freed_taken h.span h.free]
  exact Action.fail b h.status_ok h.queue_eq hkey hblamed hfailed

/-- Handing a probe over keeps it in flight or takes it back out. -/
theorem InHand.action_handOver {submission : UDPSubmission} {pending : Pending}
    (h : InHand b work queue submission.sourcePort s) (hfresh : submission.id ∉ s.pending)
    (hwork : pending.work = work) (hsubmission : pending.submission = submission)
    (hundecided : pending.candidateState = none) (timer : TimerId) :
    Action ctx b
      (handOver ctx work submission timer
        { s with pending := s.pending.insert submission.id pending }).board := by
  subst hsubmission
  have hpending : s.pending = b.pending := congrArg Board.pending h.board_eq
  unfold handOver
  dsimp only [transportSubmit]
  split
  · -- the board as entered: only the trace is longer
    have hs : ({ s with pending := s.pending.insert pending.submission.id pending }.record
        (.submitted pending.submission
          (ctx.environment.submit s.trace pending.submission))).board =
        { s.board with pending := s.board.pending.insert pending.submission.id pending } := rfl
    rw [hs, h.board_eq]
    exact Action.start b h.status_ok h.queue_eq (hpending ▸ hfresh) hwork hundecided h.span h.free
  · rename_i hrefused
    refine InHand.action_failProbe ⟨h.status_ok, h.queue_eq, h.span, h.free, ?_⟩ ?_ hrefused
    · show ({ s.board with
        pending := (s.pending.insert pending.submission.id pending).erase pending.submission.id } :
          Board) = _
      rw [AList.erase_insert _ hfresh, hpending, h.board_eq]
    · split_ifs
      · exact .inr (.inr rfl)
      · exact .inr (.inl rfl)

theorem InHand.action_launch {submission : UDPSubmission}
    (h : InHand b work queue submission.sourcePort s) :
    Action ctx b (launch ctx work submission s).board := by
  unfold launch
  dsimp only [readClock, schedule]
  set timer := ctx.environment.schedule (s.record .clockRead).trace
    ((s.record .clockRead).probeTimeout ctx)
  set s₂ := (s.record .clockRead).record
    (.timerScheduled ((s.record .clockRead).probeTimeout ctx) submission.id timer)
  have h₂ : InHand b work queue submission.sourcePort s₂ :=
    ⟨h.status_ok, h.queue_eq, h.span, h.free, h.board_eq⟩
  split_ifs
  · exact h₂.action_failProbe (.inr (.inl rfl)) StatusCode.internalError_ne_ok
  split
  · have h₃ : InHand b work queue submission.sourcePort (s₂.record (.timerCancelled timer)) :=
      ⟨h.status_ok, h.queue_eq, h.span, h.free, h.board_eq⟩
    exact h₃.action_failProbe (.inr (.inl rfl)) StatusCode.internalError_ne_ok
  · rename_i store hemplace
    obtain ⟨hfresh, rfl⟩ := AList.emplace_eq_some_iff.mp hemplace
    exact h₂.action_handOver hfresh (by rfl) (by rfl) (by rfl) timer

end Start

variable {ctx}

/-- **Starting a probe is one action**: the item fails, for one of the reasons `pump` knows, or goes
in flight. -/
theorem action_startProbe {work : WorkItem} {queue : List WorkItem} (hstatus : s.status = .ok)
    (hqueue : s.queue = work :: queue) :
    Action ctx s.board (startProbe ctx work { s with queue }).board := by
  unfold startProbe
  split
  · rename_i s₁ hallocate
    have hall : ∀ i, s.sourcePorts i = true := by
      refine (allocateSourcePort_eq_none_iff { s with queue }).mp ?_
      rw [hallocate]
    obtain ⟨hs₁, -⟩ := allocateLoop_none hallocate
    have hboard : s₁.board = { s.board with queue } := by
      rw [hs₁]
      rfl
    dsimp only
    set s₂ : UDPScheduler :=
      { s₁ with
        exhaustions := (s₁.pending.values.map fun pending ↦ pending.submission.sourcePort) ::
          s₁.exhaustions }
    have hboard₂ : s₂.board =
        { s.board with queue, exhaustions := s.board.held :: s.board.exhaustions } := by
      show ({ s₁.board with exhaustions := s₁.board.held :: s₁.board.exhaustions } : Board) = _
      rw [hboard]
      rfl
    obtain ⟨result, hkey, hprobe, hstate, hreason, hrtt, happend⟩ :=
      board_appendTerminalResult ctx work .error .internalError none s₂
    rw [board_setStatus, happend, hboard₂]
    exact Action.exhaust s.board hstatus hqueue hkey
      ⟨⟨hprobe, by rw [hrtt]; exact nofun⟩, hstate, .inr (.inl hreason)⟩ hall
  rename_i sourcePort s₁ hallocate
  obtain ⟨hspan, hfree, hs₁⟩ := allocateLoop_some hallocate
  have hinHand : InHand s.board work queue sourcePort s₁ := by
    refine ⟨hstatus, hqueue, hspan, hfree, ?_⟩
    rw [hs₁]
    rfl
  split
  · exact hinHand.action_failProbe (.inl rfl) (by decide)
  dsimp only
  split
  · exact hinHand.action_failProbe (.inr (.inl rfl)) StatusCode.internalError_ne_ok
  · exact InHand.action_launch
      ⟨hinHand.status_ok, hinHand.queue_eq, hinHand.span, hinHand.free, hinHand.board_eq⟩

theorem actions_pumpLoop (limit fuel : ℕ) (s : UDPScheduler) :
    Actions ctx s.board (pumpLoop ctx limit fuel s).board := by
  induction fuel generalizing s with
  | zero => exact .refl
  | succ fuel ih =>
    unfold pumpLoop
    split
    · exact .refl
    · rename_i work queue hqueue
      split_ifs with hguard
      · exact .head (action_startProbe hguard.1 hqueue) (ih _)
      · exact .refl

/-- **Pumping** is a sequence of actions. -/
theorem actions_pump (ctx : Context) (s : UDPScheduler) :
    Actions ctx s.board (pump ctx s).board := by
  rw [pump, board_stopIfIdle]
  exact actions_pumpLoop _ _ s

/-! ### Ending a probe -/

theorem board_retire (id : UDPProbeId) (pending : Pending) (s : UDPScheduler) :
    (s.retire id pending).board = s.board.retire id pending := by
  have hrelease := board_releaseSourcePort pending.submission.sourcePort
    (s.record (.submissionCancelled id))
  unfold retire
  dsimp only
  set released := (s.record (.submissionCancelled id)).releaseSourcePort
    pending.submission.sourcePort
  show ({ released.board with pending := released.board.pending.erase id } : Board) = _
  rw [hrelease]
  rfl

/-- A probe that is retired, and published with a verdict. -/
theorem actions_publish {id : UDPProbeId} {pending : Pending}
    (hlookup : s.pending.lookup id = some pending) (hs' : s'.board = s.board.retire id pending)
    {timing : Option TimingController} (htiming : TimingStep s.timing timing) {state : PortState}
    (hverdict : Verdict ctx pending state reason) {rtt : Option ℚ} (hrtt : ∀ r ∈ rtt, 0 ≤ r) :
    Actions ctx s.board
      (pump ctx
        { s'.appendTerminalResult ctx pending.work state reason rtt with timing }).board := by
  obtain ⟨result, hkey, hprobe, rfl, rfl, rfl, happend⟩ :=
    board_appendTerminalResult ctx pending.work state reason rtt s'
  refine .head ?_ (actions_pump ctx _)
  show Action ctx s.board
    { (s'.appendTerminalResult ctx pending.work result.state result.reason result.rttMs).board with
      timing }
  rw [happend, hs']
  exact Action.publish s.board hlookup htiming hkey ⟨hprobe, hrtt⟩ hverdict

theorem actions_completePending (id : UDPProbeId) {state : PortState} (completedAt : TimePoint)
    (s : UDPScheduler)
    (hverdict : ∀ pending, s.pending.lookup id = some pending → Verdict ctx pending state reason) :
    Actions ctx s.board (completePending ctx id state reason completedAt s).board := by
  unfold completePending
  split
  · exact .refl
  · rename_i pending hlookup
    have hretire := board_retire id pending (s.record (.timerCancelled pending.timerId))
    have htiming : ((s.record (.timerCancelled pending.timerId)).retire id pending).timing =
        s.timing := congrArg Board.timing hretire
    refine actions_publish hlookup hretire ?_ (hverdict pending hlookup) ?_
    · show TimingStep s.timing
        (((s.record (.timerCancelled pending.timerId)).retire id pending).timing.map _)
      rw [htiming]
      exact .response _ _
    · rintro rtt ⟨⟩
      exact rttMs_nonneg _ _

/-- **A response** completes its probe, is recorded on it, or is ignored. -/
theorem actions_receive (ctx : Context) (response : UDPResponse) (s : UDPScheduler) :
    Actions ctx s.board (receive ctx response s).board := by
  unfold receive
  split
  · exact .refl
  rename_i pending hlookup
  split
  · exact .refl
  rename_i state reason hassess
  -- reading the clock does not change the board
  split
  rename_i completedAt s' hclock
  have hboard : s'.board = s.board := by
    split at hclock <;> cases hclock <;> rfl
  have hpending : s'.pending = s.pending := congrArg Board.pending hboard
  rw [← hpending] at hlookup
  rw [← hboard]
  split_ifs
  · exact .refl
  · refine actions_completePending response.id completedAt s' fun other hother ↦ ?_
    obtain rfl : pending = other := Option.some.inj (hlookup.symm.trans hother)
    exact .assessed hassess
  · exact .single (Action.observe s'.board state reason completedAt hlookup ⟨response, hassess⟩)

/-- Whether a timeout of the probe queues its item again. -/
def Retries (ctx : Context) (s : UDPScheduler) (id : UDPProbeId) : Prop :=
  ∃ pending, s.pending.lookup id = some pending ∧ pending.candidateState = none ∧
    pending.work.retryCount < s.maxRetries ctx

/-- **A timeout** publishes, or queues the item again before it pumps. -/
theorem actions_onTimeout (ctx : Context) (id : UDPProbeId) (s : UDPScheduler) :
    Actions ctx s.board (onTimeout ctx id s).board ∨
      Retries ctx s id ∧ ∃ pending timing, s.pending.lookup id = some pending ∧
        TimingStep s.timing timing ∧
          Actions ctx (s.board.requeue id pending timing) (onTimeout ctx id s).board := by
  unfold onTimeout
  split
  · exact .inl .refl
  rename_i pending hlookup
  have hretire := board_retire id pending s
  have htiming : (s.retire id pending).timing = s.timing := congrArg Board.timing hretire
  dsimp only
  split
  · rename_i state hcandidate
    refine .inl (actions_publish hlookup hretire ?_ (.candidate hcandidate) ?_)
    · show TimingStep s.timing ((s.retire id pending).timing.map _)
      rw [htiming]
      exact .response _ _
    · rintro rtt ⟨⟩
      exact rttMs_nonneg _ _
  · rename_i hundecided
    have hstep : TimingStep s.timing
        ((s.retire id pending).timing.map TimingController.onTimeout) := by
      rw [htiming]
      exact .timeout _
    split_ifs with hbudget
    · have hpump : ∀ (s' : UDPScheduler) (b : Board), s'.board = b →
          Actions ctx b (pump ctx s').board := fun s' b h ↦ h ▸ actions_pump ctx s'
      refine .inr ⟨⟨pending, hlookup, hundecided, ?_⟩, pending, _, hlookup, hstep, hpump _ _ ?_⟩
      · -- a timeout does not change the profile, and so not the budget
        rw [maxRetries, htiming] at hbudget
        rw [maxRetries]
        cases htimer : s.timing <;> rw [htimer] at hbudget <;> exact hbudget
      · show ({ (s.retire id pending).board with
          timing := (s.retire id pending).timing.map TimingController.onTimeout
          queue := { pending.work with retryCount := pending.work.retryCount + 1 } ::
            (s.retire id pending).board.queue } : Board) = _
        rw [hretire]
        rfl
    · refine .inl (actions_publish hlookup ?_ hstep .timedOut nofun)
      exact hretire

/-! ### Submission -/

/-- Whether `submit` finds an address for the host. -/
def validHost (ctx : Context) (host : Host) : Bool := (parseTargetIp ctx host).isSome

variable (ctx) in
/-- The items that `submit` queues for a host. -/
def items (ports : List Port) (host : Host) : List WorkItem :=
  ports.map fun port ↦ { host, port, probeName := (ctx.database.forPort port.number).name }

/-- The board once `submit` has gone through the hosts; the invalid ones have these results. -/
def Board.accept (ctx : Context) (target : Target) (ports : List Port) (results : List PortResult)
    (b : Board) : Board :=
  { b with
    submitted := true
    queue := b.queue ++ (target.resolvedHosts.filter (validHost ctx)).flatMap (items ctx ports)
    results := b.results ++ results
    status := if target.resolvedHosts.all (validHost ctx) then b.status else .invalidArgument }

/-- The results of an invalid host: one Error per port. -/
theorem board_rejectHost (ctx : Context) (ports : List Port) (host : Host) (s : UDPScheduler) :
    ∃ results : List PortResult,
      (ports.foldl (fun s port ↦ s.appendTerminalResult ctx { host, port } .error .invalidTarget
        none)
          s).board = { s.board with results := s.board.results ++ results } ∧
        results.map PortResult.key = (ports.map fun port ↦ (host.address, port)) ∧
          ∀ result ∈ results, Blamed result := by
  induction ports generalizing s with
  | nil => exact ⟨[], by simp, rfl, List.forall_mem_nil _⟩
  | cons port ports ih =>
    obtain ⟨result, hkey, hprobe, hstate, hreason, hrtt, happend⟩ :=
      board_appendTerminalResult ctx { host, port } .error .invalidTarget none s
    obtain ⟨results, hboard, hkeys, hrest⟩ :=
      ih (s.appendTerminalResult ctx { host, port } .error .invalidTarget none)
    have hblamed : Blamed result :=
      ⟨⟨hprobe, by rw [hrtt]; exact nofun⟩, hstate, .inl hreason⟩
    refine ⟨result :: results, ?_, ?_, List.forall_mem_cons.mpr ⟨hblamed, hrest⟩⟩
    · rw [List.foldl_cons, hboard, happend]
      simp
    · rw [List.map_cons, List.map_cons, hkeys]
      exact congrArg (· :: _) hkey

/-- The loop of `submit` over the hosts: valid hosts are queued, invalid ones get Error results and
make the status `InvalidArgument`. -/
theorem board_submitHosts (ctx : Context) (ports : List Port) (hosts : List Host)
    (s : UDPScheduler) :
    ∃ results : List PortResult,
      (hosts.foldl (submitHost ctx ports) s).board =
        { s.board with
          queue := s.board.queue ++ (hosts.filter (validHost ctx)).flatMap (items ctx ports)
          results := s.board.results ++ results
          status := if hosts.all (validHost ctx) then s.board.status else .invalidArgument } ∧
        results.map PortResult.key =
          (hosts.filter fun host ↦ !validHost ctx host).map Host.address ×ˢ ports ∧
        ∀ result ∈ results, Blamed result := by
  induction hosts generalizing s with
  | nil => exact ⟨[], by simp, rfl, List.forall_mem_nil _⟩
  | cons host hosts ih =>
    obtain ⟨results, hboard, hkeys, hblamed⟩ := ih (submitHost ctx ports s host)
    rw [List.foldl_cons, hboard]
    cases hparse : parseTargetIp ctx host with
    | some address =>
      have hvalid : validHost ctx host = true := by rw [validHost, hparse]; rfl
      refine ⟨results, ?_, ?_, hblamed⟩
      · simp [submitHost, hparse, hvalid, board, items]
      · simp [hvalid, hkeys]
    | none =>
      have hinvalid : validHost ctx host = false := by rw [validHost, hparse]; rfl
      obtain ⟨rejected, hrejected, hrejectedKeys, hrejectedBlamed⟩ :=
        board_rejectHost ctx ports host s
      have hhost : (submitHost ctx ports s host).board =
          { s.board with
            results := s.board.results ++ rejected, status := .invalidArgument } := by
        unfold submitHost
        rw [hparse]
        show ({ (ports.foldl _ s).board with status := .invalidArgument } : Board) = _
        rw [hrejected]
      refine ⟨rejected ++ results, ?_, ?_, List.forall_mem_append.mpr ⟨hrejectedBlamed, hblamed⟩⟩
      · rw [hhost]
        simp [hinvalid]
      · simp [hinvalid, hkeys, hrejectedKeys, List.product_cons]

variable (ctx) in
/-- A submission that a fresh scheduler does not refuse. -/
structure Acceptable (target : Target) (ports : List Port) (s : UDPScheduler) : Prop where
  fresh : s.submitted = false
  config : s.validateConfig ctx = .ok
  hosts_ne_nil : target.resolvedHosts ≠ []
  ports_ne_nil : ports ≠ []
  ports_valid : ∀ port ∈ ports, port.protocol = .udp ∧ port.number ≠ 0

/-- **An accepted submission** goes through the hosts, and then pumps, or drops the queue because
the status is not `Ok`. -/
theorem Acceptable.submit_eq {target : Target} {ports : List Port}
    (h : Acceptable ctx target ports s) :
    ∃ (results : List PortResult) (s₁ : UDPScheduler),
      results.map PortResult.key =
        (target.resolvedHosts.filter fun host ↦ !validHost ctx host).map Host.address ×ˢ ports ∧
      (∀ result ∈ results, Blamed result) ∧
      s₁.board = s.board.accept ctx target ports results ∧
      (submit ctx target ports s).2 =
        (if s₁.status = .ok then pump ctx s₁ else { s₁ with queue := [] }).stopIfIdle := by
  obtain ⟨results, hboard, hkeys, hblamed⟩ :=
    board_submitHosts ctx ports target.resolvedHosts { s with submitted := true }
  refine ⟨results, target.resolvedHosts.foldl (submitHost ctx ports) { s with submitted := true },
    hkeys, hblamed, hboard, ?_⟩
  have hany : ports.any (fun port ↦ port.protocol ≠ .udp || port.number = 0) = false := by
    rw [List.any_eq_false]
    intro port hport
    obtain ⟨hudp, hnumber⟩ := h.ports_valid port hport
    simp [hudp, hnumber]
  have hhosts := h.hosts_ne_nil
  have hports := h.ports_ne_nil
  unfold submit
  rw [h.fresh, if_neg (by decide), if_neg (by rw [h.config]; decide), if_neg (by rw [hany]; tauto)]

/-- A submission is ignored, refused for the configuration or its arguments, or accepted. -/
theorem submit_cases (ctx : Context) (target : Target) (ports : List Port) (s : UDPScheduler) :
    (submit ctx target ports s).2 = s ∨
      (∃ status, (submit ctx target ports s).2 = { s with status }) ∨
      Acceptable ctx target ports s := by
  unfold submit
  split_ifs with hsubmitted hconfig hbad
  · exact .inl rfl
  · exact .inr (.inl ⟨_, rfl⟩)
  · exact .inr (.inl ⟨_, rfl⟩)
  · simp only [not_or, Bool.not_eq_true, List.any_eq_false, Bool.or_eq_false_iff,
      decide_eq_false_iff_not, not_not] at hbad
    exact .inr (.inr
      ⟨by simpa using hsubmitted, not_not.mp hconfig, hbad.1, hbad.2.1, hbad.2.2⟩)

end UDPScheduler

end Skan.PortScan
