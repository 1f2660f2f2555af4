import Skan.OsDetect.Scheduler

/-!
# How an OS scan comes to its result

`pump` starts probes only while the status is `Ok`, which it never is again after a failure, and
`finish_terminal` waits for an empty queue. So a failure with probes still queued leaves the
scheduler at rest without a result, for good.

* `finished_of_harmless` is when this cannot happen: the submission is accepted, no failure strikes
  while probes are queued, none is followed by a retry, and `stop` is not what ends a failed scan.
  Then a scheduler at rest has an empty queue, has stopped the engine, and has its one result.
* `probes_stuck` is the converse mechanism.

## What carries the proof

Between two events a scheduler that works as intended is `Live` or `Done`. `Ready` is what `pump`
needs to lead to one of them, and `Progress` the part of the state that starting a probe can change
in one way only: by a failure.
-/

namespace Skan.OsDetect.OSScheduler

open Skan.Core Skan.PortScan Skan.ScanEngine

variable {τ : Type} {ctx : Context τ} {s : OSScheduler τ} {target : Target} {r : OSDetectionResult}

/-! ### Progress -/

/-- The status and queue length of a failure. -/
def Effect.failure : Effect → Option (StatusCode × ℕ)
  | .failed status queued => some (status, queued)
  | _ => none

/-- The failures to start a probe so far, each with the number of probes then queued. -/
def failures (s : OSScheduler τ) : List (StatusCode × ℕ) := s.trace.filterMap Effect.failure

/-- The part of the state the end of a scan depends on, but for the probes in flight. -/
structure Progress where
  queue : List WorkItem
  result : Option OSDetectionResult
  submitted : Bool
  timing : Option TimingController
  status : StatusCode
  failures : List (StatusCode × ℕ)

def progress (s : OSScheduler τ) : Progress where
  queue := s.queue
  result := s.result
  submitted := s.submitted
  timing := s.timing
  status := s.status
  failures := s.failures

theorem progress_of_queue {queue : List WorkItem} (h : s.queue = queue) :
    s.progress = { s.progress with queue } :=
  congrArg (fun queue ↦ { s.progress with queue }) h

/-- What a failure with the given status changes. -/
def Progress.fail (status : StatusCode) (p : Progress) : Progress :=
  { p with status, failures := (status, p.queue.length) :: p.failures }

/-- The two ways to start a probe, or not to. -/
def Started (p p' : Progress) : Prop := p' = p ∨ ∃ status, status ≠ .ok ∧ p' = p.fail status

theorem started_handOver (id : OSProbeId) (timer : TimerId) (submission : OSProbeSubmission)
    (s : OSScheduler τ) : Started s.progress (s.handOver ctx id timer submission).progress := by
  rw [handOver]
  dsimp only
  split_ifs with hstatus
  · exact .inr ⟨_, hstatus, rfl⟩
  · exact .inl rfl

theorem started_enterPending (id : OSProbeId) (work : WorkItem) (submission : OSProbeSubmission)
    (s : OSScheduler τ) : Started s.progress (s.enterPending ctx id work submission).progress := by
  rw [enterPending]
  dsimp only
  split_ifs with htimer
  · exact .inr ⟨_, StatusCode.internalError_ne_ok, rfl⟩
  · split
    · exact .inr ⟨_, StatusCode.internalError_ne_ok, rfl⟩
    · exact started_handOver _ _ _ _

theorem started_startOrRetry (ctx : Context τ) (work : WorkItem) (s : OSScheduler τ) :
    Started s.progress (s.startOrRetry ctx work).progress := by
  rw [startOrRetry]
  dsimp only
  split_ifs
  · exact .inl rfl
  · cases DefinedOSProbe.build ctx.inet work.type s.nextId work.host (s.probeConfig ctx work) with
    | error => exact .inl rfl
    | ok submission =>
      have hnext : { s with nextId := s.nextId + 1 }.progress = s.progress := rfl
      rw [← hnext]
      exact started_enterPending s.nextId work submission _

/-- After a failure the loop of `pump` starts nothing. -/
theorem pumpLoop_of_failed {fuel limit : ℕ} (h : s.status ≠ .ok) :
    s.pumpLoop ctx fuel limit = s := by
  cases fuel with
  | zero => rfl
  | succ fuel =>
    rw [pumpLoop]
    split
    · rfl
    · rw [if_neg fun hboth ↦ h hboth.1]

/-- How the loop of `pump` ends: the queue has shrunk, and unless a failure ended the loop, it is
empty or the limit is reached. -/
theorem pumpLoop_spec (ctx : Context τ) (fuel limit : ℕ) (s : OSScheduler τ)
    (hfuel : s.queue.length ≤ fuel) (hstatus : s.status = .ok) :
    ∃ queue, queue <:+ s.queue ∧
      ((s.pumpLoop ctx fuel limit).progress = { s.progress with queue } ∧
          (queue = [] ∨ limit ≤ (s.pumpLoop ctx fuel limit).pending.size) ∨
        ∃ status, status ≠ .ok ∧
          (s.pumpLoop ctx fuel limit).progress = { s.progress with queue }.fail status) := by
  induction fuel generalizing s with
  | zero =>
    have hempty : s.queue = [] := List.length_eq_zero_iff.mp (Nat.le_zero.mp hfuel)
    exact ⟨[], List.nil_suffix, .inl ⟨progress_of_queue hempty, .inl rfl⟩⟩
  | succ fuel ih =>
    rw [pumpLoop]
    cases hqueue : s.queue with
    | nil => exact ⟨[], List.suffix_refl _, .inl ⟨progress_of_queue hqueue, .inl rfl⟩⟩
    | cons work queue =>
      dsimp only
      by_cases hsize : s.pending.size < limit
      swap
      · rw [if_neg fun hboth ↦ hsize hboth.2]
        exact ⟨work :: queue, List.suffix_refl _,
          .inl ⟨progress_of_queue hqueue, .inr (not_lt.mp hsize)⟩⟩
      rw [if_pos ⟨hstatus, hsize⟩]
      have hstarted := started_startOrRetry ctx work { s with queue }
      generalize { s with queue }.startOrRetry ctx work = s' at hstarted ⊢
      have hshorter : queue <:+ work :: queue := List.suffix_cons _ _
      rcases hstarted with hsame | ⟨status, hfailed, hfail⟩
      · -- the loop goes on with the rest of the queue
        have hrest : s'.queue = queue := congrArg Progress.queue hsame
        have hok : s'.status = .ok := (congrArg Progress.status hsame).trans hstatus
        have hlength : s'.queue.length ≤ fuel := by
          rw [hrest]
          rw [hqueue, List.length_cons] at hfuel
          omega
        obtain ⟨left, hleft, hcases⟩ := ih s' hlength hok
        rw [hrest] at hleft
        rw [hsame] at hcases
        exact ⟨left, hleft.trans hshorter, hcases⟩
      · -- a failure ends it
        have hnotOk : s'.status ≠ .ok := (congrArg Progress.status hfail).trans_ne hfailed
        rw [pumpLoop_of_failed hnotOk]
        exact ⟨queue, hshorter, .inr ⟨status, hfailed, hfail⟩⟩

/-! ### From one event to the next -/

/-- The timing controller keeps its limit positive. -/
def TimingBounded (timing : Option TimingController) : Prop := ∀ t ∈ timing, t.Bounded

theorem TimingBounded.map {timing : Option TimingController} (h : TimingBounded timing)
    {f : TimingController → TimingController}
    (hf : ∀ t : TimingController, t.Bounded → (f t).Bounded) :
    TimingBounded (timing.map f) := by
  intro t ht
  obtain ⟨t₀, ht₀, rfl⟩ := Option.map_eq_some_iff.mp ht
  exact hf t₀ (h t₀ ht₀)

theorem limit_pos (hmax : 0 < ctx.config.maxOutstanding) (h : TimingBounded s.timing) :
    0 < s.limit ctx := by
  rw [limit]
  split
  · exact hmax
  · next timing heq => exact (h timing heq).parallelismLimit_pos _

/-- A submitted scheduler without a result, whose queue no failure has cut off. -/
structure Ready (s : OSScheduler τ) : Prop where
  submitted : s.submitted = true
  result : s.result = none
  timing : TimingBounded s.timing
  drained : s.status ≠ .ok → s.queue = []
  failed : s.failures ≠ [] → s.status ≠ .ok

/-- It waits for probes in flight. -/
structure Live (s : OSScheduler τ) : Prop extends Ready s where
  busy : 0 < s.pending.size

/-- It has its result, which tells of failures. -/
structure Done (s : OSScheduler τ) : Prop where
  submitted : s.submitted = true
  queue : s.queue = []
  idle : s.pending.size = 0
  stopped : .engineStopped ∈ s.trace
  result : ∃ r, s.result = some r ∧ (s.failures ≠ [] → r.state = .failed)

/-- No failure has struck while probes were queued. -/
def NoneQueuedAtFailure (s : OSScheduler τ) : Prop := ∀ failure ∈ s.failures, failure.2 = 0

theorem state_identify (result : OSDetectionResult) : (identify result).state = result.state := by
  rw [identify]
  split
  · rfl
  · split_ifs <;> rfl

/-- The result is emitted in the given state. -/
theorem emitResult_of_none (ctx : Context τ) (h : s.result = none) (state : OSDetectionState)
    (error : OSDetectionError) :
    ∃ result, result.state = state ∧
      s.emitResult ctx state error = { s.record .clockRead with result := some result } := by
  rw [emitResult, h, if_neg (by decide)]
  dsimp only [readClock]
  rw [show (s.record .clockRead).observed = s.observed from rfl]
  cases s.observed with
  | none => exact ⟨_, rfl, rfl⟩
  | some observed => exact ⟨_, state_identify _, rfl⟩

/-- What a scheduler with nothing left to do emits. -/
theorem done_finishTerminal (h : s.Ready) (hqueue : s.queue = []) (hidle : s.pending.size = 0) :
    (s.finishTerminal ctx).Done := by
  obtain ⟨result, hstate, hemit⟩ :=
    emitResult_of_none ctx h.result s.verdict.1 s.verdict.2
  have hnone : s.result.isNone = true := by rw [h.result]; rfl
  rw [finishTerminal, if_pos ⟨h.submitted, hqueue, hidle, hnone⟩, hemit]
  refine ⟨h.submitted, hqueue, hidle, List.mem_cons_self, result, rfl, fun hfailed ↦ ?_⟩
  rw [hstate, verdict, if_pos (h.failed hfailed)]

/-- `finish_terminal` brings a scheduler that is busy, or has nothing queued, to one of the two. -/
theorem settled_finishTerminal (h : s.Ready) (hbusy : s.queue ≠ [] → 0 < s.pending.size) :
    (s.finishTerminal ctx).Live ∨ (s.finishTerminal ctx).Done := by
  rcases Nat.eq_zero_or_pos s.pending.size with hidle | hpending
  · have hqueue : s.queue = [] := by
      by_contra hne
      exact absurd hidle (hbusy hne).ne'
    exact .inr (done_finishTerminal h hqueue hidle)
  · have hself : s.finishTerminal ctx = s := by
      rw [finishTerminal, if_neg fun hall ↦ hpending.ne' hall.2.2.1]
    rw [hself]
    exact .inl ⟨h, hpending⟩

theorem finishTerminal_of_settled (h : s.Live ∨ s.Done) : s.finishTerminal ctx = s := by
  rw [finishTerminal, if_neg]
  rintro ⟨-, -, hidle, hnone⟩
  rcases h with hlive | hdone
  · exact hlive.busy.ne' hidle
  · obtain ⟨result, hresult, -⟩ := hdone.result
    rw [hresult] at hnone
    exact absurd hnone Bool.false_ne_true

theorem failures_finishTerminal (s : OSScheduler τ) :
    (s.finishTerminal ctx).failures = s.failures := by
  rw [finishTerminal]
  split_ifs with hfinished
  · obtain ⟨result, -, hemit⟩ := emitResult_of_none ctx
      (Option.isNone_iff_eq_none.mp hfinished.2.2.2) s.verdict.1 s.verdict.2
    rw [hemit]
    rfl
  · rfl

/-- The pump brings a ready scheduler there, if it records no failure with probes queued. -/
theorem settled_pump (hmax : 0 < ctx.config.maxOutstanding) (h : s.Ready)
    (hnone : (s.pump ctx).NoneQueuedAtFailure) : (s.pump ctx).Live ∨ (s.pump ctx).Done := by
  have hlimit := limit_pos hmax h.timing
  rw [NoneQueuedAtFailure, pump, failures_finishTerminal] at hnone
  rw [pump]
  by_cases hstatus : s.status = .ok
  swap
  · -- nothing is started after a failure
    rw [pumpLoop_of_failed hstatus]
    exact settled_finishTerminal h fun hne ↦ absurd (h.drained hstatus) hne
  obtain ⟨queue, -, ⟨hprogress, hend⟩ | ⟨status, hfailed, hprogress⟩⟩ :=
    pumpLoop_spec ctx s.queue.length (s.limit ctx) s le_rfl hstatus
  all_goals
    generalize s.pumpLoop ctx s.queue.length (s.limit ctx) = r at *
    have hsubmitted : r.submitted = s.submitted := congrArg Progress.submitted hprogress
    have hresult : r.result = s.result := congrArg Progress.result hprogress
    have htiming : r.timing = s.timing := congrArg Progress.timing hprogress
    have hqueue : r.queue = queue := congrArg Progress.queue hprogress
  · have hok : r.status = s.status := congrArg Progress.status hprogress
    have hfailures : r.failures = s.failures := congrArg Progress.failures hprogress
    refine settled_finishTerminal ⟨hsubmitted.trans h.submitted, hresult.trans h.result,
      htiming ▸ h.timing, fun hne ↦ absurd (hok.trans hstatus) hne, ?_⟩ fun hne ↦ ?_
    · rw [hfailures, hok]
      exact h.failed
    · rcases hend with hempty | hfull
      · exact absurd (hqueue.trans hempty) hne
      · exact hlimit.trans_le hfull
  · have hnotOk : r.status = status := congrArg Progress.status hprogress
    have hfailures : r.failures = (status, queue.length) :: s.failures :=
      congrArg Progress.failures hprogress
    have hempty : queue = [] := by
      rw [hfailures] at hnone
      exact List.length_eq_zero_iff.mp (hnone _ List.mem_cons_self)
    have hdrained : r.queue = [] := hqueue.trans hempty
    refine settled_finishTerminal ⟨hsubmitted.trans h.submitted, hresult.trans h.result,
      htiming ▸ h.timing, fun _ ↦ hdrained, fun _ ↦ hnotOk ▸ hfailed⟩ fun hne ↦ ?_
    exact absurd hdrained hne

/-! ### The events -/

/-- The steps without harm: no failure strikes while probes are queued, a probe is not retried after
a failure, the engine does not fail with probes queued, and a failed scan is not stopped before it
has its result. -/
def HarmlessStep (ctx : Context τ) (s : OSScheduler τ) (event : Event) : Prop :=
  (s.step ctx event).NoneQueuedAtFailure ∧
    match event with
    | .receive _ => True
    | .onTimeout id =>
      (s.pending.lookup id).any (fun pending ↦ s.shouldRetry pending.work) = true → s.status = .ok
    | .engineReturned status => status = .ok ∨ s.queue = []
    | .stop => s.failures = [] ∨ s.result.isSome

/-- Nothing about the progress has changed but the timing, which stays bounded. -/
def Retimed (s s' : OSScheduler τ) : Prop :=
  s'.progress = { s.progress with timing := s'.timing } ∧
    (TimingBounded s.timing → TimingBounded s'.timing)

theorem Ready.retimed {s' : OSScheduler τ} (h : s.Ready) (hs' : Retimed s s') : s'.Ready := by
  obtain ⟨hprogress, htiming⟩ := hs'
  have hstatus : s'.status = s.status := congrArg Progress.status hprogress
  have hqueue : s'.queue = s.queue := congrArg Progress.queue hprogress
  have hfailures : s'.failures = s.failures := congrArg Progress.failures hprogress
  refine ⟨?_, ?_, htiming h.timing, ?_, ?_⟩
  · exact (congrArg Progress.submitted hprogress).trans h.submitted
  · exact (congrArg Progress.result hprogress).trans h.result
  · rw [hstatus, hqueue]
    exact h.drained
  · rw [hstatus, hfailures]
    exact h.failed

/-- A response is ignored, or its probe is ended and the pump called. -/
theorem receive_cases (ctx : Context τ) (response : OSProbeResponse) (s : OSScheduler τ) :
    s.receive ctx response = s ∨ ∃ s', Retimed s s' ∧ s.receive ctx response = s'.pump ctx := by
  rw [receive]
  cases s.pending.lookup response.id with
  | none => exact .inl rfl
  | some pending =>
    dsimp only
    have hbounded (rtt : ℤ) (h : TimingBounded s.timing) :
        TimingBounded (s.timing.map (·.onResponse rtt)) :=
      h.map fun t ht ↦ ht.onResponse rtt
    split_ifs
    · exact .inl rfl
    · exact .inl rfl
    all_goals
      refine .inr ⟨_, ?_, rfl⟩
      exact ⟨rfl, hbounded _⟩

/-- A timeout of a probe that is not pending is ignored; otherwise the probe is given up, or put
back in front of the queue, and the pump called. -/
theorem onTimeout_cases (ctx : Context τ) (id : OSProbeId) (s : OSScheduler τ) :
    s.onTimeout ctx id = s ∨ ∃ s' pending, Retimed s s' ∧ s.pending.lookup id = some pending ∧
      (s.onTimeout ctx id = s'.pump ctx ∨
        s.shouldRetry pending.work = true ∧
          ∃ work, s.onTimeout ctx id = { s' with queue := work :: s'.queue }.pump ctx) := by
  rw [onTimeout]
  cases hlookup : s.pending.lookup id with
  | none => exact .inl rfl
  | some pending =>
    have hretry (s' : OSScheduler τ)
        (h : s'.timing = s.timing.map TimingController.onTimeout) (work : WorkItem) :
        s'.shouldRetry work = s.shouldRetry work := by
      rw [shouldRetry, shouldRetry, h]
      cases s.timing <;> rfl
    have hbounded (h : TimingBounded s.timing) :
        TimingBounded (s.timing.map TimingController.onTimeout) :=
      h.map fun t ht ↦ ht.onTimeout
    -- the scheduler once the probe is given up
    let given : OSScheduler τ :=
      { { s.transportCancel ctx id with
            pending := s.pending.erase id
            expiredIds := id :: s.expiredIds
            timeoutCount := s.timeoutCount + 1 }.appendTerminalStatus .timeout with
        timing := s.timing.map TimingController.onTimeout }
    dsimp only
    split_ifs with hshould
    · rw [hretry _ rfl] at hshould
      refine .inr ⟨given, pending, ⟨rfl, hbounded⟩, rfl, .inr ⟨hshould, _, rfl⟩⟩
    · exact .inr ⟨given, pending, ⟨rfl, hbounded⟩, rfl, .inl rfl⟩

theorem progress_cancelAll (ctx : Context τ) (s : OSScheduler τ) :
    (s.cancelAll ctx).progress = s.progress := by
  rw [cancelAll]
  generalize s.pending.entries = entries
  show (entries.foldl _ s).progress = s.progress
  induction entries generalizing s with
  | nil => rfl
  | cons entry entries ih => exact ih _

/-- A scan that is stopped has its result. -/
theorem done_stop (h : s.Live ∨ s.Done) (hharmless : s.failures = [] ∨ s.result.isSome) :
    (s.stop ctx).Done := by
  have hprogress := progress_cancelAll ctx s
  rw [stop]
  have hidle : (s.cancelAll ctx).pending.size = 0 := rfl
  generalize s.cancelAll ctx = r at *
  have hsubmitted : r.submitted = s.submitted := congrArg Progress.submitted hprogress
  have hresult : r.result = s.result := congrArg Progress.result hprogress
  have hfailures : r.failures = s.failures := congrArg Progress.failures hprogress
  dsimp only
  rcases h with hlive | hdone
  · -- a live scheduler has no result yet
    have hnone : { r with queue := [] }.result = none := hresult.trans hlive.result
    obtain ⟨result, -, hemit⟩ :=
      emitResult_of_none ctx hnone .partially .none
    have hisNone : r.result.isNone = true := by rw [hresult, hlive.result]; rfl
    rw [if_pos ⟨hsubmitted.trans hlive.submitted, hisNone⟩, hemit]
    refine ⟨hsubmitted.trans hlive.submitted, rfl, hidle, List.mem_cons_self, result, rfl, ?_⟩
    intro hfailed
    rcases hharmless with hnil | hsome
    · exact absurd (hfailures.trans hnil) hfailed
    · rw [hlive.result] at hsome
      exact absurd hsome Bool.false_ne_true
  · obtain ⟨result, hsome, hstate⟩ := hdone.result
    have hisNone : r.result.isNone = false := by rw [hresult, hsome]; rfl
    rw [if_neg fun hboth ↦ Bool.false_ne_true (hisNone.symm.trans hboth.2)]
    exact ⟨hsubmitted.trans hdone.submitted, rfl, hidle, List.mem_cons_self, result,
      hresult.trans hsome, fun hfailed ↦ hstate (hfailures ▸ hfailed)⟩

/-- A scheduler without probes in flight has nothing pending to look up. -/
theorem lookup_of_idle (h : s.pending.size = 0) (id : OSProbeId) : s.pending.lookup id = none := by
  rw [AList.eq_empty_of_size_eq_zero h]
  rfl

/-- A scheduler that has its result keeps it. -/
theorem Done.step (h : s.Done) {event : Event} (hharmless : HarmlessStep ctx s event) :
    (s.step ctx event).Done := by
  cases event with
  | receive response =>
    have hself : s.receive ctx response = s := by
      rw [receive, lookup_of_idle h.idle]
    rwa [OSScheduler.step, hself]
  | onTimeout id =>
    have hself : s.onTimeout ctx id = s := by
      rw [onTimeout, lookup_of_idle h.idle]
    rwa [OSScheduler.step, hself]
  | engineReturned status =>
    rw [OSScheduler.step, engineReturned]
    have hkept : (if s.status = .ok ∧ status ≠ .ok then { s with status } else s).Done := by
      split_ifs
      · exact ⟨h.submitted, h.queue, h.idle, h.stopped, h.result⟩
      · exact h
    rwa [finishTerminal_of_settled (.inr hkept)]
  | stop => exact done_stop (.inr h) hharmless.2

/-- A harmless step leads from one of the two states to one of them. -/
theorem settled_step (hmax : 0 < ctx.config.maxOutstanding) (h : s.Live ∨ s.Done) {event : Event}
    (hharmless : HarmlessStep ctx s event) :
    (s.step ctx event).Live ∨ (s.step ctx event).Done := by
  rcases h with hlive | hdone
  swap
  · exact .inr (hdone.step hharmless)
  obtain ⟨hnone, hevent⟩ := hharmless
  cases event with
  | receive response =>
    rcases receive_cases ctx response s with hself | ⟨s', hretimed, hpump⟩
    · rw [step, hself]
      exact .inl hlive
    · rw [step, hpump] at hnone ⊢
      exact settled_pump hmax (hlive.toReady.retimed hretimed) hnone
  | onTimeout id =>
    rcases onTimeout_cases ctx id s with
      hself | ⟨s', pending, hretimed, hlookup, hpump | ⟨hretry, work, hpump⟩⟩
    · rw [step, hself]
      exact .inl hlive
    · rw [step, hpump] at hnone ⊢
      exact settled_pump hmax (hlive.toReady.retimed hretimed) hnone
    · -- the probe is retried, so nothing has failed
      have hready := hlive.toReady.retimed hretimed
      have hstatus : s'.status = .ok :=
        (congrArg Progress.status hretimed.1).trans (hevent (by rw [hlookup]; exact hretry))
      rw [step, hpump] at hnone ⊢
      exact settled_pump hmax ⟨hready.submitted, hready.result, hready.timing,
        fun hne ↦ absurd hstatus hne, hready.failed⟩ hnone
  | engineReturned status =>
    rw [step, engineReturned]
    have hkept : (if s.status = .ok ∧ status ≠ .ok then { s with status } else s).Live := by
      split_ifs with hfailed
      · refine ⟨⟨hlive.submitted, hlive.result, hlive.timing, fun _ ↦ ?_, fun _ ↦ hfailed.2⟩,
          hlive.busy⟩
        exact hevent.resolve_left hfailed.2
      · exact hlive
    rw [finishTerminal_of_settled (.inl hkept)]
    exact .inl hkept
  | stop => exact .inr (done_stop (.inl hlive) hevent)

/-! ### The submission -/

/-- A submission that passes every check of `submit`. -/
structure Acceptable (ctx : Context τ) (target : Target) : Prop where
  engine : ctx.environment.initializationStatus = .ok
  database : ctx.databaseStatus = .ok
  maxOutstanding : 0 < ctx.config.maxOutstanding
  timeout : 0 < ctx.config.timeout
  probePort : ctx.config.probePort ≠ 0
  maxResults : ctx.config.maxResults ≠ 0
  timing : ctx.config.adaptiveTiming = true →
    (TimingController.create ctx.config.timingProfile).validate = .ok
  host : ∃ host ∈ target.resolvedHosts, host.address ≠ []

/-- The scheduler an accepted submission gives to the pump. -/
def enqueue (ctx : Context τ) (target : Target) (portResults : List PortResult)
    (s : OSScheduler τ) : OSScheduler τ :=
  let family := sharedFamily ctx target.resolvedHosts
  { s with
    submitted := true
    target :=
      if target.originalSpecification = [] then target.resolvedHosts.head?.elim [] (·.address)
      else target.originalSpecification
    targetFamily := family
    observed := some { family }
    queue := (target.resolvedHosts.filter (·.address ≠ [])).flatMap (workFor ctx portResults) }

section

variable (h : Acceptable ctx target)

include h

/-- The configuration of an acceptable submission is valid. -/
theorem Acceptable.validConfig (transport : τ) (text : Text) (family : AddressFamily)
    (observed : Option ObservedOSFingerprint) :
    OSScheduler.validConfig ctx
      { create ctx transport with
        submitted := true, target := text, targetFamily := family, observed } = true := by
  have htiming : (create ctx transport).timing.all (·.validate = .ok) = true := by
    rw [create]
    dsimp only
    split_ifs with hadaptive
    · simpa using h.timing hadaptive
    · rfl
  simp only [OSScheduler.validConfig, Bool.and_eq_true, decide_eq_true_eq]
  exact ⟨⟨⟨⟨h.maxOutstanding.ne', h.timeout⟩, h.probePort⟩, h.maxResults⟩, htiming⟩

/-- An accepted submission fills the queue and pumps. -/
theorem Acceptable.submit (portResults : List PortResult) (transport : τ) :
    (OSScheduler.submit ctx target portResults (create ctx transport)).2 =
      ((enqueue ctx target portResults (create ctx transport)).pump ctx).finishTerminal ctx := by
  have hhosts : target.resolvedHosts.filter (·.address ≠ []) ≠ [] := by
    obtain ⟨host, hmem, haddress⟩ := h.host
    exact List.ne_nil_of_mem (List.mem_filter.mpr ⟨hmem, decide_eq_true haddress⟩)
  rw [OSScheduler.submit, if_neg (show ¬ (create ctx transport).submitted = true from nofun)]
  dsimp only
  rw [if_neg (not_not_intro h.engine), if_neg (not_not_intro h.database), h.validConfig,
    if_neg (by decide), if_neg hhosts]
  rfl

theorem Acceptable.ready_enqueue (portResults : List PortResult) (transport : τ) :
    (enqueue ctx target portResults (create ctx transport)).Ready := by
  refine ⟨rfl, rfl, ?_, fun hne ↦ absurd rfl hne, fun hne ↦ absurd rfl hne⟩
  intro t ht
  have hadaptive : ctx.config.adaptiveTiming = true := by
    by_contra hfixed
    rw [enqueue, create] at ht
    simp [hfixed] at ht
  rw [enqueue, create] at ht
  simp only [hadaptive, if_true, Option.mem_def, Option.some.injEq] at ht
  exact ht ▸ TimingController.bounded_create (h.timing hadaptive)

end

/-- A scheduler that has been given its target. -/
def start (ctx : Context τ) (target : Target) (portResults : List PortResult) (transport : τ) :
    OSScheduler τ :=
  (submit ctx target portResults (create ctx transport)).2

/-- After a submission without a failure that cuts off the queue, the scheduler is live or done. -/
theorem Acceptable.settled_start (h : Acceptable ctx target) (portResults : List PortResult)
    (transport : τ) (hnone : (start ctx target portResults transport).NoneQueuedAtFailure) :
    (start ctx target portResults transport).Live ∨
      (start ctx target portResults transport).Done := by
  rw [start, h.submit] at hnone ⊢
  rw [NoneQueuedAtFailure, failures_finishTerminal] at hnone
  have hpumped := settled_pump h.maxOutstanding (h.ready_enqueue portResults transport) hnone
  rwa [finishTerminal_of_settled hpumped]

/-! ### The end of a scan -/

/-- No probe is in flight, and so no timer is left to fire. -/
def AtRest (s : OSScheduler τ) : Prop := s.submitted = true ∧ s.pending.size = 0

/-- The scan has come to its end: nothing is queued, the engine was asked to stop, and there is a
result, which tells of a failure if there was one. -/
def Finished (s : OSScheduler τ) : Prop :=
  s.queue = [] ∧ .engineStopped ∈ s.trace ∧
    ∃ r, s.result = some r ∧ (s.failures ≠ [] → r.state = .failed)

theorem finished_of_settled (h : s.Live ∨ s.Done) (hrest : s.AtRest) : s.Finished := by
  rcases h with hlive | hdone
  · exact absurd hrest.2 hlive.busy.ne'
  · exact ⟨hdone.queue, hdone.stopped, hdone.result⟩

/-! ### The result is the only one -/

theorem result_finishTerminal (h : s.result = some r) : (s.finishTerminal ctx).result = some r := by
  rw [finishTerminal, if_neg]
  · exact h
  · rintro ⟨-, -, -, hnone⟩
    rw [h] at hnone
    exact Bool.false_ne_true hnone

theorem result_pumpLoop (fuel limit : ℕ) (s : OSScheduler τ) :
    (s.pumpLoop ctx fuel limit).result = s.result := by
  induction fuel generalizing s with
  | zero => rfl
  | succ fuel ih =>
    rw [pumpLoop]
    split
    · rfl
    · next work queue hqueue =>
      split_ifs
      · rw [ih]
        rcases started_startOrRetry ctx work { s with queue } with hsame | ⟨_, -, hfail⟩
        · exact congrArg Progress.result hsame
        · exact congrArg Progress.result hfail
      · rfl

theorem result_pump (h : s.result = some r) : (s.pump ctx).result = some r :=
  result_finishTerminal ((result_pumpLoop _ _ s).trans h)

/-- No step replaces the result. -/
theorem result_step (h : s.result = some r) (event : Event) :
    (s.step ctx event).result = some r := by
  cases event with
  | receive response =>
    rcases receive_cases ctx response s with hself | ⟨s', hretimed, hpump⟩
    · rwa [step, hself]
    · rw [step, hpump]
      exact result_pump ((congrArg Progress.result hretimed.1).trans h)
  | onTimeout id =>
    rcases onTimeout_cases ctx id s with
      hself | ⟨s', pending, hretimed, -, hpump | ⟨-, work, hpump⟩⟩
    · rwa [step, hself]
    · rw [step, hpump]
      exact result_pump ((congrArg Progress.result hretimed.1).trans h)
    · rw [step, hpump]
      exact result_pump ((congrArg Progress.result hretimed.1).trans h)
  | engineReturned status =>
    rw [step, engineReturned]
    refine result_finishTerminal ?_
    split_ifs <;> exact h
  | stop =>
    have hkept : (s.cancelAll ctx).result = some r :=
      (congrArg Progress.result (progress_cancelAll ctx s)).trans h
    rw [step, stop]
    dsimp only
    rw [if_neg]
    · exact hkept
    · rintro ⟨-, hnone⟩
      rw [hkept] at hnone
      exact Bool.false_ne_true hnone

/-- **A harmless scan finishes with one result**: at rest it is finished, and its result is never
replaced. -/
theorem finished_of_harmless {target : Target} (h : Acceptable ctx target)
    (portResults : List PortResult) (transport : τ) (events : List Event)
    (hnone : (start ctx target portResults transport).NoneQueuedAtFailure)
    (hharmless : Runs.Within (step ctx) (HarmlessStep ctx)
      (start ctx target portResults transport) events) :
    (AtRest (Runs.run (step ctx) (start ctx target portResults transport) events) →
      Finished (Runs.run (step ctx) (start ctx target portResults transport) events)) ∧
      ∀ r later,
        (Runs.run (step ctx) (start ctx target portResults transport) events).result = some r →
        (Runs.run (step ctx) (start ctx target portResults transport) (events ++ later)).result =
          some r := by
  constructor
  · refine finished_of_settled ?_
    refine Runs.run_invariant_within (I := fun s ↦ s.Live ∨ s.Done) ?_
      (h.settled_start portResults transport hnone) hharmless
    exact fun s event hstep hs ↦ settled_step h.maxOutstanding hs hstep
  · intro r later hresult
    rw [Runs.run_append]
    exact Runs.run_invariant (I := fun s : OSScheduler τ ↦ s.result = some r)
      (fun s event hs ↦ result_step hs event) hresult later

/-- A world that takes two kinds of probe and refuses the second. -/
def refusingUdp : Environment Unit where
  now trace := trace.length
  schedule trace _ := UInt64.ofNat (trace.length + 1)
  supports _ type := type = .tcpSynStandard || type = .udpFingerprint
  localSourceAddress _ := literal "192.0.2.254"
  submit _ submission transport :=
    (if submission.type = .udpFingerprint then .ioError else .ok, transport)
  cancel _ transport := transport

/-- A default configuration in front of the given world, and a matcher that knows no system. -/
def plainContext (environment : Environment Unit) : Context Unit where
  inet := { ntop6 := fun _ ↦ [], pton6 := fun _ ↦ none, ifNametoindex := fun _ ↦ 0 }
  environment
  config := {}
  matcher _ _ := []

/-- The one host `192.0.2.1`. -/
def oneHost : Target where
  originalSpecification := literal "192.0.2.1"
  resolvedHosts := [{ address := literal "192.0.2.1" }]

theorem acceptable_oneHost {environment : Environment Unit}
    (h : environment.initializationStatus = .ok) :
    Acceptable (plainContext environment) oneHost where
  engine := h
  database := rfl
  maxOutstanding := show 0 < 8 by decide
  timeout := show (0 : ℤ) < 1000 by decide
  probePort := show (80 : UInt16) ≠ 0 by decide
  maxResults := show 3 ≠ 0 by decide
  timing := nofun
  host := ⟨_, List.mem_cons_self, by decide +kernel⟩

/-- The last probe is refused, the first one times out: the scan has failed, and says so. -/
theorem finished_of_harmless_refusal :
    AtRest (Runs.run (step (plainContext refusingUdp))
      (start (plainContext refusingUdp) oneHost [] ()) [.onTimeout 1]) ∧
    Finished (Runs.run (step (plainContext refusingUdp))
      (start (plainContext refusingUdp) oneHost [] ()) [.onTimeout 1]) := by
  have hrest : AtRest (Runs.run (step (plainContext refusingUdp))
      (start (plainContext refusingUdp) oneHost [] ()) [.onTimeout 1]) := by
    constructor <;> decide +kernel
  refine ⟨hrest, (finished_of_harmless (acceptable_oneHost rfl) [] () [.onTimeout 1] ?_ ?_).1 hrest⟩
  · rw [NoneQueuedAtFailure]
    decide +kernel
  · refine ⟨⟨?_, nofun⟩, trivial⟩
    rw [NoneQueuedAtFailure]
    decide +kernel

/-! ### Cut off -/

/-- A failed status with probes queued, and no result. -/
structure Stuck (s : OSScheduler τ) : Prop where
  submitted : s.submitted = true
  status : s.status ≠ .ok
  queue : s.queue ≠ []
  result : s.result = none

theorem finishTerminal_of_stuck (h : s.Stuck) : s.finishTerminal ctx = s := by
  rw [finishTerminal, if_neg fun hall ↦ h.queue hall.2.1]

theorem pump_of_stuck (h : s.Stuck) : s.pump ctx = s := by
  rw [pump, pumpLoop_of_failed h.status, finishTerminal_of_stuck h]

/-- Nothing but `stop` gets a scheduler unstuck, and `stop` has its result tell of no failure. -/
theorem stuck_step (h : s.Stuck) (event : Event) :
    (s.step ctx event).Stuck ∨ event = .stop ∧
      ∃ r, (s.step ctx event).result = some r ∧ r.state = .partially := by
  have hkept {s' : OSScheduler τ} (hretimed : Retimed s s') : s'.Stuck :=
    { submitted := (congrArg Progress.submitted hretimed.1).trans h.submitted
      status := (congrArg Progress.status hretimed.1).trans_ne h.status
      queue := (congrArg Progress.queue hretimed.1).trans_ne h.queue
      result := (congrArg Progress.result hretimed.1).trans h.result }
  cases event with
  | receive response =>
    rcases receive_cases ctx response s with hself | ⟨s', hretimed, hpump⟩
    · rw [step, hself]
      exact .inl h
    · rw [step, hpump, pump_of_stuck (hkept hretimed)]
      exact .inl (hkept hretimed)
  | onTimeout id =>
    rcases onTimeout_cases ctx id s with
      hself | ⟨s', pending, hretimed, -, hpump | ⟨-, work, hpump⟩⟩
    · rw [step, hself]
      exact .inl h
    · rw [step, hpump, pump_of_stuck (hkept hretimed)]
      exact .inl (hkept hretimed)
    · have hstuck : { s' with queue := work :: s'.queue }.Stuck :=
        { hkept hretimed with queue := List.cons_ne_nil _ _ }
      rw [step, hpump, pump_of_stuck hstuck]
      exact .inl hstuck
  | engineReturned status =>
    rw [step, engineReturned, if_neg fun hboth ↦ h.status hboth.1, finishTerminal_of_stuck h]
    exact .inl h
  | stop =>
    have hprogress := progress_cancelAll ctx s
    rw [step, stop]
    generalize s.cancelAll ctx = r at hprogress ⊢
    have hsubmitted : r.submitted = true :=
      (congrArg Progress.submitted hprogress).trans h.submitted
    have hnone : { r with queue := [] }.result = none :=
      (congrArg Progress.result hprogress).trans h.result
    have hisNone : r.result.isNone = true := Option.isNone_iff_eq_none.mpr hnone
    obtain ⟨result, hstate, hemit⟩ := emitResult_of_none ctx hnone .partially .none
    dsimp only
    rw [if_pos ⟨hsubmitted, hisNone⟩, hemit]
    exact .inr ⟨rfl, result, rfl, hstate⟩

/-- **A failure with probes queued is final.** Unless it is stopped, the scheduler keeps its probes
queued and never finishes; and a result that `stop` gives it tells of no failure. -/
theorem probes_stuck (hs : s.Stuck) (events : List Event) :
    (.stop ∉ events →
      (Runs.run (step ctx) s events).Stuck ∧ ¬ (Runs.run (step ctx) s events).Finished) ∧
    ∀ r, (Runs.run (step ctx) s events).result = some r → r.state = .partially := by
  constructor
  · intro hnever
    have hstuck : (Runs.run (step ctx) s events).Stuck := by
      refine Runs.run_invariant_within (P := fun _ event ↦ event ≠ .stop) ?_ hs ?_
      · intro s event hstep hs
        exact (stuck_step hs event).resolve_right fun hstop ↦ hstep hstop.1
      · refine Runs.within_of_forall ?_ s
        rintro event hmem - rfl
        exact hnever hmem
    exact ⟨hstuck, fun hfinished ↦ hstuck.queue hfinished.1⟩
  · -- a result is there only once `stop` has given one, and that one stays
    have hends : (Runs.run (step ctx) s events).Stuck ∨
        ∃ r, (Runs.run (step ctx) s events).result = some r ∧ r.state = .partially := by
      refine Runs.run_invariant (I := fun s : OSScheduler τ ↦
        s.Stuck ∨ ∃ r, s.result = some r ∧ r.state = .partially) ?_ (.inl hs) events
      rintro s event (hstuck | ⟨r, hresult, hstate⟩)
      · exact (stuck_step hstuck event).imp_right And.right
      · exact .inr ⟨r, result_step hresult event, hstate⟩
    intro r hresult
    rcases hends with hstuck | ⟨r', hresult', hstate⟩
    · rw [hstuck.result] at hresult
      exact nomatch hresult
    · obtain rfl : r' = r := Option.some.inj (hresult'.symm.trans hresult)
      exact hstate

/-- A world that refuses every probe. -/
def refusingAll : Environment Unit where
  now trace := trace.length
  schedule trace _ := UInt64.ofNat (trace.length + 1)
  supports _ _ := true
  localSourceAddress _ := literal "192.0.2.254"
  submit _ _ transport := (.ioError, transport)
  cancel _ transport := transport

/-- The first probe is refused: the other eleven stay queued, and there is no result. -/
theorem not_finished_refusal :
    ¬ (AtRest (start (plainContext refusingAll) oneHost [] ()) →
      Finished (start (plainContext refusingAll) oneHost [] ())) := by
  intro h
  have hrest : AtRest (start (plainContext refusingAll) oneHost [] ()) := by
    constructor <;> decide +kernel
  obtain ⟨hqueue, -⟩ := h hrest
  revert hqueue
  decide +kernel

end Skan.OsDetect.OSScheduler
