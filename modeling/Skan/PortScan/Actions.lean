import Skan.PortScan.Scheduler

/-!
# What the port scan scheduler can do

An abstract account of `PortScanScheduler`: its **board** (the containers, the timing controller,
the status, the launches, and of the trace only submissions and recorded failures) and the
**actions** that change it, one work item at a time. An action also says what a published result can
be (`Blamed`, `Verdict`). Every public operation is a sequence of actions on the board
(`actions_receive`, `actions_onTimeout`, `actions_pump`; `on_retry_ready` first puts its item back).

The control flow of the source, with its re-entrant pump, is dealt with here once. Every invariant
of the scheduler is then a short case analysis over `Action`.

## The order of the proofs

An item in hand belongs to no container, so the functions that are given one are described from the
state *before* it was taken: `actions_finishAttempt` from the state that still has the attempt
pending, `actions_startAttempt` from the state that still has the item queued. The only induction is
the one on the fuel of `pumpLoop`.
-/

namespace Skan.PortScan

open Skan.Core Skan.ScanEngine

/-- A work item's identity: the pair it is about. -/
def WorkItem.key (work : WorkItem) : Text × Port := (work.host.address, work.port)

def PortResult.key (result : PortResult) : Text × Port := (result.target, result.port)

/-- The entries of the trace the board keeps. -/
def Effect.isLogged : Effect → Bool
  | .submitted .. | .failed .. => true
  | _ => false

/-- The scheduler without its clock, its timers and its counters. -/
structure Board where
  timing : Option TimingController
  queue : List WorkItem
  pending : KeyedStore PortProbeId Pending
  deferredRetries : KeyedStore RetryId DeferredRetry
  results : List PortResult
  status : StatusCode
  submitted : Bool
  log : List Effect
  launches : List Launch

/-- How the timing controller can change while an attempt ends. -/
inductive TimingStep : Option TimingController → Option TimingController → Prop
  | response (timing : Option TimingController) (rtt : ℤ) :
      TimingStep timing (timing.map (·.onResponse rtt))
  | timeout (timing : Option TimingController) : TimingStep timing (timing.map (·.onTimeout))

/-- The retry budget under a timing controller. -/
def retryBudget (ctx : SchedulerContext) : Option TimingController → ℕ
  | none => ctx.config.retries
  | some timing => timing.profile.maxRetries

/-- The record of a launch from the board. -/
def Board.launch (b : Board) (work : WorkItem) (limit : ℕ) : Launch where
  work := work
  inFlight := b.pending.values.map Pending.work
  limit := limit

/-! ### What is published -/

/-- What holds of every published result. -/
structure Reported (ctx : SchedulerContext) (result : PortResult) : Prop where
  probe : result.probe = ctx.config.method
  rtt_nonneg : ∀ rtt ∈ result.rttMs, 0 ≤ rtt

/-- A result that reports a failure of the scheduler or its transport. -/
structure Blamed (ctx : SchedulerContext) (result : PortResult) : Prop extends
    Reported ctx result where
  state : result.state = .error
  reason : result.reason = .invalidTarget ∨ result.reason = .internalError ∨
    result.reason = .capabilityUnavailable

/-- The verdicts an attempt can end with. -/
inductive Verdict (ctx : SchedulerContext) (pending : Pending) : PortState → ScanReason → Prop
  /-- What the probe makes of a response. -/
  | assessed {probe : PortProbe} {response : PortResponse} {state : PortState} {reason : ScanReason}
      (hprobe : ctx.probe = some probe)
      (hassess : probe.assess response pending.submission = .ok (state, reason)) :
      Verdict ctx pending state reason
  /-- What the evidence had come to by the timeout. -/
  | candidate {state : PortState} (hcandidate : pending.candidateState = some state) :
      Verdict ctx pending state pending.candidateReason
  | timedOut {probe : PortProbe} (hprobe : ctx.probe = some probe) :
      Verdict ctx pending probe.timeoutState probe.timeoutReason
  /-- What negative observations come to that contradict each other. -/
  | conflict (hmethod : ctx.config.method = .tcpConnect) :
      Verdict ctx pending .unknown .conflictingEvidence

/-- A change of the board by one work item. -/
inductive Action (ctx : SchedulerContext) : Board → Board → Prop
  /-- The head of the queue gets an Error result instead of an attempt. -/
  | reject (b : Board) {work : WorkItem} {queue : List WorkItem} {result : PortResult}
      (hstatus : b.status = .ok) (hqueue : b.queue = work :: queue) (hkey : result.key = work.key)
      (hblamed : Blamed ctx result) :
      Action ctx b { b with queue, results := b.results ++ [result] }
  /-- The same, for a cause the scheduler records in its status. -/
  | rejectFailing (b : Board) {work : WorkItem} {queue : List WorkItem} {result : PortResult}
      {status : StatusCode} (hstatus : b.status = .ok) (hqueue : b.queue = work :: queue)
      (hkey : result.key = work.key) (hblamed : Blamed ctx result) (hfailed : status ≠ .ok) :
      Action ctx b
        { b with
          queue
          results := b.results ++ [result]
          status
          log := .failed status queue.length :: b.log }
  /-- The same, because the transport refused the submission. -/
  | refuse (b : Board) {work : WorkItem} {queue : List WorkItem} {result : PortResult}
      {submission : PortSubmission} {status : StatusCode} {limit : ℕ} (hstatus : b.status = .ok)
      (hqueue : b.queue = work :: queue) (hkey : result.key = work.key)
      (hblamed : Blamed ctx result) (hfailed : status ≠ .ok) :
      Action ctx b
        { b with
          queue
          results := b.results ++ [result]
          status
          log := .failed status queue.length :: .submitted work submission status :: b.log
          launches := b.launch work limit :: b.launches }
  /-- The head of the queue goes in flight under a fresh identifier. -/
  | start (b : Board) {id : PortProbeId} {pending : Pending} {work : WorkItem}
      {queue : List WorkItem} {limit : ℕ} (hstatus : b.status = .ok)
      (hqueue : b.queue = work :: queue) (hfresh : id ∉ b.pending) (hwork : pending.work = work)
      (hundecided : pending.candidateState = none) :
      Action ctx b
        { b with
          queue
          pending := b.pending.insert id pending
          log := .submitted work pending.submission .ok :: b.log
          launches := b.launch work limit :: b.launches }
  /-- Evidence is recorded on an attempt. -/
  | observe (b : Board) {id : PortProbeId} {pending : Pending} (state : PortState)
      (reason : ScanReason) (at_ : TimePoint) (hlookup : b.pending.lookup id = some pending)
      (hassessed : ∃ probe response, ctx.probe = some probe ∧
        probe.assess response pending.submission = .ok (state, reason))
      (hmethod : ctx.config.method ≠ .tcpConnect) :
      Action ctx b
        { b with pending := b.pending.replace id (Pending.observe pending state reason at_) }
  /-- An attempt ends with a published result. -/
  | publish (b : Board) {id : PortProbeId} {pending : Pending} {result : PortResult}
      {timing : Option TimingController} (hlookup : b.pending.lookup id = some pending)
      (htiming : TimingStep b.timing timing) (hkey : result.key = pending.work.key)
      (hreported : Reported ctx result) (hverdict : Verdict ctx pending result.state
        result.reason) :
      Action ctx b
        { b with timing, pending := b.pending.erase id, results := b.results ++ [result] }
  /-- An attempt ends with a retry. -/
  | defer (b : Board) {id : PortProbeId} {pending : Pending} {retryId : RetryId}
      {retry : DeferredRetry} {timing : Option TimingController}
      (hlookup : b.pending.lookup id = some pending) (htiming : TimingStep b.timing timing)
      (hfresh : retryId ∉ b.deferredRetries) (hkey : retry.work.key = pending.work.key)
      (hbudget : pending.work.retryCount < retryBudget ctx b.timing)
      (hcount : retry.work.retryCount = pending.work.retryCount + 1) :
      Action ctx b
        { b with
          timing
          pending := b.pending.erase id
          deferredRetries := b.deferredRetries.insert retryId retry }
  /-- An attempt ends with an Error result because its retry could not be scheduled. -/
  | deferFailing (b : Board) {id : PortProbeId} {pending : Pending} {result : PortResult}
      {timing : Option TimingController} {status : StatusCode}
      (hlookup : b.pending.lookup id = some pending) (htiming : TimingStep b.timing timing)
      (hkey : result.key = pending.work.key) (hblamed : Blamed ctx result)
      (hfailed : status ≠ .ok) :
      Action ctx b
        { b with
          timing
          pending := b.pending.erase id
          results := b.results ++ [result]
          status
          log := .failed status b.queue.length :: b.log }

/-- The board on which `on_retry_ready` pumps: the item is back at the head of the queue. -/
def Board.requeue (b : Board) (id : RetryId) (retry : DeferredRetry) : Board :=
  { b with deferredRetries := b.deferredRetries.erase id, queue := retry.work :: b.queue }

/-- Any number of actions. -/
abbrev Actions (ctx : SchedulerContext) : Board → Board → Prop :=
  Relation.ReflTransGen (Action ctx)

namespace PortScanScheduler

/-- The board of a scheduler. -/
def board (s : PortScanScheduler) : Board where
  timing := s.timing
  queue := s.queue
  pending := s.pending
  deferredRetries := s.deferredRetries
  results := s.results
  status := s.status
  submitted := s.submitted
  log := s.trace.filter Effect.isLogged
  launches := s.launches

variable (ctx : SchedulerContext)

/-- `finish_attempt` keeps the item's identity while it counts the observation. -/
@[simp] theorem countObservation_key (work : WorkItem) (state : PortState) :
    (countObservation work state).1.key = work.key := by
  cases state <;> rfl

@[simp] theorem countObservation_retryCount (work : WorkItem) (state : PortState) :
    (countObservation work state).1.retryCount = work.retryCount := by
  cases state <;> rfl

theorem retryBudget_of_timingStep {timing timing' : Option TimingController}
    (h : TimingStep timing timing') : retryBudget ctx timing' = retryBudget ctx timing := by
  cases h <;> cases timing <;> rfl

theorem retryBudget_timing (s : PortScanScheduler) :
    retryBudget ctx s.timing = s.maxRetries ctx := by
  unfold maxRetries
  cases s.timing <;> rfl

theorem rttMs_nonneg (startedAt endedAt : TimePoint) : 0 ≤ rttMs startedAt endedAt :=
  le_max_left _ _

@[simp] theorem board_stopIfIdle (s : PortScanScheduler) : (stopIfIdle s).board = s.board := by
  unfold stopIfIdle
  split <;> rfl

theorem board_setStatus (status : StatusCode) (s : PortScanScheduler) :
    (s.setStatus status).board =
      { s.board with status, log := .failed status s.board.queue.length :: s.board.log } := rfl

/-- What `append_terminal_result` publishes. -/
theorem board_appendTerminalResult (work : WorkItem) (probe : ScanProbeType) (state : PortState)
    (reason : ScanReason) (rttMs : Option ℚ) (s : PortScanScheduler) :
    ∃ result : PortResult, result.key = work.key ∧ result.probe = probe ∧ result.state = state ∧
      result.reason = reason ∧ result.rttMs = rttMs ∧
      (s.appendTerminalResult ctx work probe state reason rttMs).board =
        { s.board with results := s.board.results ++ [result] } :=
  ⟨_, rfl, rfl, rfl, rfl, rfl, rfl⟩

/-- The same for a failure. -/
theorem board_appendError (work : WorkItem) (reason : ScanReason) (rttMs : Option ℚ)
    (hreason : reason = .invalidTarget ∨ reason = .internalError ∨ reason = .capabilityUnavailable)
    (hrtt : ∀ rtt ∈ rttMs, 0 ≤ rtt) (s : PortScanScheduler) :
    ∃ result : PortResult, result.key = work.key ∧ Blamed ctx result ∧
      (s.appendTerminalResult ctx work ctx.config.method .error reason rttMs).board =
        { s.board with results := s.board.results ++ [result] } := by
  obtain ⟨result, hkey, hprobe, hstate, rfl, rfl, happend⟩ :=
    board_appendTerminalResult ctx work ctx.config.method .error reason rttMs s
  exact ⟨result, hkey, ⟨⟨hprobe, hrtt⟩, hstate, hreason⟩, happend⟩

theorem submissionFailureReason_cases (status : StatusCode) :
    submissionFailureReason status = .invalidTarget ∨
      submissionFailureReason status = .internalError ∨
        submissionFailureReason status = .capabilityUnavailable := by
  cases status <;> decide

/-- `defer_retry` either keeps the item for later or records a failure. -/
theorem board_deferRetry (work : WorkItem) (s : PortScanScheduler) :
    ((s.deferRetry ctx work).1 = true ∧ ∃ (retryId : RetryId) (retry : DeferredRetry),
      retryId ∉ s.board.deferredRetries ∧
        retry.work = { work with retryCount := work.retryCount + 1 } ∧
        (s.deferRetry ctx work).2.board =
          { s.board with deferredRetries := s.board.deferredRetries.insert retryId retry }) ∨
    ((s.deferRetry ctx work).1 = false ∧ (s.deferRetry ctx work).2.board =
      { s.board with
        status := .internalError
        log := .failed .internalError s.board.queue.length :: s.board.log }) := by
  unfold deferRetry
  dsimp only
  split
  · exact .inr ⟨rfl, rfl⟩
  split
  · exact .inr ⟨rfl, rfl⟩
  split
  · exact .inr ⟨rfl, rfl⟩
  · rename_i deferred hemplace
    obtain ⟨hfresh, rfl⟩ := AList.emplace_eq_some_iff.mp hemplace
    exact .inl ⟨rfl, _, _, hfresh, rfl, rfl⟩

/-! ### Ending an attempt -/

/-- `s` is the board `b` with the attempt `id` taken out of it. -/
structure InHand (b : Board) (id : PortProbeId) (pending : Pending) (s : PortScanScheduler) :
    Prop where
  lookup : b.pending.lookup id = some pending
  timing : TimingStep b.timing s.timing
  board : s.board = { b with timing := s.timing, pending := b.pending.erase id }

section Attempt

variable {pump : PortScanScheduler → PortScanScheduler}
  (hpump : ∀ s, Actions ctx s.board (pump s).board) {id : PortProbeId} {pending : Pending}
  {work : WorkItem} {s : PortScanScheduler} {state : PortState} {reason : ScanReason} {b : Board}
  {rttMs : Option ℚ}

include hpump

section

variable (h : InHand b id pending s)

include h

theorem actions_publish (hkey : work.key = pending.work.key)
    (hverdict : Verdict ctx pending state reason) (hrtt : ∀ rtt ∈ rttMs, 0 ≤ rtt) :
    Actions ctx b
      (pump (s.appendTerminalResult ctx work ctx.config.method state reason rttMs)).board := by
  obtain ⟨result, hresult, hprobe, rfl, rfl, rfl, happend⟩ :=
    board_appendTerminalResult ctx work ctx.config.method state reason rttMs s
  refine Relation.ReflTransGen.head ?_ (hpump _)
  rw [happend, h.board]
  exact Action.publish b h.lookup h.timing (hresult.trans hkey) ⟨hprobe, hrtt⟩ hverdict

theorem actions_retryOrFail (hkey : work.key = pending.work.key)
    (hcount : work.retryCount = pending.work.retryCount)
    (hbudget : work.retryCount < s.maxRetries ctx) (hrtt : ∀ rtt ∈ rttMs, 0 ≤ rtt) :
    Actions ctx b (retryOrFail ctx pump work rttMs s).board := by
  rw [← retryBudget_timing, retryBudget_of_timingStep ctx h.timing, hcount] at hbudget
  unfold retryOrFail
  obtain ⟨hflag, retryId, retry, hfresh, hretry, hboard⟩ | ⟨hflag, hboard⟩ :=
    board_deferRetry ctx work s
  · split
    · rename_i s' heq
      rw [h.board] at hfresh hboard
      rw [heq] at hboard
      refine Relation.ReflTransGen.head ?_ (hpump s')
      rw [hboard]
      have hretryKey : retry.work.key = pending.work.key := by
        rw [hretry]
        exact hkey
      have hretryCount : retry.work.retryCount = pending.work.retryCount + 1 := by
        rw [hretry, ← hcount]
      exact Action.defer b h.lookup h.timing hfresh hretryKey hbudget hretryCount
    · rename_i heq
      simp [heq] at hflag
  · split
    · rename_i heq
      simp [heq] at hflag
    · rename_i s' heq
      rw [heq, h.board] at hboard
      obtain ⟨result, hresult, hblamed, happend⟩ :=
        board_appendError ctx work .internalError rttMs (.inr (.inl rfl)) hrtt s'
      refine Relation.ReflTransGen.head ?_ (hpump _)
      rw [happend, hboard]
      exact Action.deferFailing b h.lookup h.timing (hresult.trans hkey) hblamed
        StatusCode.internalError_ne_ok

/-- **Finishing an attempt** publishes its item or defers it, and pumps. -/
theorem actions_finishAttempt (hverdict : Verdict ctx pending state reason)
    (hrtt : ∀ rtt ∈ rttMs, 0 ≤ rtt) :
    Actions ctx b (finishAttempt ctx pump pending.work state reason rttMs s).board := by
  have hkey := countObservation_key pending.work state
  have hcount := countObservation_retryCount pending.work state
  -- what was observed is not on the board
  have h : InHand b id pending (s.record (.observed pending.work state reason)) :=
    ⟨h.lookup, h.timing, h.board⟩
  rw [finishAttempt]
  dsimp only
  split_ifs with hnegative hconflict hretry hretry
  · -- only a connect scan confirms negative observations
    have hmethod : ctx.config.method = .tcpConnect := by
      simp only [shouldConfirmNegative, Bool.and_eq_true, decide_eq_true_eq] at hnegative
      exact hnegative.1
    exact actions_publish ctx hpump h hkey (.conflict hmethod) hrtt
  · exact actions_retryOrFail ctx hpump h hkey hcount hretry.2 hrtt
  · exact actions_publish ctx hpump h hkey hverdict hrtt
  · exact actions_retryOrFail ctx hpump h rfl rfl hretry.2 hrtt
  · exact actions_publish ctx hpump h rfl hverdict hrtt

end

theorem actions_completePending (id : PortProbeId) (completedAt : TimePoint)
    (s : PortScanScheduler)
    (hverdict : ∀ pending, s.pending.lookup id = some pending → Verdict ctx pending state reason) :
    Actions ctx s.board (completePending ctx pump id state reason completedAt s).board := by
  unfold completePending
  split
  · exact .refl
  · rename_i pending hlookup
    refine actions_finishAttempt ctx hpump ⟨hlookup, .response _ _, rfl⟩ (hverdict pending hlookup)
      ?_
    rintro rtt ⟨⟩
    exact rttMs_nonneg _ _

/-- **A response** completes its attempt, is recorded on it, or is ignored. -/
theorem actions_receiveWith (response : PortResponse) (s : PortScanScheduler) :
    Actions ctx s.board (receiveWith ctx pump response s).board := by
  unfold receiveWith
  split
  · rename_i pending probe hlookup hprobe
    split
    · exact .refl
    · rename_i state reason hassess
      -- reading the clock does not change the board
      split
      rename_i completedAt s' hclock
      have hboard : s'.board = s.board := by
        split at hclock <;> cases hclock <;> rfl
      have hpending : s'.pending = s.pending := congrArg Board.pending hboard
      rw [← hpending] at hlookup
      rw [← hboard]
      split_ifs with hearly hterminal
      · exact .refl
      · refine actions_completePending ctx hpump response.id completedAt s' fun other hother ↦ ?_
        obtain rfl : pending = other := Option.some.inj (hlookup.symm.trans hother)
        exact .assessed hprobe hassess
      · exact .single (Action.observe s'.board state reason completedAt hlookup
          ⟨probe, response, hprobe, hassess⟩ fun hmethod ↦ hterminal (.inr hmethod))
  · exact .refl

/-- **A timeout** finishes its attempt. -/
theorem actions_onTimeoutWith (id : PortProbeId) (s : PortScanScheduler) :
    Actions ctx s.board (onTimeoutWith ctx pump id s).board := by
  unfold onTimeoutWith
  split
  · rename_i pending probe hlookup hprobe
    dsimp only
    split
    · rename_i state hcandidate
      refine actions_finishAttempt ctx hpump ⟨hlookup, .response _ _, rfl⟩
        (.candidate hcandidate) ?_
      rintro rtt ⟨⟩
      exact rttMs_nonneg _ _
    · exact actions_finishAttempt ctx hpump ⟨hlookup, .timeout _, rfl⟩ (.timedOut hprobe) nofun
  · exact .refl

/-- The responses a transport delivers before `submit` returns. -/
theorem actions_receiveAll (responses : List PortResponse) (s : PortScanScheduler) :
    Actions ctx s.board
      (responses.foldl (fun s response ↦ receiveWith ctx pump response s) s).board :=
  Runs.run_related (R := fun a b ↦ Actions ctx a.board b.board) (fun _ ↦ .refl)
    (fun {a b c} (h : Actions ctx a.board b.board) (h' : Actions ctx b.board c.board) ↦ h.trans h')
    (fun s response ↦ actions_receiveWith ctx hpump response s) s responses

/-! ### Starting an attempt -/

omit hpump in
theorem board_transportSubmit (work : WorkItem) (submission : PortSubmission)
    (s : PortScanScheduler) :
    (s.transportSubmit ctx work submission).2.board =
      { s.board with
        log := .submitted work submission (ctx.environment.submit s.trace submission).status ::
          s.board.log } := rfl

/-- **Handing an item to the transport**: it stays in flight, and the responses delivered meanwhile
are received, or the transport refuses it and it never was in flight. -/
theorem actions_launch {queue : List WorkItem} {submission : PortSubmission}
    (hstatus : b.status = .ok) (hqueue : b.queue = work :: queue) (hfresh : id ∉ b.pending)
    {limit : ℕ} (hs : s.board =
      { b with
        queue
        pending := b.pending.insert id pending
        launches := b.launch work limit :: b.launches }) (hwork : pending.work = work)
    (hsubmission : pending.submission = submission) (hundecided : pending.candidateState = none)
    (timer : TimerId) :
    ∃ b', Action ctx b b' ∧ b'.queue = queue ∧
      Actions ctx b' (launch ctx pump id timer work submission s).board := by
  have hboard := board_transportSubmit ctx work submission s
  have hreceive := actions_receiveAll ctx hpump
    (s.transportSubmit ctx work submission).1.responses (s.transportSubmit ctx work submission).2
  rw [hs] at hboard
  unfold launch
  dsimp only
  split
  · rename_i haccepted
    have hok : (ctx.environment.submit s.trace submission).status = .ok := haccepted
    subst hsubmission
    rw [hboard, hok] at hreceive
    exact ⟨_, @Action.start ctx b id pending work queue limit hstatus hqueue hfresh hwork
      hundecided,
      rfl, hreceive⟩
  · rename_i hrefused
    -- a transport that refuses has called nobody back
    have hsilent : (s.transportSubmit ctx work submission).1.responses = [] :=
      (ctx.environment.submit s.trace submission).responses_of_refused hrefused
    rw [hsilent, List.foldl_nil]
    have hpending : s.pending = b.pending.insert id pending := congrArg Board.pending hs
    have herase : s.pending.erase id = b.pending := by
      rw [hpending, AList.erase_insert pending hfresh]
    set status := (ctx.environment.submit s.trace submission).status with hstatus'
    set undone : PortScanScheduler :=
      { ((s.transportSubmit ctx work submission).2.cancelTimer timer) with
        pending := s.pending.erase id } with hundone
    have hundoneBoard : undone.board =
        { (s.transportSubmit ctx work submission).2.board with
          pending := s.pending.erase id } := rfl
    rw [hboard, herase] at hundoneBoard
    obtain ⟨result, hkey, hblamed, happend⟩ := board_appendError ctx work
      (submissionFailureReason status) none (submissionFailureReason_cases status) nofun undone
    have hfailed : status ≠ .ok := hrefused
    refine ⟨_, @Action.refuse ctx b work queue result submission status limit hstatus hqueue hkey
      hblamed hfailed, rfl, ?_⟩
    show Actions ctx _ (setStatus status (appendTerminalResult ctx work ctx.config.method .error
      (submissionFailureReason status) none undone)).board
    rw [board_setStatus, happend, hundoneBoard]

/-- **Starting an attempt** rejects the item, is refused by the transport, or puts it in flight;
that is the one action that takes an item off the queue. -/
theorem actions_startAttempt {queue : List WorkItem} (hstatus : s.status = .ok)
    (hqueue : s.queue = work :: queue) (probe : PortProbe) :
    ∃ b, Action ctx s.board b ∧ b.queue = queue ∧
      Actions ctx b (startAttempt ctx pump probe work { s with queue }).board := by
  have hblamed : ∀ (reason : ScanReason) (timestamp : TimePoint),
      reason = .invalidTarget ∨ reason = .internalError → Blamed ctx
        { target := work.host.address, port := work.port, state := .error, reason, timestamp,
          probe := ctx.config.method, rttMs := none, retryCount := work.retryCount } :=
    fun reason timestamp hreason ↦ ⟨⟨rfl, nofun⟩, rfl, hreason.imp_right .inl⟩
  unfold startAttempt
  dsimp only
  split
  · refine ⟨_, Action.reject s.board hstatus hqueue (by rfl) (hblamed _ _ ?_), rfl, .refl⟩
    split_ifs
    · exact .inl rfl
    · exact .inr rfl
  split
  · split_ifs
    · exact ⟨_, Action.rejectFailing s.board hstatus hqueue (by rfl) (hblamed _ _ (.inr rfl))
        StatusCode.internalError_ne_ok, rfl, .refl⟩
    · exact ⟨_, Action.reject s.board hstatus hqueue (by rfl) (hblamed _ _ (.inr rfl)), rfl, .refl⟩
  split
  · exact ⟨_, Action.rejectFailing s.board hstatus hqueue (by rfl) (hblamed _ _ (.inr rfl))
      StatusCode.internalError_ne_ok, rfl, .refl⟩
  · rename_i store hemplace
    obtain ⟨hfresh, rfl⟩ := AList.emplace_eq_some_iff.mp hemplace
    exact actions_launch ctx hpump (b := s.board) hstatus hqueue hfresh (by rfl) (by rfl) (by rfl)
      (by rfl) _

end Attempt

/-! ### The pump and the events -/

theorem actions_pumpLoop (fuel limit : ℕ) (s : PortScanScheduler) :
    Actions ctx s.board (pumpLoop ctx fuel limit s).board := by
  induction fuel generalizing limit s with
  | zero => exact .refl
  | succ fuel ih =>
    unfold pumpLoop
    split
    · rename_i work queue probe hqueue hprobe
      split
      · rename_i hguard
        have hnested : ∀ s, Actions ctx s.board
            (stopIfIdle (pumpLoop ctx fuel (s.limit ctx) s)).board := by
          intro s
          rw [board_stopIfIdle]
          exact ih (s.limit ctx) s
        obtain ⟨b, hfirst, -, hrest⟩ :=
          actions_startAttempt ctx hnested hguard.1 hqueue probe
        exact (Relation.ReflTransGen.head hfirst hrest).trans (ih limit _)
      · exact .refl
    · exact .refl

/-- **Pumping** is a sequence of actions. -/
theorem actions_pump (s : PortScanScheduler) : Actions ctx s.board (pump ctx s).board := by
  rw [pump, board_stopIfIdle]
  exact actions_pumpLoop ctx _ _ s

theorem actions_receive (response : PortResponse) (s : PortScanScheduler) :
    Actions ctx s.board (receive ctx response s).board :=
  actions_receiveWith ctx (actions_pump ctx) response s

theorem actions_onTimeout (id : PortProbeId) (s : PortScanScheduler) :
    Actions ctx s.board (onTimeout ctx id s).board :=
  actions_onTimeoutWith ctx (actions_pump ctx) id s

/-- **A retry timer** does nothing, or puts its item back before a sequence of actions. -/
theorem actions_onRetryReady (id : RetryId) (s : PortScanScheduler) :
    (s.deferredRetries.lookup id = none ∧ onRetryReady ctx id s = s) ∨
      ∃ retry, s.deferredRetries.lookup id = some retry ∧
        Actions ctx (s.board.requeue id retry) (onRetryReady ctx id s).board := by
  unfold onRetryReady
  split
  · rename_i hlookup
    exact .inl ⟨hlookup, rfl⟩
  · rename_i retry hlookup
    exact .inr ⟨retry, hlookup, actions_pump ctx
      { s with deferredRetries := s.deferredRetries.erase id, queue := retry.work :: s.queue }⟩

end PortScanScheduler

end Skan.PortScan
