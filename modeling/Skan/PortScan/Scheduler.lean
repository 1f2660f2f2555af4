import Skan.Library.KeyedStore
import Skan.Library.Runs
import Skan.PortScan.Types

/-!
# The port scan scheduler

`PortScanScheduler` of `src/portscan/port_scheduler.cpp`: a queue of (host, port) work items, the
attempts in flight, the retries waiting for their timer, and the published results.

## The world outside

The scheduler calls the clock, the engine's timers and its transport. What these answer is a
function of the **trace**, everything the scheduler has asked for so far (`Environment`). The trace
is the model's own; the code keeps no such record. A theorem about every environment is therefore
about every sequence of answers: each question lengthens the trace, so no two questions of a run
need the same answer.

A transport may call back before `submit` returns, as `TcpConnectTransport` does for a connection
that succeeds or fails at once; the responses it delivers that way are part of its answer, and a
transport that refuses a submission has called nobody back (`SubmitOutcome`).

## Re-entrancy

Such a response completes its attempt inside `pump`, and completing an attempt pumps again. The
inner functions take the pump as an argument; `pumpLoop` ties the knot with fuel. Every iteration of
the loop takes an item off the queue and no function below it puts one on, so the queue length is
fuel enough (`pumpLoop_done` in `Skan.PortScan.Quiescence`).

Failed allocations, the only source of `MemoryError` here, are not modelled.
-/

namespace Skan.PortScan

open Skan.Core Skan.ScanEngine

abbrev RetryId := UInt64

/-- What a timer of the scheduler calls. -/
inductive TimerCallback where
  | onTimeout (id : PortProbeId)
  | onRetryReady (id : RetryId)
  deriving DecidableEq

structure WorkItem where
  host : Host
  port : Port
  retryCount : ℕ := 0
  closedObservations : ℕ := 0
  filteredObservations : ℕ := 0
  errorObservations : ℕ := 0
  deriving DecidableEq

/-- An entry of the trace: a call to the world outside with the part of the answer the scheduler
acts on, a failure the scheduler recorded in its status, with the number of items then in `queue_`,
or what `finish_attempt` is told of an attempt. -/
inductive Effect where
  | clockRead
  | timerScheduled (delay : ℤ) (callback : TimerCallback) (timer : TimerId)
  | timerCancelled (timer : TimerId)
  | submitted (work : WorkItem) (submission : PortSubmission) (status : StatusCode)
  | submissionCancelled (id : PortProbeId)
  | engineStopped
  | failed (status : StatusCode) (queued : ℕ)
  | observed (work : WorkItem) (state : PortState) (reason : ScanReason)
  deriving DecidableEq

/-- A transport's answer to `submit`: a status, and the responses it called back with meanwhile. -/
structure SubmitOutcome where
  status : StatusCode
  responses : List PortResponse := []
  responses_of_refused : status ≠ .ok → responses = [] := by simp

/-- Clock, engine and transport. A scheduled timer's identifier is zero when the engine refuses. -/
structure Environment where
  initializationStatus : StatusCode := .ok
  supports : ScanProbeType → Bool := fun _ ↦ true
  now : List Effect → TimePoint
  schedule : List Effect → ℤ → TimerId
  submit : List Effect → PortSubmission → SubmitOutcome

/-- What a scheduler is constructed with. The constructor picks the probe of the configured method;
everything here holds for any probe. -/
structure SchedulerContext where
  inet : Inet
  environment : Environment
  config : PortScanConfig
  probe : Option PortProbe

/-- An attempt in flight. -/
structure Pending where
  work : WorkItem
  submission : PortSubmission
  startedAt : TimePoint
  timerId : TimerId
  candidateState : Option PortState := none
  candidateReason : ScanReason := .internalError
  candidateAt : TimePoint := 0
  conflict : Bool := false
  deriving DecidableEq

/-- What `receive` does to an attempt whose method collects evidence until its timeout: the first
state is the candidate, a different one later makes it a conflict. -/
def Pending.observe (pending : Pending) (state : PortState) (reason : ScanReason)
    (at_ : TimePoint) : Pending :=
  match pending.candidateState with
  | none =>
    { pending with candidateState := some state, candidateReason := reason, candidateAt := at_ }
  | some candidate =>
    if !pending.conflict && candidate ≠ state then
      { pending with
        candidateState := some .unknown
        candidateReason := .conflictingEvidence
        candidateAt := at_
        conflict := true }
    else pending

structure DeferredRetry where
  work : WorkItem
  timerId : TimerId
  deriving DecidableEq

/-- An item that is handed to the transport, with the items in flight before it and the parallelism
limit at that moment. -/
structure Launch where
  work : WorkItem
  inFlight : List WorkItem
  limit : ℕ
  deriving DecidableEq

/-- The state of a `PortScanScheduler`. The trace and the launches, which only the model keeps, are
newest first. -/
structure PortScanScheduler where
  timing : Option TimingController
  queue : List WorkItem := []
  pending : KeyedStore PortProbeId Pending := ∅
  deferredRetries : KeyedStore RetryId DeferredRetry := ∅
  results : List PortResult := []
  nextId : PortProbeId := 1
  nextRetryId : RetryId := 1
  status : StatusCode := .ok
  submitted : Bool := false
  trace : List Effect := []
  launches : List Launch := []

/-! ### Helpers of the scheduler's source file -/

def validHostAddress (inet : Inet) (host : Host) : Bool :=
  host.ipAddress.valid || (parseIpAddress inet host.address).isSome

def submissionFailureReason : StatusCode → ScanReason
  | .permissionDenied => .capabilityUnavailable
  | .invalidArgument => .invalidTarget
  | _ => .internalError

def shouldConfirmNegative (probe : ScanProbeType) (state : PortState) (reason : ScanReason) :
    Bool :=
  probe = .tcpConnect &&
    (state = .closed && reason = .connectionRefused || state = .filtered && reason = .timeout)

namespace PortScanScheduler

variable (ctx : SchedulerContext)

/-- A scheduler as constructed. -/
def create : PortScanScheduler where
  timing := if ctx.config.adaptiveTiming then some (.create ctx.config.timingProfile) else none

/-! ### Calls to the world outside -/

def record (e : Effect) (s : PortScanScheduler) : PortScanScheduler :=
  { s with trace := e :: s.trace }

def readClock (s : PortScanScheduler) : TimePoint × PortScanScheduler :=
  (ctx.environment.now s.trace, s.record .clockRead)

def schedule (delay : ℤ) (callback : TimerCallback) (s : PortScanScheduler) :
    TimerId × PortScanScheduler :=
  let timer := ctx.environment.schedule s.trace delay
  (timer, s.record (.timerScheduled delay callback timer))

/-- Record a failure in the status. -/
def setStatus (status : StatusCode) (s : PortScanScheduler) : PortScanScheduler :=
  { s.record (.failed status s.queue.length) with status }

def cancelTimer (timer : TimerId) (s : PortScanScheduler) : PortScanScheduler :=
  s.record (.timerCancelled timer)

def cancelSubmission (id : PortProbeId) (s : PortScanScheduler) : PortScanScheduler :=
  s.record (.submissionCancelled id)

def transportSubmit (work : WorkItem) (submission : PortSubmission) (s : PortScanScheduler) :
    SubmitOutcome × PortScanScheduler :=
  let outcome := ctx.environment.submit s.trace submission
  (outcome, s.record (.submitted work submission outcome.status))

/-! ### Publishing a result, deferring a retry -/

/-- `append_terminal_result`. -/
def appendTerminalResult (work : WorkItem) (probe : ScanProbeType) (state : PortState)
    (reason : ScanReason) (rttMs : Option ℚ) (s : PortScanScheduler) : PortScanScheduler :=
  let (timestamp, s) := s.readClock ctx
  let result : PortResult :=
    { target := work.host.address, port := work.port, state, probe, reason, rttMs, timestamp,
      retryCount := work.retryCount }
  { s with results := s.results ++ [result] }

/-- `defer_retry`; the flag is its return value. -/
def deferRetry (work : WorkItem) (s : PortScanScheduler) : Bool × PortScanScheduler :=
  if s.nextRetryId = 0 then (false, s.setStatus .internalError)
  else
    let retryId := s.nextRetryId
    let work := { work with retryCount := work.retryCount + 1 }
    let (timer, s) := { s with nextRetryId := retryId + 1 }.schedule ctx ctx.config.retryDelay
      (.onRetryReady retryId)
    if timer = 0 then (false, s.setStatus .internalError)
    else
      match s.deferredRetries.emplace retryId { work, timerId := timer } with
      | none => (false, (s.cancelTimer timer).setStatus .internalError)
      | some deferredRetries => (true, { s with deferredRetries })

/-- `stop_if_idle`. -/
def stopIfIdle (s : PortScanScheduler) : PortScanScheduler :=
  if s.submitted ∧ s.queue = [] ∧ s.pending.size = 0 ∧ s.deferredRetries.size = 0 then
    s.record .engineStopped
  else s

/-- `complete`. -/
def complete (s : PortScanScheduler) : Bool :=
  s.submitted ∧ s.queue = [] ∧ s.pending.size = 0 ∧ s.deferredRetries.size = 0

/-- The retry budget: the timing profile's when timing is adaptive. -/
def maxRetries (s : PortScanScheduler) : ℕ :=
  match s.timing with
  | none => ctx.config.retries
  | some timing => timing.profile.maxRetries

/-- The parallelism limit `pump` reads on entry. -/
def limit (s : PortScanScheduler) : ℕ :=
  match s.timing with
  | none => ctx.config.maxOutstanding
  | some timing => timing.parallelismLimit ctx.config.maxOutstanding

def attemptTimeout (s : PortScanScheduler) : ℤ :=
  match s.timing with
  | none => ctx.config.timeout
  | some timing => timing.timeout

/-! ### Ending an attempt

`pump` is the pump to call once the attempt's fate is recorded. -/

section Attempt

variable (pump : PortScanScheduler → PortScanScheduler)

/-- The common tail of the two retry branches of `finish_attempt`. -/
def retryOrFail (work : WorkItem) (rttMs : Option ℚ) (s : PortScanScheduler) : PortScanScheduler :=
  match s.deferRetry ctx work with
  | (true, s) => pump s
  | (false, s) =>
    pump (s.appendTerminalResult ctx work ctx.config.method .error .internalError rttMs)

/-- The observation counters of a confirmed-negative candidate, and how many observations match. -/
def countObservation (work : WorkItem) : PortState → WorkItem × ℕ
  | .closed =>
    ({ work with closedObservations := work.closedObservations + 1 }, work.closedObservations + 1)
  | .filtered =>
    ({ work with filteredObservations := work.filteredObservations + 1 },
      work.filteredObservations + 1)
  | _ =>
    ({ work with errorObservations := work.errorObservations + 1 }, work.errorObservations + 1)

/-- `finish_attempt`. -/
def finishAttempt (work : WorkItem) (state : PortState) (reason : ScanReason) (rttMs : Option ℚ)
    (s : PortScanScheduler) : PortScanScheduler :=
  let s := s.record (.observed work state reason)
  if shouldConfirmNegative ctx.config.method state reason then
    let (work, matching) := countObservation work state
    if work.closedObservations > 0 ∧ work.filteredObservations > 0 then
      pump (s.appendTerminalResult ctx work ctx.config.method .unknown .conflictingEvidence rttMs)
    else if matching < 2 ∧ work.retryCount < s.maxRetries ctx then
      retryOrFail ctx pump work rttMs s
    else pump (s.appendTerminalResult ctx work ctx.config.method state reason rttMs)
  else if (reason = .timeout ∨ reason = .ackTimeout) ∧ work.retryCount < s.maxRetries ctx then
    retryOrFail ctx pump work rttMs s
  else pump (s.appendTerminalResult ctx work ctx.config.method state reason rttMs)

/-- The round-trip time of an attempt in milliseconds, never negative. -/
def rttMs (startedAt endedAt : TimePoint) : ℚ := max 0 ((endedAt - startedAt : ℤ) / 1000000)

/-- `complete_pending`. -/
def completePending (id : PortProbeId) (state : PortState) (reason : ScanReason)
    (completedAt : TimePoint) (s : PortScanScheduler) : PortScanScheduler :=
  match s.pending.lookup id with
  | none => s
  | some pending =>
    let s := (s.cancelTimer pending.timerId).cancelSubmission id
    let rtt := rttMs pending.startedAt completedAt
    let s :=
      { s with
        pending := s.pending.erase id
        timing := s.timing.map (·.onResponse rtt.floor) }
    finishAttempt ctx pump pending.work state reason (some rtt) s

/-- `receive`. -/
def receiveWith (response : PortResponse) (s : PortScanScheduler) : PortScanScheduler :=
  match s.pending.lookup response.id, ctx.probe with
  | some pending, some probe =>
    match probe.assess response pending.submission with
    | .error _ => s
    | .ok (state, reason) =>
      let (completedAt, s) :=
        if response.receivedAt = 0 then s.readClock ctx else (response.receivedAt, s)
      if completedAt < pending.startedAt then s
      else if state = .error ∨ ctx.config.method = .tcpConnect then
        completePending ctx pump response.id state reason completedAt s
      else
        { s with
          pending := s.pending.replace response.id
            (Pending.observe pending state reason completedAt) }
  | _, _ => s

/-- `on_timeout`: the attempt ends with its candidate, or else with the probe's timeout verdict. -/
def onTimeoutWith (id : PortProbeId) (s : PortScanScheduler) : PortScanScheduler :=
  match s.pending.lookup id, ctx.probe with
  | some pending, some probe =>
    let s := { s.cancelSubmission id with pending := s.pending.erase id }
    match pending.candidateState with
    | some state =>
      let rtt := rttMs pending.startedAt pending.candidateAt
      let s := { s with timing := s.timing.map (·.onResponse rtt.floor) }
      finishAttempt ctx pump pending.work state pending.candidateReason (some rtt) s
    | none =>
      let s := { s with timing := s.timing.map (·.onTimeout) }
      finishAttempt ctx pump pending.work probe.timeoutState probe.timeoutReason none s
  | _, _ => s

/-! ### Starting an attempt -/

/-- The end of an iteration of the loop of `pump`: hand the submission to the transport, which may
call back at once, and undo the attempt if it refuses. -/
def launch (id : PortProbeId) (timer : TimerId) (work : WorkItem) (submission : PortSubmission)
    (s : PortScanScheduler) : PortScanScheduler :=
  let (outcome, s) := s.transportSubmit ctx work submission
  let s := outcome.responses.foldl (fun s response ↦ receiveWith ctx pump response s) s
  if outcome.status = .ok then s
  else
    let s := { s.cancelTimer timer with pending := s.pending.erase id }
    (s.appendTerminalResult ctx work ctx.config.method .error
      (submissionFailureReason outcome.status) none).setStatus outcome.status

/-- One iteration of the loop of `pump`, for the item just taken off the queue. Where the source
breaks out of the loop it has made the status not `Ok`, which ends the loop as well. -/
def startAttempt (probe : PortProbe) (work : WorkItem) (s : PortScanScheduler) :
    PortScanScheduler :=
  let id := s.nextId
  let s := { s with nextId := id + 1 }
  match probe.build id work.host work.port ctx.config with
  | .error status =>
    s.appendTerminalResult ctx work ctx.config.method .error
      (if status = .invalidArgument then .invalidTarget else .internalError) none
  | .ok submission =>
    let (startedAt, s) := s.readClock ctx
    let (timer, s) := s.schedule ctx (s.attemptTimeout ctx) (.onTimeout id)
    if timer = 0 then
      let s := s.appendTerminalResult ctx work ctx.config.method .error .internalError none
      if s.status = .ok then s.setStatus .internalError else s
    else
      match s.pending.emplace id { work, submission, startedAt, timerId := timer } with
      | none =>
        ((s.cancelTimer timer).appendTerminalResult ctx work ctx.config.method .error .internalError
          none).setStatus .internalError
      | some pending =>
        let launched : Launch :=
          { work, inFlight := s.pending.values.map Pending.work, limit := s.limit ctx }
        launch ctx pump id timer work submission
          { s with pending, launches := launched :: s.launches }

end Attempt

/-! ### The pump and the public operations -/

/-- The loop of `pump`. A pump called from inside an iteration reads its own limit. -/
def pumpLoop : ℕ → ℕ → PortScanScheduler → PortScanScheduler
  | 0, _, s => s
  | fuel + 1, limit, s =>
    match s.queue, ctx.probe with
    | work :: queue, some probe =>
      if s.status = .ok ∧ s.pending.size < limit then
        let nested s := stopIfIdle (pumpLoop fuel (s.limit ctx) s)
        pumpLoop fuel limit (startAttempt ctx nested probe work { s with queue })
      else s
    | _, _ => s

/-- `pump`. -/
def pump (s : PortScanScheduler) : PortScanScheduler :=
  stopIfIdle (pumpLoop ctx s.queue.length (s.limit ctx) s)

/-- `receive`. -/
def receive (response : PortResponse) (s : PortScanScheduler) : PortScanScheduler :=
  receiveWith ctx (pump ctx) response s

/-- `on_timeout`. -/
def onTimeout (id : PortProbeId) (s : PortScanScheduler) : PortScanScheduler :=
  onTimeoutWith ctx (pump ctx) id s

/-- `on_retry_ready`. -/
def onRetryReady (id : RetryId) (s : PortScanScheduler) : PortScanScheduler :=
  match s.deferredRetries.lookup id with
  | none => s
  | some retry =>
    pump ctx
      { s with deferredRetries := s.deferredRetries.erase id, queue := retry.work :: s.queue }

/-- `validate_config`. -/
def validateConfig (s : PortScanScheduler) : StatusCode :=
  if ctx.environment.initializationStatus ≠ .ok then ctx.environment.initializationStatus
  else if ctx.probe.isNone ∨ ¬ ctx.environment.supports ctx.config.method then .permissionDenied
  else if ctx.config.timeout ≤ 0 ∨ ctx.config.retryDelay < 0 ∨ ctx.config.maxOutstanding = 0 ∨
      s.timing.any (·.validate ≠ .ok) then
    .invalidArgument
  else .ok

/-- The body of `submit`'s loop over the hosts. -/
def submitHost (ports : List Port) (s : PortScanScheduler) (host : Host) : PortScanScheduler :=
  if validHostAddress ctx.inet host then
    { s with queue := s.queue ++ ports.map fun port ↦ { host, port } }
  else
    let s := ports.foldl
      (fun s port ↦
        s.appendTerminalResult ctx { host, port } ctx.config.method .error .invalidTarget none) s
    { s with status := .invalidArgument }

/-- `submit`, which returns the status it leaves in the scheduler, or `InvalidArgument` and nothing
changed on a second submission. -/
def submit (target : Target) (ports : List Port) (s : PortScanScheduler) :
    StatusCode × PortScanScheduler :=
  if s.submitted then (.invalidArgument, s)
  else if s.validateConfig ctx ≠ .ok then
    (s.validateConfig ctx, { s with status := s.validateConfig ctx })
  else if ports = [] ∨ target.resolvedHosts = [] ∨
      ports.any (fun port ↦ port.protocol ≠ .tcp || port.number = 0) then
    (.invalidArgument, { s with status := .invalidArgument })
  else
    let s := target.resolvedHosts.foldl (submitHost ctx ports) { s with submitted := true }
    let s := if s.status = .ok then pump ctx s else { s with queue := [] }
    let s := stopIfIdle s
    (s.status, s)

/-- What can happen to a scheduler once work has been submitted. -/
inductive Event where
  | receive (response : PortResponse)
  | onTimeout (id : PortProbeId)
  | onRetryReady (id : RetryId)
  | pump

def step (s : PortScanScheduler) : Event → PortScanScheduler
  | .receive response => receive ctx response s
  | .onTimeout id => onTimeout ctx id s
  | .onRetryReady id => onRetryReady ctx id s
  | .pump => pump ctx s

end PortScanScheduler

end Skan.PortScan
