import Mathlib.Data.Finset.Insert
import Skan.Io.Timers
import Skan.Library.Runs
import Skan.ScanEngine.ScanGroup

/-!
# The adaptive scheduler

`AdaptiveScheduler` of `src/scanengine/adaptive_scheduler.cpp`, over a `ScanGroup` and the timers of
the reactor. The clock, the transport and whether the reactor takes a timer are functions of the
trace. A timer is armed for a work identifier, and an expired one calls `on_timeout` with it: which
attempt it was armed for is not recorded.

No transport of the repository calls back before its `submit` returns. Failed allocations are not
modelled.
-/

namespace Skan.ScanEngine

open Skan.Core Skan.Io

inductive ScanCompletionState where
  | validResponse
  | timeout
  | duplicate
  | lateResponse
  | malformedResponse
  | failed
  deriving DecidableEq

structure ScanCompletion where
  id : ScanWorkId := 0
  state : ScanCompletionState := .validResponse
  rtt : Option ℤ := none
  deriving DecidableEq

namespace AdaptiveScheduler

/-- An attempt in flight. -/
structure Pending where
  work : ScanWorkItem
  sentAt : TimePoint
  timerId : TimerId := 0
  deriving DecidableEq

/-- A call to the world outside. -/
inductive Effect where
  | clockRead
  | timerRequested (delay : ℤ)
  | submitted (work : ScanWorkItem) (status : StatusCode)
  | submissionCancelled (id : ScanWorkId)
  | engineStopped
  deriving DecidableEq

/-- The clock, the reactor and the transport. -/
structure Environment where
  initializationStatus : StatusCode := .ok
  now : List Effect → TimePoint
  accepts : List Effect → Bool
  submit : List Effect → ScanWorkItem → StatusCode

end AdaptiveScheduler

/-- The state of an `AdaptiveScheduler`, of its group and of its timers; the trace is newest
first. -/
structure AdaptiveScheduler where
  group : ScanGroup
  engine : IOEngine ScanWorkId := {}
  pending : KeyedStore ScanWorkId AdaptiveScheduler.Pending := ∅
  completedIds : Finset ScanWorkId := ∅
  expiredIds : Finset ScanWorkId := ∅
  status : StatusCode := .ok
  started : Bool := false
  stopped : Bool := false
  trace : List AdaptiveScheduler.Effect := []

namespace AdaptiveScheduler

variable (env : Environment)

/-- A scheduler as constructed. -/
def create (group : ScanGroup) : AdaptiveScheduler where
  group

def record (e : Effect) (s : AdaptiveScheduler) : AdaptiveScheduler :=
  { s with trace := e :: s.trace }

def readClock (s : AdaptiveScheduler) : TimePoint × AdaptiveScheduler :=
  (env.now s.trace, s.record .clockRead)

/-- `complete`. -/
def complete (s : AdaptiveScheduler) : Bool :=
  s.started && s.group.queuedCount = 0 && s.pending.size = 0

/-- `finish_if_idle`. -/
def finishIfIdle (s : AdaptiveScheduler) : AdaptiveScheduler :=
  if s.started && !s.stopped && s.group.queuedCount = 0 && s.pending.size = 0 then
    let (now, s) := s.readClock env
    let metrics := { s.group.metrics with completedAt := now }
    { s with group := { s.group with metrics } }.record .engineStopped
  else s

/-- `update_adaptive_state`. -/
def updateAdaptiveState (s : AdaptiveScheduler) : AdaptiveScheduler :=
  let metrics :=
    { s.group.metrics with currentParallelism := s.group.congestion.currentParallelism }
  { s with group := { s.group with metrics } }

/-! ### The pump -/

/-- An attempt that could not be started. -/
def failAttempt (id : ScanWorkId) (status : StatusCode) (s : AdaptiveScheduler) :
    AdaptiveScheduler :=
  { s with group := (s.group.markFailed id).2, status }

/-- The end of an iteration of `pump`: the attempt is handed to the transport. -/
def handOver (work : ScanWorkItem) (timerId : TimerId) (s : AdaptiveScheduler) :
    AdaptiveScheduler :=
  let status := env.submit s.trace work
  let s := s.record (.submitted work status)
  if status ≠ .ok then
    { s with
      engine := s.engine.cancel timerId
      pending := s.pending.erase work.id }.failAttempt work.id status
  else
    let metrics := s.group.metrics.setParallelism s.pending.size
      (max s.group.metrics.maximumObservedParallelism s.pending.size)
    { s with group := { s.group with metrics } }

/-- The part of an iteration of `pump` after the item is marked as submitted. -/
def launch (work : ScanWorkItem) (sentAt : TimePoint) (s : AdaptiveScheduler) : AdaptiveScheduler :=
  let delay := s.group.rtt.timeout
  let (timerId, engine) := s.engine.schedule (env.accepts s.trace) work.id
  let s := { s with engine }.record (.timerRequested delay)
  if timerId = 0 then s.failAttempt work.id .internalError
  else
    match s.pending.emplace work.id { work, sentAt, timerId } with
    | none =>
      { s with engine := s.engine.cancel timerId }.failAttempt work.id .internalError
    | some pending => handOver env work timerId { s with pending }

/-- An iteration of `pump`, for the item just taken off the queue. -/
def startAttempt (work : ScanWorkItem) (s : AdaptiveScheduler) : AdaptiveScheduler :=
  let (sentAt, s) := s.readClock env
  let deadline := sentAt + s.group.rtt.timeout * 1000000
  match s.group.markSubmitted work.id sentAt deadline with
  | (false, group) => { s with group, status := .internalError }
  | (true, group) =>
    launch env { work with state := .submitted, submittedAt := sentAt, deadline } sentAt
      { s with group }

/-- The loop of `pump`; where the source breaks out of it, it has made the status not `Ok`. -/
def pumpLoop : ℕ → AdaptiveScheduler → AdaptiveScheduler
  | 0, s => s
  | fuel + 1, s =>
    if s.status = .ok ∧ !s.stopped ∧ 0 < s.group.queuedCount ∧
        s.pending.size < s.group.congestion.currentParallelism then
      match s.group.nextQueued with
      | (none, group) => { s with group }
      | (some work, group) => pumpLoop fuel (startAttempt env work { s with group })
    else s

/-- `pump`. -/
def pump (s : AdaptiveScheduler) : AdaptiveScheduler :=
  (pumpLoop env s.group.queuedCount s).finishIfIdle env

/-! ### Ending an attempt -/

/-- What `on_timeout` does to the group: the item is marked, and queued again if it may be
retried. -/
def timeOutItem (id : ScanWorkId) (work : ScanWorkItem) (g : ScanGroup) : Bool × ScanGroup :=
  let group := (g.markTimedOut id).2
  { group with congestion := group.congestion.onTimeout }.requeueForRetry work

/-- The part of `on_timeout` before it pumps. -/
def timeOutAttempt (id : ScanWorkId) (pending : Pending) (s : AdaptiveScheduler) :
    AdaptiveScheduler :=
  let s := s.record (.submissionCancelled id)
  let (requeued, group) := timeOutItem id pending.work s.group
  let s :=
    { s with group, pending := s.pending.erase id, expiredIds := insert id s.expiredIds }
  if requeued then s else s.updateAdaptiveState

/-- `on_timeout`. -/
def onTimeout (id : ScanWorkId) (s : AdaptiveScheduler) : AdaptiveScheduler :=
  match s.pending.lookup id with
  | none => s
  | some pending => if s.stopped then s else pump env (timeOutAttempt id pending s)

/-- The time of an answer: as the transport measured it, else by the clock, in milliseconds. -/
def sampleOf (completion : ScanCompletion) (sentAt receivedAt : TimePoint) : ℤ :=
  match completion.rtt with
  | some rtt => rtt
  | none => if receivedAt > sentAt then (receivedAt - sentAt) / 1000000 else 0

/-- An attempt that ends with an answer: its timer is cancelled, and the transport forgets it. -/
def retire (id : ScanWorkId) (timerId : TimerId) (s : AdaptiveScheduler) : AdaptiveScheduler :=
  { s with
    engine := s.engine.cancel timerId
    pending := s.pending.erase id }.record (.submissionCancelled id)

/-- The part of `complete_pending` before it pumps. -/
def completeAttempt (completion : ScanCompletion) (pending : Pending) (s : AdaptiveScheduler) :
    AdaptiveScheduler :=
  let (receivedAt, s) := (s.retire completion.id pending.timerId).readClock env
  let sample := sampleOf completion pending.sentAt receivedAt
  let group := (s.group.markCompleted completion.id).2
  let group :=
    { group with congestion := group.congestion.onResponse, rtt := group.rtt.observe sample }
  { s with group, completedIds := insert completion.id s.completedIds }.updateAdaptiveState

/-- `complete_pending`. -/
def completePending (completion : ScanCompletion) (s : AdaptiveScheduler) : AdaptiveScheduler :=
  match s.pending.lookup completion.id with
  | none => s
  | some pending => pump env (completeAttempt env completion pending s)

/-- The part of `fail_pending` before it pumps. -/
def abortAttempt (id : ScanWorkId) (pending : Pending) (s : AdaptiveScheduler) :
    AdaptiveScheduler :=
  let s := s.retire id pending.timerId
  let group := (s.group.markFailed id).2
  { s with group, completedIds := insert id s.completedIds }.updateAdaptiveState

/-- `fail_pending`. -/
def failPending (id : ScanWorkId) (s : AdaptiveScheduler) : AdaptiveScheduler :=
  match s.pending.lookup id with
  | none => s
  | some pending => pump env (abortAttempt id pending s)

/-- One more in a counter of the metrics. -/
def count (record : ScanMetrics → ScanMetrics) (s : AdaptiveScheduler) : AdaptiveScheduler :=
  { s with group := { s.group with metrics := record s.group.metrics } }

def countDuplicate (s : AdaptiveScheduler) : AdaptiveScheduler :=
  s.count fun m ↦ { m with duplicateResponses := m.duplicateResponses + 1 }

def countLate (s : AdaptiveScheduler) : AdaptiveScheduler :=
  s.count fun m ↦ { m with lateResponses := m.lateResponses + 1 }

def countMalformed (s : AdaptiveScheduler) : AdaptiveScheduler :=
  s.count fun m ↦ { m with malformedResponses := m.malformedResponses + 1 }

/-! ### The public operations -/

/-- `start`. -/
def start (s : AdaptiveScheduler) : StatusCode × AdaptiveScheduler :=
  if s.started then (.invalidArgument, s)
  else if env.initializationStatus ≠ .ok then
    (env.initializationStatus, { s with status := env.initializationStatus })
  else if s.group.validate ≠ .ok then (.invalidArgument, { s with status := .invalidArgument })
  else
    let (now, s) := { s with started := true }.readClock env
    let s := finishIfIdle env (pump env (s.count fun m ↦ { m with startedAt := now }))
    (s.status, s)

/-- `receive`. -/
def receive (completion : ScanCompletion) (s : AdaptiveScheduler) : AdaptiveScheduler :=
  if s.stopped then s
  else if completion.id ∉ s.pending then
    if completion.id ∈ s.completedIds then s.countDuplicate
    else if completion.id ∈ s.expiredIds then s.countLate
    else s
  else
    match completion.state with
    | .validResponse => completePending env completion s
    | .timeout => onTimeout env completion.id s
    | .malformedResponse => failPending env completion.id s.countMalformed
    | .failed => failPending env completion.id s
    | .duplicate => s.countDuplicate
    | .lateResponse => s.countLate

/-- The part of `cancel` before it pumps: what it does to the item, if there is one to cancel. -/
def cancelItem (id : ScanWorkId) (s : AdaptiveScheduler) : Bool × AdaptiveScheduler :=
  match s.pending.lookup id with
  | some pending =>
    let s := s.retire id pending.timerId
    (true, { s with group := (s.group.cancel id).2, expiredIds := insert id s.expiredIds })
  | none =>
    let (cancelled, group) := s.group.cancel id
    (cancelled, { s with group })

/-- `cancel`. -/
def cancel (id : ScanWorkId) (s : AdaptiveScheduler) : StatusCode × AdaptiveScheduler :=
  if !s.started ∨ s.stopped then (.invalidArgument, s)
  else
    match cancelItem id s with
    | (false, s) => (.notFound, s)
    | (true, s) => (.ok, finishIfIdle env (pump env s))

/-- What `shutdown` does for one attempt in flight. -/
def abandon (s : AdaptiveScheduler) (entry : Sigma fun _ : ScanWorkId ↦ Pending) :
    AdaptiveScheduler :=
  { s with
    engine := s.engine.cancel entry.2.timerId
    expiredIds := insert entry.1 s.expiredIds }.record (.submissionCancelled entry.1)

/-- `shutdown`. -/
def shutdown (s : AdaptiveScheduler) : AdaptiveScheduler :=
  if s.stopped then s
  else
    let s := s.pending.entries.foldl abandon { s with stopped := true }
    let (now, s) := { s with pending := ∅, group := s.group.cancelAll }.readClock env
    (s.count fun m ↦ { m with completedAt := now }).record .engineStopped

/-- A timer expires, if it is armed: the reactor disarms it and calls back. -/
def timerExpired (timer : TimerId) (s : AdaptiveScheduler) : AdaptiveScheduler :=
  match s.engine.expire timer with
  | none => s
  | some (id, engine) => onTimeout env id { s with engine }

/-- What can happen to a scheduler and its group. -/
inductive Event where
  | enqueue (now : TimePoint) (item : ScanWorkItem)
  | enqueueTarget (now : TimePoint) (target protocolMetadata : Text)
  | start
  | pump
  | receive (completion : ScanCompletion)
  | timerExpired (timer : TimerId)
  | cancel (id : ScanWorkId)
  | shutdown

def step (s : AdaptiveScheduler) : Event → AdaptiveScheduler
  | .enqueue now item => { s with group := (s.group.enqueue now item).2 }
  | .enqueueTarget now target protocolMetadata =>
    { s with group := (s.group.enqueueTarget now target protocolMetadata).2 }
  | .start => (start env s).2
  | .pump => pump env s
  | .receive completion => receive env completion s
  | .timerExpired timer => timerExpired env timer s
  | .cancel id => (cancel env id s).2
  | .shutdown => shutdown env s

end AdaptiveScheduler

end Skan.ScanEngine
