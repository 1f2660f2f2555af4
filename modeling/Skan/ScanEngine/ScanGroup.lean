import Skan.Library.KeyedStore
import Skan.ScanEngine.Timing

/-!
# Groups of work items

`ScanGroup` of `src/scanengine/scan_group.cpp` and the counters of `ScanMetrics` it keeps: the items
of a scan, each with its state, and the queue of those that are to be submitted.

Cancelling an item leaves its identifier in the queue; `nextQueued` skips it when it gets there. How
many items are submitted is not stored: `outstandingMetric` subtracts what has ended from what was
submitted.

The statistics of round-trip times among the metrics are read by nothing here and left out, and so
are failed allocations.
-/

namespace Skan.ScanEngine

open Skan.Core
open CongestionController (saturatingSucc)

abbrev ScanWorkId := UInt64

inductive ScanWorkState where
  | queued
  | submitted
  | completed
  | timedOut
  | cancelled
  | failed
  deriving DecidableEq

structure ScanWorkItem where
  id : ScanWorkId := 0
  target : Text := []
  protocolMetadata : Text := []
  createdAt : TimePoint := 0
  submittedAt : TimePoint := 0
  deadline : TimePoint := 0
  retryCount : ℕ := 0
  state : ScanWorkState := .queued
  deriving DecidableEq

/-- The counters of `ScanMetrics`. -/
structure ScanMetrics where
  totalQueued : ℕ := 0
  targetsFailed : ℕ := 0
  probesSubmitted : ℕ := 0
  probesCompleted : ℕ := 0
  probesTimedOut : ℕ := 0
  probesFailed : ℕ := 0
  probesCancelled : ℕ := 0
  probesRetried : ℕ := 0
  retries : ℕ := 0
  totalSubmitted : ℕ := 0
  completed : ℕ := 0
  timedOut : ℕ := 0
  failed : ℕ := 0
  cancelled : ℕ := 0
  duplicateResponses : ℕ := 0
  lateResponses : ℕ := 0
  malformedResponses : ℕ := 0
  activeProbes : ℕ := 0
  peakActiveProbes : ℕ := 0
  currentParallelism : ℕ := 0
  maximumObservedParallelism : ℕ := 0
  timeoutCount : ℕ := 0
  retryCount : ℕ := 0
  timeoutBackoffs : ℕ := 0
  startedAt : TimePoint := 0
  completedAt : TimePoint := 0
  deriving DecidableEq

namespace ScanMetrics

def setParallelism (current observed : ℕ) (m : ScanMetrics) : ScanMetrics :=
  { m with
    currentParallelism := current
    maximumObservedParallelism := max m.maximumObservedParallelism observed
    activeProbes := current
    peakActiveProbes := max m.peakActiveProbes observed }

def recordSubmission (active : ℕ) (m : ScanMetrics) : ScanMetrics :=
  setParallelism active (max active m.peakActiveProbes)
    { m with
      probesSubmitted := saturatingSucc m.probesSubmitted
      totalSubmitted := saturatingSucc m.totalSubmitted }

def recordCompletion (active : ℕ) (m : ScanMetrics) : ScanMetrics :=
  setParallelism active (max active m.peakActiveProbes)
    { m with
      probesCompleted := saturatingSucc m.probesCompleted
      completed := saturatingSucc m.completed }

def recordTimeout (active : ℕ) (m : ScanMetrics) : ScanMetrics :=
  setParallelism active (max active m.peakActiveProbes)
    { m with
      probesTimedOut := saturatingSucc m.probesTimedOut
      timedOut := saturatingSucc m.timedOut
      timeoutCount := saturatingSucc m.timeoutCount }

def recordFailure (active : ℕ) (m : ScanMetrics) : ScanMetrics :=
  setParallelism active (max active m.peakActiveProbes)
    { m with
      probesFailed := saturatingSucc m.probesFailed
      failed := saturatingSucc m.failed }

def recordRetry (m : ScanMetrics) : ScanMetrics :=
  { m with
    retries := saturatingSucc m.retries
    retryCount := saturatingSucc m.retryCount
    probesRetried := saturatingSucc m.probesRetried }

def recordCancellation (m : ScanMetrics) : ScanMetrics :=
  { m with
    cancelled := saturatingSucc m.cancelled
    probesCancelled := saturatingSucc m.probesCancelled }

def recordTargetFailure (m : ScanMetrics) : ScanMetrics :=
  { m with targetsFailed := saturatingSucc m.targetsFailed }

def recordTimeoutBackoff (m : ScanMetrics) : ScanMetrics :=
  { m with timeoutBackoffs := saturatingSucc m.timeoutBackoffs }

end ScanMetrics

/-- `outstanding_metric`; a subtraction stops at zero. -/
def outstandingMetric (m : ScanMetrics) : ℕ :=
  m.totalSubmitted - m.completed - m.timedOut - m.failed - m.cancelled

/-- The state of a `ScanGroup`. -/
structure ScanGroup where
  profile : TimingProfile
  rtt : RttEstimator
  congestion : CongestionController
  metrics : ScanMetrics := {}
  queue : List ScanWorkId := []
  items : KeyedStore ScanWorkId ScanWorkItem := ∅
  nextId : ScanWorkId := 1

namespace ScanGroup

/-- A group as constructed. -/
def create (profile : TimingProfile) : ScanGroup where
  profile
  rtt := (TimingController.create profile).rtt
  congestion := (TimingController.create profile).congestion

def validate (g : ScanGroup) : StatusCode :=
  if g.profile.validate = .ok ∧ g.congestion.valid then .ok else .invalidArgument

/-- `state`. -/
def state (id : ScanWorkId) (g : ScanGroup) : Option ScanWorkState :=
  (g.items.lookup id).map ScanWorkItem.state

/-- `queued_count`. -/
def queuedCount (g : ScanGroup) : ℕ := g.queue.length

/-- `outstanding_count`. -/
def outstandingCount (g : ScanGroup) : ℕ := g.items.values.countP (·.state = .submitted)

/-- `enqueue`, of an item; `now` is the clock at the call. -/
def enqueue (now : TimePoint) (item : ScanWorkItem) (g : ScanGroup) : StatusCode × ScanGroup :=
  if g.validate ≠ .ok ∨ item.id = 0 ∨ item.state ≠ .queued ∨ item.id ∈ g.items then
    (.invalidArgument, g)
  else
    let item := if item.createdAt = 0 then { item with createdAt := now } else item
    (.ok,
      { g with
        items := g.items.insert item.id item
        queue := g.queue ++ [item.id]
        metrics := { g.metrics with totalQueued := g.metrics.totalQueued + 1 }
        nextId := if g.nextId ≤ item.id ∧ item.id < 0xFFFFFFFFFFFFFFFF then item.id + 1
          else g.nextId })

/-- `enqueue`, of a target: the item takes the next identifier. -/
def enqueueTarget (now : TimePoint) (target protocolMetadata : Text) (g : ScanGroup) :
    StatusCode × ScanGroup :=
  if g.validate ≠ .ok ∨ g.nextId = 0 then (.invalidArgument, g)
  else
    enqueue now { id := g.nextId, target, protocolMetadata, createdAt := now }
      { g with nextId := g.nextId + 1 }

/-- The loop of `next_queued`: the first identifier of a queued item, and the queue after it. -/
def nextQueuedLoop (g : ScanGroup) : List ScanWorkId → Option ScanWorkItem × List ScanWorkId
  | [] => (none, [])
  | id :: queue =>
    match g.items.lookup id with
    | none => nextQueuedLoop g queue
    | some item => if item.state = .queued then (some item, queue) else nextQueuedLoop g queue

/-- `next_queued`. -/
def nextQueued (g : ScanGroup) : Option ScanWorkItem × ScanGroup :=
  let (item, queue) := nextQueuedLoop g g.queue
  (item, { g with queue })

/-- `requeue_for_retry`. -/
def requeueForRetry (item : ScanWorkItem) (g : ScanGroup) : Bool × ScanGroup :=
  match g.items.lookup item.id with
  | none => (false, g)
  | some current =>
    if (current.state ≠ .timedOut ∧ current.state ≠ .failed) ∨
        g.profile.maxRetries ≤ item.retryCount then
      (false, g)
    else
      (true,
        { g with
          items := g.items.replace item.id
            { item with state := .queued, retryCount := item.retryCount + 1 }
          queue := g.queue ++ [item.id]
          metrics := g.metrics.recordRetry.recordTimeoutBackoff })

/-- `cancel`. -/
def cancel (id : ScanWorkId) (g : ScanGroup) : Bool × ScanGroup :=
  match g.items.lookup id with
  | none => (false, g)
  | some item =>
    if item.state = .completed ∨ item.state = .cancelled ∨ item.state = .failed then (false, g)
    else
      (true,
        { g with
          items := g.items.replace id { item with state := .cancelled }
          metrics := g.metrics.recordCancellation })

/-- Whether `cancel_all` cancels an item. -/
def cancellable (item : ScanWorkItem) : Bool := item.state = .queued || item.state = .submitted

/-- `cancel_all`. -/
def cancelAll (g : ScanGroup) : ScanGroup :=
  { g with
    items := g.items.mapValues fun item ↦
      if cancellable item then { item with state := .cancelled } else item
    metrics := ScanMetrics.recordCancellation^[g.items.values.countP cancellable] g.metrics
    queue := [] }

/-- `mark_submitted`. -/
def markSubmitted (id : ScanWorkId) (submittedAt deadline : TimePoint) (g : ScanGroup) :
    Bool × ScanGroup :=
  match g.items.lookup id with
  | none => (false, g)
  | some item =>
    if item.state ≠ .queued then (false, g)
    else
      (true,
        { g with
          items := g.items.replace id { item with state := .submitted, submittedAt, deadline }
          metrics := g.metrics.recordSubmission (outstandingMetric g.metrics + 1) })

/-- What `mark_completed`, `mark_timed_out` and `mark_failed` do with a submitted item. -/
def markEnded (id : ScanWorkId) (state : ScanWorkState) (record : ScanMetrics → ScanMetrics)
    (g : ScanGroup) : Bool × ScanGroup :=
  match g.items.lookup id with
  | none => (false, g)
  | some item =>
    if item.state ≠ .submitted then (false, g)
    else
      (true,
        { g with items := g.items.replace id { item with state }, metrics := record g.metrics })

def markCompleted (id : ScanWorkId) (g : ScanGroup) : Bool × ScanGroup :=
  markEnded id .completed (fun m ↦ m.recordCompletion (outstandingMetric m)) g

def markTimedOut (id : ScanWorkId) (g : ScanGroup) : Bool × ScanGroup :=
  markEnded id .timedOut (fun m ↦ m.recordTimeout (outstandingMetric m)) g

def markFailed (id : ScanWorkId) (g : ScanGroup) : Bool × ScanGroup :=
  markEnded id .failed (fun m ↦ (m.recordFailure (outstandingMetric m)).recordTargetFailure) g

end ScanGroup

end Skan.ScanEngine
