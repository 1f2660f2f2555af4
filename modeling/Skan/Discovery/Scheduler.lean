import Mathlib.Data.Finset.Insert
import Skan.Discovery.Types
import Skan.PortScan.Scheduler

/-!
# The discovery scheduler

`DiscoveryScheduler` of `src/discovery/discovery_scheduler.cpp`. What the clock and the timers
answer is a function of the trace, as in the port schedulers. The transport, an abstract class in
the source, is a parameter with a state of its own, which the scheduler hands its submissions to; no
discovery transport calls back before its `submit` returns.

Unlike in those, a host is admitted as a whole or refused: `submitHost` refuses it when its probes,
with those pending and those queued, would exceed `max_outstanding`.

Failed allocations are not modelled.
-/

namespace Skan.Discovery

open Skan.Core Skan.PortScan

namespace DiscoveryScheduler

structure WorkItem where
  target : Target
  host : Host
  type : ProbeType
  deriving DecidableEq

/-- A probe in flight. Its `DiscoveryProbe` is the one of its type. -/
structure PendingProbe where
  id : ProbeId
  type : ProbeType
  target : Text
  submission : ProbeSubmission
  sentAt : TimePoint
  deadline : TimePoint
  timerId : TimerId := 0
  deriving DecidableEq

/-- A call to the world outside, with the part of the answer the scheduler acts on. -/
inductive Effect where
  | clockRead
  | timerScheduled (delay : ℤ) (id : ProbeId) (timer : TimerId)
  | timerCancelled (timer : TimerId)
  | submitted (submission : ProbeSubmission) (status : StatusCode)
  | engineStopped
  deriving DecidableEq

/-- Clock, engine, and a transport with state `τ`. A scheduled timer's identifier is zero when the
engine refuses. -/
structure Environment (τ : Type) where
  now : List Effect → TimePoint
  schedule : List Effect → ℤ → TimerId
  submit : List Effect → ProbeSubmission → τ → StatusCode × τ

/-- What a scheduler is constructed with. -/
structure Context (τ : Type) where
  inet : Inet
  environment : Environment τ
  config : DiscoveryConfig

end DiscoveryScheduler

/-- The state of a `DiscoveryScheduler` and of its transport; the trace is newest first. -/
structure DiscoveryScheduler (τ : Type) where
  transport : τ
  pending : KeyedStore ProbeId DiscoveryScheduler.PendingProbe := ∅
  completedProbeIds : Finset ProbeId := ∅
  expiredProbeIds : Finset ProbeId := ∅
  workQueue : List DiscoveryScheduler.WorkItem := []
  evidence : KeyedStore Text (List DiscoveryResult) := ∅
  results : List DiscoveryResult := []
  nextProbeId : ProbeId := 1
  duplicateResponseCount : ℕ := 0
  lateResponseCount : ℕ := 0
  trace : List DiscoveryScheduler.Effect := []

namespace DiscoveryScheduler

variable {τ : Type} (ctx : Context τ)

/-- `reason_for_status`. -/
def reasonForStatus : StatusCode → DiscoveryReason
  | .permissionDenied => .permissionFailure
  | .ioError => .socketFailure
  | .invalidArgument => .invalidTarget
  | _ => .internalError

/-- `probes_`, as the constructor fills it. -/
def probes : List DiscoveryProbe := ctx.config.probes.map (probeOf ctx.inet)

/-- `probe_for`. -/
def probeFor (type : ProbeType) : Option DiscoveryProbe := (probes ctx).find? (·.type = type)

/-- A scheduler as constructed. -/
def create (transport : τ) : DiscoveryScheduler τ where
  transport

/-! ### Calls to the world outside -/

def record (e : Effect) (s : DiscoveryScheduler τ) : DiscoveryScheduler τ :=
  { s with trace := e :: s.trace }

def readClock (s : DiscoveryScheduler τ) : TimePoint × DiscoveryScheduler τ :=
  (ctx.environment.now s.trace, s.record .clockRead)

def schedule (delay : ℤ) (id : ProbeId) (s : DiscoveryScheduler τ) :
    TimerId × DiscoveryScheduler τ :=
  let timer := ctx.environment.schedule s.trace delay
  (timer, s.record (.timerScheduled delay id timer))

def transportSubmit (submission : ProbeSubmission) (s : DiscoveryScheduler τ) :
    StatusCode × DiscoveryScheduler τ :=
  let (status, transport) := ctx.environment.submit s.trace submission s.transport
  (status, { s with transport }.record (.submitted submission status))

/-! ### Results -/

/-- `append_result`. -/
def appendResult (result : DiscoveryResult) (s : DiscoveryScheduler τ) : DiscoveryScheduler τ :=
  let (timestamp, s) :=
    if result.timestamp = 0 then s.readClock ctx else (result.timestamp, s)
  let result := { result with timestamp }
  { s with
    evidence := s.evidence.insert result.target
      ((s.evidence.lookup result.target).getD [] ++ [result])
    results := s.results ++ [result] }

/-- `append_result` of a probe that found nothing out, at the time of the call. -/
def appendUnknown (target : Text) (probe : ProbeType) (reason : DiscoveryReason)
    (s : DiscoveryScheduler τ) : DiscoveryScheduler τ :=
  let (timestamp, s) := s.readClock ctx
  s.appendResult ctx { target, probe, timestamp, reason }

/-- `complete`. -/
def complete (s : DiscoveryScheduler τ) : Bool := s.pending.size = 0 ∧ s.workQueue = []

/-- The engine is stopped when there is nothing left to do. -/
def stopIfComplete (s : DiscoveryScheduler τ) : DiscoveryScheduler τ :=
  if s.complete then s.record .engineStopped else s

/-- `host_state`. -/
def hostState (address : Text) (s : DiscoveryScheduler τ) : HostState :=
  let found := (s.evidence.lookup address).getD []
  if found.any (·.state = .up) then .up
  else if found.any (·.state = .down) then .down
  else if found.any (·.state = .unreachable) then .unreachable
  else .unknown

/-! ### The pump -/

/-- The identifier after an identifier; zero is left out. -/
def nextId (id : ProbeId) : ProbeId := if id + 1 = 0 then 1 else id + 1

/-- The end of `submit_one`, for a submission the transport has accepted. -/
def enterPending (id : ProbeId) (item : WorkItem) (submission : ProbeSubmission)
    (s : DiscoveryScheduler τ) : StatusCode × DiscoveryScheduler τ :=
  let (sentAt, s) := s.readClock ctx
  let (timerId, s) := s.schedule ctx ctx.config.timeout id
  if timerId = 0 then
    (.internalError, s.appendUnknown ctx item.host.address item.type .internalError)
  else
    let entered : PendingProbe :=
      { id, type := item.type, target := item.target.originalSpecification, submission, sentAt
        deadline := sentAt + ctx.config.timeout * 1000000, timerId }
    (.ok, { s with pending := (s.pending.emplace id entered).getD s.pending })

/-- The part of `submit_one` that hands a submission to the transport. -/
def handOver (id : ProbeId) (item : WorkItem) (submission : ProbeSubmission)
    (s : DiscoveryScheduler τ) : StatusCode × DiscoveryScheduler τ :=
  let (status, s) := s.transportSubmit ctx submission
  if status = .ok then enterPending ctx id item submission s
  else (status, s.appendUnknown ctx item.host.address item.type (reasonForStatus status))

/-- `submit_one`. -/
def submitOne (item : WorkItem) (s : DiscoveryScheduler τ) : StatusCode × DiscoveryScheduler τ :=
  match probeFor ctx item.type with
  | none => (.invalidArgument, s)
  | some probe =>
    let id := s.nextProbeId
    let s := { s with nextProbeId := nextId id }
    match probe.build id item.host ctx.config with
    | .error status =>
      (status, s.appendUnknown ctx item.host.address item.type (reasonForStatus status))
    | .ok submission => handOver ctx id item submission s

/-- The loop of `pump`; the queue only shrinks in it. -/
def pumpLoop : ℕ → DiscoveryScheduler τ → DiscoveryScheduler τ
  | 0, s => s
  | fuel + 1, s =>
    match s.workQueue with
    | [] => s
    | item :: workQueue =>
      if s.pending.size < ctx.config.maxOutstanding.toNat then
        pumpLoop fuel (submitOne ctx item { s with workQueue }).2
      else s

/-- `pump`. -/
def pump (s : DiscoveryScheduler τ) : DiscoveryScheduler τ := pumpLoop ctx s.workQueue.length s

/-! ### Submission -/

/-- A host that `submit_host` does not reject as such. -/
def validHost (host : Host) : Bool := host.address ≠ [] && validHostAddress ctx.inet host

/-- The number of probes `submit_host` asks room for. -/
def requested : ℕ := (ctx.config.probes.filter fun type ↦ (probeFor ctx type).isSome).length

/-- `submit_host`. -/
def submitHost (target : Target) (host : Host) (s : DiscoveryScheduler τ) :
    StatusCode × DiscoveryScheduler τ :=
  if !validHost ctx host then
    (.invalidArgument,
      s.appendUnknown ctx host.address ((probes ctx).head?.elim .icmpEcho (·.type)) .invalidTarget)
  else if probes ctx = [] ∨ ctx.config.timeout ≤ 0 ∨ ctx.config.maxOutstanding = 0 then
    (.invalidArgument, s)
  else if requested ctx = 0 ∨
      s.pending.size + s.workQueue.length + requested ctx > ctx.config.maxOutstanding.toNat then
    (.ioError, s)
  else
    (.ok,
      pump ctx
        { s with
          workQueue := s.workQueue ++ ctx.config.probes.map fun type ↦ { target, host, type } })

/-- The loop of `submit` over the hosts, which keeps the first error. -/
def submitHosts (target : Target) : List Host → DiscoveryScheduler τ →
    StatusCode × DiscoveryScheduler τ
  | [], s => (.ok, s)
  | host :: hosts, s =>
    let (status, s) := submitHost ctx target host s
    let (later, s) := submitHosts target hosts s
    (if status = .ok then later else status, s)

/-- `submit`. -/
def submit (target : Target) (s : DiscoveryScheduler τ) : StatusCode × DiscoveryScheduler τ :=
  if target.resolvedHosts = [] ∨ probes ctx = [] ∨ ctx.config.timeout ≤ 0 ∨
      ctx.config.maxOutstanding = 0 then
    (.invalidArgument, s)
  else
    let (status, s) := submitHosts ctx target target.resolvedHosts s
    (status, pump ctx s)

/-! ### Ending a probe -/

/-- The round-trip time in milliseconds, never negative. -/
def rttMs (sentAt receivedAt : TimePoint) : ℚ := max 0 ((receivedAt - sentAt : ℤ) / 1000000)

/-- What `receive` does once it has the result of a probe. -/
def finish (id : ProbeId) (pending : PendingProbe) (result : DiscoveryResult)
    (s : DiscoveryScheduler τ) : DiscoveryScheduler τ :=
  let s := (s.appendResult ctx result).record (.timerCancelled pending.timerId)
  stopIfComplete
    (pump ctx
      { s with
        completedProbeIds := insert pending.id s.completedProbeIds
        pending := s.pending.erase id })

/-- The time a response is dated with. -/
def receptionTime (response : DiscoveryResponse) (s : DiscoveryScheduler τ) :
    TimePoint × DiscoveryScheduler τ :=
  if response.receivedAt = 0 then s.readClock ctx else (response.receivedAt, s)

/-- `receive`, for a probe in flight. -/
def receivePending (response : DiscoveryResponse) (pending : PendingProbe)
    (s : DiscoveryScheduler τ) : StatusCode × DiscoveryScheduler τ :=
  let probe := probeOf ctx.inet pending.type
  let target := pending.submission.target
  if response.kind = .unreachable then
    let (receivedAt, s) := s.receptionTime ctx response
    (.ok,
      s.finish ctx response.probeId pending
        { target, state := .unreachable, probe := pending.type
          rttMs := some (rttMs pending.sentAt receivedAt), timestamp := receivedAt
          reason := .unreachable })
  else
    match probe.assess response pending.submission with
    | .malformed =>
      let (timestamp, s) := s.readClock ctx
      (.parseError,
        s.finish ctx response.probeId pending
          { target, probe := pending.type, timestamp, reason := .malformedResponse })
    | .unrelated => (.ok, s)
    | .matching =>
      let (receivedAt, s) := s.receptionTime ctx response
      (.ok,
        s.finish ctx response.probeId pending
          { target, state := .up, probe := pending.type, responded := true
            rttMs := some (rttMs pending.sentAt receivedAt), timestamp := receivedAt
            reason := probe.positiveReason response })

/-- `receive`. -/
def receive (response : DiscoveryResponse) (s : DiscoveryScheduler τ) :
    StatusCode × DiscoveryScheduler τ :=
  if response.probeId = 0 then (.invalidArgument, s)
  else
    match s.pending.lookup response.probeId with
    | none =>
      if response.probeId ∈ s.expiredProbeIds then
        (.notFound, { s with lateResponseCount := s.lateResponseCount + 1 })
      else if response.probeId ∈ s.completedProbeIds then
        (.ok, { s with duplicateResponseCount := s.duplicateResponseCount + 1 })
      else (.notFound, s)
    | some pending => receivePending ctx response pending s

/-- `expire`. -/
def expire (id : ProbeId) (s : DiscoveryScheduler τ) : DiscoveryScheduler τ :=
  match s.pending.lookup id with
  | none => s
  | some pending =>
    let s := s.appendUnknown ctx pending.submission.target pending.type .timeout
    stopIfComplete
      (pump ctx
        { s with
          expiredProbeIds := insert id s.expiredProbeIds
          pending := s.pending.erase id })

/-- What can happen to a scheduler that has been given its work. -/
inductive Event where
  | receive (response : DiscoveryResponse)
  | expire (id : ProbeId)
  | pump

def step (s : DiscoveryScheduler τ) : Event → DiscoveryScheduler τ
  | .receive response => (receive ctx response s).2
  | .expire id => expire ctx id s
  | .pump => pump ctx s

end DiscoveryScheduler

end Skan.Discovery
