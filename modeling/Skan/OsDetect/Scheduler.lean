import Skan.Library.KeyedStore
import Skan.Library.Runs
import Skan.OsDetect.Probe

/-!
# The OS probe scheduler

`OSScheduler` of `src/osdetect/os_scheduler.cpp`: a queue of probes, twelve for each host, those in
flight, and in the end one result. Clock and timers answer as a function of the trace, and the
transport is a parameter with a state of its own, as for the discovery scheduler; no OS transport
calls back before its `submit` returns.

What the matcher makes of the observations is a parameter too (`Context.matcher`): the scheduler
only copies its first match.

Failed allocations and the times nobody reads back are left out.
-/

namespace Skan.OsDetect

open Skan.Core Skan.PortScan Skan.ScanEngine

/-- `OSSchedulerConfig`; durations are in milliseconds. -/
structure OSSchedulerConfig where
  timeout : ℤ := 1000
  maxOutstanding : ℕ := 8
  probePort : UInt16 := 80
  sourceAddress : Text := []
  udpProbePort : UInt16 := 161
  udpProbePayload : List UInt8 := [0x53, 0x4B, 0x41, 0x4E]
  maxResults : ℕ := 3
  adaptiveTiming : Bool := false
  timingProfile : TimingProfile := {}

namespace OSScheduler

/-- `kProbeOrder`. -/
def probeOrder : List OSProbeType :=
  [.tcpSynStandard, .tcpSynVariant, .tcpSynTimestamp, .tcpEcn, .tcpAck, .tcpFin, .tcpNull,
    .tcpXmas, .tcpClosedStandard, .tcpClosedVariant, .icmpEcho, .udpFingerprint]

structure WorkItem where
  host : Host
  port : Port
  type : OSProbeType := .tcpSynStandard
  retryCount : ℕ := 0
  deriving DecidableEq

structure Pending where
  work : WorkItem
  submission : OSProbeSubmission
  sentAt : TimePoint
  timerId : TimerId
  deriving DecidableEq

/-- A call to the world outside, with the part of the answer the scheduler acts on, or a failure to
start a probe, with the number of probes then in `queue_`. -/
inductive Effect where
  | clockRead
  | timerScheduled (delay : ℤ) (id : OSProbeId) (timer : TimerId)
  | timerCancelled (timer : TimerId)
  | submitted (submission : OSProbeSubmission) (status : StatusCode)
  | submissionCancelled (id : OSProbeId)
  | engineStopped
  | failed (status : StatusCode) (queued : ℕ)
  deriving DecidableEq

/-- Clock, engine, and a transport with state `τ`. A scheduled timer's identifier is zero when the
engine refuses. -/
structure Environment (τ : Type) where
  initializationStatus : StatusCode := .ok
  now : List Effect → TimePoint
  schedule : List Effect → ℤ → TimerId
  supports : τ → OSProbeType → Bool
  localSourceAddress : τ → Text
  submit : List Effect → OSProbeSubmission → τ → StatusCode × τ
  cancel : OSProbeId → τ → τ

/-- What a scheduler is constructed with: the database as its status and its matcher. -/
structure Context (τ : Type) where
  inet : Inet
  environment : Environment τ
  config : OSSchedulerConfig
  databaseStatus : StatusCode := .ok
  matcher : ObservedOSFingerprint → ℕ → List OSMatchResult

end OSScheduler

/-- The state of an `OSScheduler` and of its transport; the trace is newest first. -/
structure OSScheduler (τ : Type) where
  transport : τ
  timing : Option TimingController
  queue : List OSScheduler.WorkItem := []
  pending : KeyedStore OSProbeId OSScheduler.Pending := ∅
  completedIds : List OSProbeId := []
  expiredIds : List OSProbeId := []
  observed : Option ObservedOSFingerprint := none
  result : Option OSDetectionResult := none
  target : Text := []
  targetFamily : AddressFamily := .unknown
  status : StatusCode := .ok
  nextId : OSProbeId := 1
  submitted : Bool := false
  generatedCount : ℕ := 0
  sentCount : ℕ := 0
  responseCount : ℕ := 0
  timeoutCount : ℕ := 0
  unsupportedCount : ℕ := 0
  malformedCount : ℕ := 0
  rttSumMs : ℚ := 0
  rttCount : ℕ := 0
  trace : List OSScheduler.Effect := []

namespace OSScheduler

variable {τ : Type} (ctx : Context τ)

/-- A scheduler as constructed. -/
def create (transport : τ) : OSScheduler τ where
  transport
  timing := if ctx.config.adaptiveTiming then some (.create ctx.config.timingProfile) else none

/-- `error_for_status`. -/
def errorForStatus : StatusCode → OSDetectionError
  | .invalidArgument => .invalidTarget
  | .permissionDenied => .capabilityUnavailable
  | .notFound => .noUsablePort
  | .parseError => .malformedResponse
  | .ioError => .transportFailure
  | _ => .internalError

/-- `host_matches`. -/
def hostMatches (host : Host) (target : Text) : Bool :=
  target = host.address || host.hostname = some target

/-- `family_for_host`. -/
def familyForHost (host : Host) : AddressFamily :=
  (effectiveAddress ctx.inet host.ipAddress host.address).elim .unknown (·.family)

/-! ### Calls to the world outside -/

def record (e : Effect) (s : OSScheduler τ) : OSScheduler τ := { s with trace := e :: s.trace }

def readClock (s : OSScheduler τ) : TimePoint × OSScheduler τ :=
  (ctx.environment.now s.trace, s.record .clockRead)

def schedule (delay : ℤ) (id : OSProbeId) (s : OSScheduler τ) : TimerId × OSScheduler τ :=
  let timer := ctx.environment.schedule s.trace delay
  (timer, s.record (.timerScheduled delay id timer))

def cancelTimer (timer : TimerId) (s : OSScheduler τ) : OSScheduler τ :=
  s.record (.timerCancelled timer)

def transportSubmit (submission : OSProbeSubmission) (s : OSScheduler τ) :
    StatusCode × OSScheduler τ :=
  let (status, transport) := ctx.environment.submit s.trace submission s.transport
  (status, { s with transport }.record (.submitted submission status))

def transportCancel (id : OSProbeId) (s : OSScheduler τ) : OSScheduler τ :=
  { s with transport := ctx.environment.cancel id s.transport }.record (.submissionCancelled id)

/-- Record a failure in the status. -/
def setStatus (status : StatusCode) (s : OSScheduler τ) : OSScheduler τ :=
  { s.record (.failed status s.queue.length) with status }

/-! ### Observations and the result -/

/-- `append_observation`. -/
def appendObservation (assessment : OSProbeAssessment) (s : OSScheduler τ) : OSScheduler τ :=
  let observed := s.observed.getD {}
  let observed := assessment.tcpObservation.elim observed observed.appendTcp
  let observed := assessment.icmpObservation.elim observed observed.appendIcmp
  let observed := assessment.udpObservation.elim observed observed.appendUdp
  { s with observed := some observed }

/-- `append_terminal_status`. -/
def appendTerminalStatus (status : OSProbeStatus) (s : OSScheduler τ) : OSScheduler τ :=
  { s with observed := some ((s.observed.getD {}).countStatus status) }

/-- What the result takes over from the first match, if that is one. -/
def identify (result : OSDetectionResult) : OSDetectionResult :=
  match result.matchResults with
  | [] => result
  | top :: _ =>
    if top.category = .noMatch then result
    else
      { result with
        vendor := top.vendor
        family := top.family
        generation := top.generation
        deviceType := top.deviceType
        confidence := top.confidence
        category := some top.category
        fingerprintId := top.fingerprintId }

/-- `emit_result`: only the first result counts. -/
def emitResult (state : OSDetectionState) (error : OSDetectionError) (s : OSScheduler τ) :
    OSScheduler τ :=
  if s.result.isSome then s
  else
    let (timestamp, s) := s.readClock ctx
    let result : OSDetectionResult :=
      { target := s.target
        state
        addressFamily := s.targetFamily
        error
        timestamp
        probesGenerated := s.generatedCount
        probesSent := s.sentCount
        responsesReceived := s.responseCount
        probesTimedOut := s.timeoutCount
        probesUnsupported := s.unsupportedCount
        probesMalformed := s.malformedCount
        rttMs := if s.rttCount > 0 then some (s.rttSumMs / s.rttCount) else none }
    let result :=
      match s.observed with
      | none => result
      | some observed =>
        identify
          { result with observed, matchResults := ctx.matcher observed ctx.config.maxResults }
    { s with result := some result }

/-- The state and error of the result of a scheduler that has nothing left to do. -/
def verdict (s : OSScheduler τ) : OSDetectionState × OSDetectionError :=
  if s.status ≠ .ok then (.failed, errorForStatus s.status)
  else if s.responseCount > 0 ∧ s.timeoutCount = 0 ∧ s.malformedCount = 0 then (.complete, .none)
  else if s.responseCount > 0 ∨ s.timeoutCount > 0 ∨ s.malformedCount > 0 ∨
      s.unsupportedCount > 0 then
    (.partially, if s.timeoutCount > 0 then .timeout else .unsupportedProbe)
  else (.unavailable, .noUsablePort)

/-- `finish_terminal`. -/
def finishTerminal (s : OSScheduler τ) : OSScheduler τ :=
  if s.submitted ∧ s.queue = [] ∧ s.pending.size = 0 ∧ s.result.isNone then
    (s.emitResult ctx s.verdict.1 s.verdict.2).record .engineStopped
  else s

/-! ### Starting probes -/

/-- The parallelism limit `pump` reads on entry. -/
def limit (s : OSScheduler τ) : ℕ :=
  match s.timing with
  | none => ctx.config.maxOutstanding
  | some timing => timing.parallelismLimit ctx.config.maxOutstanding

def probeTimeout (s : OSScheduler τ) : ℤ :=
  match s.timing with
  | none => ctx.config.timeout
  | some timing => timing.timeout

/-- The configuration a probe is built with. -/
def probeConfig (work : WorkItem) (s : OSScheduler τ) : OSProbeConfig :=
  let source :=
    if ctx.config.sourceAddress = [] then ctx.environment.localSourceAddress s.transport
    else ctx.config.sourceAddress
  { probePort := work.port.number
    sourceAddress := if source = [] then literal "192.0.2.254" else source
    udpProbePort := ctx.config.udpProbePort
    udpProbePayload := ctx.config.udpProbePayload }

/-- The end of `start_or_retry`: the probe, already pending, is handed to the transport. -/
def handOver (id : OSProbeId) (timer : TimerId) (submission : OSProbeSubmission)
    (s : OSScheduler τ) : OSScheduler τ :=
  let (status, s) := s.transportSubmit ctx submission
  if status ≠ .ok then
    { s.cancelTimer timer with pending := s.pending.erase id }.setStatus status
  else { s with sentCount := s.sentCount + 1 }.appendTerminalStatus .sent

/-- The part of `start_or_retry` after a successful build. -/
def enterPending (id : OSProbeId) (work : WorkItem) (submission : OSProbeSubmission)
    (s : OSScheduler τ) : OSScheduler τ :=
  let s := { s with generatedCount := s.generatedCount + 1 }.appendTerminalStatus .generated
  let (sentAt, s) := s.readClock ctx
  let (timer, s) := s.schedule ctx (s.probeTimeout ctx) id
  if timer = 0 then
    { s.setStatus .internalError with malformedCount := s.malformedCount + 1 }.appendTerminalStatus
      .malformed
  else
    let submission := { submission with status := .sent }
    match s.pending.emplace id { work, submission, sentAt, timerId := timer } with
    | none => (s.cancelTimer timer).setStatus .internalError
    | some pending => { s with pending }.handOver ctx id timer submission

/-- `start_or_retry`. -/
def startOrRetry (work : WorkItem) (s : OSScheduler τ) : OSScheduler τ :=
  if !ctx.environment.supports s.transport work.type then
    { s with unsupportedCount := s.unsupportedCount + 1 }.appendTerminalStatus .unsupported
  else
    let id := s.nextId
    match DefinedOSProbe.build ctx.inet work.type id work.host (s.probeConfig ctx work) with
    | .error _ =>
      { s with
        nextId := id + 1
        malformedCount := s.malformedCount + 1 }.appendTerminalStatus .malformed
    | .ok submission => { s with nextId := id + 1 }.enterPending ctx id work submission

/-- The loop of `pump`; the queue only shrinks in it. -/
def pumpLoop : ℕ → ℕ → OSScheduler τ → OSScheduler τ
  | 0, _, s => s
  | fuel + 1, limit, s =>
    match s.queue with
    | [] => s
    | work :: queue =>
      if s.status = .ok ∧ s.pending.size < limit then
        pumpLoop fuel limit ({ s with queue }.startOrRetry ctx work)
      else s

/-- `pump`. -/
def pump (s : OSScheduler τ) : OSScheduler τ :=
  (pumpLoop ctx s.queue.length (s.limit ctx) s).finishTerminal ctx

/-! ### Submission -/

/-- The family the hosts share; hosts without a family do not count. -/
def sharedFamily (hosts : List Host) : AddressFamily :=
  match (hosts.map (familyForHost ctx)).filter (· ≠ .unknown) with
  | [] => .unknown
  | family :: families => if families.all (· = family) then family else .unknown

/-- The port the probes of a host are sent to: the first open TCP port found on it. -/
def selectedPort (portResults : List PortResult) (host : Host) : Port :=
  let usable := portResults.find? fun result ↦
    hostMatches host result.target && result.state = .open && result.port.protocol = .tcp &&
      result.port.number ≠ 0
  usable.elim { number := ctx.config.probePort, protocol := .tcp } (·.port)

/-- The probes of a host. -/
def workFor (portResults : List PortResult) (host : Host) : List WorkItem :=
  probeOrder.map fun type ↦ { host, port := selectedPort ctx portResults host, type }

/-- Whether `submit` accepts the configuration. -/
def validConfig (s : OSScheduler τ) : Bool :=
  ctx.config.maxOutstanding ≠ 0 && 0 < ctx.config.timeout && ctx.config.probePort ≠ 0 &&
    ctx.config.maxResults ≠ 0 && s.timing.all (·.validate = .ok)

/-- The end of a submission that is refused. -/
def refuse (status : StatusCode) (state : OSDetectionState) (error : OSDetectionError)
    (s : OSScheduler τ) : OSScheduler τ :=
  { s with status }.emitResult ctx state error

/-- `submit`. -/
def submit (target : Target) (portResults : List PortResult) (s : OSScheduler τ) :
    StatusCode × OSScheduler τ :=
  if s.submitted then (.invalidArgument, s)
  else
    let s :=
      { s with
        submitted := true
        target :=
          if target.originalSpecification = [] then target.resolvedHosts.head?.elim [] (·.address)
          else target.originalSpecification }
    if ctx.environment.initializationStatus ≠ .ok then
      let status := ctx.environment.initializationStatus
      (status, s.refuse ctx status .failed (errorForStatus status))
    else if ctx.databaseStatus ≠ .ok then
      (ctx.databaseStatus, s.refuse ctx ctx.databaseStatus .failed
        (errorForStatus ctx.databaseStatus))
    else
      let family := sharedFamily ctx target.resolvedHosts
      let s := { s with targetFamily := family, observed := some { family } }
      if !validConfig ctx s then
        (.invalidArgument, s.refuse ctx .invalidArgument .failed .invalidTarget)
      else
        let hosts := target.resolvedHosts.filter (·.address ≠ [])
        if hosts = [] then (.notFound, s.refuse ctx .notFound .unavailable .noUsablePort)
        else
          let s := { s with queue := hosts.flatMap (workFor ctx portResults) }
          let s := (s.pump ctx).finishTerminal ctx
          (s.status, s)

/-! ### Ending a probe -/

/-- The round-trip time in milliseconds, never negative. -/
def rttMs (sentAt receivedAt : TimePoint) : ℚ := max 0 ((receivedAt - sentAt : ℤ) / 1000000)

/-- `finish_probe`. -/
def finishProbe (pending : Pending) (receivedAt : TimePoint) (s : OSScheduler τ) :
    OSScheduler τ :=
  let id := pending.submission.id
  let s := (s.cancelTimer pending.timerId).transportCancel ctx id
  let rtt := rttMs pending.sentAt receivedAt
  pump ctx
    { s with
      rttSumMs := s.rttSumMs + rtt
      rttCount := s.rttCount + 1
      timing := s.timing.map (·.onResponse rtt.floor)
      completedIds := id :: s.completedIds
      pending := s.pending.erase id }

/-- `receive`. -/
def receive (response : OSProbeResponse) (s : OSScheduler τ) : OSScheduler τ :=
  match s.pending.lookup response.id with
  | none => s
  | some pending =>
    if response.id ∈ s.completedIds ∨ response.id ∈ s.expiredIds then s
    else
      let assessment := DefinedOSProbe.assess ctx.inet response pending.submission
      if assessment.disposition = .unrelated then s
      else
        let s :=
          if assessment.disposition = .malformed then
            { s with malformedCount := s.malformedCount + 1 }
          else { s with responseCount := s.responseCount + 1 }.appendObservation assessment
        let (receivedAt, s) :=
          if response.receivedAt = 0 then s.readClock ctx else (response.receivedAt, s)
        s.finishProbe ctx pending receivedAt

/-- `TimingController::should_retry`, of a scheduler that adapts its timing. -/
def shouldRetry (work : WorkItem) (s : OSScheduler τ) : Bool :=
  s.timing.any fun timing ↦ work.retryCount < timing.profile.maxRetries

/-- `on_timeout`. -/
def onTimeout (id : OSProbeId) (s : OSScheduler τ) : OSScheduler τ :=
  match s.pending.lookup id with
  | none => s
  | some pending =>
    let s := s.transportCancel ctx id
    let s :=
      { s with
        pending := s.pending.erase id
        expiredIds := id :: s.expiredIds
        timeoutCount := s.timeoutCount + 1 }.appendTerminalStatus .timeout
    let s := { s with timing := s.timing.map TimingController.onTimeout }
    if s.shouldRetry pending.work then
      pump ctx
        { s with
          queue := { pending.work with retryCount := pending.work.retryCount + 1 } :: s.queue }
    else s.pump ctx

/-- `cancel_all`. -/
def cancelAll (s : OSScheduler τ) : OSScheduler τ :=
  let s := s.pending.entries.foldl
    (fun s entry ↦ (s.cancelTimer entry.2.timerId).transportCancel ctx entry.1) s
  { s with pending := ∅ }

/-- `stop`. -/
def stop (s : OSScheduler τ) : OSScheduler τ :=
  let s := { s.cancelAll ctx with queue := [] }
  let s := if s.submitted ∧ s.result.isNone then s.emitResult ctx .partially .none else s
  s.record .engineStopped

/-- The end of `run` and `run_once`, when the engine returns. -/
def engineReturned (status : StatusCode) (s : OSScheduler τ) : OSScheduler τ :=
  let s := if s.status = .ok ∧ status ≠ .ok then { s with status } else s
  s.finishTerminal ctx

/-- What can happen to a scheduler that has been given its target. -/
inductive Event where
  | receive (response : OSProbeResponse)
  | onTimeout (id : OSProbeId)
  | engineReturned (status : StatusCode)
  | stop

def step (s : OSScheduler τ) : Event → OSScheduler τ
  | .receive response => receive ctx response s
  | .onTimeout id => onTimeout ctx id s
  | .engineReturned status => engineReturned ctx status s
  | .stop => stop ctx s

end OSScheduler

end Skan.OsDetect
