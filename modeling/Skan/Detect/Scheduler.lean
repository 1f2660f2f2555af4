import Skan.Detect.Matcher
import Skan.Detect.Probe
import Skan.Library.KeyedStore
import Skan.Library.Runs

/-!
# The service scheduler

`ServiceScheduler` of `src/detect/service_scheduler.cpp`: a queue of ports, each with the probes it
is still to get, the probes in flight with what was received of their answers, the retries waiting
for their timer, and the published results.

Clock, timers and transport answer as a function of the trace, as for the port scan scheduler, and a
transport may call back before `submit` returns, as both service transports do when a connection or
a datagram fails at once.

## Re-entrancy

Such a response ends its probe inside `pump`, which pumps again and may put the port back for its
next probe. The inner functions take the pump as an argument; `pumpLoop` ties the knot with fuel. A
port is put back only for a later probe than the one it had, so the probes left are fuel enough.

Failed allocations, the metrics nobody reads back, and the order in which `results` sorts are left
out.
-/

namespace Skan.Detect

open Skan.Core Skan.PortScan Skan.ScanEngine

namespace ServiceScheduler

abbrev RetryId := UInt64

/-- A port on its way through its probes. -/
structure WorkItem where
  portResult : PortResult
  probeIndices : List ℕ
  nextProbe : ℕ := 0
  retryCount : ℕ := 0
  bestMatch : Option ServiceMatchResult := none
  bestMatchProbeIndex : ℕ := 0
  deriving DecidableEq

/-- A probe in flight. -/
structure Pending where
  work : WorkItem
  submission : ServiceSubmission
  probeIndex : ℕ
  response : Text := []
  httpSnapshot : Bool := false
  previousBestMatch : Option ServiceMatchResult := none
  previousBestMatchProbeIndex : ℕ := 0
  startedAt : TimePoint
  timerId : TimerId
  deriving DecidableEq

structure DeferredRetry where
  work : WorkItem
  timerId : TimerId
  deriving DecidableEq

/-- What a timer of the scheduler calls. -/
inductive TimerCallback where
  | onTimeout (id : ServiceProbeId)
  | onRetryReady (id : RetryId)
  deriving DecidableEq

/-- What the scheduler was doing when a call failed. -/
inductive Occasion where
  | start
  | retryAfterError
  | retryAfterTimeout
  | engine
  deriving DecidableEq

/-- A call to the world outside, with the part of the answer the scheduler acts on, a failure, with
the number of ports then in `queue_`, a port put back into the queue, with the status then, or a
probe that ended with its connection, with the port it was for. -/
inductive Effect where
  | clockRead
  | timerScheduled (delay : ℤ) (callback : TimerCallback) (timer : TimerId)
  | timerCancelled (timer : TimerId)
  | submitted (work : WorkItem) (submission : ServiceSubmission) (status : StatusCode)
  | submissionCancelled (id : ServiceProbeId)
  | engineStopped
  | failed (occasion : Occasion) (status : StatusCode) (queued : ℕ)
  | requeued (status : StatusCode)
  | closed (work : WorkItem)
  deriving DecidableEq

/-- A transport's answer to `submit`: a status, and the responses it called back with meanwhile. -/
structure SubmitOutcome where
  status : StatusCode
  responses : List ServiceResponse := []
  responses_of_refused : status ≠ .ok → responses = [] := by simp

/-- Clock, engine and transport. A scheduled timer's identifier is zero when the engine refuses. -/
structure Environment where
  initializationStatus : StatusCode := .ok
  supports : Protocol → Bool := fun _ ↦ true
  now : List Effect → TimePoint
  schedule : List Effect → ℤ → TimerId
  submit : List Effect → ServiceSubmission → SubmitOutcome

/-- What a scheduler is constructed with. -/
structure Context where
  inet : Inet
  recognizer : Recognizer
  environment : Environment
  database : ServiceProbeDatabase
  config : ServiceDetectionConfig

end ServiceScheduler

/-- The state of a `ServiceScheduler`; the trace is newest first. -/
structure ServiceScheduler where
  timing : Option TimingController
  queue : List ServiceScheduler.WorkItem := []
  pending : KeyedStore ServiceProbeId ServiceScheduler.Pending := ∅
  deferredRetries : KeyedStore ServiceScheduler.RetryId ServiceScheduler.DeferredRetry := ∅
  results : List ServiceResult := []
  nextId : ServiceProbeId := 1
  nextRetryId : ServiceScheduler.RetryId := 1
  status : StatusCode := .ok
  submitted : Bool := false
  trace : List ServiceScheduler.Effect := []

namespace ServiceScheduler

variable (ctx : Context)

/-- A scheduler as constructed. -/
def create : ServiceScheduler where
  timing := if ctx.config.adaptiveTiming then some (.create ctx.config.timingProfile) else none

/-! ### Helpers of the scheduler's source file -/

/-- `error_for_status`. -/
def errorForStatus : StatusCode → DetectionError
  | .permissionDenied => .transportFailure
  | .invalidArgument => .invalidTarget
  | .ioError => .transportFailure
  | .parseError => .malformedResponse
  | _ => .internalError

/-- `transient_socket_error`: `ECONNRESET`, `ECONNABORTED`, `ETIMEDOUT`, `EPIPE`, `ECONNREFUSED` and
`ENETRESET`. -/
def transientSocketError (systemError : ℤ) : Bool :=
  systemError ∈ [104, 103, 110, 32, 111, 102]

/-- `requires_terminal_response`: the answer stops short of the end of an SSH identification line,
or of an HTTP head. -/
def requiresTerminalResponse (response : Text) : Bool :=
  if (literal "SSH-").isPrefixOf response then 0x0A ∉ response
  else if !(literal "HTTP/").isPrefixOf response then false
  else (splitOnce (crlf ++ crlf) response).isNone && (splitOnce [0x0A, 0x0A] response).isNone

/-- The round-trip time in milliseconds, never negative. -/
def rttMs (startedAt endedAt : TimePoint) : ℚ := max 0 ((endedAt - startedAt : ℤ) / 1000000)

/-! ### Calls to the world outside -/

def record (e : Effect) (s : ServiceScheduler) : ServiceScheduler :=
  { s with trace := e :: s.trace }

def readClock (s : ServiceScheduler) : TimePoint × ServiceScheduler :=
  (ctx.environment.now s.trace, s.record .clockRead)

def schedule (delay : ℤ) (callback : TimerCallback) (s : ServiceScheduler) :
    TimerId × ServiceScheduler :=
  let timer := ctx.environment.schedule s.trace delay
  (timer, s.record (.timerScheduled delay callback timer))

/-- Record a failure in the status. -/
def setStatus (occasion : Occasion) (status : StatusCode) (s : ServiceScheduler) :
    ServiceScheduler :=
  { s.record (.failed occasion status s.queue.length) with status }

def cancelTimer (timer : TimerId) (s : ServiceScheduler) : ServiceScheduler :=
  s.record (.timerCancelled timer)

def cancelSubmission (id : ServiceProbeId) (s : ServiceScheduler) : ServiceScheduler :=
  s.record (.submissionCancelled id)

def transportSubmit (work : WorkItem) (submission : ServiceSubmission) (s : ServiceScheduler) :
    SubmitOutcome × ServiceScheduler :=
  let outcome := ctx.environment.submit s.trace submission
  (outcome, s.record (.submitted work submission outcome.status))

/-- When a response came in; the clock is read for one that does not say. -/
def receivedAt (response : ServiceResponse) (s : ServiceScheduler) : TimePoint × ServiceScheduler :=
  if response.receivedAt = 0 then s.readClock ctx else (response.receivedAt, s)

/-! ### The queue, the retries and the results -/

/-- Put a port back at the head of the queue. -/
def requeue (work : WorkItem) (s : ServiceScheduler) : ServiceScheduler :=
  { s.record (.requeued s.status) with queue := work :: s.queue }

/-- Take a probe out of flight: its timer and its submission are cancelled. -/
def retire (id : ServiceProbeId) (pending : Pending) (s : ServiceScheduler) : ServiceScheduler :=
  { (s.cancelTimer pending.timerId).cancelSubmission id with pending := s.pending.erase id }

/-- `append_result`. -/
def appendResult (portResult : PortResult) (probe : Option ServiceProbeDefinition)
    (state : DetectionState) (error : DetectionError) (found : Option ServiceMatchResult)
    (rttMs : Option ℚ) (s : ServiceScheduler) : ServiceScheduler :=
  let (timestamp, s) := s.readClock ctx
  let method : DetectionMethod :=
    match probe with
    | none => .unknown
    | some probe => if (splitOnce (literal "Banner") probe.name).isSome then .banner else .probe
  let result : ServiceResult :=
    { target := portResult.target
      port := portResult.port
      protocol := portResult.port.protocol
      portState := portResult.state
      state
      method
      probeName := probe.elim [] (·.name)
      error
      rttMs
      timestamp }
  let result :=
    match found with
    | none => result
    | some found =>
      { result with
        service := found.service
        product := found.product
        version := found.version
        extra := found.extra
        hostname := found.hostname
        tunnel := found.tunnel
        tls := found.tls
        confidence := found.confidence
        mqtt := found.mqtt
        evidence := found.evidence }
  { s with results := s.results ++ [result] }

/-- Publish the best match of a port. -/
def appendBest (work : WorkItem) (rttMs : Option ℚ) (s : ServiceScheduler) : ServiceScheduler :=
  s.appendResult ctx work.portResult (some (ctx.database.probe work.bestMatchProbeIndex)) .detected
    .none work.bestMatch rttMs

/-- `defer_retry`; the flag is its return value. The occasion is for the trace. -/
def deferRetry (occasion : Occasion) (work : WorkItem) (s : ServiceScheduler) :
    Bool × ServiceScheduler :=
  if s.nextRetryId = 0 then (false, s.setStatus occasion .internalError)
  else
    let retryId := s.nextRetryId
    let work := { work with retryCount := work.retryCount + 1 }
    let (timer, s) := { s with nextRetryId := retryId + 1 }.schedule ctx ctx.config.retryDelay
      (.onRetryReady retryId)
    if timer = 0 then (false, s.setStatus occasion .internalError)
    else
      match s.deferredRetries.emplace retryId { work, timerId := timer } with
      | none => (false, (s.cancelTimer timer).setStatus occasion .internalError)
      | some deferredRetries => (true, { s with deferredRetries })

/-- `stop_if_idle`. -/
def stopIfIdle (s : ServiceScheduler) : ServiceScheduler :=
  if s.submitted ∧ s.queue = [] ∧ s.pending.size = 0 ∧ s.deferredRetries.size = 0 then
    s.record .engineStopped
  else s

/-- `complete`. -/
def complete (s : ServiceScheduler) : Bool :=
  s.submitted ∧ s.queue = [] ∧ s.pending.size = 0 ∧ s.deferredRetries.size = 0

/-- The retry budget: the timing profile's when timing is adaptive. -/
def maxRetries (s : ServiceScheduler) : ℕ :=
  match s.timing with
  | none => ctx.config.retries
  | some timing => timing.profile.maxRetries

/-- The parallelism limit `pump` reads on entry. -/
def limit (s : ServiceScheduler) : ℕ :=
  match s.timing with
  | none => ctx.config.maxOutstanding
  | some timing => timing.parallelismLimit ctx.config.maxOutstanding

/-- How long a probe may take. -/
def probeTimeout (definition : ServiceProbeDefinition) (s : ServiceScheduler) : ℤ :=
  let adaptive :=
    match s.timing with
    | none => ctx.config.timeout
    | some timing => timing.timeout
  definition.timeout.elim adaptive (min · adaptive)

/-! ### What is received of an answer -/

/-- Before an HTTP answer is read once more, the best match is that of the earlier probes again. -/
def Pending.restore (pending : Pending) : Pending :=
  if !(literal "HTTP/").isPrefixOf pending.response then pending
  else
    let pending :=
      if pending.httpSnapshot then pending
      else
        { pending with
          previousBestMatch := pending.work.bestMatch
          previousBestMatchProbeIndex := pending.work.bestMatchProbeIndex
          httpSnapshot := true }
    { pending with
      work :=
        { pending.work with
          bestMatch := pending.previousBestMatch
          bestMatchProbeIndex := pending.previousBestMatchProbeIndex } }

/-- Keep a match if it is better than the best so far. -/
def Pending.consider (pending : Pending) (found : ServiceMatchResult) : Pending :=
  if found.matched && pending.work.bestMatch.all found.isBetter then
    { pending with
      work :=
        { pending.work with bestMatch := some found, bestMatchProbeIndex := pending.probeIndex } }
  else pending

/-- The port has a best match that may be published. -/
def WorkItem.isPublishable (work : WorkItem) : Bool := work.bestMatch.any (·.isPublishable)

/-- The same, for a match by hard evidence. -/
def WorkItem.isSettled (work : WorkItem) : Bool :=
  work.bestMatch.any fun best ↦ best.strength = .hard && best.isPublishable

/-- There is a probe after the present one. -/
def WorkItem.hasNext (work : WorkItem) : Bool := work.nextProbe + 1 < work.probeIndices.length

/-! ### Ending a probe

`pump` is the pump to call once the port's fate is recorded. -/

section Probe

variable (pump : ServiceScheduler → ServiceScheduler)

/-- `complete_pending`. -/
def completePending (id : ServiceProbeId) (state : DetectionState) (error : DetectionError)
    (found : Option ServiceMatchResult) (completedAt : TimePoint) (s : ServiceScheduler) :
    ServiceScheduler :=
  match s.pending.lookup id with
  | none => s
  | some pending =>
    let rtt := rttMs pending.startedAt completedAt
    let s := (s.retire id pending).appendResult ctx pending.work.portResult
      (some (ctx.database.probe pending.probeIndex)) state error found (some rtt)
    pump { s with timing := s.timing.map (·.onResponse rtt.floor) }

/-- The end of a probe whose response decides its port. -/
def conclude (response : ServiceResponse) (state : DetectionState) (error : DetectionError)
    (found : Option ServiceMatchResult) (s : ServiceScheduler) : ServiceScheduler :=
  let (completedAt, s) := s.receivedAt ctx response
  completePending ctx pump response.id state error found completedAt s

/-- The branch of `receive` for a connection that was lost. -/
def transientError (response : ServiceResponse) (pending : Pending) (status : StatusCode)
    (error : DetectionError) (s : ServiceScheduler) : ServiceScheduler :=
  let work := pending.work
  if work.retryCount < s.maxRetries ctx then
    -- whether the retry could be deferred makes no difference here
    pump ((s.retire response.id pending).deferRetry ctx .retryAfterError work).2
  else if work.hasNext then
    pump ((s.retire response.id pending).requeue
      { work with nextProbe := work.nextProbe + 1, retryCount := 0 })
  else if work.isPublishable then
    let (completedAt, s) := (s.retire response.id pending).receivedAt ctx response
    let rtt := rttMs pending.startedAt completedAt
    let s := s.appendBest ctx work (some rtt)
    pump { s with timing := s.timing.map (·.onResponse rtt.floor) }
  else
    conclude ctx pump response .error (if error = .none then errorForStatus status else error) none
      s

/-- The end of `receive` for a connection that was closed. -/
def finishClosed (response : ServiceResponse) (finished : Pending) (s : ServiceScheduler) :
    ServiceScheduler :=
  let work := finished.work
  let s := (s.retire response.id finished).record (.closed work)
  if work.isSettled then pump (s.appendBest ctx work none)
  else if work.hasNext then pump (s.requeue { work with nextProbe := work.nextProbe + 1 })
  else
    let (completedAt, s) := s.receivedAt ctx response
    let rtt := rttMs finished.startedAt completedAt
    if work.isPublishable then pump (s.appendBest ctx work (some rtt))
    else
      let error := if finished.response = [] then .connectionClosed else .noMatch
      pump (s.appendResult ctx work.portResult (some (ctx.database.probe finished.probeIndex))
        .unknown error none (some rtt))

/-- The part of `receive` that matches the answer as far as it has come in. -/
def examine (response : ServiceResponse) (pending : Pending) (s : ServiceScheduler) :
    ServiceScheduler :=
  let pending := pending.restore
  let found := ServiceMatcher.matchResponse ctx.recognizer ctx.database
    (ctx.database.probe pending.probeIndex) pending.response (response.kind = .closed)
  let pending := pending.consider found
  let s := { s with pending := s.pending.replace response.id pending }
  if found.matched && found.strength = .hard && !requiresTerminalResponse pending.response then
    conclude ctx pump response .detected .none (some found) s
  else if response.kind ≠ .closed then s
  else finishClosed ctx pump response pending s

/-- `receive`. -/
def receiveWith (response : ServiceResponse) (s : ServiceScheduler) : ServiceScheduler :=
  match s.pending.lookup response.id with
  | none => s
  | some pending =>
    if response.sourceAddress ≠ pending.submission.target then s
    else
      match ServiceProbe.assess ctx.config.maxResponseBytes response pending.submission with
      | .ok chunk =>
        if chunk ≠ [] ∧ ctx.config.maxResponseBytes < pending.response.length + chunk.length then
          conclude ctx pump response .responseTooLarge .responseTooLarge none s
        else examine ctx pump response { pending with response := pending.response ++ chunk } s
      | .error (status, error) =>
        if status = .notFound then
          if response.kind ≠ .closed then s else examine ctx pump response pending s
        else if status = .memoryError ∧ error = .responseTooLarge then
          conclude ctx pump response .responseTooLarge .responseTooLarge none s
        else if status = .ioError ∧ response.kind = .socketError ∧
            transientSocketError response.systemError ∧
            pending.work.portResult.port.protocol = .tcp then
          transientError ctx pump response pending status error s
        else if response.kind ≠ .closed then
          conclude ctx pump response .error (if error = .none then errorForStatus status else error)
            none s
        else examine ctx pump response pending s

/-- The end of `on_timeout`, when there is no retry. -/
def giveUp (pending : Pending) (s : ServiceScheduler) : ServiceScheduler :=
  let work := pending.work
  if work.isSettled then s.appendBest ctx work none
  else if work.hasNext then
    s.requeue { work with nextProbe := work.nextProbe + 1, retryCount := 0 }
  else if work.isPublishable then s.appendBest ctx work none
  else
    s.appendResult ctx work.portResult (some (ctx.database.probe pending.probeIndex)) .timeout
      .timeout none none

/-- `on_timeout`. -/
def onTimeoutWith (id : ServiceProbeId) (s : ServiceScheduler) : ServiceScheduler :=
  match s.pending.lookup id with
  | none => s
  | some pending =>
    let s :=
      { s.cancelSubmission id with
        pending := s.pending.erase id
        timing := s.timing.map TimingController.onTimeout }
    if pending.work.retryCount < s.maxRetries ctx then
      match s.deferRetry ctx .retryAfterTimeout pending.work with
      | (true, s) => pump s
      | (false, s) => pump (s.giveUp ctx pending)
    else pump (s.giveUp ctx pending)

/-! ### Starting a probe -/

/-- The end of `start_or_retry`: hand the submission to the transport, which may call back at once,
and undo the probe if it refuses. -/
def launch (id : ServiceProbeId) (timer : TimerId) (work : WorkItem)
    (definition : ServiceProbeDefinition) (submission : ServiceSubmission) (s : ServiceScheduler) :
    ServiceScheduler :=
  let (outcome, s) := s.transportSubmit ctx work submission
  let s := outcome.responses.foldl (fun s response ↦ receiveWith ctx pump response s) s
  if outcome.status = .ok then s
  else
    let s := { s.cancelTimer timer with pending := s.pending.erase id }
    (s.setStatus .start outcome.status).appendResult ctx work.portResult (some definition) .error
      (errorForStatus outcome.status) none none

/-- `start_or_retry`. -/
def startOrRetry (work : WorkItem) (s : ServiceScheduler) : ServiceScheduler :=
  match work.probeIndices[work.nextProbe]? with
  | none => s.appendResult ctx work.portResult none .unknown .noMatch none none
  | some probeIndex =>
    let definition := ctx.database.probe probeIndex
    let reject (error : DetectionError) (s : ServiceScheduler) :=
      s.appendResult ctx work.portResult (some definition) .error error none none
    if !ctx.environment.supports work.portResult.port.protocol then
      s.appendResult ctx work.portResult (some definition) .unknown .unsupportedProtocol none none
    else
      let id := s.nextId
      let s := { s with nextId := id + 1 }
      match ServiceProbe.build definition ctx.config.maxResponseBytes ctx.inet id
          { address := work.portResult.target, isUp := true } work.portResult.port with
      | .error status => reject (errorForStatus status) s
      | .ok submission =>
        let (startedAt, s) := s.readClock ctx
        let (timer, s) := s.schedule ctx (s.probeTimeout ctx definition) (.onTimeout id)
        if timer = 0 then reject .internalError (s.setStatus .start .internalError)
        else
          match s.pending.emplace id
            { work, submission, probeIndex, startedAt, timerId := timer } with
          | none => reject .internalError ((s.cancelTimer timer).setStatus .start .internalError)
          | some pending => launch ctx pump id timer work definition submission { s with pending }

end Probe

/-! ### The pump and the public operations -/

/-- The loop of `pump`. A pump called from inside an iteration reads its own limit. -/
def pumpLoop : ℕ → ℕ → ServiceScheduler → ServiceScheduler
  | 0, _, s => s
  | fuel + 1, limit, s =>
    match s.queue with
    | [] => s
    | work :: queue =>
      if s.status = .ok ∧ s.pending.size < limit then
        let nested s := stopIfIdle (pumpLoop fuel (s.limit ctx) s)
        pumpLoop fuel limit (startOrRetry ctx nested work { s with queue })
      else s

/-- The probes a port is still to get, the present one included. -/
def WorkItem.probesLeft (work : WorkItem) : ℕ := work.probeIndices.length - work.nextProbe

/-- The probes left in the queue and in flight, which no pump can outlast. -/
def probesLeft (s : ServiceScheduler) : ℕ :=
  (s.queue.map fun work ↦ work.probesLeft + 1).sum +
    (s.pending.values.map fun pending ↦ pending.work.probesLeft).sum

/-- `pump`. -/
def pump (s : ServiceScheduler) : ServiceScheduler :=
  stopIfIdle (pumpLoop ctx s.probesLeft (s.limit ctx) s)

/-- `receive`. -/
def receive (response : ServiceResponse) (s : ServiceScheduler) : ServiceScheduler :=
  receiveWith ctx (pump ctx) response s

/-- `on_timeout`. -/
def onTimeout (id : ServiceProbeId) (s : ServiceScheduler) : ServiceScheduler :=
  onTimeoutWith ctx (pump ctx) id s

/-- `on_retry_ready`. -/
def onRetryReady (id : RetryId) (s : ServiceScheduler) : ServiceScheduler :=
  match s.deferredRetries.lookup id with
  | none => s
  | some retry =>
    pump ctx ({ s with deferredRetries := s.deferredRetries.erase id }.requeue retry.work)

/-- `run` and `run_once`, once the engine has returned. -/
def engineReturned (status : StatusCode) (s : ServiceScheduler) : ServiceScheduler :=
  if s.submitted ∧ s.status = .ok ∧ status ≠ .ok then s.setStatus .engine status else s

/-- `validate_config`. -/
def validateConfig (s : ServiceScheduler) : StatusCode :=
  if ctx.environment.initializationStatus ≠ .ok then ctx.environment.initializationStatus
  else if ctx.database.status ≠ .ok then ctx.database.status
  else if ctx.config.maxOutstanding = 0 ∨ ctx.config.timeout ≤ 0 ∨
      ctx.config.maxResponseBytes = 0 ∨ ctx.config.maxProbesPerPort = 0 ∨
      ctx.config.retryDelay < 0 ∨ s.timing.any (·.validate ≠ .ok) then
    .invalidArgument
  else .ok

/-- The body of `submit`'s loop over the ports, with the ports seen so far. -/
def submitPort (seen : List (Text × Port) × ServiceScheduler) (portResult : PortResult) :
    List (Text × Port) × ServiceScheduler :=
  let (seen, s) := seen
  let key := (portResult.target, portResult.port)
  if portResult.state ≠ .open then (seen, s)
  else if portResult.target = [] ∨ portResult.port.number = 0 then
    let s := s.appendResult ctx portResult none .invalidTarget .invalidTarget none none
    (seen, { s with status := .invalidArgument })
  else if key ∈ seen then (seen, s)
  else
    let probeIndices :=
      ctx.database.orderedProbeIndices portResult.port ctx.config.maxProbesPerPort
    if probeIndices = [] then
      (key :: seen, s.appendResult ctx portResult none .unknown .unsupportedProtocol none none)
    else (key :: seen, { s with queue := s.queue ++ [{ portResult, probeIndices }] })

/-- `submit`. -/
def submit (openPorts : List PortResult) (s : ServiceScheduler) : StatusCode × ServiceScheduler :=
  if s.submitted then (.invalidArgument, s)
  else if s.validateConfig ctx ≠ .ok then
    (s.validateConfig ctx, { s with status := s.validateConfig ctx })
  else
    let s := (openPorts.foldl (submitPort ctx) ([], { s with submitted := true })).2
    let s := if s.status = .ok then pump ctx s else { s with queue := [] }
    let s := stopIfIdle s
    (s.status, s)

/-- What can happen to a scheduler once ports have been submitted. -/
inductive Event where
  | receive (response : ServiceResponse)
  | onTimeout (id : ServiceProbeId)
  | onRetryReady (id : RetryId)
  | engineReturned (status : StatusCode)

def step (s : ServiceScheduler) : Event → ServiceScheduler
  | .receive response => receive ctx response s
  | .onTimeout id => onTimeout ctx id s
  | .onRetryReady id => onRetryReady ctx id s
  | .engineReturned status => engineReturned status s

end ServiceScheduler

end Skan.Detect
