import Skan.Library.KeyedStore
import Skan.Library.Runs
import Skan.Packet.Packet
import Skan.PortScan.TcpConnect

/-!
# The UDP scheduler

`UDPScheduler` and the probe database of `src/portscan/udp_scan.cpp`. As in the TCP scheduler, what
the clock, the timers and the transport answer is a function of the trace; neither UDP transport
calls back before its `submit` returns, so here the pump is a plain loop.

A pending probe holds one of the 20001 source ports from 40000 to 60000, and collects evidence until
its timeout: a state that contradicts the one first observed makes it a conflict.

Failed allocations are not modelled.
-/

namespace Skan.PortScan

open Skan.Core Skan.Packet Skan.ScanEngine

abbrev UDPProbeId := UInt64

inductive UDPResponseKind where
  | datagram
  | icmpPortUnreachable
  | icmpAdministrativelyProhibited
  | icmpNetworkUnreachable
  | malformed
  | socketError
  deriving DecidableEq

structure UDPSubmission where
  id : UDPProbeId := 0
  target : Text := []
  port : Port := { number := 0, protocol := .udp }
  sourceIpv4 : UInt32 := 0
  destinationIpv4 : UInt32 := 0
  sourcePort : UInt16 := 0
  packet : List UInt8 := []
  payload : List UInt8 := []
  probeName : Text := []
  maxResponseBytes : ℕ := 8192
  sourceIp : IpAddress := {}
  destinationIp : IpAddress := {}
  deriving DecidableEq

structure UDPResponse where
  id : UDPProbeId := 0
  sourceAddress : Text := []
  sourceIpv4 : UInt32 := 0
  sourcePort : UInt16 := 0
  destinationPort : UInt16 := 0
  kind : UDPResponseKind := .malformed
  bytes : List UInt8 := []
  receivedAt : TimePoint := 0
  sourceIp : IpAddress := {}
  deriving DecidableEq

/-! ### Probes -/

structure UDPProbeDefinition where
  name : Text
  destinationPort : UInt16 := 0
  payload : List UInt8
  maxResponseBytes : ℕ := 8192
  protocolHint : Text := []
  deriving DecidableEq

/-- `UDPProbeDatabase`; the index by port never leads out of the definitions. -/
structure UDPProbeDatabase where
  definitions : List UDPProbeDefinition := []
  portIndex : KeyedStore UInt16 (Fin definitions.length) := ∅
  defaultIndex : ℕ := 0

namespace UDPProbeDatabase

/-- `default_probe`. -/
def defaultProbe (database : UDPProbeDatabase) : UDPProbeDefinition :=
  database.definitions.getD database.defaultIndex
    { name := [0x44, 0x45, 0x46, 0x41, 0x55, 0x4C, 0x54], payload := [0], maxResponseBytes := 512
      protocolHint := [0x67, 0x65, 0x6E, 0x65, 0x72, 0x69, 0x63] }

/-- `for_port`, which always finds a definition. -/
def forPort (database : UDPProbeDatabase) (port : UInt16) : UDPProbeDefinition :=
  match database.portIndex.lookup port with
  | none => database.defaultProbe
  | some index => database.definitions.get index

end UDPProbeDatabase

/-! ### The state of the scheduler -/

namespace UDPScheduler

structure WorkItem where
  host : Host
  port : Port
  retryCount : ℕ := 0
  probeName : Text := []
  deriving DecidableEq

/-- A probe in flight. -/
structure Pending where
  work : WorkItem
  submission : UDPSubmission
  startedAt : TimePoint
  timerId : TimerId := 0
  candidateState : Option PortState := none
  candidateReason : ScanReason := .internalError
  candidateAt : TimePoint := 0
  conflict : Bool := false
  deriving DecidableEq

/-- The end of `receive`: the first state observed is the candidate, and a different one later makes
it a conflict. -/
def Pending.observe (pending : Pending) (state : PortState) (reason : ScanReason)
    (completedAt : TimePoint) : Pending :=
  match pending.candidateState with
  | none =>
    { pending with
      candidateState := some state
      candidateReason := reason
      candidateAt := completedAt }
  | some candidate =>
    if !pending.conflict && candidate ≠ state then
      { pending with
        candidateState := some .unknown
        candidateReason := .conflictingEvidence
        candidateAt := completedAt
        conflict := true }
    else pending

/-- A call to the world outside, with the part of the answer the scheduler acts on, or a failure
that the scheduler recorded in its status, with the number of items then in `queue_`. -/
inductive Effect where
  | clockRead
  | timerScheduled (delay : ℤ) (id : UDPProbeId) (timer : TimerId)
  | timerCancelled (timer : TimerId)
  | submitted (submission : UDPSubmission) (status : StatusCode)
  | submissionCancelled (id : UDPProbeId)
  | engineStopped
  | failed (status : StatusCode) (queued : ℕ)
  deriving DecidableEq

/-- Clock, engine and transport. A scheduled timer's identifier is zero when the engine refuses. -/
structure Environment where
  initializationStatus : StatusCode := .ok
  supports : Bool := true
  now : List Effect → TimePoint
  schedule : List Effect → ℤ → TimerId
  submit : List Effect → UDPSubmission → StatusCode

/-- The clock never goes back. -/
def Environment.Steady (environment : Environment) : Prop :=
  ∀ trace trace', trace <:+ trace' → environment.now trace ≤ environment.now trace'

/-- What a scheduler is constructed with. -/
structure Context where
  inet : Inet
  environment : Environment
  database : UDPProbeDatabase
  config : PortScanConfig

end UDPScheduler

/-- `kFirstEphemeralPort`. -/
def firstEphemeralPort : UInt16 := 40000

/-- `kLastEphemeralPort`. -/
def lastEphemeralPort : UInt16 := 60000

/-- `kSourcePortSpan`. -/
abbrev sourcePortSpan : ℕ := 20001

/-- The state of a `UDPScheduler`. The trace and the exhaustions, which only the model keeps, are
newest first; an exhaustion is a time when no source port was found, with the ports of the probes
then in flight. -/
structure UDPScheduler where
  timing : Option TimingController
  queue : List UDPScheduler.WorkItem := []
  pending : KeyedStore UDPProbeId UDPScheduler.Pending := ∅
  sourcePorts : Fin sourcePortSpan → Bool := fun _ ↦ false
  results : List PortResult := []
  nextId : UDPProbeId := 1
  nextSourcePort : UInt16 := firstEphemeralPort
  status : StatusCode := .ok
  submitted : Bool := false
  trace : List UDPScheduler.Effect := []
  exhaustions : List (List UInt16) := []

namespace UDPScheduler

variable (ctx : Context)

/-- A scheduler as constructed. -/
def create : UDPScheduler where
  timing := if ctx.config.adaptiveTiming then some (.create ctx.config.timingProfile) else none

/-! ### Calls to the world outside -/

def record (e : Effect) (s : UDPScheduler) : UDPScheduler := { s with trace := e :: s.trace }

def readClock (s : UDPScheduler) : TimePoint × UDPScheduler :=
  (ctx.environment.now s.trace, s.record .clockRead)

def schedule (delay : ℤ) (id : UDPProbeId) (s : UDPScheduler) : TimerId × UDPScheduler :=
  let timer := ctx.environment.schedule s.trace delay
  (timer, s.record (.timerScheduled delay id timer))

/-- Record a failure in the status. -/
def setStatus (status : StatusCode) (s : UDPScheduler) : UDPScheduler :=
  { s.record (.failed status s.queue.length) with status }

def transportSubmit (submission : UDPSubmission) (s : UDPScheduler) : StatusCode × UDPScheduler :=
  let status := ctx.environment.submit s.trace submission
  (status, s.record (.submitted submission status))

/-- `stop_if_idle`. -/
def stopIfIdle (s : UDPScheduler) : UDPScheduler :=
  if s.submitted ∧ s.queue = [] ∧ s.pending.size = 0 then s.record .engineStopped else s

/-- `complete`. -/
def complete (s : UDPScheduler) : Bool := s.submitted ∧ s.queue = [] ∧ s.pending.size = 0

/-- `append_terminal_result`, with `make_result`. -/
def appendTerminalResult (work : WorkItem) (state : PortState) (reason : ScanReason)
    (rttMs : Option ℚ) (s : UDPScheduler) : UDPScheduler :=
  let (timestamp, s) := s.readClock ctx
  let result : PortResult :=
    { target := work.host.address, port := work.port, state, probe := .udp, reason, rttMs,
      timestamp,
      retryCount := work.retryCount, probeName := work.probeName }
  { s with results := s.results ++ [result] }

/-! ### Source ports -/

/-- The index of a port from 40000 to 60000. -/
def portIndex (port : UInt16) : Fin sourcePortSpan := Fin.ofNat sourcePortSpan (port.toNat - 40000)

/-- The loop of `allocate_source_port`. -/
def allocateLoop : ℕ → UDPScheduler → Option UInt16 × UDPScheduler
  | 0, s => (none, s)
  | attempts + 1, s =>
    let candidate :=
      if s.nextSourcePort < firstEphemeralPort ∨ s.nextSourcePort > lastEphemeralPort then
        firstEphemeralPort
      else s.nextSourcePort
    let nextSourcePort :=
      if candidate = lastEphemeralPort then firstEphemeralPort else candidate + 1
    let s := { s with nextSourcePort }
    if s.sourcePorts (portIndex candidate) then allocateLoop attempts s
    else
      (some candidate,
        { s with sourcePorts := Function.update s.sourcePorts (portIndex candidate) true })

/-- `allocate_source_port`. -/
def allocateSourcePort (s : UDPScheduler) : Option UInt16 × UDPScheduler :=
  allocateLoop sourcePortSpan s

/-- `release_source_port`. -/
def releaseSourcePort (port : UInt16) (s : UDPScheduler) : UDPScheduler :=
  if firstEphemeralPort ≤ port ∧ port ≤ lastEphemeralPort then
    { s with sourcePorts := Function.update s.sourcePorts (portIndex port) false }
  else s

/-! ### The pump -/

/-- `parse_target_ip`. -/
def parseTargetIp (host : Host) : Option IpAddress :=
  effectiveAddress ctx.inet host.ipAddress host.address

/-- The packet of a probe as `pump` builds it, over the unspecified source address. -/
def probePacket (destination : IpAddress) (sourcePort : UInt16) (port : Port)
    (definition : UDPProbeDefinition) : Packet where
  ip := some
    (if destination.isIpv4 then
      .ipv4 { protocol := 17, destinationAddress := destination.ipv4Word }
    else .ipv6 { nextHeader := 17, destinationAddress := destination.bytes })
  transport := some
    (.udp { sourcePort, destinationPort := port.number, payload := definition.payload })

/-- The submission of a probe as `pump` fills it in. -/
def submissionFor (id : UDPProbeId) (work : WorkItem) (destination : IpAddress)
    (sourcePort : UInt16) (definition : UDPProbeDefinition) (packet : List UInt8) :
    UDPSubmission where
  id
  target := work.host.address
  port := work.port
  destinationIpv4 := if destination.isIpv4 then destination.ipv4Word else 0
  sourcePort
  packet
  payload := definition.payload
  probeName := definition.name
  maxResponseBytes := definition.maxResponseBytes
  destinationIp := destination

/-- A probe that could not be started: its port is free again, and it is an error. -/
def failProbe (work : WorkItem) (sourcePort : UInt16) (reason : ScanReason) (status : StatusCode)
    (s : UDPScheduler) : UDPScheduler :=
  ((s.releaseSourcePort sourcePort).appendTerminalResult ctx work .error reason none).setStatus
    status

/-- The timeout of a probe. -/
def probeTimeout (s : UDPScheduler) : ℤ :=
  match s.timing with
  | none => ctx.config.timeout
  | some timing => timing.timeout

/-- Hand a probe that has been entered to the transport, and take it back out if it is refused. -/
def handOver (work : WorkItem) (submission : UDPSubmission) (timer : TimerId) (s : UDPScheduler) :
    UDPScheduler :=
  let (status, s) := s.transportSubmit ctx submission
  if status = .ok then s
  else
    { s.record (.timerCancelled timer) with pending := s.pending.erase submission.id }.failProbe ctx
      work submission.sourcePort
      (if status = StatusCode.permissionDenied then .capabilityUnavailable else .internalError)
      status

/-- The end of an iteration of `pump`: schedule the timeout, enter the probe, hand it over. -/
def launch (work : WorkItem) (submission : UDPSubmission) (s : UDPScheduler) : UDPScheduler :=
  let (startedAt, s) := s.readClock ctx
  let (timer, s) := s.schedule ctx (s.probeTimeout ctx) submission.id
  if timer = 0 then s.failProbe ctx work submission.sourcePort .internalError .internalError
  else
    match s.pending.emplace submission.id { work, submission, startedAt, timerId := timer } with
    | none =>
      (s.record (.timerCancelled timer)).failProbe ctx work submission.sourcePort .internalError
        .internalError
    | some pending => handOver ctx work submission timer { s with pending }

/-- One iteration of the loop of `pump`, for the item just taken off the queue. Where the source
breaks out of the loop it has made the status not `Ok`, which ends the loop as well. -/
def startProbe (work : WorkItem) (s : UDPScheduler) : UDPScheduler :=
  match s.allocateSourcePort with
  | (none, s) =>
    let held := s.pending.values.map fun pending ↦ pending.submission.sourcePort
    let s := { s with exhaustions := held :: s.exhaustions }
    (s.appendTerminalResult ctx work .error .internalError none).setStatus .resourceExhausted
  | (some sourcePort, s) =>
    match parseTargetIp ctx work.host with
    | none => s.failProbe ctx work sourcePort .invalidTarget .invalidArgument
    | some destination =>
      let definition := ctx.database.forPort work.port.number
      match (probePacket destination sourcePort work.port definition).serialize with
      | none => s.failProbe ctx work sourcePort .internalError .internalError
      | some packet =>
        launch ctx work (submissionFor s.nextId work destination sourcePort definition packet)
          { s with nextId := s.nextId + 1 }

/-- The loop of `pump`; the queue only shrinks in it. -/
def pumpLoop (limit : ℕ) : ℕ → UDPScheduler → UDPScheduler
  | 0, s => s
  | fuel + 1, s =>
    match s.queue with
    | [] => s
    | work :: queue =>
      if s.status = .ok ∧ s.pending.size < limit then
        pumpLoop limit fuel (startProbe ctx work { s with queue })
      else s

/-- The number of probes `pump` allows in flight. -/
def limit (s : UDPScheduler) : ℕ :=
  match s.timing with
  | none => ctx.config.maxOutstanding
  | some timing => timing.parallelismLimit ctx.config.maxOutstanding

/-- `pump`. -/
def pump (s : UDPScheduler) : UDPScheduler :=
  (pumpLoop ctx (s.limit ctx) s.queue.length s).stopIfIdle

/-! ### Ending a probe -/

/-- The round-trip time in milliseconds, never negative. -/
def rttMs (startedAt endedAt : TimePoint) : ℚ := max 0 ((endedAt - startedAt : ℤ) / 1000000)

/-- A probe leaves: the transport forgets it and its port is free again. -/
def retire (id : UDPProbeId) (pending : Pending) (s : UDPScheduler) : UDPScheduler :=
  let s := (s.record (.submissionCancelled id)).releaseSourcePort pending.submission.sourcePort
  { s with pending := s.pending.erase id }

/-- `complete_pending`. -/
def completePending (id : UDPProbeId) (state : PortState) (reason : ScanReason)
    (completedAt : TimePoint) (s : UDPScheduler) : UDPScheduler :=
  match s.pending.lookup id with
  | none => s
  | some pending =>
    let s := (s.record (.timerCancelled pending.timerId)).retire id pending
    let rtt := rttMs pending.startedAt completedAt
    let s := s.appendTerminalResult ctx pending.work state reason (some rtt)
    pump ctx { s with timing := s.timing.map (·.onResponse rtt.floor) }

/-- The first check of `receive`: whether a datagram comes from somewhere else than the probed port
of the target, or goes to another port than the probe's. -/
def fromElsewhere (response : UDPResponse) (targetIp : IpAddress) (pending : Pending) : Bool :=
  (response.sourceIp.valid && response.sourceIp ≠ targetIp) ||
  (!response.sourceIp.valid && targetIp.isIpv4 && response.sourceIpv4 ≠ 0 &&
    response.sourceIpv4 ≠ targetIp.ipv4Word) ||
  (!response.sourceIp.valid && targetIp.isIpv6 && response.sourceAddress ≠ [] &&
    response.sourceAddress ≠ pending.work.host.address) ||
  (response.sourcePort ≠ 0 && response.sourcePort ≠ pending.work.port.number) ||
  (response.destinationPort ≠ 0 && response.destinationPort ≠ pending.submission.sourcePort)

/-- What the switch of `receive` makes of a datagram. -/
def assessDatagram (response : UDPResponse) (pending : Pending) : Option (PortState × ScanReason) :=
  match UDP.parse response.bytes with
  | none => none
  | some datagram =>
    if response.bytes.length > pending.submission.maxResponseBytes ∨
        response.bytes.length >
          (ctx.database.forPort pending.work.port.number).maxResponseBytes ∨
        datagram.sourcePort ≠ pending.work.port.number ∨
        datagram.destinationPort ≠ pending.submission.sourcePort then
      none
    else some (.open, .udpResponse)

/-- The part of `receive` that accepts a response, as evidence of a state, or not. -/
def assess (response : UDPResponse) (pending : Pending) : Option (PortState × ScanReason) :=
  match parseTargetIp ctx pending.work.host with
  | none => none
  | some targetIp =>
    match response.kind with
    | .datagram =>
      if fromElsewhere response targetIp pending then none
      else assessDatagram ctx response pending
    | .icmpPortUnreachable => some (.closed, .icmpPortUnreachable)
    | .icmpAdministrativelyProhibited => some (.filtered, .icmpAdministrativelyProhibited)
    | .icmpNetworkUnreachable => some (.unreachable, .icmpNetworkUnreachable)
    | .socketError => some (.error, .socketError)
    | .malformed => none

/-- `receive`. -/
def receive (response : UDPResponse) (s : UDPScheduler) : UDPScheduler :=
  match s.pending.lookup response.id with
  | none => s
  | some pending =>
    match assess ctx response pending with
    | none => s
    | some (state, reason) =>
      let (completedAt, s) :=
        if response.receivedAt = 0 then s.readClock ctx else (response.receivedAt, s)
      if completedAt < pending.startedAt then s
      else if state = .error then completePending ctx response.id state reason completedAt s
      else
        { s with
          pending := s.pending.replace response.id (pending.observe state reason completedAt) }

/-- The retry budget. -/
def maxRetries (s : UDPScheduler) : ℕ :=
  match s.timing with
  | none => ctx.config.retries
  | some timing => timing.profile.maxRetries

/-- `on_timeout`. -/
def onTimeout (id : UDPProbeId) (s : UDPScheduler) : UDPScheduler :=
  match s.pending.lookup id with
  | none => s
  | some pending =>
    let s := s.retire id pending
    match pending.candidateState with
    | some state =>
      let rtt := rttMs pending.startedAt pending.candidateAt
      let s := s.appendTerminalResult ctx pending.work state pending.candidateReason (some rtt)
      pump ctx { s with timing := s.timing.map (·.onResponse rtt.floor) }
    | none =>
      let s := { s with timing := s.timing.map TimingController.onTimeout }
      if pending.work.retryCount < s.maxRetries ctx then
        let work := { pending.work with retryCount := pending.work.retryCount + 1 }
        pump ctx { s with queue := work :: s.queue }
      else pump ctx (s.appendTerminalResult ctx pending.work .openOrFiltered .udpTimeout none)

/-! ### The public operations -/

/-- `validate_config`. -/
def validateConfig (s : UDPScheduler) : StatusCode :=
  if ctx.environment.initializationStatus ≠ .ok then ctx.environment.initializationStatus
  else if !ctx.environment.supports then .permissionDenied
  else if ctx.config.timeout ≤ 0 ∨ ctx.config.maxOutstanding = 0 ∨
      s.timing.any (·.validate ≠ .ok) then
    .invalidArgument
  else .ok

/-- The body of `submit`'s loop over the hosts. -/
def submitHost (ports : List Port) (s : UDPScheduler) (host : Host) : UDPScheduler :=
  match parseTargetIp ctx host with
  | none =>
    let s := ports.foldl
      (fun s port ↦ s.appendTerminalResult ctx { host, port } .error .invalidTarget none) s
    { s with status := .invalidArgument }
  | some _ =>
    { s with
      queue := s.queue ++ ports.map fun port ↦
        { host, port, probeName := (ctx.database.forPort port.number).name } }

/-- `submit`. -/
def submit (target : Target) (ports : List Port) (s : UDPScheduler) : StatusCode × UDPScheduler :=
  if s.submitted then (.invalidArgument, s)
  else if s.validateConfig ctx ≠ .ok then
    (s.validateConfig ctx, { s with status := s.validateConfig ctx })
  else if target.resolvedHosts = [] ∨ ports = [] ∨
      ports.any (fun port ↦ port.protocol ≠ .udp || port.number = 0) then
    (.invalidArgument, { s with status := .invalidArgument })
  else
    let s := target.resolvedHosts.foldl (submitHost ctx ports) { s with submitted := true }
    let s := if s.status = .ok then pump ctx s else { s with queue := [] }
    let s := s.stopIfIdle
    (s.status, s)

/-- What can happen to a scheduler. -/
inductive Event where
  | submit (target : Target) (ports : List Port)
  | receive (response : UDPResponse)
  | onTimeout (id : UDPProbeId)

def step (s : UDPScheduler) : Event → UDPScheduler
  | .submit target ports => (submit ctx target ports s).2
  | .receive response => receive ctx response s
  | .onTimeout id => onTimeout ctx id s

end UDPScheduler

end Skan.PortScan
