import Skan.Orchestrator.Session
import Skan.ScanEngine.ScanGroup

/-!
# The scan pipeline

`ScanPipeline::run` takes a session through the enabled stages and ends with the report. Every way
out of it is here: a failed or cancelled stage, cancellation at any event, an interface that cannot
be selected, an invalid configuration, and an output that cannot be written.

## What a run is given

A `RunInput` holds what a run depends on besides the configuration: how each stage ends and what it
hands over, whether the scan is cancelled while a stage runs, which events the observer answers with
`cancel`, what the clock answers, and how building and writing the report goes. The schedulers
inside the stages are modelled elsewhere; what they collect is used here for the events and for
skipping service detection.

`prepare` is `run` up to the point where it serializes or returns. Four of its endings serialize a
report, so `run` is `prepare` and what its ending asks for.
-/

namespace Skan.Orchestrator

open Skan.Core Skan.PortScan Skan.ScanEngine Skan.Output

inductive ScanTransport where
  | offline
  | linux
  | connect
  deriving DecidableEq

inductive InterfaceStatus where
  | success
  | invalidName
  | enumerationFailed
  | interfaceNotFound
  | routingUnavailable
  | permissionDenied
  | notSupported
  | systemError
  deriving DecidableEq

/-- `net::InterfaceResult`. -/
structure InterfaceResult where
  status : InterfaceStatus := .success
  message : Text := []
  name : Text := []

/-- The fields of `ScanConfig` that decide the course of a run; `target` is the aggregate of its
targets. -/
structure ScanConfig where
  target : Target
  transport : ScanTransport := .connect
  discoveryEnabled : Bool := false
  portScanEnabled : Bool := true
  udpEnabled : Bool := false
  serviceDetectionEnabled : Bool := false
  osDetectionEnabled : Bool := false
  outputFile : Option Text := none

structure StageResult where
  status : StatusCode := .ok
  completed : Bool := false
  cancelled : Bool := false
  message : Text := []

def StageResult.success (r : StageResult) : Bool := r.status = .ok && r.completed && !r.cancelled

/-- How a stage ends, and whether the scan is cancelled while it runs. -/
structure StageRun where
  result : StageResult
  cancels : Bool := false

/-- How building and writing a report goes: `finishedAt` is the time it is built with, `status` that
of the writer, `replaced` whether the output file could be replaced. -/
structure OutputRun where
  report : ScanReport
  finishedAt : TimePoint := 0
  status : OutputStatus := .ok
  replaced : Bool := true

/-- What a run depends on besides the configuration. -/
structure RunInput where
  selected : InterfaceResult := {}
  configStatus : StatusCode := .ok
  engineStatus : StatusCode := .ok
  observer : List ScanEvent → Bool := fun _ ↦ false
  clock : List ScanEvent → TimePoint := fun _ ↦ 0
  discovery : StageRun
  hostIsUp : Text → Bool
  portScan : StageRun
  portResults : List PortScan.PortResult := []
  /-- The metrics of the stage's timing controller, if it has one. -/
  portMetrics : Option ScanEngine.ScanMetrics := none
  udpScan : StageRun
  udpResults : List PortScan.PortResult := []
  udpMetrics : Option ScanEngine.ScanMetrics := none
  serviceDetection : StageRun
  /-- The port and the target of each service result. -/
  serviceResults : List (UInt16 × Text) := []
  osDetection : Host → StageRun
  output : OutputRun

/-- `ScanPipeline`: the session, and what a run leaves for the next one. -/
structure ScanPipeline where
  session : ScanSession := {}
  interfaceName : Option Text := none
  activeTarget : Target
  portResults : List PortScan.PortResult := []
  udpResults : List PortScan.PortResult := []
  timingMetrics : Option ScanEngine.ScanMetrics := none
  finalStatus : StatusCode := .ok

/-- The counters as `serialize_report` sets them. -/
def ScanCounters.summarize (summary : ScanSummary) (metrics : Option ScanEngine.ScanMetrics)
    (counters : ScanCounters) : ScanCounters where
  hostsTotal := summary.hosts
  hostsUp := summary.hostsUp
  hostsDown := summary.hostsDown
  hostsUnknown := summary.hostsUnknown
  portsScanned := summary.portsScanned
  portsOpen := summary.openPorts
  portsClosed := summary.closedPorts
  portsFiltered := summary.filteredPorts
  servicesDetected := summary.servicesDetected
  osMatches := summary.osMatches
  -- without metrics the counters of the probes stay as they are
  probesSent := metrics.elim counters.probesSent (·.totalSubmitted)
  probesCompleted := metrics.elim counters.probesCompleted (·.completed)
  probesTimedOut := metrics.elim counters.probesTimedOut (·.timedOut)
  peakPending := metrics.elim counters.peakPending (·.maximumObservedParallelism)

namespace ScanPipeline

section

variable (p : ScanPipeline)

def cancelled : Bool := p.session.cancelled

def transition (next : PipelineState) : ScanPipeline :=
  { p with session := (p.session.transition next).2 }

/-- `ScanPipeline::cancel`. -/
def cancel (now : TimePoint) : ScanPipeline := { p with session := p.session.cancel now }

end

variable (config : ScanConfig) (input : RunInput) (p : ScanPipeline)

def emit (event : ScanEvent) : ScanPipeline :=
  { p with session := p.session.emit input.observer input.clock event }

/-- A cancellation while a stage runs. -/
def cancelStage : ScanPipeline := p.cancel (input.clock p.session.events)

def emitStage (type : ScanEventType) (stage : StageKind) (message : Text) : ScanPipeline :=
  p.emit input { type, stage, target := p.activeTarget, message }

def fail (message : Text) (status : StatusCode) : ScanPipeline :=
  let ended :=
    emit input
      { p with
        finalStatus := status
        session := ((p.session.setError message).transition .failed).2 }
      { type := .scanFailed, target := p.activeTarget, message }
  { ended with session := ended.session.finishClock (input.clock ended.session.events) }

/-! ### The stages -/

/-- The body the stage functions share: the stage is entered and announced, run, and what it
collected is kept and reported. The result says whether the pipeline goes on. -/
def executeStage (state : PipelineState) (stage : StageKind) (started completed : String)
    (stageRun : StageRun) (collect : ScanPipeline → ScanPipeline) (reports : List ScanEvent) :
    Bool × ScanPipeline :=
  let entered := (p.transition state).emitStage input .stageStarted stage (literal started)
  if entered.cancelled then (false, entered)
  else
    let ended := if stageRun.cancels then entered.cancelStage input else entered
    if stageRun.result.cancelled || ended.cancelled then (false, ended)
    else if !stageRun.result.success then
      (false, ended.fail input stageRun.result.message stageRun.result.status)
    else
      (true, (reports.foldl (emit input) (collect ended)).emitStage input .stageCompleted stage
        (literal completed))

def executeDiscovery : Bool × ScanPipeline :=
  if p.cancelled then (false, p)
  else
    p.executeStage input .discovering .discovery "discovery started" "discovery completed"
      input.discovery id
      (p.activeTarget.resolvedHosts.map fun host ↦
        { type := .hostDiscovered, stage := some .discovery, message := host.address })

/-- The event of a port result. -/
def portCompleted (stage : StageKind) (result : PortScan.PortResult) : ScanEvent where
  type := .portCompleted
  stage := some stage
  port := some result.port.number
  message := result.target

def executePortScan (target : Target) : Bool × ScanPipeline :=
  if p.cancelled then (false, p)
  else if target.resolvedHosts.isEmpty then (true, p)
  else
    p.executeStage input .portScanning .portScan "port scan started" "port scan completed"
      input.portScan
      (fun p ↦ { p with
        portResults := input.portResults
        timingMetrics := input.portMetrics.or p.timingMetrics })
      (input.portResults.map (portCompleted .portScan))

def executeUdpScan (target : Target) : Bool × ScanPipeline :=
  if p.cancelled then (false, p)
  else if target.resolvedHosts.isEmpty then (true, p)
  else
    p.executeStage input .portScanning .udpScan "UDP scan started" "UDP scan completed"
      input.udpScan
      (fun p ↦ { p with
        udpResults := input.udpResults
        timingMetrics := p.timingMetrics.or input.udpMetrics })
      (input.udpResults.map (portCompleted .udpScan))

def executeServiceDetection : Bool × ScanPipeline :=
  if p.cancelled then (false, p)
  else if !p.portResults.any (fun result ↦ result.state = .open) then (true, p)
  else
    p.executeStage input .detectingServices .serviceDetection "service detection started"
      "service detection completed" input.serviceDetection id
      (input.serviceResults.map fun result ↦
        { type := .serviceDetected, stage := some .serviceDetection, port := some result.1,
          message := result.2 })

/-- The loop of `execute_os_detection` over the hosts. -/
def executeOsHosts : List Host → ScanPipeline → Bool × ScanPipeline
  | [], p => (true, p)
  | host :: hosts, p =>
    if p.cancelled then (false, p)
    else
      let stageRun := input.osDetection host
      let ended := if stageRun.cancels then p.cancelStage input else p
      if stageRun.result.cancelled || ended.cancelled then (false, ended)
      else if !stageRun.result.success then
        (false, ended.fail input stageRun.result.message stageRun.result.status)
      else
        executeOsHosts hosts (ended.emit input
          { type := .osDetectionCompleted, stage := some .osDetection, message := host.address })

def executeOsDetection : Bool × ScanPipeline :=
  if p.cancelled then (false, p)
  else
    let entered := (p.transition .detectingOs).emitStage input .stageStarted .osDetection
      (literal "OS detection started")
    if entered.cancelled then (false, entered)
    else
      match executeOsHosts input entered.activeTarget.resolvedHosts entered with
      | (false, ended) => (false, ended)
      | (true, ended) =>
        (true, ended.emitStage input .stageCompleted .osDetection
          (literal "OS detection completed"))

/-! ### The report -/

/-- Whether `serialize_report` succeeds. -/
def writes : Bool :=
  input.output.status = .ok && (config.outputFile.isNone || input.output.replaced)

/-- What `serialize_report` keeps of a report it has built. -/
def keepReport : ScanPipeline :=
  let finished := p.session.finishClock input.output.finishedAt
  let counters :=
    finished.counters.summarize (calculateSummary input.output.report) p.timingMetrics
  { p with session := { finished with counters }.setReport input.output.report }

def serializeReport : Bool × ScanPipeline :=
  let reported := p.keepReport input
  if input.output.status ≠ .ok then
    (false, reported.fail input
      (literal "output serialization failed: " ++ outputStatusName input.output.status)
      (if input.output.status = .ioError then .ioError else .internalError))
  else if config.outputFile.isSome && !input.output.replaced then
    (false, reported.fail input (literal "unable to atomically replace output file") .ioError)
  else (true, reported)

/-! ### A run -/

/-- How `run` comes to its end: it returns, it serializes and returns after a failed interface
selection or after a cancellation, or all stages are done. -/
inductive Prepared where
  | returned (status : StatusCode) (p : ScanPipeline)
  | unselected (p : ScanPipeline)
  | cancelled (p : ScanPipeline)
  | ready (p : ScanPipeline)

/-- The selection of a raw interface; `none` says that it failed. -/
def selectInterface : Option (ScanPipeline) :=
  if config.transport = .linux && p.interfaceName.isNone then
    if input.selected.status = .success then
      some { p with interfaceName := some input.selected.name }
    else none
  else some p

/-- `only_up_hosts`. -/
def onlyUpHosts (target : Target) : Target where
  originalSpecification := target.originalSpecification
  resolvedHosts := target.resolvedHosts.filter fun host ↦ input.hostIsUp host.address

/-- The enabled stages in order; the first that does not go on ends them. -/
def executeStages : Bool × ScanPipeline :=
  let portTarget :=
    if config.discoveryEnabled then onlyUpHosts input p.activeTarget else p.activeTarget
  let stages : List (Bool × (ScanPipeline → Bool × ScanPipeline)) :=
    [(config.discoveryEnabled, executeDiscovery input),
      (config.portScanEnabled, fun p ↦ p.executePortScan input portTarget),
      (config.udpEnabled, fun p ↦ p.executeUdpScan input portTarget),
      (true, fun p ↦ (true, { p with portResults := p.portResults ++ p.udpResults })),
      (config.serviceDetectionEnabled, executeServiceDetection input),
      (config.osDetectionEnabled, executeOsDetection input)]
  stages.foldl (fun r stage ↦ if r.1 && stage.1 then stage.2 r.2 else r) (true, p)

/-- The session is initialized and the scan announced. -/
def start : ScanPipeline :=
  let initialized := p.transition .initializing
  let counters :=
    { initialized.session.counters with hostsTotal := p.activeTarget.resolvedHosts.length }
  { initialized with session := { initialized.session with counters } }.emit input
    { type := .scanStarted, target := p.activeTarget, message := literal "scan started" }

def prepare : Prepared :=
  if p.session.terminal && !p.session.cancelled then
    .returned (if p.finalStatus = .ok then .invalidArgument else p.finalStatus) p
  else
    let active := { p with activeTarget := config.target }
    match selectInterface config input active with
    | none => .unselected (active.fail input
        (literal "raw interface selection failed: " ++ input.selected.message)
        (if input.selected.status = .routingUnavailable then .permissionDenied else .notFound))
    | some p =>
      if p.session.cancelled then .cancelled p
      else if input.configStatus ≠ .ok then .returned input.configStatus
        (p.fail input (literal "invalid scan configuration") input.configStatus)
      else if input.engineStatus ≠ .ok then .returned input.engineStatus
        (p.fail input (literal "unable to initialize shared IOEngine") input.engineStatus)
      else
        match (p.start input).executeStages config input with
        | (goesOn, p) =>
          if p.cancelled then .cancelled p
          else if goesOn then .ready p
          else .returned p.finalStatus p

/-- The last stage: the pipeline about to serialize. -/
def startSerializing : ScanPipeline :=
  (p.transition .serializing).emitStage input .stageStarted .output
    (literal "serialization started")

/-- The end of a run whose report is written. -/
def complete : ScanPipeline :=
  let written :=
    (p.emitStage input .stageCompleted .output (literal "serialization completed")).transition
      .completed
  { written with finalStatus := .ok }.emit input
    { type := .scanCompleted, target := p.activeTarget, message := literal "scan completed" }

/-- `ScanPipeline::run`. -/
def run : StatusCode × ScanPipeline :=
  match p.prepare config input with
  | .returned status p => (status, p)
  | .unselected p =>
    let ended := (p.serializeReport config input).2
    (ended.finalStatus, ended)
  | .cancelled p => (.ok, (p.serializeReport config input).2)
  | .ready p =>
    match (p.startSerializing input).serializeReport config input with
    | (false, p) => (p.finalStatus, p)
    | (true, p) => ((p.complete input).finalStatus, p.complete input)

end ScanPipeline

end Skan.Orchestrator
