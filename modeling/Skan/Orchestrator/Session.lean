import Skan.Output.Types

/-!
# Scan sessions

`ScanSession` owns the state of a scan and the way to its observer. `transition` is the state
machine, `emit` the filter in front of the observer, and `cancel` the one operation that does both.

The session records what the observer was given (`events`), oldest first. An observer may call
`cancel` back from inside an event, so `emit` takes what the observer does as a function of the
events it has seen. An observer that is given `ScanCancelled` and cancels again finds the request
already made, so `cancel` needs no such function.

The clock is read where a session is cancelled, fails or is reported; what it answers is an
argument. The session's identifier and the time it started take no part in this and are left out.
-/

namespace Skan.Orchestrator

open Skan.Core

inductive PipelineState where
  | created
  | initializing
  | discovering
  | portScanning
  | detectingServices
  | detectingOs
  | serializing
  | completed
  | cancelled
  | failed
  deriving DecidableEq

inductive StageKind where
  | discovery
  | portScan
  | udpScan
  | serviceDetection
  | osDetection
  | output
  deriving DecidableEq

inductive ScanEventType where
  | scanStarted
  | stageStarted
  | hostDiscovered
  | portCompleted
  | serviceDetected
  | osDetectionCompleted
  | stageCompleted
  | scanCompleted
  | scanFailed
  | scanCancelled
  deriving DecidableEq

structure ScanEvent where
  type : ScanEventType
  stage : Option StageKind := none
  target : Option Target := none
  port : Option UInt16 := none
  message : Text := []
  deriving DecidableEq

structure ScanCounters where
  hostsTotal : ℕ := 0
  hostsUp : ℕ := 0
  hostsDown : ℕ := 0
  hostsUnknown : ℕ := 0
  portsScanned : ℕ := 0
  portsOpen : ℕ := 0
  portsClosed : ℕ := 0
  portsFiltered : ℕ := 0
  servicesDetected : ℕ := 0
  osMatches : ℕ := 0
  probesSent : ℕ := 0
  probesCompleted : ℕ := 0
  probesTimedOut : ℕ := 0
  peakPending : ℕ := 0
  deriving DecidableEq

/-- `ScanSession`, with the events its observer was given. -/
structure ScanSession where
  state : PipelineState := .created
  cancelRequested : Bool := false
  counters : ScanCounters := {}
  report : Option Output.ScanReport := none
  errorMessage : Text := []
  finishedAt : TimePoint := 0
  events : List ScanEvent := []

def PipelineState.terminal : PipelineState → Bool
  | .completed | .cancelled | .failed => true
  | _ => false

/-- The `switch` of `transition`. -/
def PipelineState.allows : PipelineState → PipelineState → Bool
  | .created, next => next = .initializing
  | .initializing, next => next = .discovering || next = .portScanning ||
      next = .detectingServices || next = .detectingOs || next = .serializing || next = .completed
  | .discovering, next => next = .portScanning || next = .detectingServices ||
      next = .detectingOs || next = .serializing || next = .completed
  | .portScanning, next => next = .detectingServices || next = .detectingOs ||
      next = .serializing || next = .completed
  | .detectingServices, next => next = .detectingOs || next = .serializing || next = .completed
  | .detectingOs, next => next = .serializing || next = .completed
  | .serializing, next => next = .completed
  | _, _ => false

namespace ScanSession

variable (s : ScanSession)

def cancelled : Bool := s.cancelRequested || s.state = .cancelled

def terminal : Bool := s.state.terminal

def transition (next : PipelineState) : StatusCode × ScanSession :=
  if s.state = next then (.ok, s)
  else if s.terminal then (.invalidArgument, s)
  else if next = .cancelled || next = .failed || s.state.allows next then
    (.ok, { s with state := next })
  else (.invalidArgument, s)

/-- The test of `emit`: whether the observer is not given an event of this type. -/
def suppresses (type : ScanEventType) : Bool :=
  (s.terminal && type ≠ .scanCompleted && type ≠ .scanCancelled && type ≠ .scanFailed) ||
    (s.cancelled && type ≠ .scanCancelled && type ≠ .scanFailed)

/-- The observer is given the event. -/
def deliver (event : ScanEvent) : ScanSession := { s with events := s.events ++ [event] }

/-- `finish_clock`, with what the clock answers. -/
def finishClock (now : TimePoint) : ScanSession := { s with finishedAt := now }

def cancel (now : TimePoint) : ScanSession :=
  if s.cancelRequested || s.terminal then s
  else
    -- the callback stops the stages and the engine, and leaves the session alone
    let requested := (({ s with cancelRequested := true }.transition .cancelled).2).finishClock now
    let event := { type := .scanCancelled, message := literal "scan cancelled" }
    if requested.suppresses event.type then requested else requested.deliver event

/-- `emit`, to an observer that cancels from inside the events `observer` selects. -/
def emit (observer : List ScanEvent → Bool) (clock : List ScanEvent → TimePoint)
    (event : ScanEvent) : ScanSession :=
  let delivered := s.deliver event
  if s.suppresses event.type then s
  else if observer delivered.events then delivered.cancel (clock delivered.events)
  else delivered

def setReport (report : Output.ScanReport) : ScanSession := { s with report := some report }

def setError (message : Text) : ScanSession := { s with errorMessage := message }

end ScanSession

end Skan.Orchestrator
