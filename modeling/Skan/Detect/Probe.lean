import Mathlib.Data.List.Sort
import Skan.Detect.Types

/-!
# Service probes

Which probes a port gets and in which order (`ServiceProbeDatabase::ordered_probe_indices` of
`src/detect/service_db.cpp`), and `ServiceProbe` of `src/detect/service_probe.cpp`: how a probe is
turned into a submission, and what a response to it is worth before it is matched.
-/

namespace Skan.Detect

open Skan.Core Skan.PortScan

abbrev ServiceProbeId := UInt64

inductive ServiceResponseKind where
  | data
  | closed
  | socketError
  deriving DecidableEq

structure ServiceSubmission where
  id : ServiceProbeId := 0
  target : Text := []
  port : Port := { number := 0 }
  probeId : Text := []
  probeName : Text := []
  payload : Text := []
  maxResponseBytes : ℕ := 8192
  targetIp : IpAddress := {}
  deriving DecidableEq

structure ServiceResponse where
  id : ServiceProbeId := 0
  sourceAddress : Text := []
  kind : ServiceResponseKind := .data
  systemError : ℤ := 0
  bytes : List UInt8 := []
  responseTruncated : Bool := false
  receivedAt : TimePoint := 0
  deriving DecidableEq

namespace ServiceProbeDatabase

variable (database : ServiceProbeDatabase)

/-- The probe at an index that `orderedProbeIndices` gave. -/
def probe (index : ℕ) : ServiceProbeDefinition := database.probes.getD index {}

/-- `has_hint`. -/
def hasHint (port : Port) (index : ℕ) : Bool :=
  (database.probe index).portHints.any fun hint ↦ hint.number = port.number

/-- The order in which `ordered_probe_indices` sorts; probes without a hint for the port count as
generic only when no probe has one. -/
def precedes (port : Port) (anyMatchingHint : Bool) (left right : ℕ) : Bool :=
  let a := database.probe left
  let b := database.probe right
  if database.hasHint port left ≠ database.hasHint port right then database.hasHint port left
  else if !anyMatchingHint && (a.portHints.isEmpty ≠ b.portHints.isEmpty) then a.portHints.isEmpty
  else if a.priority ≠ b.priority then b.priority < a.priority
  else if a.rarity ≠ b.rarity then a.rarity < b.rarity
  else if a.name ≠ b.name then a.name < b.name
  else left < right

/-- `append_unique`. -/
def appendUnique (maxCount : ℕ) (ordered : List ℕ) (index : ℕ) : List ℕ :=
  if ordered.length < maxCount ∧ index ∉ ordered then ordered ++ [index] else ordered

/-- `find_named`. -/
def findNamed (name : Text) : Option ℕ := database.probes.findIdx? fun probe ↦ probe.name = name

/-- `ordered_probe_indices`. -/
def orderedProbeIndices (port : Port) (maxCount : ℕ) : List ℕ :=
  if maxCount = 0 ∨ database.status ≠ .ok then []
  else
    let indices := (List.range database.probes.length).filter fun index ↦
      (database.probe index).protocol = port.protocol
    let anyMatchingHint := indices.any (database.hasHint port)
    let indices := indices.insertionSort fun left right ↦
      !database.precedes port anyMatchingHint right left
    let hinted := if anyMatchingHint then indices.filter (database.hasHint port) else []
    let fallbacks := hinted.flatMap fun index ↦
      (database.probe index).fallbackProbeNames.filterMap database.findNamed
    (hinted ++ fallbacks ++ indices).foldl (appendUnique maxCount) []

end ServiceProbeDatabase

namespace ServiceProbe

variable (definition : ServiceProbeDefinition) (maxResponseBytes : ℕ)

/-- `build`. -/
def build (inet : Inet) (id : ServiceProbeId) (target : Host) (port : Port) :
    Except StatusCode ServiceSubmission :=
  if id = 0 || target.address = [] || port.protocol ≠ definition.protocol || port.number = 0 ||
      maxResponseBytes = 0 then
    .error .invalidArgument
  else
    let address :=
      if target.ipAddress.valid then some target.ipAddress else parseIpAddress inet target.address
    match address with
    | none => .error .invalidArgument
    | some targetIp => .ok
      { id
        target := target.address
        port
        probeId := definition.id
        probeName := definition.name
        payload := definition.payload
        maxResponseBytes
        targetIp }

/-- What `assess` returns: the bytes to match, or a status with the error it sets. -/
abbrev Assessment := Except (StatusCode × DetectionError) Text

/-- `assess`. -/
def assess (response : ServiceResponse) (submission : ServiceSubmission) : Assessment :=
  if response.id ≠ submission.id ∨ response.sourceAddress ≠ submission.target then
    .error (.notFound, .none)
  else if response.responseTruncated ∨ maxResponseBytes < response.bytes.length then
    .error (.memoryError, .responseTooLarge)
  else
    match response.kind with
    | .socketError => .error (.ioError, .transportFailure)
    | .closed => .error (.notFound, .connectionClosed)
    | .data => .ok response.bytes

end ServiceProbe

end Skan.Detect
