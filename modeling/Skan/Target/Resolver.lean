import Skan.Library.Numerals
import Skan.Target.Parser

/-!
# Expanding target specifications

`TargetResolver::expand` walks the specifications in order and appends every address of each to one
list without repetitions, under the limit `max_targets`; `TargetEngine::resolve` parses, expands and
sorts.

The 128-bit arithmetic is the source's: `maskIpv6` clears host bits byte by byte, `addIpv6Offset`
ripples a carry through the low eight bytes only, and `ipv6RangeCount` counts with the low eight
bytes, for ends that share the high eight.
-/

namespace Skan.Target

open Skan.Core

/-! ### Address arithmetic -/

/-- The first loop of `mask_ipv6`: the bytes from `first` on are cleared. -/
def clearBytes (bytes : Bytes16) (first : ℕ) : Bytes16 :=
  Vector.ofFn fun i ↦ if first ≤ i then 0 else bytes[i]

/-- The body of `mask_ipv6`: the host bytes are cleared, then the host bits of the byte the prefix
ends in. -/
def maskBytes (bytes : Bytes16) (fullBytes : ℕ) (remainder : UInt8) : Bytes16 :=
  let cleared := clearBytes bytes (fullBytes + if remainder = 0 then 0 else 1)
  if h : remainder ≠ 0 ∧ fullBytes < 16 then
    cleared.set fullBytes (cleared[fullBytes] &&& 0xFF <<< (8 - remainder))
  else cleared

def maskIpv6 (address : IpAddress) (prefixLength : UInt8) : IpAddress :=
  { address with bytes := maskBytes address.bytes (prefixLength / 8).toNat (prefixLength % 8) }

/-- One round of `add_ipv6_offset`: the low byte of the offset is added at `index`, the carry to
what remains of the offset. -/
def addOffsetStep (state : Bytes16 × UInt64) (index : Fin 16) : Bytes16 × UInt64 :=
  let sum : UInt16 := state.1[index].toUInt16 + (state.2 &&& 0xFF).toUInt16
  (state.1.set index (sum &&& 0xFF).toUInt8, state.2 >>> 8 + (sum >>> 8).toUInt64)

/-- `add_ipv6_offset`: from the last byte up to the ninth. -/
def addIpv6Offset (address : IpAddress) (offset : UInt64) : IpAddress :=
  { address with
    bytes := (([15, 14, 13, 12, 11, 10, 9, 8] : List (Fin 16)).foldl addOffsetStep
      (address.bytes, offset)).1 }

/-- The last eight bytes as a word. -/
def lowWord (bytes : Bytes16) : UInt64 :=
  (bytes.toList.drop 8).foldl (fun low b ↦ low <<< 8 ||| b.toUInt64) 0

def ipv6RangeCount (first last : IpAddress) : Option UInt64 :=
  if !first.isIpv6 || !last.isIpv6 || first.bytes.toList.take 8 ≠ last.bytes.toList.take 8 then none
  else
    let difference := lowWord last.bytes - lowWord first.bytes
    if difference = 0xFFFFFFFFFFFFFFFF then none else some (difference + 1)

/-! ### Expansion -/

/-- The locals of `expand`: the targets so far, and the set of their addresses. -/
structure Expansion where
  expanded : List ResolvedTarget := []
  seen : List IpAddress := []

variable (limits : TargetLimits)

/-- The lambda `append` of `expand`. -/
def append (state : Expansion) (address : IpAddress) (hostname : Option Text) :
    Except TargetError Expansion :=
  if !address.valid || address ∈ state.seen then .ok state
  else if state.seen.length + 1 > limits.maxTargets then .error
    { code := .resourceExhausted
      message := literal "target expansion exceeded --max-targets=" ++
        decimalText limits.maxTargets }
  else .ok
    { expanded := state.expanded ++
        [{ address := if address.isIpv4 then address.ipv4Word else 0
           sourceHostname := hostname
           ipAddress := address }]
      seen := address :: state.seen }

/-- A loop over addresses that returns at the first error of `append`. -/
def appendAll (hostname : Option Text) : Expansion → List IpAddress → Except TargetFailure Expansion
  | state, [] => .ok state
  | state, address :: addresses =>
    match append limits state address hostname with
    | .error error => .error { status := .resourceExhausted, error }
    | .ok state => appendAll hostname state addresses

def exhausted (message : Text) : TargetFailure where
  status := .resourceExhausted
  error := { code := .resourceExhausted, message }

/-- The failure of a specification that alone has more addresses than the limit. -/
def exceeded (original : Text) : TargetFailure :=
  exhausted (literal "target expansion exceeded --max-targets=" ++ decimalText limits.maxTargets ++
    literal " for " ++ original)

/-- The hostname branch of `expand`. -/
def expandHostname (resolver : HostnameResolver) (specification : TargetSpec) (state : Expansion) :
    Except TargetFailure Expansion :=
  match resolver specification.hostname limits.maxHostnameResults with
  | .error what => .error
      { status := .internalError
        error :=
          { code := .resolutionFailed, message := literal "hostname resolver failed: " ++ what } }
  | .ok resolved =>
    if resolved.status ≠ .ok || resolved.ipAddresses.isEmpty && resolved.addresses.isEmpty then
      .error
        { status := if resolved.status = .ok then .notFound else resolved.status
          error :=
            { code :=
                if resolved.status = .resourceExhausted then .resourceExhausted
                else .resolutionFailed
              message :=
                if resolved.message.isEmpty then
                  literal "hostname resolution failed: " ++ specification.hostname
                else resolved.message } }
    else if resolved.ipAddresses.length > limits.maxHostnameResults then
      .error (exhausted (literal "hostname resolution exceeded --max-hostname-results"))
    else if !resolved.ipAddresses.isEmpty then
      appendAll limits (some specification.hostname) state resolved.ipAddresses
    else appendAll limits (some specification.hostname) state
      (resolved.addresses.map IpAddress.fromIpv4)

/-- `host_bits` of an IPv4 block. -/
def ipv4HostBits (specification : TargetSpec) : UInt32 := 32 - specification.prefixLength.toUInt32

/-- The network mask of an IPv4 block. -/
def ipv4Mask (specification : TargetSpec) : UInt32 :=
  if specification.prefixLength = 0 then 0 else 0xFFFFFFFF <<< ipv4HostBits specification

/-- `first_address` of the IPv4 branch of `expand`. -/
def ipv4First (specification : TargetSpec) : UInt32 :=
  match specification.kind with
  | .ipv4Cidr => specification.firstAddress &&& ipv4Mask specification
  | _ => specification.firstAddress

/-- `count` of the IPv4 branch of `expand`. -/
def ipv4Count (specification : TargetSpec) : UInt64 :=
  match specification.kind with
  | .ipv4Cidr => 1 <<< (ipv4HostBits specification).toUInt64
  | .ipv4Range => specification.lastAddress.toUInt64 - specification.firstAddress.toUInt64 + 1
  | _ => 1

/-- The IPv4 branch of `expand`: the budget check and the loop. -/
def expandIpv4 (specification : TargetSpec) (state : Expansion) : Except TargetFailure Expansion :=
  if (ipv4Count specification).toNat > limits.maxTargets then
    .error (exceeded limits specification.original)
  else appendAll limits none state
    ((List.range (ipv4Count specification).toNat).map fun offset ↦
      IpAddress.fromIpv4 (ipv4First specification + UInt32.ofNat offset))

/-- The end of `expand` for an IPv6 specification: the budget check and the loop. -/
def expandOffsets (specification : TargetSpec) (state : Expansion) (firstIp : IpAddress)
    (count : UInt64) : Except TargetFailure Expansion :=
  if count.toNat > limits.maxTargets then .error (exceeded limits specification.original)
  else appendAll limits none state
    ((List.range count.toNat).map fun offset ↦ addIpv6Offset firstIp (UInt64.ofNat offset))

/-- The IPv6 branch of `expand`. -/
def expandIpv6 (specification : TargetSpec) (state : Expansion) : Except TargetFailure Expansion :=
  let firstIp := specification.firstIp
  if !firstIp.isIpv6 then .error
    { status := .invalidArgument
      error := { code := .invalidTarget, message := literal "target has no typed IP address" } }
  else
    match specification.kind with
    | .ipv6Cidr =>
      let hostBits : UInt32 := 128 - specification.prefixLength.toUInt32
      if hostBits ≥ 64 then
        .error (exhausted (literal "IPv6 CIDR expansion exceeds --max-targets: " ++
          specification.original))
      else expandOffsets limits specification state (maskIpv6 firstIp specification.prefixLength)
        (1 <<< hostBits.toUInt64)
    | .ipv6Range =>
      match ipv6RangeCount specification.firstIp specification.lastIp with
      | none => .error (exhausted (literal "IPv6 range is too large to expand safely: " ++
          specification.original))
      | some count => expandOffsets limits specification state firstIp count
    | _ => expandOffsets limits specification state firstIp 1

variable (resolver : HostnameResolver)

/-- One round of the loop of `expand`. -/
def expandOne (specification : TargetSpec) (state : Expansion) : Except TargetFailure Expansion :=
  match specification.kind with
  | .hostname => expandHostname limits resolver specification state
  | .ipv4 | .ipv4Cidr | .ipv4Range => expandIpv4 limits specification state
  | .ipv6 | .ipv6Cidr | .ipv6Range => expandIpv6 limits specification state

def expandAll : List TargetSpec → Expansion → Except TargetFailure Expansion
  | [], state => .ok state
  | specification :: specifications, state =>
    match expandOne limits resolver specification state with
    | .error failure => .error failure
    | .ok state => expandAll specifications state

/-- `TargetResolver::expand`. -/
def expand (specifications : List TargetSpec) : TargetResolutionResult :=
  if specifications.isEmpty then
    .error (invalid .emptyTargetSet "target specification set is empty" [])
  else if limits.maxTargets = 0 || limits.maxHostnameResults = 0 then
    .error (invalid .invalidTarget "target limits must be positive" [])
  else if limits.maxTargets > maximumTargets ||
      limits.maxHostnameResults > maximumHostnameResults then
    .error (exhausted (literal "target limits exceed the configured hard maximum"))
  else (expandAll limits resolver specifications {}).map Expansion.expanded

/-- `TargetNormalizer::sort_numeric`. -/
def sortNumeric (targets : List ResolvedTarget) : List ResolvedTarget :=
  let key (target : ResolvedTarget) : IpAddress :=
    if target.ipAddress.valid then target.ipAddress else .fromIpv4 target.address
  targets.mergeSort fun left right ↦ !(key right).lt (key left)

/-- `TargetEngine::resolve` on parsed specifications. -/
def resolveSpecs (specifications : List TargetSpec) : TargetResolutionResult :=
  match expand limits resolver specifications with
  | .error failure => .error failure
  | .ok targets =>
    if (sortNumeric targets).isEmpty then
      .error (invalid .emptyTargetSet "target resolution produced no IP targets" [])
    else .ok (sortNumeric targets)

/-- `TargetEngine::resolve`. -/
def resolve (inet : Inet) (input : Text) : TargetResolutionResult :=
  match parse inet input with
  | .error failure => .error failure
  | .ok specifications => resolveSpecs limits resolver specifications

end Skan.Target
