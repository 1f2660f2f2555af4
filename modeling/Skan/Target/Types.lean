import Skan.Core.Types

/-!
# Target specifications

The data of `target_engine.hpp`: the kinds of a specification, the errors with their messages, the
parsed `TargetSpec`, the limits, and what a hostname lookup and an expansion return.

A result of the source is a status, a payload and an error; whoever reads one asks `success()`. Here
it is an `Except`: every failing return carries a status other than `Ok` and an empty payload, which
`TargetFailure` keeps, and every other return is a success.
-/

namespace Skan.Target

open Skan.Core

inductive TargetKind where
  | ipv4
  | hostname
  | ipv4Cidr
  | ipv4Range
  | ipv6
  | ipv6Cidr
  | ipv6Range
  deriving DecidableEq

inductive TargetErrorCode where
  | none
  | invalidTarget
  | invalidIpv4
  | invalidCidr
  | invalidRange
  | invalidHostname
  | invalidScope
  | resolutionFailed
  | resourceExhausted
  | unsupportedTarget
  | emptyTargetSet
  deriving DecidableEq

/-- A number as `operator<<` prints it. -/
def decimalText (n : ℕ) : Text := literal (toString n)

structure TargetError where
  code : TargetErrorCode := .none
  message : Text := []
  deriving DecidableEq

/-- The status and the error of a result without payload. -/
structure TargetFailure where
  status : StatusCode
  error : TargetError
  deriving DecidableEq

structure TargetSpec where
  kind : TargetKind := .ipv4
  original : Text
  firstAddress : UInt32 := 0
  lastAddress : UInt32 := 0
  prefixLength : UInt8 := 32
  hostname : Text := []
  firstIp : IpAddress := {}
  lastIp : IpAddress := {}
  deriving DecidableEq

structure ResolvedTarget where
  address : UInt32 := 0
  sourceHostname : Option Text := none
  ipAddress : IpAddress := {}
  deriving DecidableEq

/-- `TargetLimits::kMaximumTargets`. -/
def maximumTargets : ℕ := 1000000

/-- `TargetLimits::kMaximumHostnameResults`. -/
def maximumHostnameResults : ℕ := 4096

structure TargetLimits where
  maxTargets : ℕ := 4096
  maxHostnameResults : ℕ := 64

def TargetLimits.valid (limits : TargetLimits) : Bool :=
  limits.maxTargets > 0 && limits.maxTargets ≤ maximumTargets && limits.maxHostnameResults > 0 &&
    limits.maxHostnameResults ≤ maximumHostnameResults

structure HostnameResolution where
  status : StatusCode := .ok
  addresses : List UInt32 := []
  message : Text := []
  ipAddresses : List IpAddress := []

/-- `HostnameResolver`; the error is the text of an exception it throws. -/
abbrev HostnameResolver := Text → ℕ → Except Text HostnameResolution

/-- What a parser of specifications returns. -/
abbrev TargetParseResult := Except TargetFailure (List TargetSpec)

/-- What `TargetResolver::expand` and `TargetEngine::resolve` return. -/
abbrev TargetResolutionResult := Except TargetFailure (List ResolvedTarget)

end Skan.Target
