import Skan.PortScan.Types

/-!
# The TCP connect probe

`TcpConnectProbe` of `src/portscan/tcp_connect.cpp`: no packet is built, and a response is what the
socket reported. Error numbers are Linux's.
-/

namespace Skan.PortScan

open Skan.Core

/-! ### The `errno` values the probe distinguishes -/

namespace Errno

def eaddrnotavail : ℤ := 99
def enetdown : ℤ := 100
def enetunreach : ℤ := 101
def enetreset : ℤ := 102
def etimedout : ℤ := 110
def ehostdown : ℤ := 112
def ehostunreach : ℤ := 113

end Errno

/-- `target_ip` when it is set, else the parsed text; the same for a host and for a submission. -/
def effectiveAddress (inet : Inet) (address : IpAddress) (text : Text) : Option IpAddress :=
  if address.valid then some address else parseIpAddress inet text

theorem valid_of_effectiveAddress {inet : Inet} {address a : IpAddress} {text : Text}
    (h : effectiveAddress inet address text = some a) : a.valid := by
  rw [effectiveAddress] at h
  split_ifs at h with hvalid
  · exact Option.some.inj h ▸ hvalid
  · exact valid_of_parseIpAddress inet h

theorem effectiveAddress_of_valid {address : IpAddress} (h : address.valid) (inet : Inet)
    (text : Text) : effectiveAddress inet address text = some address := if_pos h

namespace TcpConnectProbe

def isUnreachableError (error : ℤ) : Bool :=
  error = Errno.enetunreach || error = Errno.ehostunreach || error = Errno.enetdown ||
    error = Errno.ehostdown || error = Errno.enetreset

def build (inet : Inet) (id : PortProbeId) (target : Host) (port : Port)
    (_config : PortScanConfig) :
    Except StatusCode PortSubmission :=
  if id = 0 ∨ port.protocol ≠ .tcp ∨ port.number = 0 ∨ target.address = [] then
    .error .invalidArgument
  else
    match effectiveAddress inet target.ipAddress target.address with
    | none => .error .invalidArgument
    | some address =>
      .ok { id, probe := .tcpConnect, target := target.address, port, targetIp := address }

def assess (response : PortResponse) (submission : PortSubmission) :
    Except StatusCode (PortState × ScanReason) :=
  if response.id ≠ submission.id ∨
      (response.sourceAddress ≠ [] ∧ response.sourceAddress ≠ submission.target) then
    .error .notFound
  else
    match response.kind with
    | .connected => .ok (.open, .immediateSuccess)
    | .connectionRefused => .ok (.closed, .connectionRefused)
    | .socketError =>
      if response.systemError = Errno.etimedout then .ok (.filtered, .timeout)
      else if isUnreachableError response.systemError then .ok (.unreachable, .networkUnreachable)
      else if response.systemError = Errno.eaddrnotavail then
        .ok (.error, .localAddressUnavailable)
      else .ok (.error, .socketError)
    | .packet | .unreachable => .error .parseError

end TcpConnectProbe

/-- `TcpConnectProbe`. -/
def tcpConnectProbe (inet : Inet) : PortProbe where
  type := .tcpConnect
  build := TcpConnectProbe.build inet
  timeoutState := .filtered
  timeoutReason := .timeout
  assess := TcpConnectProbe.assess

end Skan.PortScan
