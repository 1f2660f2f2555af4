import Skan.Packet.Datagrams
import Skan.Packet.Internet
import Skan.Packet.TCP

/-!
# Packets

`packet::Packet` of `src/packet/packet.cpp`: an optional Ethernet header, an IP header and a
transport. Its setters keep at most one IP header and at most one transport, which here is the shape
of the data.
-/

namespace Skan.Packet

open Skan.Core BigEndian

set_option linter.dupNamespace false

inductive IpHeader where
  | ipv4 (ip : IPv4)
  | ipv6 (ip : IPv6)
  deriving DecidableEq

inductive Transport where
  | tcp (t : TCP)
  | udp (u : UDP)
  | icmp (m : ICMP)
  | icmpv6 (m : ICMPv6)
  deriving DecidableEq

namespace IpHeader

def serializedSize : IpHeader → ℕ
  | .ipv4 ip => ip.serializedSize
  | .ipv6 ip => ip.serializedSize

def validate : IpHeader → Bool
  | .ipv4 ip => ip.validate
  | .ipv6 ip => ip.validate

/-- The header with its length field set for a transport of the given size. -/
def compose (transportSize : ℕ) : IpHeader → IpHeader
  | .ipv4 ip => .ipv4 { ip with totalLength := UInt16.ofNat (ip.serializedSize + transportSize) }
  | .ipv6 ip => .ipv6 { ip with payloadLength := UInt16.ofNat transportSize }

def serialize : IpHeader → Option (List UInt8)
  | .ipv4 ip => ip.serialize
  | .ipv6 ip => ip.serialize

/-- The Ethernet type of the IP version. -/
def etherType : IpHeader → UInt16
  | .ipv4 _ => 0x0800
  | .ipv6 _ => 0x86DD

end IpHeader

namespace Transport

def serializedSize : Transport → ℕ
  | .tcp t => t.serializedSize
  | .udp u => u.serializedSize
  | .icmp m => m.serializedSize
  | .icmpv6 m => m.serializedSize

/-- The part of `Packet::validate` about the transport: it is valid, and it is the protocol the IP
header announces. -/
def validate : Transport → IpHeader → Bool
  | .tcp t, .ipv4 ip => t.validate && ip.protocol = 6
  | .tcp t, .ipv6 ip => t.validate && ip.nextHeader = 6
  | .udp u, .ipv4 ip => u.validate && ip.protocol = 17
  | .udp u, .ipv6 ip => u.validate && ip.nextHeader = 17
  | .icmp m, .ipv4 ip => m.validate && ip.protocol = 1
  | .icmp _, .ipv6 _ => false
  | .icmpv6 _, .ipv4 _ => false
  | .icmpv6 m, .ipv6 ip => m.validate && ip.nextHeader = 58

/-- The transport's bytes, with the checksum over the pseudo-header where it has one. -/
def serialize : Transport → IpHeader → Option (List UInt8)
  | .tcp t, .ipv4 ip => t.serializeWithChecksum4 ip.sourceAddress ip.destinationAddress
  | .tcp t, .ipv6 ip => t.serializeWithChecksum6 ip.sourceAddress ip.destinationAddress
  | .udp u, .ipv4 ip => u.serializeWithChecksum4 ip.sourceAddress ip.destinationAddress
  | .udp u, .ipv6 ip => u.serializeWithChecksum6 ip.sourceAddress ip.destinationAddress
  | .icmp m, _ => m.serialize
  | .icmpv6 m, .ipv6 ip => m.serializeWithChecksum ip.sourceAddress ip.destinationAddress
  | .icmpv6 _, .ipv4 _ => none

end Transport

/-- `packet::Packet`. -/
structure Packet where
  ethernet : Option Ethernet := none
  ip : Option IpHeader := none
  transport : Option Transport := none
  deriving DecidableEq

namespace Packet

/-- `validate`. -/
def validate (p : Packet) : Bool :=
  match p.ip, p.transport with
  | some ip, some transport =>
    p.ethernet.all Ethernet.validate && ip.validate && transport.validate ip
  | _, _ => false

/-- `serialize`, into an owned vector. -/
def serialize (p : Packet) : Option (List UInt8) :=
  match p.ip, p.transport with
  | some ip, some transport =>
    if p.validate then do
      let ethernet ← match p.ethernet with
        | none => some []
        | some ethernet => ethernet.serialize
      let header ← (ip.compose transport.serializedSize).serialize
      let body ← transport.serialize ip
      some (ethernet ++ header ++ body)
    else none
  | _, _ => none

/-- A valid packet over Ethernet is its three parts in a row. -/
theorem serialize_of_parts {p : Packet} {ethernet : Ethernet} {ip : IpHeader}
    {transport : Transport} (hethernet : p.ethernet = some ethernet) (hip : p.ip = some ip)
    (htransport : p.transport = some transport) (hvalid : p.validate) {header body : List UInt8}
    (hheader : (ip.compose transport.serializedSize).serialize = some header)
    (hbody : transport.serialize ip = some body) :
    p.serialize = some (ethernet.bytes ++ header ++ body) := by
  have hethernetValid : ethernet.validate := by
    have hparts := hvalid
    rw [validate, hip, htransport, hethernet] at hparts
    simp only [Option.all_some, Bool.and_eq_true] at hparts
    exact hparts.1.1
  rw [serialize, hip, htransport]
  dsimp only
  rw [if_pos hvalid, hethernet]
  show (Ethernet.serialize ethernet).bind _ = _
  rw [Ethernet.serialize, if_pos hethernetValid, Option.bind_some, hheader, hbody]
  rfl

end Packet

end Skan.Packet
