import Skan.Packet.Internet

/-!
# Quoted IPv6 packets

`src/packet/ipv6_quote.cpp`: what an ICMPv6 error quotes of a UDP packet. The packet may be cut off
after its UDP header; its extension headers are bounded as everywhere else.
-/

namespace Skan.Packet

open Skan.Core BigEndian

structure IPv6UdpQuote where
  ip : IPv6
  extensions : IPv6ExtensionParseResult
  sourcePort : UInt16 := 0
  destinationPort : UInt16 := 0
  length : UInt16 := 0
  checksum : UInt16 := 0
  deriving DecidableEq

/-- The fixed header at the front of a quote, whose payload may be cut off. -/
def quotedIpv6 (bounded : List UInt8) : IPv6 where
  version := bounded.getD 0 0 >>> 4
  trafficClass := (bounded.getD 0 0 &&& 0x0F) <<< 4 ||| bounded.getD 1 0 >>> 4
  flowLabel := ((bounded.getD 1 0 &&& 0x0F).toUInt32 <<< 16) |||
    ((bounded.getD 2 0).toUInt32 <<< 8) ||| (bounded.getD 3 0).toUInt32
  payloadLength := readU16 bounded 4
  nextHeader := bounded.getD 6 0
  hopLimit := bounded.getD 7 0
  sourceAddress := readVector 16 bounded 8
  destinationAddress := readVector 16 bounded 24

/-- `parse_ipv6_udp_quote`. -/
def parseIpv6UdpQuote (input : List UInt8) (maxHeaders : ℕ := 8) (maxBytes : ℕ := 2048) :
    Option IPv6UdpQuote :=
  if maxHeaders = 0 ∨ maxBytes < 48 ∨ input.length < 48 then none
  else
    let bounded := input.take (min input.length maxBytes)
    if bounded.length < 48 ∨ bounded.getD 0 0 >>> 4 ≠ 6 then none
    else
      let ip := quotedIpv6 bounded
      let payload := bounded.drop 40
      let extensions :=
        parseIpv6Extensions payload ip.nextHeader maxHeaders (min maxBytes payload.length)
      if !ip.validate ∨ extensions.status ≠ .complete ∨ extensions.terminalNextHeader ≠ 17 ∨
          extensions.consumedBytes > payload.length ∨
          ip.payloadLength.toNat < extensions.consumedBytes + 8 ∨
          extensions.headers.any fun header ↦ header.kind = .fragment &&
            header.fragmentOffset ≠ 0 then
        none
      else
        let udp := payload.drop extensions.consumedBytes
        if udp.length < 8 ∨ readU16 udp 4 < 8 then none
        else some
          { ip
            extensions
            sourcePort := readU16 udp 0
            destinationPort := readU16 udp 2
            length := readU16 udp 4
            checksum := readU16 udp 6 }

end Skan.Packet
