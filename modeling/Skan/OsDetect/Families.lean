import Skan.OsDetect.Probe

/-!
# The two address families of a TCP answer

The same segment may answer a probe over IPv4 and over IPv6. `Brings4` and `Brings6` say that a
response brings it, `SameProbe` that the two submissions are of one probe, and `Agree` that the two
assessments have one disposition and the same TCP evidence.

They mostly do not: the IPv6 code reads no option but its kind, takes every RST for one without an
ACK, and calls a segment between other ports malformed, which over IPv4 is unrelated.
`agree_iff` says which segments are left.
-/

namespace Skan.OsDetect

open Skan.Core Skan.Packet

/-- What of an observation comes from the segment: the evidence the matcher compares. -/
def TCPObservation.evidence (o : TCPObservation) : TCPObservation :=
  { o with
    sourceAddress := [], destinationAddress := [], ttl := .absent, dontFragment := .absent
    payloadLength := 0, family := .unknown }

namespace DefinedOSProbe

/-- Two submissions of one TCP probe; their addresses may differ. -/
structure SameProbe (s₄ s₆ : OSProbeSubmission) : Prop where
  type : s₄.type = s₆.type
  tcp : s₄.type.isTcp
  destinationPort : s₄.destinationPort = s₆.destinationPort
  sourcePort : s₄.sourcePort = s₆.sourcePort
  sequenceNumber : s₄.sequenceNumber = s₆.sequenceNumber

/-- The response brings the segment over IPv4, from the target to the source of the submission. -/
structure Brings4 (response : OSProbeResponse) (submission : OSProbeSubmission) (ip : IPv4)
    (segment : List UInt8) : Prop where
  kind : response.kind ≠ .error
  addressed : addressed response submission
  family : submission.targetIp.isIpv6 = false
  parse : IPv4.parse response.bytes = some ip
  protocol : ip.protocol = 6
  bytes : response.bytes.drop (ip.ihl.toNat * 4) = segment
  source : Discovery.parseIpv4Address submission.target = some ip.sourceAddress
  destination : Discovery.parseIpv4Address submission.sourceAddress = some ip.destinationAddress

/-- The response brings the segment over IPv6, from the target to the source of the submission. -/
structure Brings6 (response : OSProbeResponse) (submission : OSProbeSubmission)
    (segment : List UInt8) : Prop where
  kind : response.kind ≠ .error
  addressed : addressed response submission
  family : submission.targetIp.isIpv6
  typed : addressed6 response submission
  bytes : response.bytes = segment

/-- The assessments have one disposition, and the same TCP evidence. -/
def Agree (a₄ a₆ : OSProbeAssessment) : Prop :=
  a₄.disposition = a₆.disposition ∧ a₄.responseBehavior = a₆.responseBehavior ∧
    a₄.tcpObservation.map TCPObservation.evidence = a₆.tcpObservation.map TCPObservation.evidence

/-- A segment from the probed port to the probe's own. -/
def FromProbedPort (tcp : TCP) (submission : OSProbeSubmission) : Prop :=
  tcp.sourcePort = submission.destinationPort ∧ tcp.destinationPort = submission.sourcePort

instance (tcp : TCP) (submission : OSProbeSubmission) :
    Decidable (FromProbedPort tcp submission) :=
  inferInstanceAs (Decidable (_ ∧ _))

variable {inet : Inet} {response : OSProbeResponse} {submission : OSProbeSubmission}
  {segment : List UInt8}

section

variable (htcp : submission.type.isTcp)

include htcp

/-- The TCP probes are assessed as segments. -/
theorem assess_of_tcp (hkind : response.kind ≠ .error)
    (haddressed : addressed response submission) :
    assess inet response submission =
      if submission.targetIp.isIpv6 then
        if !addressed6 response submission then {} else assessTcp6 inet response submission
      else assessTcp4 response submission := by
  rw [assess, if_neg hkind, haddressed, if_neg (by decide)]
  cases htype : submission.type with
  | icmpEcho =>
    rw [htype] at htcp
    exact absurd htcp Bool.false_ne_true
  | udpFingerprint =>
    rw [htype] at htcp
    exact absurd htcp Bool.false_ne_true
  | _ => rfl

theorem assess_of_brings4 {ip : IPv4} (h : Brings4 response submission ip segment) :
    assess inet response submission =
      match TCP.parse segment with
      | none => malformed
      | some tcp =>
        if ¬ FromProbedPort tcp submission then {}
        else if !isRst tcp && !isSynAck tcp submission then {}
        else
          tcpMatch
            (observeTcpResponse submission.target submission.sourceAddress ip tcp (behaviorOf tcp))
            (behaviorOf tcp) := by
  have hsegment : segment4 ip response.bytes = TCP.parse segment := by
    rw [segment4, if_neg (not_lt.mpr (IPv4.headerSize_le_of_parse h.parse)), h.bytes]
  rw [assess_of_tcp htcp h.kind h.addressed, if_neg (by rw [h.family]; decide), assessTcp4,
    h.parse]
  dsimp only
  rw [if_neg (not_not_intro h.protocol), hsegment]
  cases hparse : TCP.parse segment with
  | none => rfl
  | some tcp =>
    dsimp only
    have hfrom : fromProbed4 ip tcp submission = true ↔ FromProbedPort tcp submission := by
      simp [fromProbed4, FromProbedPort, h.source, h.destination]
    by_cases hports : FromProbedPort tcp submission
    · rw [hfrom.mpr hports, if_neg (by decide), if_neg (not_not_intro hports)]
    · rw [Bool.eq_false_iff.mpr (mt hfrom.mp hports), if_pos (by decide), if_pos hports]

theorem assess_of_brings6 (h : Brings6 response submission segment) :
    assess inet response submission =
      match TCP.parse segment with
      | none => malformed
      | some tcp =>
        if ¬ FromProbedPort tcp submission then malformed
        else if !isRst tcp && !isSynAck tcp submission then {}
        else tcpMatch (observeTcp6 inet response tcp) (behaviorOf tcp) := by
  rw [assess_of_tcp htcp h.kind h.addressed, if_pos h.family, h.typed, if_neg (by decide),
    assessTcp6, h.bytes]
  cases hparse : TCP.parse segment with
  | none => rfl
  | some tcp =>
    dsimp only
    by_cases hports : FromProbedPort tcp submission
    · rw [if_neg (not_not_intro hports), if_neg]
      exact not_or.mpr ⟨not_not_intro hports.1, not_not_intro hports.2⟩
    · rw [if_pos hports, if_pos]
      exact not_and_or.mp hports

end

/-- Over IPv4 it is always known whether SACK is permitted, over IPv6 it never is. -/
theorem evidence_ne (source destination : Text) (ip : IPv4) (tcp : TCP)
    (behavior : ResponseBehavior) :
    (observeTcpResponse source destination ip tcp behavior).evidence ≠
      (observeTcp6 inet response tcp).evidence := by
  intro h
  exact ObservedValue.observed_ne_absent _ (congrArg TCPObservation.sackPermitted h)

/-- A segment is read the same way over both families exactly if it is no segment at all, or one
from the probed port to the probe's own that neither resets nor acknowledges. -/
theorem agree_iff (inet : Inet) {s₄ s₆ : OSProbeSubmission} {r₄ r₆ : OSProbeResponse} {ip : IPv4}
    (hprobe : SameProbe s₄ s₆) (h₄ : Brings4 r₄ s₄ ip segment) (h₆ : Brings6 r₆ s₆ segment) :
    Agree (assess inet r₄ s₄) (assess inet r₆ s₆) ↔
      ∀ tcp, TCP.parse segment = some tcp →
        FromProbedPort tcp s₆ ∧ isRst tcp = false ∧ isSynAck tcp s₆ = false := by
  have hsynAck (tcp : TCP) : isSynAck tcp s₄ = isSynAck tcp s₆ := by
    rw [isSynAck, isSynAck, hprobe.sequenceNumber]
  have hports (tcp : TCP) : FromProbedPort tcp s₄ ↔ FromProbedPort tcp s₆ := by
    rw [FromProbedPort, FromProbedPort, hprobe.destinationPort, hprobe.sourcePort]
  rw [assess_of_brings4 hprobe.tcp h₄, assess_of_brings6 (hprobe.type ▸ hprobe.tcp) h₆]
  cases hparse : TCP.parse segment with
  | none => exact iff_of_true ⟨rfl, rfl, rfl⟩ nofun
  | some tcp =>
    dsimp only
    by_cases hfrom : FromProbedPort tcp s₆
    swap
    · rw [if_pos (hfrom ∘ (hports tcp).mp), if_pos hfrom]
      refine iff_of_false (fun hagree ↦ OSProbeDisposition.noConfusion hagree.1) fun hall ↦ ?_
      exact hfrom (hall tcp rfl).1
    rw [if_neg (not_not_intro ((hports tcp).mpr hfrom)), if_neg (not_not_intro hfrom), hsynAck]
    by_cases hanswer : (!isRst tcp && !isSynAck tcp s₆) = true
    · rw [if_pos hanswer, if_pos hanswer]
      rw [Bool.and_eq_true, Bool.not_eq_true', Bool.not_eq_true'] at hanswer
      refine iff_of_true ⟨rfl, rfl, rfl⟩ fun tcp' hsome ↦ ?_
      obtain rfl := Option.some.inj hsome
      exact ⟨hfrom, hanswer⟩
    · -- an answer: its options are read over IPv4 only
      rw [if_neg hanswer, if_neg hanswer]
      refine iff_of_false (fun hagree ↦ ?_) fun hall ↦ ?_
      · exact evidence_ne _ _ ip tcp _ (Option.some.inj hagree.2.2)
      · exact hanswer (by simp [(hall tcp rfl).2.1, (hall tcp rfl).2.2])

/-! ### A SYN-ACK over both families -/

/-- Two documentation addresses, `2001:db8::1` and `2001:db8::2`. -/
def documentation6 (last : UInt8) : Bytes16 :=
  #v[0x20, 0x01, 0x0D, 0xB8, 0, 0, 0, 0, 0, 0, 0, 0, 0, 0, 0, last]

def documentationInet : Inet where
  ntop6 a :=
    if a = documentation6 1 then literal "2001:db8::1"
    else if a = documentation6 2 then literal "2001:db8::2"
    else []
  pton6 text :=
    if text = literal "2001:db8::1" then some (documentation6 1)
    else if text = literal "2001:db8::2" then some (documentation6 2)
    else none
  ifNametoindex _ := 0

/-- The first probe, from `192.0.2.254` to `192.0.2.1`. -/
def synProbe4 : OSProbeSubmission :=
  submissionFor documentationInet .tcpSynStandard 1 {} (.fromIpv4 0xC00002FE) (.fromIpv4 0xC0000201)

/-- The first probe, from `2001:db8::2` to `2001:db8::1`. -/
def synProbe6 : OSProbeSubmission :=
  submissionFor documentationInet .tcpSynStandard 1 {} (.fromIpv6 (documentation6 2))
    (.fromIpv6 (documentation6 1))

/-- The answer of an open port, with a maximum segment size. -/
def synAckSegment : TCP :=
  TCP.setOptions [{ kind := .mss, value := 1460 }]
    { sourcePort := 80, destinationPort := 40001, sequenceNumber := 7
      acknowledgmentNumber := 0x51000002, flags := TCP.Flag.syn.bit ||| TCP.Flag.ack.bit
      window := 65535 }

def synAckIp : IPv4 :=
  IPv4.withChecksum
    { sourceAddress := 0xC0000201, destinationAddress := 0xC00002FE, protocol := 6
      totalLength := 44 }

def synAckResponse4 : OSProbeResponse where
  id := 1
  sourceAddress := literal "192.0.2.1"
  destinationAddress := literal "192.0.2.254"
  bytes := synAckIp.bytes ++ synAckSegment.bytes
  ipTtl := 64
  sourceIp := .fromIpv4 0xC0000201
  destinationIp := .fromIpv4 0xC00002FE

def synAckResponse6 : OSProbeResponse where
  id := 1
  sourceAddress := literal "2001:db8::1"
  destinationAddress := literal "2001:db8::2"
  bytes := synAckSegment.bytes
  ipTtl := 64
  sourceIp := .fromIpv6 (documentation6 1)
  destinationIp := .fromIpv6 (documentation6 2)

theorem sameProbe_syn : SameProbe synProbe4 synProbe6 := ⟨rfl, rfl, rfl, rfl, rfl⟩

theorem brings4_synAck : Brings4 synAckResponse4 synProbe4 synAckIp synAckSegment.bytes where
  kind := nofun
  addressed := by decide +kernel
  family := rfl
  parse := by decide +kernel
  protocol := rfl
  bytes := by decide +kernel
  source := by decide +kernel
  destination := by decide +kernel

theorem brings6_synAck : Brings6 synAckResponse6 synProbe6 synAckSegment.bytes where
  kind := nofun
  addressed := by decide +kernel
  family := rfl
  typed := by decide +kernel
  bytes := rfl

theorem agree_iff_synAck :
    Agree (assess documentationInet synAckResponse4 synProbe4)
        (assess documentationInet synAckResponse6 synProbe6) ↔
      ∀ tcp, TCP.parse synAckSegment.bytes = some tcp →
        FromProbedPort tcp synProbe6 ∧ isRst tcp = false ∧ isSynAck tcp synProbe6 = false :=
  agree_iff documentationInet sameProbe_syn brings4_synAck brings6_synAck

/-- The maximum segment size of the answer is read over IPv4 and not over IPv6. -/
theorem not_agree_synAck :
    SameProbe synProbe4 synProbe6 ∧
      Brings4 synAckResponse4 synProbe4 synAckIp synAckSegment.bytes ∧
      Brings6 synAckResponse6 synProbe6 synAckSegment.bytes ∧
      ((assess documentationInet synAckResponse4 synProbe4).tcpObservation.map (·.mss) =
        some (.observed 1460)) ∧
      ((assess documentationInet synAckResponse6 synProbe6).tcpObservation.map (·.mss) =
        some .absent) ∧
      ¬ Agree (assess documentationInet synAckResponse4 synProbe4)
        (assess documentationInet synAckResponse6 synProbe6) := by
  refine ⟨sameProbe_syn, brings4_synAck, brings6_synAck, by decide +kernel, by decide +kernel, ?_⟩
  rintro ⟨-, -, hevidence⟩
  revert hevidence
  decide +kernel

end DefinedOSProbe

end Skan.OsDetect
