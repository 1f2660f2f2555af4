import Mathlib.Data.List.TakeWhile
import Skan.Net.LinuxOSProbeTransport

/-!
# What the OS probe transport finds

The table and the pending probes are in step in every run (`InStep`): each pending probe is found by
its own correlation, and the table leads to nothing else. Every probe whose submission was accepted
is pending until it is cancelled or answered, whichever comes first, and then ends for good
(`probes_accounted`).

What an observation is looked up by names no address of `IpAddress`, but what is stored does, and
equality compares it. So over IPv4 the table finds nothing (`lookup_eq_none`): an answer over UDP or
ICMP is never delivered, and a segment is for the only pending probe with its ports, whatever it
acknowledges (`dispatchObservation_ipv4_run`). -/

namespace Skan.Net.LinuxOSProbeTransport

open Skan.Core Skan.Packet Skan.PortScan Skan.OsDetect Runs

variable {ctx : NetworkScanContext} {s : LinuxOSProbeTransport} {id : OSProbeId} {ip : IPv4}

/-! ### The table and the pending probes -/

/-- What the transport keeps of a probe: it is under its own identifier, and its target is an
address which its text names. -/
structure Kept (ctx : NetworkScanContext) (id : OSProbeId) (p : OSProbeSubmission) : Prop where
  id_eq : p.id = id
  valid : p.targetIp.valid = true
  target_eq : p.target = p.targetIp.toText ctx.inet

/-- The table leads to the pending probes, to each by its own correlation. -/
structure InStep (ctx : NetworkScanContext) (s : LinuxOSProbeTransport) : Prop where
  kept : ∀ id p, s.pending.lookup id = some p → Kept ctx id p
  paired : ∀ key id, s.correlations.lookup key = some id ↔
    ∃ p, s.pending.lookup id = some p ∧ correlationOf p = key

theorem inStep_empty : InStep ctx {} := ⟨by simp, by simp⟩

/-- `submit` changes nothing, or enters a probe that is new in both respects. -/
theorem submit_cases (ctx : NetworkScanContext) (answers : SubmitAnswers)
    (submission : OSProbeSubmission) (s : LinuxOSProbeTransport) :
    ((submit ctx answers submission s).1 ≠ .ok ∧ (submit ctx answers submission s).2 = s) ∨
      ∃ p, Kept ctx submission.id p ∧ submission.id ∉ s.pending ∧
        correlationOf p ∉ s.correlations ∧
          submit ctx answers submission s =
            (.ok,
              { pending := s.pending.insert submission.id p
                correlations := s.correlations.insert (correlationOf p) submission.id }) := by
  rw [submit]
  by_cases hrefused : submission.id = 0 ∨ submission.target = [] ∨ submission.id ∈ s.pending
  · rw [if_pos hrefused]
    exact .inl ⟨by simp, rfl⟩
  rw [if_neg hrefused]
  split
  · exact .inl ⟨by simp, rfl⟩
  rename_i targetIp htarget
  by_cases hpreflight : !answers.preflight
  · rw [if_pos hpreflight]
    exact .inl ⟨by simp, rfl⟩
  rw [if_neg hpreflight]
  split
  · exact .inl ⟨by simp, rfl⟩
  rename_i sourceIp hsource
  dsimp only
  split
  · exact .inl ⟨by simp, rfl⟩
  rw [enter]
  split_ifs with hknown hstored hsend
  · exact .inl ⟨by simp, rfl⟩
  · exact .inl ⟨by simp, rfl⟩
  · exact .inr ⟨effective ctx submission targetIp sourceIp,
      ⟨rfl, valid_of_effectiveAddress htarget, rfl⟩, fun hmem ↦ hrefused (.inr (.inr hmem)),
      hknown, rfl⟩
  · exact .inl ⟨hsend, rfl⟩

theorem InStep.insert (h : InStep ctx s) {p : OSProbeSubmission} (hkept : Kept ctx id p)
    (hnew : id ∉ s.pending) (hkey : correlationOf p ∉ s.correlations) :
    InStep ctx
      { pending := s.pending.insert id p
        correlations := s.correlations.insert (correlationOf p) id } where
  kept id' p' hlookup := by
    rw [AList.lookup_insert_eq_ite] at hlookup
    split_ifs at hlookup with hid
    · rw [hid, ← Option.some.inj hlookup]
      exact hkept
    · exact h.kept id' p' hlookup
  paired key id' := by
    have hfree := AList.lookup_eq_none.mpr hnew
    rw [AList.lookup_insert_eq_ite, AList.lookup_insert_eq_ite]
    by_cases hcorrelation : key = correlationOf p
    · subst hcorrelation
      rw [if_pos rfl]
      constructor
      · intro hid
        rw [if_pos (Option.some.inj hid).symm]
        exact ⟨p, rfl, rfl⟩
      · rintro ⟨p', hlookup, heq⟩
        split_ifs at hlookup with hid
        · rw [hid]
        · exact absurd (AList.mem_of_lookup ((h.paired _ id').mpr ⟨p', hlookup, heq⟩)) hkey
    · rw [if_neg hcorrelation, h.paired]
      by_cases hid : id' = id
      · rw [hid, if_pos rfl, hfree]
        refine iff_of_false (by simp) ?_
        rintro ⟨p', hlookup, heq⟩
        exact hcorrelation (Option.some.inj hlookup ▸ heq.symm)
      · rw [if_neg hid]

theorem InStep.retire (h : InStep ctx s) (id : OSProbeId) : InStep ctx (retire id s) where
  kept id' p hlookup := by
    rw [LinuxOSProbeTransport.retire, AList.lookup_erase_eq_ite] at hlookup
    split_ifs at hlookup
    exact h.kept id' p hlookup
  paired key id' := by
    show (s.correlations.keep (· ≠ id)).lookup key = some id' ↔
      ∃ p, (s.pending.erase id).lookup id' = some p ∧ correlationOf p = key
    rw [AList.lookup_keep_eq_some_iff, h.paired, AList.lookup_erase_eq_ite, decide_eq_true_eq]
    by_cases hid : id' = id
    · simp [hid]
    · simp [hid]

/-! ### One step -/

/-- The probe that a step accepts. -/
def accepted (ctx : NetworkScanContext) (s : LinuxOSProbeTransport) : Event → List OSProbeId
  | .submit answers submission =>
    if (submit ctx answers submission s).1 = .ok then [submission.id] else []
  | _ => []

/-- The probe that a step ends: a pending one that is cancelled, or the one of the response that is
delivered. -/
def ended (ctx : NetworkScanContext) (s : LinuxOSProbeTransport) : Event → List OSProbeId
  | .cancel id => if id ∈ s.pending then [id] else []
  | .dispatchObservation o => ((dispatchObservation ctx o s).1.map (·.id)).toList
  | _ => []

/-- An observation is nobody's, or is the answer of a pending probe, which it ends. -/
theorem dispatchObservation_cases (ctx : NetworkScanContext) (o : PacketObservation)
    (s : LinuxOSProbeTransport) :
    dispatchObservation ctx o s = (none, s) ∨
      ∃ id p response, matchObservation ctx o s = some id ∧ s.pending.lookup id = some p ∧
        response.id = id ∧ dispatchObservation ctx o s = (some response, retire id s) := by
  rw [dispatchObservation]
  split
  · exact .inl rfl
  rename_i id hmatch
  split
  · exact .inl rfl
  rename_i response hresponse
  obtain ⟨p, hlookup, hresponse⟩ := Option.bind_eq_some_iff.mp hresponse
  refine .inr ⟨id, p, response, hmatch, hlookup, ?_, rfl⟩
  obtain ⟨⟨bytes, kind⟩, -, rfl⟩ := Option.map_eq_some_iff.mp hresponse
  dsimp only
  split <;> rfl

theorem InStep.step (h : InStep ctx s) (event : Event) : InStep ctx (step ctx s event) := by
  cases event with
  | submit answers submission =>
    rw [LinuxOSProbeTransport.step]
    obtain ⟨-, hsame⟩ | ⟨p, hkept, hnew, hkey, hentered⟩ := submit_cases ctx answers submission s
    · rwa [hsame]
    · rw [hentered]
      exact h.insert hkept hnew hkey
  | cancel id =>
    rw [LinuxOSProbeTransport.step, cancel]
    split_ifs
    · exact h.retire id
    · exact h
  | dispatchObservation o =>
    rw [LinuxOSProbeTransport.step]
    obtain hsame | ⟨id, _, _, -, -, -, hdelivered⟩ := dispatchObservation_cases ctx o s
    · rwa [hsame]
    · rw [hdelivered]
      exact h.retire id
  | reorder s' =>
    rw [LinuxOSProbeTransport.step]
    split_ifs with hperm
    · -- no lookup sees the order
      exact ⟨fun id p hlookup ↦ h.kept id p ((AList.perm_lookup hperm.1).symm.trans hlookup),
        fun key id ↦ by rw [AList.perm_lookup hperm.1, AList.perm_lookup hperm.2, h.paired]⟩
    · exact h

theorem inStep_run (events : List Event) : InStep ctx (run (step ctx) {} events) :=
  run_invariant (fun _ event h ↦ h.step event) inStep_empty events

/-! ### What comes and what goes -/

theorem keys_retire (h : id ∈ s.pending) :
    s.pending.keys.Perm ((retire id s).pending.keys ++ [id]) := by
  have hperm := List.perm_cons_erase (AList.mem_keys.mp h)
  rw [retire, AList.keys_erase]
  exact hperm.trans (List.perm_append_singleton _ _).symm

/-- **One step** accepts what is new among the pending probes, and ends what is no longer there. -/
theorem conserves_step (s : LinuxOSProbeTransport) (event : Event) :
    (s.pending.keys ++ accepted ctx s event).Perm
      ((step ctx s event).pending.keys ++ ended ctx s event) := by
  cases event with
  | submit answers submission =>
    obtain ⟨hrefused, hsame⟩ | ⟨p, -, hnew, -, hentered⟩ := submit_cases ctx answers submission s
    · rw [accepted, if_neg hrefused, step, hsame]
      exact .refl _
    · rw [accepted, step, hentered, if_pos rfl]
      -- a pending identifier is refused, so the insertion replaces nothing
      have hkeys : (s.pending.insert submission.id p).keys = submission.id :: s.pending.keys := by
        rw [AList.keys, AList.entries_insert_of_notMem hnew]
        rfl
      show (_ ++ [submission.id]).Perm ((s.pending.insert submission.id p).keys ++ [])
      rw [hkeys, List.append_nil]
      exact List.perm_append_singleton _ _
  | cancel id =>
    show (s.pending.keys ++ []).Perm
      ((cancel id s).pending.keys ++ if id ∈ s.pending then [id] else [])
    rw [List.append_nil, cancel]
    split_ifs with hpending
    · exact keys_retire hpending
    · rw [List.append_nil]
  | dispatchObservation o =>
    show (s.pending.keys ++ []).Perm ((dispatchObservation ctx o s).2.pending.keys ++
      ((dispatchObservation ctx o s).1.map OSProbeResponse.id).toList)
    rw [List.append_nil]
    obtain hsame | ⟨id, p, response, -, hlookup, hid, hdelivered⟩ :=
      dispatchObservation_cases ctx o s
    · rw [hsame]
      exact .of_eq (List.append_nil _).symm
    · rw [hdelivered]
      show s.pending.keys.Perm ((retire id s).pending.keys ++ [response.id])
      rw [hid]
      exact keys_retire (AList.mem_of_lookup hlookup)
  | reorder s' =>
    show (s.pending.keys ++ []).Perm ((step ctx s (.reorder s')).pending.keys ++ [])
    rw [List.append_nil, List.append_nil, step]
    split_ifs with hperm
    · exact (hperm.1.map Sigma.fst).symm
    · exact .refl _

/-- **Probes are conserved.** In every run the table and the pending probes are in step, and the
probes whose submissions were accepted are those that are pending and those that were cancelled or
answered, each once. -/
theorem probes_accounted (events : List Event) :
    InStep ctx (run (step ctx) {} events) ∧
      (along (step ctx) (accepted ctx) {} events).Perm
        ((run (step ctx) {} events).pending.keys ++ along (step ctx) (ended ctx) {} events) := by
  have hstep : ∀ s event, True → (s.pending.keys ++ accepted ctx s event).Perm
      ((step ctx s event).pending.keys ++ ended ctx s event) :=
    fun s event _ ↦ conserves_step s event
  refine ⟨inStep_run events, ?_⟩
  exact run_conserves (I := fun _ ↦ True) (s := {}) (fun _ _ _ ↦ trivial) hstep trivial events

/-! ### What is found over IPv4 -/

/-- A correlation that names no address is nobody's. -/
theorem InStep.lookup_eq_none (h : InStep ctx s) {key : Correlation}
    (hkey : key.targetIp.valid = false) : s.correlations.lookup key = none := by
  rw [Option.eq_none_iff_forall_ne_some]
  intro id hlookup
  obtain ⟨p, hp, rfl⟩ := (h.paired key id).mp hlookup
  exact Bool.false_ne_true (hkey.symm.trans (h.kept id p hp).valid)

/-- The text of a valid address is read back as its IPv4 word, or as nothing. -/
theorem parseIpv4_toText {inet : Inet} (hcolon : ∀ bytes, 0x3A ∈ inet.ntop6 bytes)
    (hnul : ∀ bytes, 0x00 ∉ inet.ntop6 bytes) {a : IpAddress} (ha : a.valid = true)
    (word : UInt32) :
    parseIpv4 (a.toText inet) = some word ↔ a.isIpv4 = true ∧ a.ipv4Word = word := by
  rw [parseIpv4, LinuxUDPScanTransport.parseIpv4, IpAddress.toText]
  by_cases hipv4 : a.isIpv4 = true
  · have hread := inetPton4_inetNtop4 a.ipv4Word
    have hwhole : cStr (inetNtop4 a.ipv4Word) = inetNtop4 a.ipv4Word := by
      refine List.takeWhile_eq_self_iff.mpr fun c hc ↦ decide_eq_true ?_
      rintro rfl
      rw [inetPton4_eq_none hc (by decide) (by decide)] at hread
      exact Option.some_ne_none _ hread.symm
    rw [if_pos hipv4, hwhole, hread, Option.some.injEq]
    exact (and_iff_right hipv4).symm
  · have hipv6 : a.isIpv6 = true := (Bool.or_eq_true _ _ ▸ ha).resolve_left hipv4
    -- the text begins with what `inet_ntop` writes, which no NUL cuts short
    have hmem : ∀ rest, 0x3A ∈ cStr (inet.ntop6 a.bytes ++ rest) := by
      intro rest
      have hkept : ∀ c ∈ inet.ntop6 a.bytes, decide (c ≠ 0) = true := by
        intro c hc
        refine decide_eq_true ?_
        rintro rfl
        exact hnul a.bytes hc
      rw [cStr, List.takeWhile_append_of_pos hkept]
      exact List.mem_append_left _ (hcolon a.bytes)
    have hnone : ∀ rest, inetPton4 (cStr (inet.ntop6 a.bytes ++ rest)) = none :=
      fun rest ↦ inetPton4_eq_none (hmem rest) (by decide) (by decide)
    have hword : ¬ (a.isIpv4 = true ∧ a.ipv4Word = word) := fun h ↦ hipv4 h.1
    rw [if_neg hipv4, if_pos hipv6]
    split_ifs
    · rw [hnone]
      exact iff_of_false (by simp) hword
    · rw [← List.append_nil (inet.ntop6 a.bytes), hnone]
      exact iff_of_false (by simp) hword

/-- A segment from the address and the port of a probe over IPv4, to its own port. -/
def FromTarget (ip : IPv4) (tcp : TCP) (p : OSProbeSubmission) : Prop :=
  p.targetIp.isIpv4 = true ∧ p.targetIp.ipv4Word = ip.sourceAddress ∧
    p.sourcePort = tcp.destinationPort ∧ p.destinationPort = tcp.sourcePort

theorem portsMatch4_iff (hcolon : ∀ bytes, 0x3A ∈ ctx.inet.ntop6 bytes)
    (hnul : ∀ bytes, 0x00 ∉ ctx.inet.ntop6 bytes) {tcp : TCP} {p : OSProbeSubmission}
    (hp : Kept ctx id p) : portsMatch4 ip tcp p = true ↔ FromTarget ip tcp p := by
  rw [portsMatch4, FromTarget, Bool.and_eq_true, Bool.and_eq_true, decide_eq_true_eq,
    decide_eq_true_eq, decide_eq_true_eq, hp.target_eq, parseIpv4_toText hcolon hnul hp.valid,
    and_assoc, and_assoc]

/-- **A segment over IPv4** is for the only pending probe it can be from. -/
theorem InStep.matchTcp4 (h : InStep ctx s) (hcolon : ∀ bytes, 0x3A ∈ ctx.inet.ntop6 bytes)
    (hnul : ∀ bytes, 0x00 ∉ ctx.inet.ntop6 bytes) {o : PacketObservation} {tcp : TCP}
    (hipv4 : o.ipv4 = some ip) (hipv6 : o.ipv6 = none) :
    matchTcp ctx o tcp s = some id ↔
      ip.destinationAddress = ctx.sourceIpv4 ∧
        ∃ p, s.pending.lookup id = some p ∧ FromTarget ip tcp p ∧
          ∀ id' p', s.pending.lookup id' = some p' → FromTarget ip tcp p' → id' = id := by
  have hacknowledged : acknowledged ip tcp s = none := by
    rw [acknowledged]
    split_ifs
    · rfl
    · exact h.lookup_eq_none rfl
  rw [matchTcp, hipv4, hipv6]
  dsimp only
  split_ifs with haddress
  · exact iff_of_false (by simp) fun hall ↦ haddress hall.1
  · rw [hacknowledged, Option.none_or, AList.findUnique_eq_some_iff,
      and_iff_right (not_not.mp haddress)]
    refine exists_congr fun p ↦ and_congr_right fun hp ↦ ?_
    rw [portsMatch4_iff hcolon hnul (h.kept id p hp)]
    refine and_congr_right fun _ ↦ forall_congr' fun id' ↦ forall_congr' fun p' ↦
      forall_congr' fun hp' ↦ ?_
    rw [portsMatch4_iff hcolon hnul (h.kept id' p' hp')]

/-- No ICMP message over IPv4 is for anybody. -/
theorem InStep.matchIcmpv4_eq_none (h : InStep ctx s) (ip : IPv4) (icmp : ICMP) :
    matchIcmpv4 ctx ip icmp s = none := by
  rw [matchIcmpv4]
  by_cases haddress : ip.destinationAddress ≠ ctx.sourceIpv4
  · rw [if_pos haddress]
  rw [if_neg haddress]
  split
  · exact h.lookup_eq_none rfl
  · dsimp only
    split_ifs
    · exact h.lookup_eq_none rfl
    · rfl
  · rfl

/-- Nothing else over IPv4 is either. -/
theorem InStep.matchObservation4 (h : InStep ctx s) {o : PacketObservation}
    (hipv4 : o.ipv4 = some ip) (hipv6 : o.ipv6 = none) (htcp : o.tcp = none) :
    matchObservation ctx o s = none := by
  rw [matchObservation, htcp]
  split
  · rename_i hsome
    exact absurd hsome (by simp)
  · rw [matchUdp, hipv4, hipv6]
    dsimp only
    split_ifs
    · rfl
    · exact h.lookup_eq_none rfl
  · split_ifs
    · rw [matchIcmp, hipv4, hipv6]
      cases o.icmp with
      | none => rfl
      | some icmp => exact h.matchIcmpv4_eq_none ip icmp
    · rfl

/-- **Over IPv4, in every run**, an observation that is no segment changes nothing and is delivered
to nobody, and a segment is for the only pending probe whose target and ports it comes from,
whatever it acknowledges. -/
theorem dispatchObservation_ipv4_run (hcolon : ∀ bytes, 0x3A ∈ ctx.inet.ntop6 bytes)
    (hnul : ∀ bytes, 0x00 ∉ ctx.inet.ntop6 bytes) (events : List Event) {o : PacketObservation}
    {ip : IPv4} (hipv4 : o.ipv4 = some ip) (hipv6 : o.ipv6 = none) :
    let s := run (step ctx) {} events
    (o.tcp = none → dispatchObservation ctx o s = (none, s)) ∧
      ∀ tcp, o.tcp = some tcp → ∀ id, matchObservation ctx o s = some id ↔
        ip.destinationAddress = ctx.sourceIpv4 ∧
          ∃ p, s.pending.lookup id = some p ∧ FromTarget ip tcp p ∧
            ∀ id' p', s.pending.lookup id' = some p' → FromTarget ip tcp p' → id' = id := by
  intro s
  have hs : InStep ctx s := inStep_run events
  constructor
  · intro htcp
    rw [dispatchObservation, hs.matchObservation4 hipv4 hipv6 htcp]
  · intro tcp htcp id
    rw [matchObservation, htcp]
    exact hs.matchTcp4 hcolon hnul hipv4 hipv6

/-- The host 192.0.2.1, probing. -/
def prober : NetworkScanContext where
  inet := { ntop6 := fun _ ↦ [0x3A, 0x3A], pton6 := fun _ ↦ none, ifNametoindex := fun _ ↦ 0 }
  interfaceName := [0x65, 0x74, 0x68, 0x30]
  sourceIpv4 := 0xC0000201

/-- A UDP probe of 192.0.2.9. -/
def udpProbe : OSProbeSubmission where
  id := 1
  type := .udpFingerprint
  targetIp := .fromIpv4 0xC0000209
  target := inetNtop4 0xC0000209
  destinationPort := 53
  sourcePort := 40000
  bytes := (UDP.serialize { sourcePort := 40000, destinationPort := 53 }).getD []

/-- What 192.0.2.9 answers to it. -/
def udpAnswer : PacketObservation where
  ipv4 := some { protocol := 17, sourceAddress := 0xC0000209, destinationAddress := 0xC0000201 }
  udp := some { sourcePort := 53, destinationPort := 40000 }
  status := .valid

theorem dispatchObservation_udpAnswer :
    let s := run (step prober) {} [.submit {} udpProbe]
    1 ∈ s.pending ∧ dispatchObservation prober udpAnswer s = (none, s) := by
  intro s
  have hcolon : ∀ bytes, 0x3A ∈ prober.inet.ntop6 bytes := fun _ ↦ List.mem_cons_self
  have hnul : ∀ bytes, 0x00 ∉ prober.inet.ntop6 bytes := fun bytes ↦ by
    show (0 : UInt8) ∉ [0x3A, 0x3A]
    decide
  exact ⟨by decide +kernel,
    (dispatchObservation_ipv4_run hcolon hnul [.submit {} udpProbe] rfl rfl).1 rfl⟩

end Skan.Net.LinuxOSProbeTransport
