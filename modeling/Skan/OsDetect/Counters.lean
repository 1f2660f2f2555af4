import Mathlib.Algebra.Group.Prod
import Skan.OsDetect.Completion

/-!
# The two sets of counters

An `OSScheduler` counts what becomes of its probes twice: in members of its own, which
`emit_result` copies into the result, and in the fingerprint it collects, which goes into the result
as `observed`. Most places count in both. `receive` does not: a response that is judged malformed,
or that reports an error, is counted by the scheduler only, the first because `receive` leaves out
the status it appends for the other malformed probes, the second because there is nothing to
observe.

`Ledger` states by how much the two differ. Everything but such a response keeps the difference
(`Books.step`), so a result is balanced if and only if none was taken in before it was emitted.
-/

namespace Skan.OsDetect

open Skan.Core Skan.PortScan Skan.ScanEngine

/-- The six counters. -/
@[ext] structure Counts where
  generated : ℕ := 0
  sent : ℕ := 0
  received : ℕ := 0
  timedOut : ℕ := 0
  unsupported : ℕ := 0
  malformed : ℕ := 0
  deriving DecidableEq

namespace Counts

/-- One more of a status. -/
def bump (status : OSProbeStatus) (c : Counts) : Counts :=
  match status with
  | .generated => { c with generated := c.generated + 1 }
  | .sent => { c with sent := c.sent + 1 }
  | .responseReceived => { c with received := c.received + 1 }
  | .timeout => { c with timedOut := c.timedOut + 1 }
  | .unsupported => { c with unsupported := c.unsupported + 1 }
  | .malformed => { c with malformed := c.malformed + 1 }

/-- The counters with some responses and malformed probes more: what was not recorded. -/
def beyond (unrecorded : ℕ × ℕ) (c : Counts) : Counts :=
  { c with received := c.received + unrecorded.1, malformed := c.malformed + unrecorded.2 }

theorem bump_beyond (status : OSProbeStatus) (unrecorded : ℕ × ℕ) (c : Counts) :
    (c.beyond unrecorded).bump status = (c.bump status).beyond unrecorded := by
  cases status <;> simp [bump, beyond, Nat.add_right_comm]

theorem beyond_zero (c : Counts) : c.beyond (0, 0) = c := rfl

theorem beyond_eq_self_iff {unrecorded : ℕ × ℕ} {c : Counts} :
    c.beyond unrecorded = c ↔ unrecorded = (0, 0) := by
  simp [Counts.ext_iff, beyond, Prod.ext_iff]

theorem beyond_add (a b : ℕ × ℕ) (c : Counts) : c.beyond (a + b) = (c.beyond a).beyond b := by
  simp [beyond, Nat.add_assoc]

end Counts

/-- The counters of a fingerprint. -/
def ObservedOSFingerprint.counts (f : ObservedOSFingerprint) : Counts where
  generated := f.probesGenerated
  sent := f.probesSent
  received := f.responsesReceived
  timedOut := f.probesTimedOut
  unsupported := f.probesUnsupported
  malformed := f.probesMalformed

/-- The counters of a result. -/
def OSDetectionResult.counts (r : OSDetectionResult) : Counts where
  generated := r.probesGenerated
  sent := r.probesSent
  received := r.responsesReceived
  timedOut := r.probesTimedOut
  unsupported := r.probesUnsupported
  malformed := r.probesMalformed

/-! ### The counters of the fingerprint -/

namespace ObservedOSFingerprint

theorem counts_countStatus (status : OSProbeStatus) (f : ObservedOSFingerprint) :
    (f.countStatus status).counts = f.counts.bump status := by
  cases status <;> rfl

theorem counts_mergeFamily (family : AddressFamily) (f : ObservedOSFingerprint) :
    (f.mergeFamily family).counts = f.counts := by
  rw [mergeFamily]
  split_ifs <;> rfl

/-- Every observation is counted under its status. -/
theorem counts_merged (family : AddressFamily) (status : OSProbeStatus)
    (f : ObservedOSFingerprint) :
    ((f.mergeFamily family).countStatus status).counts = f.counts.bump status := by
  rw [counts_countStatus, counts_mergeFamily]

end ObservedOSFingerprint

/-- The statuses of the observations of an assessment. -/
def OSProbeAssessment.statuses (a : OSProbeAssessment) : List OSProbeStatus :=
  a.tcpObservation.toList.map (·.probeStatus) ++ a.icmpObservation.toList.map (·.probeStatus) ++
    a.udpObservation.toList.map (·.probeStatus)

namespace DefinedOSProbe

/-- An assessment that, if it is a match, comes with one observation of a response. -/
def Observing (a : OSProbeAssessment) : Prop :=
  a.disposition = .matching → a.statuses = [.responseReceived]

theorem observing_of_ne {a : OSProbeAssessment} (h : a.disposition ≠ .matching) : Observing a :=
  fun hmatching ↦ absurd hmatching h

theorem observing_malformed : Observing malformed := observing_of_ne (by decide)

theorem observing_unrelated : Observing {} := observing_of_ne (by decide)

theorem observing_assessIcmp6 (response : OSProbeResponse) (submission : OSProbeSubmission) :
    Observing (assessIcmp6 response submission) := by
  rw [assessIcmp6]
  split
  · exact observing_malformed
  · split_ifs
    · exact observing_unrelated
    · exact fun _ ↦ rfl

theorem observing_assessIcmp4 (response : OSProbeResponse) (submission : OSProbeSubmission) :
    Observing (assessIcmp4 response submission) := by
  rw [assessIcmp4]
  split
  · exact observing_malformed
  · split_ifs
    · exact observing_unrelated
    · exact fun _ ↦ rfl

theorem observing_udpMatch {observation : UDPObservation} {behavior : ResponseBehavior}
    (h : observation.probeStatus = .responseReceived) :
    Observing (udpMatch observation behavior) := by
  intro _
  simp [udpMatch, OSProbeAssessment.statuses, h]

theorem observing_assessUdpAnswer {observation : UDPObservation}
    (h : observation.probeStatus = .responseReceived) (response : OSProbeResponse)
    (submission : OSProbeSubmission) :
    Observing (assessUdpAnswer observation response submission) := by
  rw [assessUdpAnswer]
  split
  · exact observing_malformed
  · split_ifs
    · exact observing_malformed
    · exact observing_udpMatch h

theorem observing_assessUdp6 (response : OSProbeResponse) (submission : OSProbeSubmission) :
    Observing (assessUdp6 response submission) := by
  rw [assessUdp6]
  split
  · split
    · exact observing_malformed
    · split
      · exact observing_malformed
      · exact observing_udpMatch rfl
  · exact observing_assessUdpAnswer rfl response submission

theorem observing_assessUdp4 (response : OSProbeResponse) (submission : OSProbeSubmission) :
    Observing (assessUdp4 response submission) := by
  rw [assessUdp4]
  split
  · dsimp only
    split
    · split
      · exact observing_malformed
      · split
        · exact observing_malformed
        · split
          · exact observing_unrelated
          · exact observing_udpMatch rfl
    · exact observing_assessUdpAnswer rfl response submission
  · exact observing_of_ne (by decide)

theorem observing_assessTcp6 (inet : Inet) (response : OSProbeResponse)
    (submission : OSProbeSubmission) : Observing (assessTcp6 inet response submission) := by
  rw [assessTcp6]
  split
  · exact observing_malformed
  · split_ifs
    · exact observing_malformed
    · exact observing_unrelated
    · exact fun _ ↦ rfl

theorem observing_assessTcp4 (response : OSProbeResponse) (submission : OSProbeSubmission) :
    Observing (assessTcp4 response submission) := by
  rw [assessTcp4]
  split
  · exact observing_malformed
  · split_ifs
    · exact observing_malformed
    · split
      · exact observing_malformed
      · split_ifs
        · exact observing_unrelated
        · exact observing_unrelated
        · exact fun _ ↦ rfl

/-- **What a response is judged** comes with an observation if it is a match, unless the response
reports an error. -/
theorem observing_assess (inet : Inet) {response : OSProbeResponse} (h : response.kind ≠ .error)
    (submission : OSProbeSubmission) : Observing (assess inet response submission) := by
  rw [assess, if_neg h]
  split_ifs
  · exact observing_unrelated
  · exact observing_unrelated
  · split
    · exact observing_assessIcmp6 response submission
    · exact observing_assessUdp6 response submission
    · exact observing_assessTcp6 inet response submission
  · split
    · exact observing_assessIcmp4 response submission
    · exact observing_assessUdp4 response submission
    · exact observing_assessTcp4 response submission

/-- An error is a match without an observation. -/
theorem assess_of_error (inet : Inet) {response : OSProbeResponse} (h : response.kind = .error)
    (submission : OSProbeSubmission) :
    (assess inet response submission).disposition = .matching ∧
      (assess inet response submission).statuses = [] := by
  rw [assess, if_pos h]
  exact ⟨rfl, rfl⟩

end DefinedOSProbe

namespace OSScheduler

variable {τ : Type} {ctx : Context τ} {s s' : OSScheduler τ} {unrecorded : ℕ × ℕ}

/-- The scheduler's own counters. -/
def counts (s : OSScheduler τ) : Counts where
  generated := s.generatedCount
  sent := s.sentCount
  received := s.responseCount
  timedOut := s.timeoutCount
  unsupported := s.unsupportedCount
  malformed := s.malformedCount

/-- The counters of the fingerprint so far. -/
def observedCounts (s : OSScheduler τ) : Counts := (s.observed.getD {}).counts

/-- By how much the scheduler's counters are beyond those of the fingerprint. -/
def Ledger (unrecorded : ℕ × ℕ) (s : OSScheduler τ) : Prop :=
  s.counts = s.observedCounts.beyond unrecorded

/-- The same of a result. -/
def Audited (unrecorded : ℕ × ℕ) (r : OSDetectionResult) : Prop :=
  r.counts = r.observed.counts.beyond unrecorded

/-! ### Counting in both -/

theorem Ledger.congr (h : s.Ledger unrecorded) (hcounts : s'.counts = s.counts)
    (hobserved : s'.observed = s.observed) : s'.Ledger unrecorded := by
  rw [Ledger, hcounts, observedCounts, hobserved]
  exact h

/-- Nothing is counted yet. -/
theorem ledger_zero (hcounts : s.counts = {}) (hobserved : s.observedCounts = {}) :
    s.Ledger (0, 0) := by
  rw [Ledger, hcounts, hobserved, Counts.beyond_zero]

theorem observedCounts_appendTerminalStatus (status : OSProbeStatus) (s : OSScheduler τ) :
    (s.appendTerminalStatus status).observedCounts = s.observedCounts.bump status :=
  ObservedOSFingerprint.counts_countStatus status _

/-- A status that is counted in both. -/
theorem Ledger.bump (h : s.Ledger unrecorded) {status : OSProbeStatus}
    (hcounts : s'.counts = s.counts.bump status) (hobserved : s'.observed = s.observed) :
    (s'.appendTerminalStatus status).Ledger unrecorded := by
  have hboth : (s'.appendTerminalStatus status).counts = s.counts.bump status := hcounts
  have hsame : s'.observedCounts = s.observedCounts := by rw [observedCounts, hobserved]; rfl
  rw [Ledger, hboth, observedCounts_appendTerminalStatus, hsame, h, Counts.bump_beyond]

/-- Each status observed is counted once. -/
theorem observedCounts_appendObservation (a : OSProbeAssessment) (s : OSScheduler τ) :
    (s.appendObservation a).observedCounts =
      a.statuses.foldl (fun c status ↦ c.bump status) s.observedCounts := by
  rcases a with ⟨-, -, -, tcp, icmp, udp⟩
  rw [observedCounts, appendObservation, OSProbeAssessment.statuses, List.foldl_append,
    List.foldl_append, observedCounts]
  dsimp only [Option.getD_some]
  have htcp (f : ObservedOSFingerprint) : (tcp.elim f f.appendTcp).counts =
      (tcp.toList.map (·.probeStatus)).foldl (fun c status ↦ c.bump status) f.counts := by
    cases tcp with
    | none => rfl
    | some observation => exact f.counts_merged observation.family observation.probeStatus
  have hicmp (f : ObservedOSFingerprint) : (icmp.elim f f.appendIcmp).counts =
      (icmp.toList.map (·.probeStatus)).foldl (fun c status ↦ c.bump status) f.counts := by
    cases icmp with
    | none => rfl
    | some observation => exact f.counts_merged observation.family observation.probeStatus
  have hudp (f : ObservedOSFingerprint) : (udp.elim f f.appendUdp).counts =
      (udp.toList.map (·.probeStatus)).foldl (fun c status ↦ c.bump status) f.counts := by
    cases udp with
    | none => rfl
    | some observation => exact f.counts_merged observation.family observation.probeStatus
  rw [← htcp, ← hicmp, ← hudp]

/-! ### Starting probes -/

section

variable (h : s.Ledger unrecorded)

include h

theorem ledger_handOver (id : OSProbeId) (timer : TimerId) (submission : OSProbeSubmission) :
    (s.handOver ctx id timer submission).Ledger unrecorded := by
  rw [handOver]
  dsimp only
  split_ifs
  · exact h.congr rfl rfl
  · exact h.bump rfl rfl

theorem ledger_enterPending (id : OSProbeId) (work : WorkItem) (submission : OSProbeSubmission) :
    (s.enterPending ctx id work submission).Ledger unrecorded := by
  have hgenerated : ({ s with generatedCount := s.generatedCount + 1 }.appendTerminalStatus
      .generated).Ledger unrecorded := h.bump rfl rfl
  rw [enterPending]
  dsimp only
  split_ifs
  · exact hgenerated.bump rfl rfl
  · split
    · exact hgenerated.congr rfl rfl
    · refine ledger_handOver ?_ _ _ _
      exact hgenerated.congr rfl rfl

/-- Starting an item keeps the ledger. -/
theorem ledger_startOrRetry (work : WorkItem) : (s.startOrRetry ctx work).Ledger unrecorded := by
  rw [startOrRetry]
  dsimp only
  split_ifs
  · exact h.bump rfl rfl
  · split
    · exact h.bump rfl rfl
    · refine ledger_enterPending ?_ _ _ _
      exact h.congr rfl rfl

end

/-- Starting probes counts each once. -/
theorem ledger_pumpLoop (fuel limit : ℕ) (h : s.Ledger unrecorded) :
    (s.pumpLoop ctx fuel limit).Ledger unrecorded := by
  induction fuel generalizing s with
  | zero => exact h
  | succ fuel ih =>
    rw [pumpLoop]
    split
    · exact h
    · split_ifs
      · refine ih (ledger_startOrRetry ?_ _)
        exact h.congr rfl rfl
      · exact h

/-! ### The result -/

theorem counts_identify (r : OSDetectionResult) :
    (identify r).counts = r.counts ∧ (identify r).observed = r.observed := by
  rw [identify]
  split
  · exact ⟨rfl, rfl⟩
  · split_ifs <;> exact ⟨rfl, rfl⟩

/-- **The books of a scheduler**: until it has its result they are its ledger, and then they are
closed with what the result shows. -/
structure Books (unrecorded : ℕ × ℕ) (s : OSScheduler τ) : Prop where
  ledger : s.result = none → s.Ledger unrecorded
  audited : ∀ r, s.result = some r → Audited unrecorded r

theorem books_of_ledger (h : s.Ledger unrecorded) (hnone : s.result = none) :
    s.Books unrecorded :=
  ⟨fun _ ↦ h, fun r hr ↦ absurd (hnone.symm.trans hr) (Option.some_ne_none r).symm⟩

theorem Books.congr (h : s.Books unrecorded) (hcounts : s'.counts = s.counts)
    (hobserved : s'.observed = s.observed) (hresult : s'.result = s.result) :
    s'.Books unrecorded :=
  ⟨fun hnone ↦ (h.ledger (hresult ▸ hnone)).congr hcounts hobserved,
    fun r hr ↦ h.audited r (hresult ▸ hr)⟩

/-- Books that are closed stay as they are. -/
theorem Books.of_result (h : s.Books unrecorded) {r : OSDetectionResult} (hr : s.result = some r)
    (hr' : s'.result = some r) : s'.Books unrecorded := by
  refine ⟨fun hnone ↦ absurd (hr'.symm.trans hnone) (Option.some_ne_none r), fun r' hr'' ↦ ?_⟩
  obtain rfl : r = r' := Option.some.inj (hr'.symm.trans hr'')
  exact h.audited r hr

/-- The result has the counters of the scheduler and shows those of the fingerprint. -/
theorem counts_emitResult (ctx : Context τ) (hnone : s.result = none) (state : OSDetectionState)
    (error : OSDetectionError) :
    ∃ r : OSDetectionResult, r.counts = s.counts ∧ r.observed = s.observed.getD {} ∧
      s.emitResult ctx state error = { s.record .clockRead with result := some r } := by
  rw [emitResult, hnone, if_neg (by decide)]
  dsimp only [readClock]
  rw [show (s.record .clockRead).observed = s.observed from rfl]
  cases s.observed with
  | none => exact ⟨_, rfl, rfl, rfl⟩
  | some observed => exact ⟨_, (counts_identify _).1, (counts_identify _).2, rfl⟩

/-- A result is emitted with its counts. -/
theorem books_emitResult (h : s.Ledger unrecorded) (hnone : s.result = none)
    (state : OSDetectionState) (error : OSDetectionError) :
    (s.emitResult ctx state error).Books unrecorded := by
  obtain ⟨r, hcounts, hobserved, hemit⟩ := counts_emitResult ctx hnone state error
  rw [hemit]
  refine ⟨nofun, fun r' hr' ↦ ?_⟩
  obtain rfl : r = r' := Option.some.inj hr'
  rw [Audited, hcounts, hobserved]
  exact h

theorem books_finishTerminal (h : s.Books unrecorded) :
    (s.finishTerminal ctx).Books unrecorded := by
  rw [finishTerminal]
  split_ifs with hfinished
  · have hnone : s.result = none := Option.isNone_iff_eq_none.mp hfinished.2.2.2
    exact (books_emitResult (h.ledger hnone) hnone _ _).congr rfl rfl rfl
  · exact h

theorem books_pump (h : s.Books unrecorded) : (s.pump ctx).Books unrecorded := by
  rw [pump]
  refine books_finishTerminal ?_
  rcases hresult : s.result with - | r
  · refine books_of_ledger (ledger_pumpLoop _ _ (h.ledger hresult)) ?_
    rw [result_pumpLoop, hresult]
  · exact h.of_result hresult ((result_pumpLoop _ _ s).trans hresult)

/-! ### The events -/

variable (ctx) in
/-- What an event adds to one set of counters only: a response that reports an error, or one that is
judged malformed. -/
def unrecordedBy (s : OSScheduler τ) : Event → ℕ × ℕ
  | .receive response =>
    match s.pending.lookup response.id with
    | none => (0, 0)
    | some pending =>
      if response.id ∈ s.completedIds ∨ response.id ∈ s.expiredIds then (0, 0)
      else if response.kind = .error then (1, 0)
      else if (DefinedOSProbe.assess ctx.inet response pending.submission).disposition =
          .malformed then
        (0, 1)
      else (0, 0)
  | _ => (0, 0)

/-- The same, as long as there is no result yet. -/
def addedBy (ctx : Context τ) (s : OSScheduler τ) (event : Event) : ℕ × ℕ :=
  if s.result = none then unrecordedBy ctx s event else (0, 0)

/-- Counters that gain something the fingerprint does not. -/
theorem Ledger.gain (h : s.Ledger unrecorded) {a : ℕ × ℕ}
    (hcounts : s'.counts = s.counts.beyond a)
    (hobserved : s'.observedCounts = s.observedCounts) : s'.Ledger (unrecorded + a) := by
  rw [Ledger, hcounts, hobserved, h, Counts.beyond_add]

theorem books_finishProbe (h : s.Books unrecorded) (pending : Pending) (receivedAt : TimePoint) :
    (s.finishProbe ctx pending receivedAt).Books unrecorded := by
  rw [finishProbe]
  refine books_pump ?_
  exact h.congr rfl rfl rfl

theorem ledger_clocked (h : s.Ledger unrecorded) (response : OSProbeResponse) :
    (if response.receivedAt = 0 then s.readClock ctx
      else (response.receivedAt, s)).2.Ledger unrecorded := by
  split_ifs
  · exact h.congr rfl rfl
  · exact h

/-- A response is counted, and what it observed. -/
theorem books_receive (h : s.Ledger unrecorded) (hnone : s.result = none)
    (response : OSProbeResponse) :
    (s.receive ctx response).Books (unrecorded + unrecordedBy ctx s (.receive response)) := by
  have hkept : s.Books (unrecorded + (0, 0)) := books_of_ledger h hnone
  rw [receive, unrecordedBy]
  rcases s.pending.lookup response.id with - | pending
  · exact hkept
  dsimp only
  by_cases hended : response.id ∈ s.completedIds ∨ response.id ∈ s.expiredIds
  · rw [if_pos hended, if_pos hended]
    exact hkept
  rw [if_neg hended, if_neg hended]
  have hfinish {s' : OSScheduler τ} {total : ℕ × ℕ} (hledger : s'.Ledger total)
      (hresult : s'.result = none) :
      ((if response.receivedAt = 0 then s'.readClock ctx
        else (response.receivedAt, s')).2.finishProbe ctx pending
          (if response.receivedAt = 0 then s'.readClock ctx
            else (response.receivedAt, s')).1).Books total := by
    refine books_finishProbe (books_of_ledger (ledger_clocked hledger response) ?_) _ _
    split_ifs
    · exact hresult
    · exact hresult
  by_cases herror : response.kind = .error
  · -- a match with nothing to observe
    obtain ⟨hmatching, hstatuses⟩ :=
      DefinedOSProbe.assess_of_error ctx.inet herror pending.submission
    generalize DefinedOSProbe.assess ctx.inet response pending.submission =
      a at hmatching hstatuses ⊢
    have hrelated : a.disposition ≠ .unrelated := by rw [hmatching]; decide
    have hwell : a.disposition ≠ .malformed := by rw [hmatching]; decide
    rw [if_pos herror, if_neg hrelated, if_neg hwell]
    refine hfinish (h.gain (a := (1, 0)) rfl ?_) hnone
    rw [observedCounts_appendObservation, hstatuses]
    rfl
  rw [if_neg herror]
  have hobserving := DefinedOSProbe.observing_assess ctx.inet herror pending.submission
  generalize DefinedOSProbe.assess ctx.inet response pending.submission = a at hobserving ⊢
  rcases hdisposition : a.disposition
  · -- one observation, of a response
    have hrelated : OSProbeDisposition.matching ≠ .unrelated := by decide
    have hwell : OSProbeDisposition.matching ≠ .malformed := by decide
    rw [if_neg hrelated, if_neg hwell, if_neg hwell]
    refine hfinish ?_ hnone
    have hobserved : ({ s with responseCount := s.responseCount + 1 }.appendObservation
        a).observedCounts = s.observedCounts.bump .responseReceived := by
      rw [observedCounts_appendObservation, hobserving hdisposition]
      rfl
    have hcounts : ({ s with responseCount := s.responseCount + 1 }.appendObservation a).counts =
        s.counts.bump .responseReceived := rfl
    rw [Ledger, hobserved, hcounts, h, Counts.bump_beyond]
    rfl
  · have hwell : OSProbeDisposition.unrelated ≠ .malformed := by decide
    rw [if_pos rfl, if_neg hwell]
    exact hkept
  · -- counted by the scheduler only
    have hrelated : OSProbeDisposition.malformed ≠ .unrelated := by decide
    rw [if_neg hrelated, if_pos rfl, if_pos rfl]
    exact hfinish (h.gain (a := (0, 1)) rfl rfl) hnone

/-- So is a timeout. -/
theorem books_onTimeout (h : s.Books unrecorded) (id : OSProbeId) :
    (s.onTimeout ctx id).Books unrecorded := by
  rw [onTimeout]
  split
  · exact h
  · rename_i pending _
    have hexpired : ({ s.transportCancel ctx id with
        pending := s.pending.erase id
        expiredIds := id :: s.expiredIds
        timeoutCount := s.timeoutCount + 1 }.appendTerminalStatus .timeout).Books unrecorded :=
      ⟨fun hnone ↦ (h.ledger hnone).bump rfl rfl, h.audited⟩
    dsimp only
    split
    · refine books_pump ?_
      exact hexpired.congr rfl rfl rfl
    · refine books_pump ?_
      exact hexpired.congr rfl rfl rfl

/-- Cancelling keeps the books. -/
theorem books_cancelAll (ctx : Context τ) (h : s.Books unrecorded) :
    (s.cancelAll ctx).Books unrecorded := by
  rw [cancelAll]
  generalize s.pending.entries = entries
  have hcancelled : (entries.foldl
      (fun s entry ↦ (s.cancelTimer entry.2.timerId).transportCancel ctx entry.1) s).Books
        unrecorded := by
    induction entries generalizing s with
    | nil => exact h
    | cons entry entries ih => exact ih (h.congr rfl rfl rfl)
  exact hcancelled.congr rfl rfl rfl

theorem books_stop (h : s.Books unrecorded) : (s.stop ctx).Books unrecorded := by
  have hcancelled : { s.cancelAll ctx with queue := [] }.Books unrecorded :=
    (books_cancelAll ctx h).congr rfl rfl rfl
  rw [stop]
  dsimp only
  split_ifs with hopen
  · have hnone := Option.isNone_iff_eq_none.mp hopen.2
    exact (books_emitResult (hcancelled.ledger hnone) hnone _ _).congr rfl rfl rfl
  · exact hcancelled.congr rfl rfl rfl

/-- **One event**: what it leaves unrecorded goes into the books. -/
theorem Books.step (ctx : Context τ) (h : s.Books unrecorded) (event : Event) :
    (s.step ctx event).Books (unrecorded + addedBy ctx s event) := by
  rcases hresult : s.result with - | r
  · rw [addedBy, if_pos hresult]
    cases event with
    | receive response => exact books_receive (h.ledger hresult) hresult response
    | onTimeout id => exact books_onTimeout h id
    | engineReturned status =>
      rw [OSScheduler.step, engineReturned]
      refine books_finishTerminal ?_
      split_ifs
      · exact h.congr rfl rfl rfl
      · exact h
    | stop => exact books_stop h
  · rw [addedBy, if_neg (by rw [hresult]; exact Option.some_ne_none r)]
    exact h.of_result hresult (result_step hresult event)

/-- What a run leaves unrecorded. -/
def unrecordedIn (ctx : Context τ) (s : OSScheduler τ) : List Event → ℕ × ℕ
  | [] => (0, 0)
  | event :: events => addedBy ctx s event + unrecordedIn ctx (s.step ctx event) events

/-- **The counters over a run.** -/
theorem Books.run (ctx : Context τ) (h : s.Books unrecorded) (events : List Event) :
    (Runs.run (OSScheduler.step ctx) s events).Books
      (unrecorded + unrecordedIn ctx s events) := by
  induction events generalizing s unrecorded with
  | nil => exact h
  | cons event events ih =>
    have hrest := ih (h.step ctx event)
    rw [add_assoc] at hrest
    exact hrest

theorem books_refuse (h : s.Ledger unrecorded) (hnone : s.result = none) (status : StatusCode)
    (state : OSDetectionState) (error : OSDetectionError) :
    (s.refuse ctx status state error).Books unrecorded := by
  have hrefused : { s with status }.Ledger unrecorded := h.congr rfl rfl
  exact books_emitResult hrefused hnone state error

/-- A scheduler that has just been given its target has balanced books. -/
theorem books_start (ctx : Context τ) (target : Target) (portResults : List PortResult)
    (transport : τ) : (start ctx target portResults transport).Books (0, 0) := by
  have hnew : ¬ (create ctx transport).submitted = true := Bool.false_ne_true
  rw [start, submit, if_neg hnew]
  dsimp only
  generalize (if target.originalSpecification = [] then
    target.resolvedHosts.head?.elim [] (·.address) else target.originalSpecification) = text
  split_ifs
  all_goals dsimp only
  · exact books_refuse (ledger_zero rfl rfl) rfl _ _ _
  · exact books_refuse (ledger_zero rfl rfl) rfl _ _ _
  · exact books_refuse (ledger_zero rfl rfl) rfl _ _ _
  · exact books_refuse (ledger_zero rfl rfl) rfl _ _ _
  · exact books_finishTerminal (books_pump (books_of_ledger (ledger_zero rfl rfl) rfl))

/-! ### When they agree -/

/-- As long as there is no result, no response reports an error or is judged malformed. -/
def Recorded (ctx : Context τ) (s : OSScheduler τ) (event : Event) : Prop :=
  s.result = none → unrecordedBy ctx s event = (0, 0)

theorem addedBy_eq_zero_iff {event : Event} :
    addedBy ctx s event = (0, 0) ↔ Recorded ctx s event := by
  rw [addedBy, Recorded]
  split_ifs with hnone
  · exact ⟨fun h _ ↦ h, fun h ↦ h hnone⟩
  · exact iff_of_true rfl fun h ↦ absurd h hnone

theorem unrecordedIn_eq_zero_iff {events : List Event} :
    unrecordedIn ctx s events = (0, 0) ↔ Runs.Within (OSScheduler.step ctx) (Recorded ctx) s
      events := by
  induction events generalizing s with
  | nil => exact iff_of_true rfl trivial
  | cons event events ih =>
    rw [Runs.within_cons, ← ih, ← addedBy_eq_zero_iff, unrecordedIn]
    simp only [Prod.ext_iff, Prod.fst_add, Prod.snd_add, Nat.add_eq_zero_iff]
    exact and_and_and_comm

/-- **The counters of a result agree with those it shows as observed** if and only if every response
taken in before the result was one that both count. -/
theorem counters_agree_iff (ctx : Context τ) (target : Target) (portResults : List PortResult)
    (transport : τ) (events : List Event) {r : OSDetectionResult}
    (h : (Runs.run (OSScheduler.step ctx) (start ctx target portResults transport) events).result =
      some r) :
    r.counts = r.observed.counts ↔
      Runs.Within (OSScheduler.step ctx) (Recorded ctx) (start ctx target portResults transport)
        events := by
  have hbooks := (books_start ctx target portResults transport).run ctx events
  have haudited := hbooks.audited r h
  rw [show ((0, 0) : ℕ × ℕ) = 0 from rfl, zero_add] at haudited
  rw [haudited, Counts.beyond_eq_self_iff, unrecordedIn_eq_zero_iff]

/-- A world that takes the first kind of probe only. -/
def synOnly : Environment Unit where
  now trace := trace.length
  schedule trace _ := UInt64.ofNat (trace.length + 1)
  supports _ type := type = .tcpSynStandard
  localSourceAddress _ := literal "192.0.2.254"
  submit _ _ transport := (.ok, transport)
  cancel _ transport := transport

/-- The one probe that is sent times out, and both count it. -/
theorem counters_agree_timeout : ∃ r : OSDetectionResult,
    (Runs.run (OSScheduler.step (plainContext synOnly)) (start (plainContext synOnly) oneHost [] ())
      [.onTimeout 1]).result = some r ∧ r.probesTimedOut = 1 ∧ r.counts = r.observed.counts := by
  have htimedOut : (Runs.run (OSScheduler.step (plainContext synOnly))
      (start (plainContext synOnly) oneHost [] ()) [.onTimeout 1]).result.map
        (·.probesTimedOut) = some 1 := by decide +kernel
  obtain ⟨r, hr, hone⟩ := Option.map_eq_some_iff.mp htimedOut
  refine ⟨r, hr, hone, (counters_agree_iff (plainContext synOnly) oneHost [] () _ hr).mpr ?_⟩
  exact ⟨fun _ ↦ rfl, trivial⟩

/-- The one probe that is sent is answered with an error, or with bytes that are no packet: only the
scheduler counts the response, or the malformed probe. -/
theorem not_counters_agree :
    (∃ r : OSDetectionResult,
      (Runs.run (OSScheduler.step (plainContext synOnly))
        (start (plainContext synOnly) oneHost [] ())
        [.receive { id := 1, kind := .error }]).result = some r ∧
        r.responsesReceived ≠ r.observed.responsesReceived) ∧
    ∃ r : OSDetectionResult,
      (Runs.run (OSScheduler.step (plainContext synOnly))
        (start (plainContext synOnly) oneHost [] ())
        [.receive { id := 1, bytes := [] }]).result = some r ∧
        r.probesMalformed ≠ r.observed.probesMalformed := by
  have herror : (Runs.run (OSScheduler.step (plainContext synOnly))
      (start (plainContext synOnly) oneHost [] ())
        [.receive { id := 1, kind := .error }]).result.map
        (fun r ↦ (r.responsesReceived, r.observed.responsesReceived)) = some (1, 0) := by
    decide +kernel
  have hmalformed : (Runs.run (OSScheduler.step (plainContext synOnly))
      (start (plainContext synOnly) oneHost [] ()) [.receive { id := 1, bytes := [] }]).result.map
        (fun r ↦ (r.probesMalformed, r.observed.probesMalformed)) = some (1, 0) := by
    decide +kernel
  obtain ⟨r, hr, hcounts⟩ := Option.map_eq_some_iff.mp herror
  obtain ⟨r', hr', hcounts'⟩ := Option.map_eq_some_iff.mp hmalformed
  rw [Prod.mk.injEq] at hcounts hcounts'
  refine ⟨⟨r, hr, ?_⟩, r', hr', ?_⟩
  · rw [hcounts.1, hcounts.2]
    decide
  · rw [hcounts'.1, hcounts'.2]
    decide

end OSScheduler

end Skan.OsDetect
