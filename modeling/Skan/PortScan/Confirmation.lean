import Skan.PortScan.Evidence

/-!
# Confirmation of negative results by the TCP connect scan

The counters by which `finish_attempt` confirms a verdict travel with the work item through the
queue, the attempts in flight and the deferred retries. Everything the scheduler does is read off
its `Ledger`, what the evidence sees of it; `Backed` is the evidence of a ledger, with the items
that a function has taken out of the containers.

The pump is re-entrant, so the functions below it are proved to keep the evidence if the pump they
call does, and the pump by induction on its fuel.
-/

namespace Skan.PortScan

open Skan.Core Skan.ScanEngine

namespace PortScanScheduler

variable {id : PortProbeId} {pending : Pending} {state : PortState} {reason : ScanReason}

/-! ### What the scheduler does to the evidence -/

/-- What `Evidence` sees of a scheduler. -/
structure Ledger where
  queue : List WorkItem
  pending : KeyedStore PortProbeId Pending
  deferredRetries : KeyedStore RetryId DeferredRetry
  results : List PortResult
  maxRetries : ℕ
  observations : List Observation

def ledger (ctx : SchedulerContext) (s : PortScanScheduler) : Ledger where
  queue := s.queue
  pending := s.pending
  deferredRetries := s.deferredRetries
  results := s.results
  maxRetries := s.maxRetries ctx
  observations := s.trace.filterMap Effect.observation

/-- The items on their way. -/
def Ledger.works (l : Ledger) : List WorkItem :=
  l.queue ++ l.pending.values.map Pending.work ++ l.deferredRetries.values.map DeferredRetry.work

/-- The evidence of a ledger, with the items that a function has in hand. -/
structure Backed (hand : List WorkItem) (l : Ledger) : Prop where
  evidence : Evidence (hand ++ l.works) l.results l.observations
  undecided : ∀ id pending, l.pending.lookup id = some pending → pending.candidateState = none
  retries : 0 < l.maxRetries

section Containers

variable {l : Ledger} {work : WorkItem}

/-- An item is taken off the queue. -/
theorem Backed.dequeue {queue : List WorkItem} (h : Backed [] l)
    (hqueue : l.queue = work :: queue) :
    Backed [work] { l with queue } := by
  refine ⟨?_, h.undecided, h.retries⟩
  have hevidence := h.evidence
  rw [Ledger.works, hqueue] at hevidence
  exact hevidence

/-- An item goes in flight. -/
theorem Backed.fly (h : Backed [work] l) (hfresh : id ∉ l.pending) (hwork : pending.work = work)
    (hundecided : pending.candidateState = none) :
    Backed [] { l with pending := l.pending.insert id pending } := by
  refine ⟨h.evidence.perm ?_, fun other p hp ↦ ?_, h.retries⟩
  · show (work :: (l.queue ++ l.pending.values.map Pending.work ++ _)).Perm
      (l.queue ++ (l.pending.insert id pending).values.map Pending.work ++ _)
    rw [AList.values_insert pending hfresh, List.map_cons, hwork]
    exact (List.perm_middle.append_right _).symm
  · have hp : (l.pending.insert id pending).lookup other = some p := hp
    rw [AList.lookup_insert_eq_ite] at hp
    split_ifs at hp with hother
    · rw [← Option.some.inj hp]
      exact hundecided
    · exact h.undecided other p hp

/-- An attempt ends: its item is in hand. -/
theorem Backed.land (h : Backed [] l) (hpending : l.pending.lookup id = some pending) :
    Backed [pending.work] { l with pending := l.pending.erase id } := by
  refine ⟨h.evidence.perm ?_, fun other p hp ↦ ?_, h.retries⟩
  · have hvalues := (AList.values_of_lookup hpending).map Pending.work
    rw [List.map_cons] at hvalues
    refine ((hvalues.append_left l.queue).append_right _).trans ?_
    exact List.perm_middle.append_right _
  · have hp : (l.pending.erase id).lookup other = some p := hp
    rw [AList.lookup_erase_eq_ite] at hp
    split_ifs at hp
    exact h.undecided other p hp

/-- An item waits for its retry. -/
theorem Backed.wait {id : RetryId} {retry : DeferredRetry} (h : Backed [work] l)
    (hfresh : id ∉ l.deferredRetries) (hwork : retry.work = work) :
    Backed [] { l with deferredRetries := l.deferredRetries.insert id retry } := by
  refine ⟨h.evidence.perm ?_, h.undecided, h.retries⟩
  show (work :: (l.queue ++ l.pending.values.map Pending.work ++
      l.deferredRetries.values.map DeferredRetry.work)).Perm
    (l.queue ++ l.pending.values.map Pending.work ++
      (l.deferredRetries.insert id retry).values.map DeferredRetry.work)
  rw [AList.values_insert retry hfresh, List.map_cons, hwork]
  exact List.perm_middle.symm

/-- An item's retry is due. -/
theorem Backed.requeue {id : RetryId} {retry : DeferredRetry} (h : Backed [] l)
    (hretry : l.deferredRetries.lookup id = some retry) :
    Backed []
      { l with deferredRetries := l.deferredRetries.erase id, queue := retry.work :: l.queue } := by
  refine ⟨h.evidence.perm ?_, h.undecided, h.retries⟩
  have hvalues := (AList.values_of_lookup hretry).map DeferredRetry.work
  rw [List.map_cons] at hvalues
  refine (hvalues.append_left _).trans ?_
  exact List.perm_middle

/-- An item in hand is published, after new observations of its pair. -/
theorem Backed.settle {result : PortResult} (new : List Observation) (h : Backed [work] l)
    (hkey : result.key = work.key) (hnew : ∀ o ∈ new, o.1 = work.key)
    (hresult : Confirmed result (new ++ l.observations)) :
    Backed []
      { l with results := l.results ++ [result], observations := new ++ l.observations } :=
  ⟨h.evidence.settle hkey hnew hresult, h.undecided, h.retries⟩

/-- An item in hand is kept, after new observations of its pair. -/
theorem Backed.keep {kept : WorkItem} (new : List Observation) (h : Backed [work] l)
    (hkey : kept.key = work.key) (hnew : ∀ o ∈ new, o.1 = work.key)
    (hkept : Counted kept (new ++ l.observations)) :
    Backed [kept] { l with observations := new ++ l.observations } :=
  ⟨h.evidence.keep hkey hnew hkept, h.undecided, h.retries⟩

theorem Backed.counted (h : Backed [work] l) : Counted work l.observations :=
  h.evidence.counted work List.mem_cons_self

/-- An item in hand is published with a state that needs no confirmation. -/
theorem Backed.publish {result : PortResult} (h : Backed [work] l) (hkey : result.key = work.key)
    (hstate : ∀ kind : Negative, result.state ≠ kind.state) :
    Backed [] { l with results := l.results ++ [result] } :=
  h.settle [] hkey nofun (h.counted.confirmed hkey hstate)

end Containers

/-! ### Ending an attempt -/

variable {ctx : SchedulerContext} {s : PortScanScheduler}

/-- What `append_terminal_result` publishes. -/
theorem ledger_appendTerminalResult (ctx : SchedulerContext) (work : WorkItem)
    (probe : ScanProbeType) (state : PortState)
    (reason : ScanReason) (rttMs : Option ℚ) (s : PortScanScheduler) :
    ∃ result : PortResult, result.key = work.key ∧ result.state = state ∧
      result.reason = reason ∧
      ledger ctx (s.appendTerminalResult ctx work probe state reason rttMs) =
        { ledger ctx s with results := s.results ++ [result] } :=
  ⟨_, rfl, rfl, rfl, rfl⟩

/-- `defer_retry` keeps the item for later, or fails. -/
theorem ledger_deferRetry (ctx : SchedulerContext) (work : WorkItem) (s : PortScanScheduler) :
    (∃ s' retryId retry, s.deferRetry ctx work = (true, s') ∧ retryId ∉ s.deferredRetries ∧
      retry.work = { work with retryCount := work.retryCount + 1 } ∧
      ledger ctx s' =
        { ledger ctx s with deferredRetries := s.deferredRetries.insert retryId retry }) ∨
    ∃ s', s.deferRetry ctx work = (false, s') ∧ ledger ctx s' = ledger ctx s := by
  rw [deferRetry]
  dsimp only
  split
  · exact .inr ⟨_, rfl, rfl⟩
  split
  · exact .inr ⟨_, rfl, rfl⟩
  split
  · exact .inr ⟨_, rfl, rfl⟩
  · rename_i deferred hemplace
    obtain ⟨hfresh, rfl⟩ := AList.emplace_eq_some_iff.mp hemplace
    exact .inl ⟨_, _, _, rfl, hfresh, rfl, rfl⟩

/-- The verdicts of the TCP connect probe. -/
theorem tcpConnect_verdict {response : PortResponse} {submission : PortSubmission}
    (h : TcpConnectProbe.assess response submission = .ok (state, reason)) :
    (∃ kind : Negative, state = kind.state ∧ reason = kind.reason) ∨
      (∀ kind : Negative, state ≠ kind.state) ∧ reason ≠ .timeout ∧ reason ≠ .ackTimeout := by
  have hother : ∀ {state' : PortState} {reason' : ScanReason},
      (Except.ok (state', reason') : Except StatusCode _) = .ok (state, reason) →
      (state' = .open ∨ state' = .unreachable ∨ state' = .error) ∧ reason' ≠ .timeout ∧
        reason' ≠ .ackTimeout →
      (∀ kind : Negative, state ≠ kind.state) ∧ reason ≠ .timeout ∧ reason ≠ .ackTimeout := by
    rintro state' reason' heq ⟨hstate, hreason⟩
    obtain ⟨rfl, rfl⟩ := Prod.mk.inj (Except.ok.inj heq)
    refine ⟨fun kind ↦ ?_, hreason⟩
    rcases hstate with rfl | rfl | rfl <;> cases kind <;> exact nofun
  rw [TcpConnectProbe.assess] at h
  by_cases hunrelated : response.id ≠ submission.id ∨
      (response.sourceAddress ≠ [] ∧ response.sourceAddress ≠ submission.target)
  · rw [if_pos hunrelated] at h
    exact absurd h nofun
  rw [if_neg hunrelated] at h
  cases hresponse : response.kind with
  | connected =>
    rw [hresponse] at h
    exact .inr (hother h ⟨.inl rfl, nofun, nofun⟩)
  | connectionRefused =>
    rw [hresponse] at h
    obtain ⟨rfl, rfl⟩ := Prod.mk.inj (Except.ok.inj h)
    exact .inl ⟨.refusal, rfl, rfl⟩
  | socketError =>
    rw [hresponse] at h
    dsimp only at h
    split_ifs at h
    · obtain ⟨rfl, rfl⟩ := Prod.mk.inj (Except.ok.inj h)
      exact .inl ⟨.timeout, rfl, rfl⟩
    · exact .inr (hother h ⟨.inr (.inl rfl), nofun, nofun⟩)
    · exact .inr (hother h ⟨.inr (.inr rfl), nofun, nofun⟩)
    · exact .inr (hother h ⟨.inr (.inr rfl), nofun, nofun⟩)
  | packet =>
    rw [hresponse] at h
    exact absurd h nofun
  | unreachable =>
    rw [hresponse] at h
    exact absurd h nofun

theorem maxRetries_map (f : TimingController → TimingController)
    (hf : ∀ timing, (f timing).profile = timing.profile) (s : PortScanScheduler) :
    maxRetries ctx { s with timing := s.timing.map f } = maxRetries ctx s := by
  rw [maxRetries, maxRetries]
  cases s.timing with
  | none => rfl
  | some timing => exact congrArg TimingProfile.maxRetries (hf timing)

/-- An attempt that ends is taken out of those in flight, and its item is in hand. -/
theorem backed_land (s' : PortScanScheduler) (f : TimingController → TimingController)
    (hf : ∀ timing, (f timing).profile = timing.profile) (h : Backed [] (ledger ctx s))
    (hpending : s.pending.lookup id = some pending) (hs : ledger ctx s' = ledger ctx s) :
    Backed [pending.work]
      (ledger ctx { s' with pending := s.pending.erase id, timing := s'.timing.map f }) := by
  have hledger : ledger ctx { s' with pending := s.pending.erase id, timing := s'.timing.map f } =
      { ledger ctx s with pending := s.pending.erase id } := by
    rw [← hs]
    show ({ ledger ctx s' with
      pending := s.pending.erase id
      maxRetries := maxRetries ctx { s' with timing := s'.timing.map f } } : Ledger) = _
    rw [maxRetries_map f hf]
    rfl
  rw [hledger]
  exact h.land hpending

theorem ledger_stopIfIdle (s : PortScanScheduler) :
    ledger ctx (stopIfIdle s) = ledger ctx s := by
  rw [stopIfIdle]
  split <;> rfl

section Attempt

variable {pump : PortScanScheduler → PortScanScheduler}
  (hpump : ∀ s, Backed [] (ledger ctx s) → Backed [] (ledger ctx (pump s))) {work : WorkItem}
  {inet : Inet}

include hpump

theorem backed_publish (work : WorkItem) {published : WorkItem} (reason : ScanReason)
    (rttMs : Option ℚ) (h : Backed [work] (ledger ctx s)) (hkey : published.key = work.key)
    (hstate : ∀ kind : Negative, state ≠ kind.state) :
    Backed []
      (ledger ctx
        (pump (s.appendTerminalResult ctx published ctx.config.method state reason rttMs))) := by
  obtain ⟨result, hresult, hresultState, -, hledger⟩ :=
    ledger_appendTerminalResult ctx published ctx.config.method state reason rttMs s
  refine hpump _ ?_
  rw [hledger]
  exact h.publish (hresult.trans hkey) (hresultState ▸ hstate)

/-- `kept` is the item as `defer_retry` keeps it. -/
theorem backed_retryOrFail (rttMs : Option ℚ)
    (h : Backed [{ work with retryCount := work.retryCount + 1 }] (ledger ctx s)) :
    Backed [] (ledger ctx (retryOrFail ctx pump work rttMs s)) := by
  rw [retryOrFail]
  rcases ledger_deferRetry ctx work s with
    ⟨s', id, retry, hdeferred, hfresh, hretry, hledger⟩ | ⟨s', hfailed, hledger⟩
  · rw [hdeferred]
    refine hpump s' ?_
    rw [hledger]
    exact h.wait hfresh hretry
  · rw [hfailed]
    refine backed_publish hpump { work with retryCount := work.retryCount + 1 } _ _ ?_ rfl
      (fun kind ↦ by cases kind <;> exact nofun)
    rw [hledger]
    exact h

/-- A verdict that is confirmed: published after the second observation, a conflict after both
verdicts, or retried. -/
theorem backed_finishAttempt_negative (hmethod : ctx.config.method = .tcpConnect)
    (kind : Negative) (rttMs : Option ℚ) (h : Backed [work] (ledger ctx s)) :
    Backed [] (ledger ctx (finishAttempt ctx pump work kind.state kind.reason rttMs s)) := by
  have hconfirm : shouldConfirmNegative ctx.config.method kind.state kind.reason = true := by
    rw [hmethod]
    cases kind <;> rfl
  have hcount : countObservation work kind.state = (kind.count work, kind.counter work + 1) := by
    cases kind <;> rfl
  rw [finishAttempt]
  dsimp only
  rw [if_pos hconfirm, hcount]
  dsimp only
  have hnew : ∀ o ∈ [((work.key, kind.state, kind.reason) : Observation)], o.1 = work.key :=
    fun o ho ↦ by rw [List.mem_singleton.mp ho]
  have hretries : work.retryCount = kind.counter work + kind.other.counter work :=
    h.counted.retries.trans (kind.counters_add work)
  split_ifs with hconflict hretry
  · obtain ⟨result, hkey, hstate, hreason, hledger⟩ := ledger_appendTerminalResult ctx
      (kind.count work) ctx.config.method .unknown .conflictingEvidence rttMs
      (s.record (.observed work kind.state kind.reason))
    refine hpump _ ?_
    rw [hledger]
    refine h.settle [_] (hkey.trans (kind.key_count work)) hnew
      ⟨fun kind' hkind' ↦ ?_, fun _ ↦ ⟨hstate, hreason⟩⟩
    rw [hstate] at hkind'
    cases kind' <;> cases hkind'
  all_goals
    have hother : kind.other.counter work = 0 := by
      cases kind <;> simp [Negative.count, Negative.other, Negative.counter] at hconflict ⊢ <;>
        exact hconflict
  · exact backed_retryOrFail hpump rttMs
      (h.keep [_] (kind.key_count work) hnew (h.counted.observe kind hother))
  · obtain ⟨result, hkey, hstate, -, hledger⟩ := ledger_appendTerminalResult ctx
      (kind.count work) ctx.config.method kind.state kind.reason rttMs
      (s.record (.observed work kind.state kind.reason))
    refine hpump _ ?_
    rw [hledger]
    have hkey : result.key = work.key := hkey.trans (kind.key_count work)
    refine h.settle [_] hkey hnew (h.counted.confirmed_negative kind hkey hstate ?_ hother)
    -- a first observation would have been retried
    have hbudget : 0 < maxRetries ctx s := h.retries
    have hrefused : ¬ (kind.counter work + 1 < 2 ∧ work.retryCount < maxRetries ctx s) := by
      rw [← kind.retryCount_count work]
      exact hretry
    omega

/-- Another verdict is published as it is. -/
theorem backed_finishAttempt_other (rttMs : Option ℚ)
    (hstate : ∀ kind : Negative, state ≠ kind.state)
    (hreason : reason ≠ .timeout ∧ reason ≠ .ackTimeout) (h : Backed [work] (ledger ctx s)) :
    Backed [] (ledger ctx (finishAttempt ctx pump work state reason rttMs s)) := by
  have hconfirm : shouldConfirmNegative ctx.config.method state reason = false := by
    have hclosed : state ≠ .closed := hstate .refusal
    have hfiltered : state ≠ .filtered := hstate .timeout
    simp [shouldConfirmNegative, hclosed, hfiltered]
  have hcounted : Counted work ((work.key, state, reason) :: (ledger ctx s).observations) := by
    refine ⟨fun kind ↦ ?_, h.counted.exclusive, h.counted.retries⟩
    rw [Negative.observed_cons_of_ne (hstate kind)]
    exact h.counted.counter kind
  have hobserved := h.keep [_] rfl (fun o ho ↦ by rw [List.mem_singleton.mp ho]) hcounted
  rw [finishAttempt, hconfirm]
  dsimp only
  rw [if_neg Bool.false_ne_true, if_neg fun hretry ↦ hretry.1.elim hreason.1 hreason.2]
  exact backed_publish hpump work reason rttMs hobserved rfl hstate

section

variable (hmethod : ctx.config.method = .tcpConnect)

include hmethod

theorem backed_completePending {response : PortResponse} {submission : PortSubmission}
    (hverdict : TcpConnectProbe.assess response submission = .ok (state, reason))
    (id : PortProbeId) (completedAt : TimePoint) (h : Backed [] (ledger ctx s)) :
    Backed [] (ledger ctx (completePending ctx pump id state reason completedAt s)) := by
  rw [completePending]
  cases hpending : s.pending.lookup id with
  | none => exact h
  | some pending =>
    have hland := backed_land ((s.cancelTimer pending.timerId).cancelSubmission id)
      (TimingController.onResponse · (rttMs pending.startedAt completedAt).floor) (fun _ ↦ rfl) h
      hpending rfl
    rcases tcpConnect_verdict hverdict with ⟨kind, rfl, rfl⟩ | ⟨hstate, hreason⟩
    · exact backed_finishAttempt_negative hpump hmethod kind _ hland
    · exact backed_finishAttempt_other hpump _ hstate hreason hland

section

variable (hprobe : ctx.probe = some (tcpConnectProbe inet))

include hprobe

theorem backed_receiveWith (response : PortResponse) (h : Backed [] (ledger ctx s)) :
    Backed [] (ledger ctx (receiveWith ctx pump response s)) := by
  rw [receiveWith, hprobe]
  cases hpending : s.pending.lookup response.id with
  | none => exact h
  | some pending =>
    dsimp only
    cases hverdict : (tcpConnectProbe inet).assess response pending.submission with
    | error _ => exact h
    | ok verdict =>
      obtain ⟨state, reason⟩ := verdict
      dsimp only
      -- reading the clock leaves the ledger
      have hclock : ∀ completedAt s', (if response.receivedAt = 0 then s.readClock ctx
          else (response.receivedAt, s)) = (completedAt, s') → ledger ctx s' = ledger ctx s := by
        intro completedAt s' hs'
        split_ifs at hs' <;> cases hs' <;> rfl
      rcases hread : (if response.receivedAt = 0 then s.readClock ctx
        else (response.receivedAt, s)) with ⟨completedAt, s'⟩
      have hledger := hclock completedAt s' hread
      dsimp only
      split_ifs with hearly hfinal
      · rw [hledger]
        exact h
      · exact backed_completePending hpump hmethod hverdict _ _ (hledger ▸ h)
      · exact absurd (.inr hmethod) hfinal

theorem backed_onTimeoutWith (id : PortProbeId) (h : Backed [] (ledger ctx s)) :
    Backed [] (ledger ctx (onTimeoutWith ctx pump id s)) := by
  rw [onTimeoutWith, hprobe]
  cases hpending : s.pending.lookup id with
  | none => exact h
  | some pending =>
    have hundecided : pending.candidateState = none := h.undecided id pending hpending
    dsimp only
    rw [hundecided]
    exact backed_finishAttempt_negative hpump hmethod .timeout none
      (backed_land (s.cancelSubmission id) TimingController.onTimeout (fun _ ↦ rfl) h hpending
        rfl)

/-- The responses a transport delivers before `submit` returns. -/
theorem backed_receiveAll (responses : List PortResponse) (h : Backed [] (ledger ctx s)) :
    Backed []
      (ledger ctx (responses.foldl (fun s response ↦ receiveWith ctx pump response s) s)) := by
  induction responses generalizing s with
  | nil => exact h
  | cons response responses ih => exact ih (backed_receiveWith hpump hmethod hprobe response h)

/-- An item that is in flight under a fresh identifier is handed to the transport. -/
theorem backed_launch {timer : TimerId} (submission : PortSubmission) {l : Ledger}
    (h : Backed [work] l) (hfresh : id ∉ l.pending)
    (hs : ledger ctx s = { l with pending := l.pending.insert id pending })
    (hwork : pending.work = work) (hundecided : pending.candidateState = none) :
    Backed [] (ledger ctx (launch ctx pump id timer work submission s)) := by
  have hfly : Backed [] (ledger ctx s) := hs ▸ h.fly hfresh hwork hundecided
  rw [launch]
  dsimp only
  split_ifs with haccepted
  · exact backed_receiveAll hpump hmethod hprobe _ hfly
  · -- a transport that refuses has called nobody back
    have hsilent : (ctx.environment.submit s.trace submission).responses = [] :=
      (ctx.environment.submit s.trace submission).responses_of_refused haccepted
    simp only [transportSubmit, hsilent, List.foldl_nil]
    show Backed []
      { ledger ctx s with
        pending := (ledger ctx s).pending.erase id, results := (ledger ctx s).results ++ [_] }
    rw [hs]
    dsimp only
    rw [AList.erase_insert _ hfresh]
    exact h.publish rfl fun kind ↦ by cases kind <;> exact nofun

theorem backed_startAttempt (probe : PortProbe) (h : Backed [work] (ledger ctx s)) :
    Backed [] (ledger ctx (startAttempt ctx pump probe work s)) := by
  have hfail : ∀ reason s', ledger ctx s' = ledger ctx s → Backed []
      (ledger ctx (s'.appendTerminalResult ctx work ctx.config.method .error reason none)) := by
    intro reason s' hs'
    obtain ⟨result, hkey, hstate, -, hledger⟩ :=
      ledger_appendTerminalResult ctx work ctx.config.method .error reason none s'
    have hresults : s'.results = s.results := congrArg Ledger.results hs'
    rw [hledger, hs', hresults]
    refine h.publish hkey fun kind ↦ ?_
    rw [hstate]
    cases kind <;> exact nofun
  have hfailing : ∀ reason status s', ledger ctx s' = ledger ctx s → Backed []
      (ledger ctx ((s'.appendTerminalResult ctx work ctx.config.method .error reason none).setStatus
        status)) := fun reason _ s' hs' ↦ hfail reason s' hs'
  rw [startAttempt]
  dsimp only
  split
  · exact hfail _ _ rfl
  split
  · split_ifs
    · exact hfailing _ _ _ rfl
    · exact hfail _ _ rfl
  split
  · exact hfailing _ _ _ rfl
  · rename_i store hemplace
    obtain ⟨hfresh, rfl⟩ := AList.emplace_eq_some_iff.mp hemplace
    exact backed_launch hpump hmethod hprobe _ h hfresh (by rfl) (by rfl) (by rfl)

end

end

end Attempt

/-! ### Submission -/

/-- Items as submitted, and the results of invalid hosts: nothing was observed yet. -/
theorem evidence_fresh {works : List WorkItem} {results : List PortResult}
    (hdistinct : (works.map WorkItem.key ++ results.map PortResult.key).Nodup)
    (hworks : ∀ work ∈ works, ∃ host port, work = { host, port })
    (hresults : ∀ result ∈ results, result.state = .error) : Evidence works results [] := by
  refine ⟨hdistinct, fun work hwork ↦ ?_, fun result hresult ↦ ?_, nofun⟩
  · obtain ⟨host, port, rfl⟩ := hworks work hwork
    exact ⟨fun kind ↦ by cases kind <;> rfl, ⟨.refusal, rfl⟩, rfl⟩
  · refine ⟨fun kind hkind ↦ ?_, fun hboth ↦ absurd (hboth .refusal) (Nat.lt_irrefl 0)⟩
    rw [hresults result hresult] at hkind
    cases kind <;> exact absurd hkind nofun

/-- The results of an invalid host. -/
theorem ledger_invalidHost (ctx : SchedulerContext) (host : Host) (ports : List Port)
    (s : PortScanScheduler) :
    ∃ results : List PortResult, results.map PortResult.key = ports.map (host.address, ·) ∧
      (∀ result ∈ results, result.state = .error) ∧
      ledger ctx (ports.foldl
        (fun s port ↦ s.appendTerminalResult ctx { host, port } ctx.config.method .error
          .invalidTarget none) s) =
        { ledger ctx s with results := s.results ++ results } := by
  induction ports generalizing s with
  | nil =>
    refine ⟨[], rfl, List.forall_mem_nil _, ?_⟩
    rw [List.append_nil]
    rfl
  | cons port ports ih =>
    obtain ⟨result, hkey, hstate, -, hfirst⟩ := ledger_appendTerminalResult ctx { host, port }
      ctx.config.method .error .invalidTarget none s
    obtain ⟨results, hkeys, hstates, hrest⟩ := ih
      (s.appendTerminalResult ctx { host, port } ctx.config.method .error .invalidTarget none)
    refine ⟨result :: results, ?_, ?_, ?_⟩
    · rw [List.map_cons, hkeys, hkey]
      rfl
    · rintro other hother
      rcases List.mem_cons.mp hother with rfl | hother
      · exact hstate
      · exact hstates other hother
    · have happended : (s.appendTerminalResult ctx { host, port } ctx.config.method .error
          .invalidTarget none).results = s.results ++ [result] := congrArg Ledger.results hfirst
      rw [List.foldl_cons, hrest, hfirst, happended, List.append_assoc]
      rfl

/-- Every submitted pair is queued, or has the result of an invalid host. -/
theorem ledger_submitHosts (ctx : SchedulerContext) (ports : List Port) (hosts : List Host)
    (s : PortScanScheduler) :
    ∃ works results, (works.map WorkItem.key ++ results.map PortResult.key).Perm
        (hosts.map Host.address ×ˢ ports) ∧
      (∀ work ∈ works, ∃ host port, work = { host, port }) ∧
      (∀ result ∈ results, result.state = .error) ∧
      ledger ctx (hosts.foldl (submitHost ctx ports) s) =
        { ledger ctx s with queue := s.queue ++ works, results := s.results ++ results } := by
  induction hosts generalizing s with
  | nil =>
    refine ⟨[], [], .nil, List.forall_mem_nil _, List.forall_mem_nil _, ?_⟩
    rw [List.append_nil, List.append_nil]
    rfl
  | cons host hosts ih =>
    obtain ⟨works, results, hkeys, hworks, hresults, hrest⟩ := ih (submitHost ctx ports s host)
    rw [List.foldl_cons, hrest, submitHost]
    split
    · refine ⟨ports.map (fun port ↦ ({ host, port } : WorkItem)) ++ works, results, ?_, ?_,
        hresults,
        ?_⟩
      · rw [List.map_append, List.append_assoc, List.map_map, List.map_cons, List.product_cons]
        exact hkeys.append_left _
      · rintro work hwork
        rcases List.mem_append.mp hwork with hfirst | hwork
        · obtain ⟨port, -, rfl⟩ := List.mem_map.mp hfirst
          exact ⟨host, port, rfl⟩
        · exact hworks work hwork
      · rw [← List.append_assoc]
        rfl
    · obtain ⟨invalid, hinvalidKeys, hinvalid, hledger⟩ := ledger_invalidHost ctx host ports s
      refine ⟨works, invalid ++ results, ?_, hworks, ?_, ?_⟩
      · rw [List.map_append, hinvalidKeys, List.map_cons, List.product_cons]
        exact (List.perm_append_comm_assoc _ _ _).trans (hkeys.append_left _)
      · rintro result hresult
        rcases List.mem_append.mp hresult with hresult | hresult
        · exact hinvalid result hresult
        · exact hresults result hresult
      · generalize ports.foldl (fun s port ↦ s.appendTerminalResult ctx { host, port }
          ctx.config.method .error .invalidTarget none) s = s' at hledger
        have hqueue : s'.queue = s.queue := congrArg Ledger.queue hledger
        have hinvalidResults : s'.results = s.results ++ invalid :=
          congrArg Ledger.results hledger
        show ({ ledger ctx s' with
          queue := s'.queue ++ works, results := s'.results ++ results } : Ledger) = _
        rw [hledger, hqueue, hinvalidResults, List.append_assoc]

/-! ### Every run -/

section Runs

variable {inet : Inet} (hmethod : ctx.config.method = .tcpConnect)
  (hprobe : ctx.probe = some (tcpConnectProbe inet))

include hmethod hprobe

theorem backed_pumpLoop (fuel limit : ℕ) (h : Backed [] (ledger ctx s)) :
    Backed [] (ledger ctx (pumpLoop ctx fuel limit s)) := by
  induction fuel generalizing limit s with
  | zero => exact h
  | succ fuel ih =>
    rw [pumpLoop]
    split
    · rename_i work queue probe hqueue hsome
      split
      · have hnested : ∀ s, Backed [] (ledger ctx s) →
            Backed [] (ledger ctx (stopIfIdle (pumpLoop ctx fuel (s.limit ctx) s))) := by
          intro s hs
          rw [ledger_stopIfIdle]
          exact ih _ hs
        exact ih _ (backed_startAttempt hnested hmethod hprobe probe (h.dequeue hqueue))
      · exact h
    · exact h

theorem backed_pump (h : Backed [] (ledger ctx s)) : Backed [] (ledger ctx (pump ctx s)) := by
  rw [pump, ledger_stopIfIdle]
  exact backed_pumpLoop hmethod hprobe _ _ h

theorem backed_step (s : PortScanScheduler) (e : Event) (h : Backed [] (ledger ctx s)) :
    Backed [] (ledger ctx (step ctx s e)) := by
  have hpump : ∀ s, Backed [] (ledger ctx s) → Backed [] (ledger ctx (pump ctx s)) :=
    fun s hs ↦ backed_pump hmethod hprobe hs
  cases e with
  | receive response => exact backed_receiveWith hpump hmethod hprobe response h
  | onTimeout id => exact backed_onTimeoutWith hpump hmethod hprobe id h
  | onRetryReady id =>
    show Backed [] (ledger ctx (onRetryReady ctx id s))
    rw [onRetryReady]
    cases hretry : s.deferredRetries.lookup id with
    | none => exact h
    | some retry => exact hpump _ (h.requeue hretry)
  | pump => exact hpump s h

theorem backed_submit (hretries : 0 < maxRetries ctx (create ctx)) {target : Target}
    {ports : List Port} (hhosts : (target.resolvedHosts.map Host.address).Nodup)
    (hports : ports.Nodup) :
    Backed [] (ledger ctx (submit ctx target ports (create ctx)).2) := by
  have hfresh : ∀ s, ledger ctx s = ledger ctx (create ctx) → Backed [] (ledger ctx s) := by
    intro s hs
    rw [hs]
    exact ⟨evidence_fresh List.nodup_nil (List.forall_mem_nil _) (List.forall_mem_nil _),
      fun id pending hpending ↦ absurd hpending nofun, hretries⟩
  rw [submit]
  split_ifs
  · exact hfresh _ rfl
  · exact hfresh _ rfl
  · exact hfresh _ rfl
  obtain ⟨works, results, hkeys, hworks, hresults, hledger⟩ :=
    ledger_submitHosts ctx ports target.resolvedHosts { create ctx with submitted := true }
  dsimp only
  generalize target.resolvedHosts.foldl (submitHost ctx ports)
    { create ctx with submitted := true } =
    s at hledger
  have hdistinct : (works.map WorkItem.key ++ results.map PortResult.key).Nodup :=
    hkeys.nodup_iff.mpr (hhosts.product hports)
  have hbacked : ∀ queue : List WorkItem, queue.Sublist works →
      Backed [] { ledger ctx (create ctx) with queue, results } := by
    intro queue hqueue
    refine ⟨?_, fun id pending hpending ↦ absurd hpending nofun, hretries⟩
    have hworksEq : ([] : List WorkItem) ++
        Ledger.works { ledger ctx (create ctx) with queue, results } = queue := by
      show queue ++ [] ++ [] = queue
      rw [List.append_nil, List.append_nil]
    rw [hworksEq]
    have hsub := (hqueue.map WorkItem.key).append_right (results.map PortResult.key)
    exact evidence_fresh (hdistinct.sublist hsub)
      (fun work hwork ↦ hworks work (hqueue.subset hwork))
      hresults
  rw [ledger_stopIfIdle]
  split
  · refine backed_pump hmethod hprobe ?_
    rw [hledger]
    exact hbacked works (List.Sublist.refl _)
  · show Backed [] { ledger ctx s with queue := [] }
    rw [hledger]
    exact hbacked [] (List.nil_sublist _)

end Runs

/-- What is observed of every pair of a scheduler. -/
def observations (s : PortScanScheduler) : List Observation :=
  s.trace.filterMap Effect.observation

/-- What is said of the verdicts of a scheduler: a negative result was observed twice, and the other
one never; and a pair of which both were observed has a result, which is a conflict. -/
structure VerdictsConfirmed (s : PortScanScheduler) : Prop where
  negative : ∀ result ∈ s.results, ∀ kind : Negative, result.state = kind.state →
    result.reason = kind.reason →
    2 ≤ kind.observed (observations s) result.key ∧
      kind.other.observed (observations s) result.key = 0
  conflicting : ∀ pair, (∀ kind : Negative, 0 < kind.observed (observations s) pair) →
    (∃ result ∈ s.results, result.key = pair) ∧
      ∀ result ∈ s.results, result.key = pair →
        result.state = .unknown ∧ result.reason = .conflictingEvidence

theorem Backed.verdictsConfirmed (h : Backed [] (ledger ctx s)) : VerdictsConfirmed s := by
  refine ⟨fun result hresult ↦ (h.evidence.confirmed result hresult).negative,
    fun pair hboth ↦ ⟨?_, fun result hresult hkey ↦ ?_⟩⟩
  · have hmem := List.count_pos_iff.mp (hboth .refusal)
    rcases List.mem_append.mp (h.evidence.located _ hmem) with hwork | hresult
    · obtain ⟨work, hwork, hkey⟩ := List.mem_map.mp hwork
      have hcounted := h.evidence.counted work hwork
      obtain ⟨kind, hzero⟩ := hcounted.exclusive
      have hpositive : 0 < kind.observed (observations s) pair := hboth kind
      have hkey : work.key = pair := hkey
      rw [hcounted.counter, hkey] at hzero
      exact absurd hzero hpositive.ne'
    · exact List.mem_map.mp hresult
  · exact (h.evidence.confirmed result hresult).conflicting (hkey ▸ hboth)

/-- **Negative results are confirmed** by the TCP connect scan, for distinct pairs and at least one
retry, in every run. -/
theorem verdicts_confirmed (ctx : SchedulerContext) (hmethod : ctx.config.method = .tcpConnect)
    (hprobe : ctx.probe = some (tcpConnectProbe ctx.inet))
    (hretries : 0 < maxRetries ctx (create ctx)) (target : Target) (ports : List Port)
    (hhosts : (target.resolvedHosts.map Host.address).Nodup) (hports : ports.Nodup)
    (events : List Event) :
    VerdictsConfirmed (Runs.run (step ctx) (submit ctx target ports (create ctx)).2 events) :=
  Backed.verdictsConfirmed
    (Runs.run_invariant (I := fun s ↦ Backed [] (ledger ctx s))
      (fun s e hs ↦ backed_step hmethod hprobe s e hs)
      (backed_submit hmethod hprobe hretries hhosts hports) events)

/-- A TCP connect scan of one retry, by an engine and a transport that accept everything. -/
def retryingContext : SchedulerContext := { acceptingContext with config := { retries := 1 } }

/-- One pair is refused and then times out: a conflict. -/
theorem verdicts_confirmed_conflict :
    VerdictsConfirmed (Runs.run (step retryingContext)
      (submit retryingContext { resolvedHosts := [tenNet 1] } [⟨22, .tcp⟩]
        (create retryingContext)).2
      [.receive { id := 1, kind := .connectionRefused, receivedAt := 100 }, .onRetryReady 1,
        .onTimeout 2]) :=
  verdicts_confirmed retryingContext rfl rfl (by decide) { resolvedHosts := [tenNet 1] }
    [⟨22, .tcp⟩] (by decide) (by decide) _

/-- The same pair twice: two refusals of the first item are published, and the second times out. -/
def duplicatedPort : List Event :=
  [.receive { id := 1, kind := .connectionRefused, receivedAt := 100 }, .onRetryReady 1,
    .receive { id := 3, kind := .connectionRefused, receivedAt := 200 }, .onTimeout 2]

/-- A pair that was submitted twice is published as closed although it timed out as well. -/
theorem not_verdictsConfirmed_duplicated :
    ¬ VerdictsConfirmed (Runs.run (step retryingContext)
      (submit retryingContext { resolvedHosts := [tenNet 1] } [⟨22, .tcp⟩, ⟨22, .tcp⟩]
        (create retryingContext)).2 duplicatedPort) := by
  intro h
  obtain ⟨-, hconflict⟩ := h.conflicting ((tenNet 1).address, ⟨22, .tcp⟩)
    (fun kind ↦ by cases kind <;> decide +kernel)
  revert hconflict
  decide +kernel

end PortScanScheduler

end Skan.PortScan
