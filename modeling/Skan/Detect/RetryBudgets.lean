import Skan.Detect.Scheduler

/-!
# Retry budgets

`retry_count` counts the retries of a probe, but it belongs to the port and goes with it from probe
to probe. So a probe has a budget of its own only if the count starts again with it.

A lost connection and a timeout see to that. A closed connection does not: it puts the port back
with the retries that its last probe used up. `ownBudget_of_reachable` is about the runs in which no
such port is put back; there the count is the number of attempts of the probe in flight, less one.

## The account

A port is in the queue, in flight, or waits for a retry, and its attempts can be told from the trace
(`attempts`). `Accounted` says what the two have to do with each other; it is kept by every change
of one port (`Accounted.head`). The inner functions take the pump as an argument, as in the model,
and keep the account if it does. They also keep the attempts that were made, so that what a pump
hands to the transport first can be told afterwards (`Holds.pump_resumed`).
-/

namespace Skan.Detect

open Skan.Core Skan.PortScan Skan.ScanEngine

namespace ServiceScheduler

variable {id : ServiceProbeId} {pending : Pending} {response : ServiceResponse}
  {seen : List (Text × Port)} {p : WorkItem × ℕ}

/-! ### Attempts -/

/-- What a port is told from others by. -/
def WorkItem.key (work : WorkItem) : Text × Port := (work.portResult.target, work.portResult.port)

/-- The ports as they were handed to the transport, newest first. -/
def submissions (trace : List Effect) : List WorkItem :=
  trace.filterMap fun
    | .submitted work _ _ => some work
    | _ => none

/-- The ports as they were when their connection was closed. -/
def closures (trace : List Effect) : List WorkItem :=
  trace.filterMap fun
    | .closed work => some work
    | _ => none

/-- How often the present probe of a port was started. -/
def attempts (submissions : List WorkItem) (work : WorkItem) : ℕ :=
  submissions.countP fun w ↦ w.key = work.key ∧ w.nextProbe = work.nextProbe

/-- A closed connection hands no retries on to the next probe: there are none, or the port has no
next probe. -/
def WorkItem.ClosesFairly (work : WorkItem) : Prop :=
  work.retryCount = 0 ∨ work.isSettled = true ∨ work.hasNext = false

/-- Every closed connection so far was of this kind. -/
def Fair (trace : List Effect) : Prop := ∀ work ∈ closures trace, work.ClosesFairly

/-- What `on_timeout` makes of a scheduler before it decides on a retry. -/
def timedOut (id : ServiceProbeId) (s : ServiceScheduler) : ServiceScheduler :=
  { s.cancelSubmission id with
    pending := s.pending.erase id
    timing := s.timing.map TimingController.onTimeout }

/-- A response says that the connection of a TCP probe was lost, in a way that passes. -/
structure LosesConnection (ctx : Context) (response : ServiceResponse) (pending : Pending) :
    Prop where
  id_eq : response.id = pending.submission.id
  source_eq : response.sourceAddress = pending.submission.target
  whole : response.responseTruncated = false ∧
    response.bytes.length ≤ ctx.config.maxResponseBytes
  kind_eq : response.kind = .socketError
  transient : transientSocketError response.systemError = true
  tcp : pending.work.portResult.port.protocol = .tcp

/-- The engine takes the timer of one more retry, and its identifier is free. -/
structure Defers (ctx : Context) (s : ServiceScheduler) : Prop where
  nextRetryId_ne : s.nextRetryId ≠ 0
  notMem : s.nextRetryId ∉ s.deferredRetries
  schedule_ne : ctx.environment.schedule s.trace ctx.config.retryDelay ≠ 0

/-- A probe is to be tried again: it is out of flight, and its port waits for a timer that was set,
with this retry counted. -/
structure TriesAgain (ctx : Context) (id : ServiceProbeId) (pending : Pending)
    (s s' : ServiceScheduler) : Prop where
  pending_eq : s'.pending = s.pending.erase id
  queue_eq : s'.queue = s.queue
  results_eq : s'.results = s.results
  waits : ∃ timer, timer ≠ 0 ∧
    .timerScheduled ctx.config.retryDelay (.onRetryReady s.nextRetryId) timer ∈ s'.trace ∧
    s'.deferredRetries.lookup s.nextRetryId = some
      { work := { pending.work with retryCount := pending.work.retryCount + 1 }, timerId := timer }

/-- The scheduler with the port of a retry at the head of its queue. -/
def resumed (id : RetryId) (retry : DeferredRetry) (s : ServiceScheduler) : ServiceScheduler :=
  { s with deferredRetries := s.deferredRetries.erase id }.requeue retry.work

/-- `start_or_retry` has all it needs to hand a port to the transport: a probe that can be built, a
timer and an identifier. -/
def Starts (ctx : Context) (work : WorkItem) (s : ServiceScheduler) : Prop :=
  ∃ probeIndex submission, work.probeIndices[work.nextProbe]? = some probeIndex ∧
    ctx.environment.supports work.portResult.port.protocol = true ∧
    ServiceProbe.build (ctx.database.probe probeIndex) ctx.config.maxResponseBytes ctx.inet s.nextId
      { address := work.portResult.target, isUp := true } work.portResult.port = .ok submission ∧
    ctx.environment.schedule (.clockRead :: s.trace)
      (s.probeTimeout ctx (ctx.database.probe probeIndex)) ≠ 0 ∧
    s.nextId ∉ s.pending

/-- Every probe has a retry budget of its own. -/
structure OwnBudget (ctx : Context) (s : ServiceScheduler) : Prop where
  /-- The attempts of a probe are numbered from its first. -/
  attempt : ∀ later work earlier, submissions s.trace = later ++ work :: earlier →
    attempts earlier work = work.retryCount
  /-- No attempt is beyond the budget. -/
  bounded : ∀ work ∈ submissions s.trace, work.retryCount ≤ s.maxRetries ctx
  /-- The one in flight is the last of them. -/
  inFlight : ∀ id pending, s.pending.lookup id = some pending →
    attempts (submissions s.trace) pending.work = pending.work.retryCount + 1
  /-- What `receive` and `on_timeout` ask before a retry is whether that was one too many. -/
  retries : ∀ id pending, s.pending.lookup id = some pending →
    (pending.work.retryCount < s.maxRetries ctx ↔
      attempts (submissions s.trace) pending.work ≤ s.maxRetries ctx)
  /-- So after a timeout a probe is to be tried again while any attempts are left, if the engine
  takes the timer. -/
  timeout : ∀ id pending, s.pending.lookup id = some pending →
    attempts (submissions s.trace) pending.work ≤ s.maxRetries ctx → (s.timedOut id).Defers ctx →
    ∃ s', TriesAgain ctx id pending s s' ∧ onTimeout ctx id s = pump ctx s'
  /-- And so it is after a lost connection. -/
  transient : ∀ response pending, s.pending.lookup response.id = some pending →
    LosesConnection ctx response pending →
    attempts (submissions s.trace) pending.work ≤ s.maxRetries ctx →
    (s.retire response.id pending).Defers ctx →
    ∃ s', TriesAgain ctx response.id pending s s' ∧ receive ctx response s = pump ctx s'
  /-- A port that waits has had the attempts that its retries count. -/
  waiting : ∀ id retry, s.deferredRetries.lookup id = some retry →
    attempts (submissions s.trace) retry.work = retry.work.retryCount
  /-- Its timer puts it back at the head of the queue, and the transport is handed the same work
  next if there is room and the probe can be started. -/
  ready : ∀ id retry, s.deferredRetries.lookup id = some retry →
    onRetryReady ctx id s = pump ctx (s.resumed id retry) ∧
      (s.status = .ok → s.pending.size < s.limit ctx → Starts ctx retry.work (s.resumed id retry) →
        ∃ later, submissions (onRetryReady ctx id s).trace =
          later ++ retry.work :: submissions s.trace)

/-! ### The account -/

/-- Ports with the attempts that are under way, against the attempts that were made, of which each
probe has `max` retries. -/
structure Accounted (max : ℕ) (made : List WorkItem) (live : List (WorkItem × ℕ)) : Prop where
  nodup : (live.map fun p ↦ p.1.key).Nodup
  attempts : ∀ p ∈ live, attempts made p.1 = p.1.retryCount + p.2
  latest : ∀ p ∈ live, ∀ w ∈ made, w.key = p.1.key → w.nextProbe ≤ p.1.nextProbe
  numbered : ∀ later work earlier, made = later ++ work :: earlier →
    ServiceScheduler.attempts earlier work = work.retryCount
  live_le : ∀ p ∈ live, p.1.retryCount ≤ max
  made_le : ∀ w ∈ made, w.retryCount ≤ max

namespace Accounted

variable {max n : ℕ} {made : List WorkItem} {live live' : List (WorkItem × ℕ)}
  {work work' : WorkItem}

theorem perm (h : Accounted max made live) (hperm : live.Perm live') :
    Accounted max made live' where
  nodup := (hperm.map _).nodup_iff.mp h.nodup
  attempts := fun p hp ↦ h.attempts p (hperm.mem_iff.mpr hp)
  latest := fun p hp ↦ h.latest p (hperm.mem_iff.mpr hp)
  numbered := h.numbered
  live_le := fun p hp ↦ h.live_le p (hperm.mem_iff.mpr hp)
  made_le := h.made_le

/-- A port that has its result is gone. -/
theorem tail (h : Accounted max made (p :: live)) : Accounted max made live where
  nodup := (List.nodup_cons.mp h.nodup).2
  attempts := fun q hq ↦ h.attempts q (List.mem_cons_of_mem p hq)
  latest := fun q hq ↦ h.latest q (List.mem_cons_of_mem p hq)
  numbered := h.numbered
  live_le := fun q hq ↦ h.live_le q (List.mem_cons_of_mem p hq)
  made_le := h.made_le

/-- One port changes. -/
theorem head {n' : ℕ} (h : Accounted max made ((work, n) :: live)) (hkey : work'.key = work.key)
    (hattempts : ServiceScheduler.attempts made work' = work'.retryCount + n')
    (hlatest : work.nextProbe ≤ work'.nextProbe) (hmax : work'.retryCount ≤ max) :
    Accounted max made ((work', n') :: live) where
  nodup := by
    have hnodup := h.nodup
    rw [List.map_cons, ← hkey] at hnodup
    exact hnodup
  attempts := by
    intro p hp
    rcases List.mem_cons.mp hp with rfl | hp
    · exact hattempts
    · exact h.attempts p (List.mem_cons_of_mem _ hp)
  latest := by
    intro p hp w hw hsame
    rcases List.mem_cons.mp hp with rfl | hp
    · exact (h.latest _ List.mem_cons_self w hw (hsame.trans hkey)).trans hlatest
    · exact h.latest p (List.mem_cons_of_mem _ hp) w hw hsame
  numbered := h.numbered
  live_le := List.forall_mem_cons.mpr ⟨hmax, fun p hp ↦ h.live_le p (List.mem_cons_of_mem _ hp)⟩
  made_le := h.made_le

/-- Only what is known of the best match changes. -/
theorem alike (h : Accounted max made ((work, n) :: live)) (hkey : work'.key = work.key)
    (hprobe : work'.nextProbe = work.nextProbe) (hretries : work'.retryCount = work.retryCount) :
    Accounted max made ((work', n) :: live) := by
  refine h.head hkey ?_ hprobe.ge (hretries ▸ h.live_le _ List.mem_cons_self)
  rw [hretries, ← h.attempts _ List.mem_cons_self, ServiceScheduler.attempts,
    ServiceScheduler.attempts, hkey, hprobe]

/-- The attempt under way failed, and there will be another. -/
theorem retry (h : Accounted max made ((work, 1) :: live)) (hroom : work.retryCount < max) :
    Accounted max made (({ work with retryCount := work.retryCount + 1 }, 0) :: live) :=
  h.head rfl (h.attempts _ List.mem_cons_self) le_rfl hroom

/-- The port goes on to its next probe, of which there was no attempt yet. -/
theorem next (h : Accounted max made ((work, n) :: live)) :
    Accounted max made
      (({ work with nextProbe := work.nextProbe + 1, retryCount := 0 }, 0) :: live) := by
  refine h.head rfl ?_ (Nat.le_succ _) (Nat.zero_le max)
  refine List.countP_eq_zero.mpr fun w hw hsame ↦ ?_
  obtain ⟨hkey, hprobe⟩ := of_decide_eq_true hsame
  have hle := h.latest _ List.mem_cons_self w hw hkey
  rw [hprobe] at hle
  exact absurd hle (Nat.not_succ_le_self _)

theorem key_ne (h : Accounted max made ((work, n) :: live)) (hp : p ∈ live) :
    work.key ≠ p.1.key := by
  intro hkey
  have hmem : p.1.key ∈ live.map fun p ↦ p.1.key := List.mem_map.mpr ⟨p, hp, rfl⟩
  rw [← hkey] at hmem
  exact (List.nodup_cons.mp h.nodup).1 hmem

/-- An attempt is made. -/
theorem start (h : Accounted max made ((work, 0) :: live)) :
    Accounted max (work :: made) ((work, 1) :: live) where
  nodup := h.nodup
  attempts := by
    intro p hp
    rw [ServiceScheduler.attempts, List.countP_cons]
    rcases List.mem_cons.mp hp with rfl | hp
    · rw [if_pos (decide_eq_true ⟨rfl, rfl⟩)]
      exact congrArg (· + 1) (h.attempts _ List.mem_cons_self)
    · -- the other ports have other keys
      rw [if_neg (by simp [h.key_ne hp])]
      exact h.attempts p (List.mem_cons_of_mem _ hp)
  latest := by
    intro p hp w hw hkey
    rcases List.mem_cons.mp hp with rfl | hlive
    · rcases List.mem_cons.mp hw with rfl | hmade
      · exact le_rfl
      · exact h.latest _ List.mem_cons_self w hmade hkey
    · rcases List.mem_cons.mp hw with rfl | hmade
      · exact absurd hkey (h.key_ne hlive)
      · exact h.latest p (List.mem_cons_of_mem _ hlive) w hmade hkey
  numbered := by
    intro later w earlier hmade
    cases later with
    | nil =>
      obtain ⟨rfl, rfl⟩ := List.cons.inj hmade
      exact h.attempts _ List.mem_cons_self
    | cons _ later =>
      obtain ⟨rfl, rfl⟩ := List.cons.inj hmade
      exact h.numbered later w earlier rfl
  live_le := List.forall_mem_cons.mpr (List.forall_mem_cons.mp h.live_le)
  made_le := List.forall_mem_cons.mpr ⟨h.live_le _ List.mem_cons_self, h.made_le⟩

end Accounted

/-! ### The account of a scheduler -/

/-- The ports a scheduler holds. -/
def live (s : ServiceScheduler) : List (WorkItem × ℕ) :=
  s.queue.map (·, 0) ++ (s.deferredRetries.values.map fun retry ↦ (retry.work, 0)) ++
    s.pending.values.map fun pending ↦ (pending.work, 1)

/-- After fair closures only, the ports a scheduler holds are accounted for, with some in hand; and
the attempts of `base` have been made. -/
def Holds (ctx : Context) (base : List WorkItem) (inHand : List (WorkItem × ℕ))
    (s : ServiceScheduler) : Prop :=
  s.submitted = true ∧ base <:+ submissions s.trace ∧
    (Fair s.trace → Accounted (s.maxRetries ctx) (submissions s.trace) (inHand ++ s.live))

variable {ctx : Context} {base : List WorkItem} {s : ServiceScheduler}
  {inHand : List (WorkItem × ℕ)} {work : WorkItem}

theorem Holds.drop (h : Holds ctx base [p] s) : Holds ctx base [] s :=
  ⟨h.1, h.2.1, fun hfair ↦ (h.2.2 hfair).tail⟩

theorem Holds.appendResult (h : Holds ctx base inHand s) (portResult : PortResult)
    (probe : Option ServiceProbeDefinition) (state : DetectionState) (error : DetectionError)
    (found : Option ServiceMatchResult) (rttMs : Option ℚ) :
    Holds ctx base inHand (s.appendResult ctx portResult probe state error found rttMs) := by
  cases found <;> exact h

/-- A timing controller changes its estimates, not its profile. -/
theorem maxRetries_map {f : TimingController → TimingController}
    (hf : ∀ t, (f t).profile = t.profile) :
    maxRetries ctx { s with timing := s.timing.map f } = s.maxRetries ctx := by
  unfold maxRetries
  cases s.timing with
  | none => rfl
  | some timing => exact congrArg TimingProfile.maxRetries (hf timing)

section

variable (h : Holds ctx base inHand s)

include h

theorem Holds.timing {f : TimingController → TimingController}
    (hf : ∀ t, (f t).profile = t.profile) :
    Holds ctx base inHand { s with timing := s.timing.map f } := by
  refine ⟨h.1, h.2.1, fun hfair ↦ ?_⟩
  rw [maxRetries_map hf]
  exact h.2.2 hfair

theorem Holds.weaken {fewer : List WorkItem} (hfewer : fewer <:+ base) : Holds ctx fewer inHand s :=
  ⟨h.1, hfewer.trans h.2.1, h.2.2⟩

theorem Holds.receivedAt (response : ServiceResponse) :
    Holds ctx base inHand (s.receivedAt ctx response).2 := by
  unfold ServiceScheduler.receivedAt
  split <;> exact h

theorem Holds.stopIfIdle : Holds ctx base inHand s.stopIfIdle := by
  unfold ServiceScheduler.stopIfIdle
  split <;> exact h

end

theorem Holds.requeue (h : Holds ctx base [(work, 0)] s) : Holds ctx base [] (s.requeue work) := h

/-- A port taken out of flight is in hand. -/
theorem Holds.retire (hlookup : s.pending.lookup id = some pending) (h : Holds ctx base [] s) :
    Holds ctx base [(pending.work, 1)] { s with pending := s.pending.erase id } := by
  refine ⟨h.1, h.2.1, fun hfair ↦ (h.2.2 hfair).perm ?_⟩
  have hperm := (AList.values_of_lookup hlookup).map fun pending ↦ (pending.work, 1)
  exact (hperm.append_left _).trans List.perm_middle

theorem Holds.erase (h : Holds ctx base [] s) (id : ServiceProbeId) :
    Holds ctx base [] { s with pending := s.pending.erase id } := by
  cases hlookup : s.pending.lookup id with
  | none =>
    rw [AList.erase_of_notMem (AList.lookup_eq_none.mp hlookup)]
    exact h
  | some pending => exact (Holds.retire hlookup h).drop

/-- A port in hand goes in flight. -/
theorem Holds.launch (hfresh : id ∉ s.pending) (hwork : pending.work = work)
    (h : Holds ctx base [(work, 0)] s) (submission : ServiceSubmission) (status : StatusCode) :
    Holds ctx (work :: submissions s.trace) []
      ({ s with pending := s.pending.insert id pending }.record
        (.submitted work submission status)) := by
  refine ⟨h.1, List.suffix_refl _, fun hfair ↦ ((h.2.2 hfair).start).perm ?_⟩
  show ((work, 1) :: s.live).Perm (_ ++ (s.pending.insert id pending).values.map _)
  rw [AList.values_insert pending hfresh, List.map_cons, hwork]
  exact List.perm_middle.symm

/-- `defer_retry` keeps the port for later, or leaves it in hand. -/
theorem Holds.deferRetry (h : Holds ctx base [(work, 1)] s)
    (hroom : work.retryCount < s.maxRetries ctx) (occasion : Occasion) :
    ((s.deferRetry ctx occasion work).1 = true ∧
        Holds ctx base [] (s.deferRetry ctx occasion work).2) ∨
      ((s.deferRetry ctx occasion work).1 = false ∧
        Holds ctx base [(work, 1)] (s.deferRetry ctx occasion work).2) := by
  unfold ServiceScheduler.deferRetry
  dsimp only
  split
  · exact .inr ⟨rfl, h⟩
  split
  · exact .inr ⟨rfl, h⟩
  split
  · exact .inr ⟨rfl, h⟩
  · rename_i deferred hemplace
    obtain ⟨hfresh, rfl⟩ := AList.emplace_eq_some_iff.mp hemplace
    replace hfresh : s.nextRetryId ∉ s.deferredRetries := hfresh
    refine .inl ⟨rfl, h.1, h.2.1, fun hfair ↦ ((h.2.2 hfair).retry hroom).perm ?_⟩
    show (_ :: s.live).Perm (s.queue.map _ ++
      (s.deferredRetries.insert s.nextRetryId _).values.map _ ++ s.pending.values.map _)
    rw [AList.values_insert _ hfresh, List.map_cons]
    exact List.perm_middle.symm.append_right _

/-! ### Ending a probe -/

section Pump

variable {pump : ServiceScheduler → ServiceScheduler}
  (hpump : ∀ {base : List WorkItem} {s : ServiceScheduler},
    Holds ctx base [] s → Holds ctx base [] (pump s))

include hpump

section

variable (h : Holds ctx base [] s)

include h

theorem Holds.completePending (state : DetectionState) (error : DetectionError)
    (found : Option ServiceMatchResult) (completedAt : TimePoint) :
    Holds ctx base [] (completePending ctx pump id state error found completedAt s) := by
  unfold ServiceScheduler.completePending
  split
  · exact h
  · rename_i pending hlookup
    have hretired : Holds ctx base [] (s.retire id pending) := (Holds.retire hlookup h).drop
    exact hpump ((hretired.appendResult _ _ _ _ _ _).timing fun _ ↦ rfl)

theorem Holds.conclude (response : ServiceResponse) (state : DetectionState)
    (error : DetectionError) (found : Option ServiceMatchResult) :
    Holds ctx base [] (conclude ctx pump response state error found s) :=
  (h.receivedAt response).completePending hpump state error found _

theorem Holds.transientError (hlookup : s.pending.lookup response.id = some pending)
    (status : StatusCode) (error : DetectionError) :
    Holds ctx base [] (transientError ctx pump response pending status error s) := by
  have hretired : Holds ctx base [(pending.work, 1)] (s.retire response.id pending) :=
    Holds.retire hlookup h
  unfold ServiceScheduler.transientError
  dsimp only
  split_ifs with hretry hnext hpublishable
  · rcases hretired.deferRetry hretry .retryAfterError with ⟨-, hdeferred⟩ | ⟨-, hlost⟩
    · exact hpump hdeferred
    · exact hpump hlost.drop
  · exact hpump (Holds.requeue ⟨hretired.1, hretired.2.1, fun hfair ↦ (hretired.2.2 hfair).next⟩)
  · exact hpump (((hretired.drop.receivedAt response).appendResult _ _ _ _ _ _).timing fun _ ↦ rfl)
  · exact h.conclude hpump _ _ _ _
  · exact h.conclude hpump _ _ _ _

/-- A closed connection: a port that goes on has no retries to take along. -/
theorem Holds.finishClosed {finished : Pending}
    (hlookup : s.pending.lookup response.id = some finished) :
    Holds ctx base [] (finishClosed ctx pump response finished s) := by
  have hfewer : ∀ {trace : List Effect}, Fair (.closed finished.work :: trace) →
      finished.work.ClosesFairly ∧ Fair trace := fun hfair ↦
    ⟨hfair _ List.mem_cons_self, fun work hwork ↦ hfair work (List.mem_cons_of_mem _ hwork)⟩
  have hretired : Holds ctx base [(finished.work, 1)]
      ((s.retire response.id finished).record (.closed finished.work)) :=
    ⟨h.1, h.2.1, fun hfair ↦ (Holds.retire hlookup h).2.2 (hfewer hfair).2⟩
  unfold ServiceScheduler.finishClosed
  dsimp only
  split_ifs with hsettled hnext hpublishable
  · exact hpump (hretired.drop.appendResult _ _ _ _ _ _)
  · refine hpump (Holds.requeue ⟨hretired.1, hretired.2.1, fun hfair ↦ ?_⟩)
    have hcount : finished.work.retryCount = 0 := by
      rcases (hfewer hfair).1 with hcount | hclosed | hclosed
      · exact hcount
      · exact absurd hclosed hsettled
      · exact absurd hclosed (by simp [hnext])
    have hwork := congrArg (fun n ↦
      { finished.work with nextProbe := finished.work.nextProbe + 1, retryCount := n }) hcount
    have haccount := (hretired.2.2 hfair).next
    dsimp only at hwork
    rwa [← hwork] at haccount
  · exact hpump ((hretired.drop.receivedAt response).appendResult _ _ _ _ _ _)
  · exact hpump ((hretired.drop.receivedAt response).appendResult _ _ _ _ _ _)
  · exact hpump ((hretired.drop.receivedAt response).appendResult _ _ _ _ _ _)

end

omit hpump in
/-- Reading an answer changes what the best match of its port is, and no more of it. -/
theorem Pending.alike_restore (pending : Pending) :
    pending.restore.work.key = pending.work.key ∧
      pending.restore.work.nextProbe = pending.work.nextProbe ∧
      pending.restore.work.retryCount = pending.work.retryCount := by
  unfold Pending.restore
  split
  · exact ⟨rfl, rfl, rfl⟩
  · split <;> exact ⟨rfl, rfl, rfl⟩

omit hpump in
theorem Pending.alike_consider (pending : Pending) (found : ServiceMatchResult) :
    (pending.consider found).work.key = pending.work.key ∧
      (pending.consider found).work.nextProbe = pending.work.nextProbe ∧
      (pending.consider found).work.retryCount = pending.work.retryCount := by
  unfold Pending.consider
  split <;> exact ⟨rfl, rfl, rfl⟩

omit hpump in
theorem Holds.replace (h : Holds ctx base [] s) {examined : Pending}
    (hlookup : s.pending.lookup id = some pending)
    (halike : examined.work.key = pending.work.key ∧
      examined.work.nextProbe = pending.work.nextProbe ∧
      examined.work.retryCount = pending.work.retryCount) :
    Holds ctx base [] { s with pending := s.pending.replace id examined } := by
  obtain ⟨hkey, hprobe, hretries⟩ := halike
  refine ⟨h.1, h.2.1, fun hfair ↦ ?_⟩
  refine (((Holds.retire hlookup h).2.2 hfair).alike hkey hprobe hretries).perm ?_
  have hperm := (AList.values_replace examined hlookup).map fun pending ↦ (pending.work, 1)
  exact ((hperm.append_left _).trans List.perm_middle).symm

theorem Holds.examine (h : Holds ctx base [] s) {received : Pending}
    (hlookup : s.pending.lookup response.id = some pending) (hwork : received.work = pending.work) :
    Holds ctx base [] (examine ctx pump response received s) := by
  unfold ServiceScheduler.examine
  dsimp only
  generalize ServiceMatcher.matchResponse ctx.recognizer ctx.database _ _ _ = found
  have hrestore := Pending.alike_restore received
  have hconsider := Pending.alike_consider received.restore found
  rw [hwork] at hrestore
  have hreplaced := h.replace hlookup ⟨hconsider.1.trans hrestore.1,
    hconsider.2.1.trans hrestore.2.1, hconsider.2.2.trans hrestore.2.2⟩
  split_ifs with hdecided hopen
  · exact hreplaced.conclude hpump _ _ _ _
  · exact hreplaced
  · exact hreplaced.finishClosed hpump (AList.lookup_replace _ hlookup)

/-- A response keeps the budgets. -/
theorem Holds.receiveWith (h : Holds ctx base [] s) (response : ServiceResponse) :
    Holds ctx base [] (receiveWith ctx pump response s) := by
  unfold ServiceScheduler.receiveWith
  split
  · exact h
  rename_i pending hlookup
  split
  · exact h
  split
  · split
    · exact h.conclude hpump _ _ _ _
    · exact h.examine hpump hlookup rfl
  · split
    · split
      · exact h
      · exact h.examine hpump hlookup rfl
    split
    · exact h.conclude hpump _ _ _ _
    split
    · exact h.transientError hpump hlookup _ _
    split
    · exact h.conclude hpump _ _ _ _
    · exact h.examine hpump hlookup rfl

omit hpump in
theorem Holds.giveUp (h : Holds ctx base [(pending.work, 1)] s) :
    Holds ctx base [] (s.giveUp ctx pending) := by
  unfold ServiceScheduler.giveUp
  dsimp only
  split_ifs with hsettled hnext hpublishable
  · exact h.drop.appendResult _ _ _ _ _ _
  · exact Holds.requeue ⟨h.1, h.2.1, fun hfair ↦ (h.2.2 hfair).next⟩
  · exact h.drop.appendResult _ _ _ _ _ _
  · exact h.drop.appendResult _ _ _ _ _ _

/-- A timeout keeps them. -/
theorem Holds.onTimeoutWith (h : Holds ctx base [] s) (id : ServiceProbeId) :
    Holds ctx base [] (onTimeoutWith ctx pump id s) := by
  unfold ServiceScheduler.onTimeoutWith
  split
  · exact h
  rename_i pending hlookup
  dsimp only
  have hretired : Holds ctx base [(pending.work, 1)]
      { s.cancelSubmission id with
        pending := s.pending.erase id
        timing := s.timing.map TimingController.onTimeout } :=
    Holds.timing (Holds.retire hlookup h) fun _ ↦ rfl
  split
  · rename_i hretry
    rcases hretired.deferRetry hretry .retryAfterTimeout with
      ⟨hflag, hdeferred⟩ | ⟨hflag, hlost⟩
    · split
      · rename_i s' heq
        rw [heq] at hdeferred
        exact hpump hdeferred
      · rename_i heq
        rw [heq] at hflag
        exact nomatch hflag
    · split
      · rename_i heq
        rw [heq] at hflag
        exact nomatch hflag
      · rename_i s' heq
        rw [heq] at hlost
        exact hpump hlost.giveUp
  · exact hpump hretired.giveUp

/-! ### Starting a probe -/

variable (base) in
/-- The transport is handed the probe and may call back at once: the attempt is made. -/
theorem Holds.launchWith (h : Holds ctx base [(work, 0)] s) (hfresh : id ∉ s.pending)
    (hwork : pending.work = work) (timer : TimerId) (definition : ServiceProbeDefinition)
    (submission : ServiceSubmission) :
    Holds ctx (work :: submissions s.trace) []
      (ServiceScheduler.launch ctx pump id timer work definition submission
        { s with pending := s.pending.insert id pending }) := by
  unfold ServiceScheduler.launch
  dsimp only
  set outcome := (transportSubmit ctx work submission
    { s with pending := s.pending.insert id pending }).1
  have hstarted : Holds ctx (work :: submissions s.trace) [] (transportSubmit ctx work submission
      { s with pending := s.pending.insert id pending }).2 :=
    h.launch hfresh hwork submission outcome.status
  have hreceived : Holds ctx (work :: submissions s.trace) [] (outcome.responses.foldl
      (fun s response ↦ ServiceScheduler.receiveWith ctx pump response s)
      (transportSubmit ctx work submission { s with pending := s.pending.insert id pending }).2) :=
    Runs.run_invariant (I := Holds ctx (work :: submissions s.trace) [])
      (fun _ response h ↦ h.receiveWith hpump response) hstarted outcome.responses
  split
  · exact hreceived
  · refine Holds.appendResult ?_ _ _ _ _ _ _
    exact hreceived.erase id

/-- So does the start of an item. -/
theorem Holds.startOrRetry (h : Holds ctx base [(work, 0)] s) :
    Holds ctx base [] (startOrRetry ctx pump work s) := by
  unfold ServiceScheduler.startOrRetry
  have hreject : ∀ {s' : ServiceScheduler} {probe : Option ServiceProbeDefinition}
      {state : DetectionState} {error : DetectionError}, Holds ctx base [] s' →
      Holds ctx base [] (s'.appendResult ctx work.portResult probe state error none none) :=
    fun h ↦ h.appendResult _ _ _ _ _ _
  split
  · exact hreject h.drop
  dsimp only
  split
  · exact hreject h.drop
  split
  · exact hreject h.drop
  split
  · exact hreject h.drop
  split
  · exact hreject h.drop
  · rename_i store hemplace
    obtain ⟨hfresh, rfl⟩ := AList.emplace_eq_some_iff.mp hemplace
    have hkept : base <:+ work :: submissions s.trace := h.2.1.trans (List.suffix_cons _ _)
    suffices hlaunched : Holds ctx (work :: submissions s.trace) [] _ from hlaunched.weaken hkept
    refine Holds.launchWith base hpump ?_ hfresh rfl _ _ _
    exact h

/-- A probe that can be started is handed to the transport. -/
theorem Holds.startOrRetry_of_starts (h : Holds ctx base [(work, 0)] s)
    (hstarts : Starts ctx work s) :
    Holds ctx (work :: submissions s.trace) [] (ServiceScheduler.startOrRetry ctx pump work s) := by
  obtain ⟨probeIndex, submission, hprobe, hsupports, hbuild, htimer, hfresh⟩ := hstarts
  unfold ServiceScheduler.startOrRetry
  rw [hprobe]
  dsimp only
  rw [hsupports, if_neg (by decide), hbuild]
  dsimp only
  split
  · rename_i hrefused
    exact absurd hrefused htimer
  split
  · rename_i hemplace
    replace hemplace : s.pending.emplace s.nextId _ = none := hemplace
    rw [AList.emplace, if_neg hfresh] at hemplace
    exact nomatch hemplace
  · rename_i store hemplace
    obtain ⟨hfresh', rfl⟩ := AList.emplace_eq_some_iff.mp hemplace
    refine Holds.launchWith base hpump ?_ hfresh' rfl _ _ _
    exact h

end Pump

/-! ### The pump and the events -/

section

variable (h : Holds ctx base [] s)

include h

/-- The pump does. -/
theorem Holds.pumpLoop (fuel limit : ℕ) : Holds ctx base [] (pumpLoop ctx fuel limit s) := by
  induction fuel generalizing limit base s with
  | zero => exact h
  | succ fuel ih =>
    unfold ServiceScheduler.pumpLoop
    split
    · exact h
    rename_i work queue hqueue
    split
    · have hhead : Holds ctx base [(work, 0)] { s with queue } := by
        refine ⟨h.1, h.2.1, fun hfair ↦ ?_⟩
        have haccount := h.2.2 hfair
        rw [live, hqueue] at haccount
        exact haccount
      have hnested : ∀ {base : List WorkItem} {s : ServiceScheduler}, Holds ctx base [] s →
          Holds ctx base []
          (ServiceScheduler.stopIfIdle (ServiceScheduler.pumpLoop ctx fuel (s.limit ctx) s)) :=
        fun h ↦ (ih h _).stopIfIdle
      exact ih (hhead.startOrRetry hnested) limit
    · exact h

theorem Holds.pump : Holds ctx base [] (pump ctx s) :=
  (h.pumpLoop _ _).stopIfIdle

theorem Holds.resumed {id : RetryId} {retry : DeferredRetry}
    (hlookup : s.deferredRetries.lookup id = some retry) :
    Holds ctx base [] (s.resumed id retry) := by
  refine Holds.requeue ⟨h.1, h.2.1, fun hfair ↦ (h.2.2 hfair).perm ?_⟩
  have hperm := (AList.values_of_lookup hlookup).map fun retry ↦ (retry.work, 0)
  exact ((hperm.append_left _).trans List.perm_middle).append_right _

/-- So does a retry that is ready. -/
theorem Holds.onRetryReady (id : RetryId) : Holds ctx base [] (onRetryReady ctx id s) := by
  unfold ServiceScheduler.onRetryReady
  split
  · exact h
  · rename_i retry hlookup
    exact (h.resumed hlookup).pump

/-- **A retry whose time has come is made**, if there is room and its probe can be started. -/
theorem Holds.pump_resumed {id : RetryId} {retry : DeferredRetry}
    (hlookup : s.deferredRetries.lookup id = some retry) (hstatus : s.status = .ok)
    (hroom : s.pending.size < s.limit ctx) (hstarts : Starts ctx retry.work (s.resumed id retry)) :
    Holds ctx (retry.work :: submissions s.trace) []
      (ServiceScheduler.pump ctx (s.resumed id retry)) := by
  have hhead : Holds ctx base [(retry.work, 0)] { s.resumed id retry with queue := s.queue } :=
    h.resumed hlookup
  -- the port counts among the probes left, so the loop takes it
  obtain ⟨fuel, hfuel⟩ : ∃ fuel, (s.resumed id retry).probesLeft = fuel + 1 := by
    refine Nat.exists_eq_succ_of_ne_zero ?_
    show ((retry.work :: s.queue).map fun work ↦ work.probesLeft + 1).sum + _ ≠ 0
    rw [List.map_cons, List.sum_cons]
    omega
  rw [ServiceScheduler.pump, hfuel]
  unfold ServiceScheduler.pumpLoop
  show Holds ctx _ [] (ServiceScheduler.stopIfIdle (if _ then _ else _))
  rw [if_pos ⟨hstatus, hroom⟩]
  refine ((Holds.startOrRetry_of_starts ?_ hhead hstarts).pumpLoop _ _).stopIfIdle
  exact fun h ↦ (h.pumpLoop _ _).stopIfIdle

/-- **Every event keeps the budgets.** -/
theorem Holds.step (e : Event) : Holds ctx base [] (step ctx s e) := by
  cases e with
  | receive response => exact h.receiveWith Holds.pump response
  | onTimeout id => exact h.onTimeoutWith Holds.pump id
  | onRetryReady id => exact h.onRetryReady id
  | engineReturned status =>
    show Holds ctx base [] (engineReturned status s)
    unfold engineReturned
    split <;> exact h

end

/-! ### Runs -/

/-- The states of the runs: ports may be submitted at any time, and whatever can happen happens. -/
inductive Reachable (ctx : Context) : ServiceScheduler → Prop
  | create : Reachable ctx (create ctx)
  | submit {s : ServiceScheduler} (h : Reachable ctx s) (openPorts : List PortResult) :
    Reachable ctx (submit ctx openPorts s).2
  | step {s : ServiceScheduler} (h : Reachable ctx s) (e : Event) :
    Reachable ctx (ServiceScheduler.step ctx s e)

/-- No port was submitted yet. -/
structure Pristine (s : ServiceScheduler) : Prop where
  submitted : s.submitted = false
  queue : s.queue = []
  pending : s.pending = ∅
  deferredRetries : s.deferredRetries = ∅
  submissions : submissions s.trace = []

/-- `submit` is looking at the ports: those seen are in the queue once at most. -/
structure Collects (seen : List (Text × Port)) (s : ServiceScheduler) : Prop where
  submitted : s.submitted = true
  nodup : (s.queue.map WorkItem.key).Nodup
  seen : ∀ work ∈ s.queue, work.key ∈ seen ∧ work.retryCount = 0
  pending : s.pending = ∅
  deferredRetries : s.deferredRetries = ∅
  submissions : submissions s.trace = []

theorem Collects.holds (h : Collects seen s) : Holds ctx [] [] s := by
  refine ⟨h.submitted, List.nil_suffix, fun _ ↦ ?_⟩
  have hlive : s.live = s.queue.map (·, 0) := by
    rw [live, h.deferredRetries, h.pending, AList.values_empty, AList.values_empty, List.map_nil,
      List.map_nil, List.append_nil, List.append_nil]
  rw [List.nil_append, hlive, h.submissions]
  refine ⟨?_, ?_, fun _ _ _ hw ↦ absurd hw List.not_mem_nil, fun later work earlier h ↦ ?_, ?_,
    fun _ hw ↦ absurd hw List.not_mem_nil⟩
  · rw [List.map_map]
    exact h.nodup
  · rintro p hp
    obtain ⟨work, hwork, rfl⟩ := List.mem_map.mp hp
    exact (h.seen work hwork).2.symm
  · exact absurd h.symm (by simp)
  · rintro p hp
    obtain ⟨work, hwork, rfl⟩ := List.mem_map.mp hp
    exact (h.seen work hwork).2.le.trans (Nat.zero_le _)

theorem Collects.appendResult (h : Collects seen s) (portResult : PortResult)
    (state : DetectionState) (error : DetectionError) :
    Collects seen (s.appendResult ctx portResult none state error none none) :=
  ⟨h.submitted, h.nodup, h.seen, h.pending, h.deferredRetries, h.submissions⟩

theorem Collects.cons (h : Collects seen s) (key : Text × Port) : Collects (key :: seen) s :=
  ⟨h.submitted, h.nodup, fun work hwork ↦
    ⟨List.mem_cons_of_mem key (h.seen work hwork).1, (h.seen work hwork).2⟩, h.pending,
    h.deferredRetries, h.submissions⟩

theorem Collects.submitPort {collected : List (Text × Port) × ServiceScheduler}
    (h : Collects collected.1 collected.2) (portResult : PortResult) :
    Collects (submitPort ctx collected portResult).1 (submitPort ctx collected portResult).2 := by
  obtain ⟨seen, s⟩ := collected
  unfold ServiceScheduler.submitPort
  dsimp only
  split_ifs with hclosed hinvalid hseen hnone
  · exact h
  · exact ⟨h.submitted, h.nodup, h.seen, h.pending, h.deferredRetries, h.submissions⟩
  · exact h
  · exact (h.appendResult _ _ _).cons _
  · refine ⟨h.submitted, ?_, ?_, h.pending, h.deferredRetries, h.submissions⟩
    · rw [List.map_append, List.nodup_append_comm]
      refine List.nodup_cons.mpr ⟨fun hmem ↦ ?_, h.nodup⟩
      obtain ⟨work, hwork, hkey⟩ := List.mem_map.mp hmem
      replace hkey : work.key = (portResult.target, portResult.port) := hkey
      exact hseen (hkey ▸ (h.seen work hwork).1)
    · intro work hwork
      rcases List.mem_append.mp hwork with hwork | hwork
      · exact ⟨List.mem_cons_of_mem _ (h.seen work hwork).1, (h.seen work hwork).2⟩
      · obtain rfl := List.mem_singleton.mp hwork
        exact ⟨List.mem_cons_self, rfl⟩

theorem Pristine.submit (h : Pristine s) (openPorts : List PortResult) :
    Holds ctx [] [] (submit ctx openPorts s).2 ∨ Pristine (submit ctx openPorts s).2 := by
  unfold ServiceScheduler.submit
  rw [if_neg (by rw [h.submitted]; exact Bool.false_ne_true)]
  split
  · exact .inr ⟨h.submitted, h.queue, h.pending, h.deferredRetries, h.submissions⟩
  · left
    dsimp only
    have hstart : Collects [] { s with submitted := true } := by
      refine ⟨rfl, ?_, ?_, h.pending, h.deferredRetries, h.submissions⟩
      · show (s.queue.map WorkItem.key).Nodup
        rw [h.queue]
        exact List.nodup_nil
      · show ∀ work ∈ s.queue, _
        rw [h.queue]
        exact fun _ hwork ↦ absurd hwork List.not_mem_nil
    have hcollected : Collects
        (openPorts.foldl (ServiceScheduler.submitPort ctx) ([], { s with submitted := true })).1
        (openPorts.foldl (ServiceScheduler.submitPort ctx) ([], { s with submitted := true })).2 :=
      Runs.run_invariant
        (I := fun collected : List (Text × Port) × ServiceScheduler ↦
          Collects collected.1 collected.2)
        (fun _ portResult h ↦ Collects.submitPort h portResult) hstart openPorts
    refine Holds.stopIfIdle ?_
    split
    · exact hcollected.holds.pump
    · have hcleared : Collects [] { (openPorts.foldl (ServiceScheduler.submitPort ctx)
          ([], { s with submitted := true })).2 with queue := [] } :=
        ⟨hcollected.submitted, List.nodup_nil, fun _ hwork ↦ absurd hwork List.not_mem_nil,
          hcollected.pending, hcollected.deferredRetries, hcollected.submissions⟩
      exact hcleared.holds

theorem Pristine.step (h : Pristine s) (e : Event) : Pristine (step ctx s e) := by
  cases e with
  | receive response =>
    show Pristine (receive ctx response s)
    rw [receive, receiveWith, h.pending, AList.lookup_empty]
    exact h
  | onTimeout id =>
    show Pristine (onTimeout ctx id s)
    rw [onTimeout, onTimeoutWith, h.pending, AList.lookup_empty]
    exact h
  | onRetryReady id =>
    show Pristine (onRetryReady ctx id s)
    rw [onRetryReady, h.deferredRetries, AList.lookup_empty]
    exact h
  | engineReturned status =>
    show Pristine (engineReturned status s)
    rw [engineReturned, h.submitted, if_neg fun hfailed ↦ Bool.false_ne_true hfailed.1]
    exact h

theorem Reachable.holds (h : Reachable ctx s) : Holds ctx [] [] s ∨ Pristine s := by
  induction h with
  | create => exact .inr ⟨rfl, rfl, rfl, rfl, rfl⟩
  | submit _ openPorts ih =>
    rcases ih with hholds | hpristine
    · left
      rw [ServiceScheduler.submit, if_pos hholds.1]
      exact hholds
    · exact hpristine.submit openPorts
  | step _ e ih => exact ih.imp (·.step e) (·.step e)

/-- What `defer_retry` makes of a probe that was taken out of flight. -/
theorem triesAgain_deferRetry (s : ServiceScheduler) (id : ServiceProbeId) (pending : Pending)
    {retired : ServiceScheduler} (occasion : Occasion) (hdefers : Defers ctx retired)
    (hretired : retired.pending = s.pending.erase id ∧ retired.queue = s.queue ∧
      retired.results = s.results ∧ retired.deferredRetries = s.deferredRetries ∧
      retired.nextRetryId = s.nextRetryId) :
    (retired.deferRetry ctx occasion pending.work).1 = true ∧
      TriesAgain ctx id pending s (retired.deferRetry ctx occasion pending.work).2 := by
  obtain ⟨hpending, hqueue, hresults, hdeferred, hnext⟩ := hretired
  obtain ⟨hid, hfresh, htimer⟩ := hdefers
  unfold ServiceScheduler.deferRetry
  rw [if_neg hid]
  dsimp only
  split
  · rename_i hrefused
    exact absurd hrefused htimer
  split
  · rename_i hemplace
    replace hemplace : retired.deferredRetries.emplace retired.nextRetryId _ = none := hemplace
    rw [AList.emplace, if_neg hfresh] at hemplace
    exact nomatch hemplace
  · rename_i deferred hemplace
    obtain ⟨-, rfl⟩ := AList.emplace_eq_some_iff.mp hemplace
    refine ⟨rfl, hpending, hqueue, hresults, _, htimer, ?_, ?_⟩
    · rw [← hnext]
      exact List.mem_cons_self
    · rw [← hnext]
      exact AList.lookup_insert _

/-- A lost connection that passes takes `receive` to its branch for such connections. -/
theorem receive_of_losesConnection (hlookup : s.pending.lookup response.id = some pending)
    (hlost : LosesConnection ctx response pending) :
    receive ctx response s =
      transientError ctx (pump ctx) response pending .ioError .transportFailure s := by
  have hassess : ServiceProbe.assess ctx.config.maxResponseBytes response pending.submission =
      .error (.ioError, .transportFailure) := by
    rw [ServiceProbe.assess, if_neg (by simp [hlost.id_eq, hlost.source_eq]),
      if_neg (by simp [hlost.whole.1, hlost.whole.2]), hlost.kind_eq]
  rw [receive, receiveWith, hlookup]
  dsimp only
  rw [if_neg (not_not_intro hlost.source_eq), hassess]
  dsimp only
  rw [if_neg (by decide), if_neg (by decide),
    if_pos ⟨rfl, hlost.kind_eq, hlost.transient, hlost.tcp⟩]

/-- What the invariant says of a state. -/
theorem OwnBudget.of_holds (h : Holds ctx base [] s) (hfair : Fair s.trace) :
    OwnBudget ctx s := by
  have haccount := h.2.2 hfair
  have hflight : ∀ id pending, s.pending.lookup id = some pending →
      attempts (submissions s.trace) pending.work = pending.work.retryCount + 1 := by
    intro id pending hlookup
    refine haccount.attempts (pending.work, 1) (List.mem_append_right _ ?_)
    exact List.mem_append_right _
      (List.mem_map.mpr ⟨pending, AList.mem_values_of_lookup hlookup, rfl⟩)
  have hretries : ∀ id pending, s.pending.lookup id = some pending →
      (pending.work.retryCount < s.maxRetries ctx ↔
        attempts (submissions s.trace) pending.work ≤ s.maxRetries ctx) := by
    intro id pending hlookup
    rw [hflight id pending hlookup]
    exact Nat.lt_iff_add_one_le
  refine ⟨haccount.numbered, haccount.made_le, hflight, hretries, ?_, ?_, ?_, ?_⟩
  · intro id pending hlookup hleft hdefers
    have hroom : pending.work.retryCount < (s.timedOut id).maxRetries ctx := by
      have hmax : (s.timedOut id).maxRetries ctx = s.maxRetries ctx :=
        maxRetries_map (s := s) (f := TimingController.onTimeout) fun _ ↦ rfl
      rw [hmax]
      exact (hretries id pending hlookup).mpr hleft
    obtain ⟨hflag, hagain⟩ := triesAgain_deferRetry s id pending
      .retryAfterTimeout hdefers ⟨rfl, rfl, rfl, rfl, rfl⟩
    refine ⟨_, hagain, ?_⟩
    rw [onTimeout, onTimeoutWith, hlookup]
    dsimp only
    rw [← timedOut, if_pos hroom, ← Prod.eta ((s.timedOut id).deferRetry ctx _ _), hflag]
  · intro response pending hlookup hlost hleft hdefers
    obtain ⟨-, hagain⟩ := triesAgain_deferRetry s response.id pending
      .retryAfterError hdefers ⟨rfl, rfl, rfl, rfl, rfl⟩
    refine ⟨_, hagain, ?_⟩
    rw [receive_of_losesConnection hlookup hlost, transientError,
      if_pos ((hretries _ pending hlookup).mpr hleft)]
  · intro id retry hlookup
    refine haccount.attempts (retry.work, 0) (List.mem_append_right _ (List.mem_append_left _ ?_))
    refine List.mem_append_right _ ?_
    exact List.mem_map.mpr ⟨retry, AList.mem_values_of_lookup hlookup, rfl⟩
  · intro id retry hlookup
    have hready : onRetryReady ctx id s = pump ctx (s.resumed id retry) := by
      rw [onRetryReady, hlookup]
      rfl
    refine ⟨hready, fun hstatus hroom hstarts ↦ ?_⟩
    obtain ⟨later, hlater⟩ := (h.pump_resumed hlookup hstatus hroom hstarts).2.1
    exact ⟨later, hready ▸ hlater.symm⟩

/-- **Every probe has a retry budget of its own**, in every run in which no closed connection ends a
probe that was retried before its port goes on to the next. -/
theorem ownBudget_of_reachable {s : ServiceScheduler} (h : Reachable ctx s)
    (hfair : Fair s.trace) : OwnBudget ctx s := by
  rcases h.holds with hholds | hpristine
  · exact .of_holds hholds hfair
  · -- nothing was submitted, so nothing is in flight and nothing waits
    have hidle : ∀ id pending, s.pending.lookup id ≠ some pending := by
      intro id pending hlookup
      rw [hpristine.pending] at hlookup
      exact nomatch hlookup
    have hnone : ∀ id retry, s.deferredRetries.lookup id ≠ some retry := by
      intro id retry hlookup
      rw [hpristine.deferredRetries] at hlookup
      exact nomatch hlookup
    refine ⟨fun later work earlier hmade ↦ ?_, fun work hwork ↦ ?_, ?_, ?_, ?_, ?_, ?_, ?_⟩
    · rw [hpristine.submissions] at hmade
      exact absurd hmade.symm (by simp)
    · rw [hpristine.submissions] at hwork
      exact absurd hwork List.not_mem_nil
    · exact fun id pending hlookup ↦ absurd hlookup (hidle id pending)
    · exact fun id pending hlookup ↦ absurd hlookup (hidle id pending)
    · exact fun id pending hlookup ↦ absurd hlookup (hidle id pending)
    · exact fun response pending hlookup ↦ absurd hlookup (hidle response.id pending)
    · exact fun id retry hlookup ↦ absurd hlookup (hnone id retry)
    · exact fun id retry hlookup ↦ absurd hlookup (hnone id retry)

/-! ### A budget kept, and one lost -/

/-- Two probes that recognize nothing, one retry for each, and a transport and an engine that take
everything. -/
def oneRetry : Context where
  inet := { ntop6 := fun _ ↦ [], pton6 := fun _ ↦ none, ifNametoindex := fun _ ↦ 0 }
  recognizer := { regexSearch := fun _ _ ↦ none }
  environment :=
    { now := fun trace ↦ trace.length
      schedule := fun trace _ ↦ UInt64.ofNat (trace.length + 1)
      submit := fun _ _ ↦ { status := .ok } }
  database :=
    { probes :=
        [{ id := literal "first", name := literal "First" },
          { id := literal "second", name := literal "Second" }] }
  config := { retries := 1 }

/-- The port 80 of 10.0.0.1, which is open. -/
def openHttpPort : PortResult where
  target := literal "10.0.0.1"
  port := { number := 80, protocol := .tcp }
  state := .open
  probe := .tcpConnect
  reason := .immediateSuccess
  rttMs := none
  timestamp := 0
  retryCount := 0

/-- The first probe times out and is retried. -/
def afterRetry : ServiceScheduler :=
  step oneRetry
    (step oneRetry (submit oneRetry [openHttpPort] (create oneRetry)).2 (.onTimeout 1))
    (.onRetryReady 1)

theorem reachable_afterRetry : Reachable oneRetry afterRetry :=
  ((Reachable.create.submit [openHttpPort]).step (.onTimeout 1)).step (.onRetryReady 1)

theorem ownBudget_afterRetry : Fair afterRetry.trace ∧ OwnBudget oneRetry afterRetry := by
  have hfair : Fair afterRetry.trace := by
    have hnone : closures afterRetry.trace = [] := by decide +kernel
    intro work hwork
    rw [hnone] at hwork
    exact absurd hwork List.not_mem_nil
  exact ⟨hfair, ownBudget_of_reachable reachable_afterRetry hfair⟩

/-- The retry is answered with a closed connection. -/
def afterClosure : ServiceScheduler :=
  step oneRetry afterRetry
    (.receive { id := 2, sourceAddress := literal "10.0.0.1", kind := .closed })

theorem reachable_afterClosure : Reachable oneRetry afterClosure :=
  reachable_afterRetry.step _

/-- The second probe has had one attempt, of the two that it may have, and will not get another. -/
theorem pending_afterClosure : ∃ pending, afterClosure.pending.lookup 3 = some pending ∧
    pending.work.nextProbe = 1 ∧ pending.work.retryCount = 1 ∧
    attempts (submissions afterClosure.trace) pending.work = 1 ∧
    ServiceScheduler.maxRetries oneRetry afterClosure = 1 := by
  have hpending : (afterClosure.pending.lookup 3).any fun pending ↦
      pending.work.nextProbe = 1 ∧ pending.work.retryCount = 1 ∧
        attempts (submissions afterClosure.trace) pending.work = 1 ∧
        ServiceScheduler.maxRetries oneRetry afterClosure = 1 := by
    decide +kernel
  obtain ⟨pending, hlookup, hfacts⟩ := (Option.any_eq_true _ _).mp hpending
  exact ⟨pending, hlookup, of_decide_eq_true hfacts⟩

theorem not_ownBudget_afterClosure :
    Reachable oneRetry afterClosure ∧ ¬ OwnBudget oneRetry afterClosure := by
  refine ⟨reachable_afterClosure, fun h ↦ ?_⟩
  obtain ⟨pending, hlookup, -, hcount, hattempts, hmax⟩ := pending_afterClosure
  have hroom := (h.retries 3 pending hlookup).mpr (by rw [hattempts, hmax])
  rw [hcount, hmax] at hroom
  exact absurd hroom (Nat.lt_irrefl 1)

end ServiceScheduler

end Skan.Detect
