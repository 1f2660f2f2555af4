import Skan.Detect.RetryBudgets

/-!
# What becomes of a port

While a probe starts or ends, its port is in hand: out of the queue and not yet in flight, or out of
flight and not yet anywhere else. `Kept` lists what can become of it, as what an invariant has to
survive; the ports in hand are an argument of the invariant.

The functions that take the pump as an argument are then gone through once. A response or a timeout
ends in the pump, in a state that does not depend on it (`Pumps`), or leaves things as they were or
a probe in flight (`Rests`); the invariant holds on the way.
-/

namespace Skan.Detect

open Skan.Core Skan.PortScan Skan.ScanEngine

namespace ServiceScheduler

/-! ### Invariants -/

/-- What the port of a result is told from others by. -/
def resultKey (result : ServiceResult) : Text × Port := (result.target, result.port)

/-- A retry after a lost connection could not be deferred. -/
def Effect.isLoss : Effect → Bool
  | .failed .retryAfterError _ _ => true
  | _ => false

/-- How often this happened. -/
def lost (trace : List Effect) : ℕ := trace.countP Effect.isLoss

/-- Where the ports are. -/
structure Holdings where
  submitted : Bool
  timing : Option TimingController
  queue : List WorkItem
  pending : KeyedStore ServiceProbeId Pending
  deferredRetries : KeyedStore RetryId DeferredRetry
  results : List ServiceResult
  lost : ℕ

def holdings (s : ServiceScheduler) : Holdings :=
  ⟨s.submitted, s.timing, s.queue, s.pending, s.deferredRetries, s.results, lost s.trace⟩

/-- The invariant `I`, of the ports in hand and the state, survives whatever becomes of a port. -/
structure Kept (I : List WorkItem → ServiceScheduler → Prop) : Prop where
  quiet : ∀ {inHand s s'}, I inHand s → s'.holdings = s.holdings → I inHand s'
  timing : ∀ {inHand s} {f : TimingController → TimingController}, I inHand s →
    (∀ t, t.Bounded → (f t).Bounded) → I inHand { s with timing := s.timing.map f }
  publish : ∀ {s work result}, I [work] s → resultKey result = work.key →
    I [] { s with results := s.results ++ [result] }
  erase : ∀ {s id pending}, I [] s → s.pending.lookup id = some pending →
    I [pending.work] { s with pending := s.pending.erase id }
  replace : ∀ {s id pending examined}, I [] s → s.pending.lookup id = some pending →
    examined.work.key = pending.work.key → examined.work.probesLeft = pending.work.probesLeft →
    I [] { s with pending := s.pending.replace id examined }
  dequeue : ∀ {s work queue}, I [] s → s.queue = work :: queue → I [work] { s with queue }
  launch : ∀ {s id pending}, I [pending.work] s → id ∉ s.pending →
    I [] { s with pending := s.pending.insert id pending }
  requeue : ∀ {s work work'}, I [work] s → work'.key = work.key →
    work'.probesLeft < work.probesLeft → I [] { s with queue := work' :: s.queue }
  defer : ∀ {s id work retry}, I [work] s → id ∉ s.deferredRetries → retry.work.key = work.key →
    I [] { s with deferredRetries := s.deferredRetries.insert id retry }
  lose : ∀ {s work}, I [work] s → ∀ status, I [] (s.setStatus .retryAfterError status)

variable {ctx : Context} {I : List WorkItem → ServiceScheduler → Prop} {s : ServiceScheduler}
  {inHand : List WorkItem} {work : WorkItem} {id : ServiceProbeId} {pending : Pending}

/-- A call ends in the pump. -/
def Pumps (I : List WorkItem → ServiceScheduler → Prop)
    (f : (ServiceScheduler → ServiceScheduler) → ServiceScheduler) : Prop :=
  ∃ s', I [] s' ∧ ∀ pump, f pump = pump s'

/-- A call does not pump. -/
def Rests (I : List WorkItem → ServiceScheduler → Prop) (s : ServiceScheduler)
    (f : (ServiceScheduler → ServiceScheduler) → ServiceScheduler) : Prop :=
  ∃ s', I [] s' ∧ (s' = s ∨ s'.pending.size ≠ 0) ∧ ∀ pump, f pump = s'

theorem kept_of_cases {f : (ServiceScheduler → ServiceScheduler) → ServiceScheduler}
    (h : Pumps I f ∨ Rests I s f) {pump : ServiceScheduler → ServiceScheduler}
    (hpump : ∀ {s : ServiceScheduler}, I [] s → I [] (pump s)) : I [] (f pump) := by
  rcases h with ⟨s', h', heq⟩ | ⟨s', h', -, heq⟩
  · rw [heq]
    exact hpump h'
  · rw [heq]
    exact h'

theorem WorkItem.probesLeft_next (h : work.hasNext = true) :
    work.probeIndices.length - (work.nextProbe + 1) < work.probesLeft := by
  have hnext : work.nextProbe + 1 < work.probeIndices.length := of_decide_eq_true h
  rw [probesLeft]
  omega

/-! ### Ending a probe -/

theorem holdings_receivedAt (ctx : Context) (response : ServiceResponse) :
    (s.receivedAt ctx response).2.holdings = s.holdings := by
  unfold ServiceScheduler.receivedAt
  split <;> rfl

namespace Kept

variable (hI : Kept I) {response : ServiceResponse}

include hI

theorem stopIfIdle (h : I inHand s) : I inHand s.stopIfIdle := by
  unfold ServiceScheduler.stopIfIdle
  split
  · exact hI.quiet h rfl
  · exact h

theorem appendResult (h : I [work] s) {portResult : PortResult}
    (hkey : (portResult.target, portResult.port) = work.key)
    (probe : Option ServiceProbeDefinition) (state : DetectionState) (error : DetectionError)
    (found : Option ServiceMatchResult) (rttMs : Option ℚ) :
    I [] (s.appendResult ctx portResult probe state error found rttMs) := by
  have hread : I [work] (s.readClock ctx).2 := hI.quiet h rfl
  cases found <;> exact hI.publish hread hkey

theorem retire (hlookup : s.pending.lookup id = some pending) (h : I [] s) :
    I [pending.work] (s.retire id pending) := by
  have hcancelled : I [] ((s.cancelTimer pending.timerId).cancelSubmission id) := hI.quiet h rfl
  exact hI.erase hcancelled hlookup

/-- The port goes on to its next probe. -/
theorem next (h : I [work] s) (hnext : work.hasNext = true) (retryCount : ℕ) :
    I [] (s.requeue { work with nextProbe := work.nextProbe + 1, retryCount }) := by
  have hrecorded : I [work] (s.record (.requeued s.status)) := hI.quiet h rfl
  exact hI.requeue hrecorded rfl (WorkItem.probesLeft_next hnext)

/-- `defer_retry`: the port waits, or is left in hand, or is lost. -/
theorem deferRetry (ctx : Context) (h : I [work] s) (occasion : Occasion) :
    ((s.deferRetry ctx occasion work).1 = true ∧ I [] (s.deferRetry ctx occasion work).2) ∨
      (s.deferRetry ctx occasion work).1 = false ∧
        I (if occasion = .retryAfterError then [] else [work])
          (s.deferRetry ctx occasion work).2 := by
  have hfail : ∀ {s : ServiceScheduler}, I [work] s →
      I (if occasion = .retryAfterError then [] else [work])
        (s.setStatus occasion .internalError) := by
    intro s h
    cases occasion with
    | retryAfterError => exact hI.lose h _
    | start | retryAfterTimeout | engine =>
      exact hI.quiet h rfl
  unfold ServiceScheduler.deferRetry
  dsimp only
  split
  · exact .inr ⟨rfl, hfail h⟩
  split
  · refine .inr ⟨rfl, hfail (hI.quiet h rfl)⟩
  split
  · refine .inr ⟨rfl, hfail (hI.quiet h rfl)⟩
  · rename_i deferred hemplace
    obtain ⟨hfresh, rfl⟩ := AList.emplace_eq_some_iff.mp hemplace
    refine .inl ⟨rfl, ?_⟩
    refine hI.defer (hI.quiet h rfl) hfresh rfl

theorem completePending (hlookup : s.pending.lookup id = some pending) (h : I [] s)
    (state : DetectionState) (error : DetectionError) (found : Option ServiceMatchResult)
    (completedAt : TimePoint) :
    Pumps I (completePending ctx · id state error found completedAt s) := by
  unfold ServiceScheduler.completePending
  rw [hlookup]
  exact ⟨_, hI.timing (hI.appendResult (hI.retire hlookup h) rfl _ _ _ _ _)
    fun t ht ↦ ht.onResponse _, fun _ ↦ rfl⟩

section

variable (hlookup : s.pending.lookup response.id = some pending)

include hlookup

theorem conclude (h : I [] s) (state : DetectionState) (error : DetectionError)
    (found : Option ServiceMatchResult) :
    Pumps I (conclude ctx · response state error found s) := by
  have hsame := holdings_receivedAt (s := s) ctx response
  have hpending : (s.receivedAt ctx response).2.pending = s.pending :=
    congrArg Holdings.pending hsame
  exact hI.completePending (hpending ▸ hlookup) (hI.quiet h hsame) state error found _

/-- The connection of a probe is lost. -/
theorem transientError (h : I [] s) (status : StatusCode) (error : DetectionError) :
    Pumps I (transientError ctx · response pending status error s) := by
  have hretired := hI.retire hlookup h
  unfold ServiceScheduler.transientError
  dsimp only
  split_ifs with hretry hnext hpublishable
  · -- the port waits for its retry, or is lost
    rcases hI.deferRetry ctx hretired .retryAfterError with ⟨-, hdeferred⟩ | ⟨-, hlost⟩
    · exact ⟨_, hdeferred, fun _ ↦ rfl⟩
    · exact ⟨_, hlost, fun _ ↦ rfl⟩
  · exact ⟨_, hI.next hretired hnext 0, fun _ ↦ rfl⟩
  · have hreceived := hI.quiet hretired (holdings_receivedAt ctx response)
    exact ⟨_, hI.timing (hI.appendResult hreceived rfl _ _ _ _ _) fun t ht ↦ ht.onResponse _,
      fun _ ↦ rfl⟩
  · exact hI.conclude hlookup h _ _ _
  · exact hI.conclude hlookup h _ _ _

/-- The connection of a probe is closed. -/
theorem finishClosed (h : I [] s) : Pumps I (finishClosed ctx · response pending s) := by
  have hretired : I [pending.work] ((s.retire response.id pending).record (.closed pending.work)) :=
    hI.quiet (hI.retire hlookup h) rfl
  have hreceived := hI.quiet hretired (holdings_receivedAt ctx response)
  unfold ServiceScheduler.finishClosed
  dsimp only
  split_ifs with hsettled hnext
  · exact ⟨_, hI.appendResult hretired rfl _ _ _ _ _, fun _ ↦ rfl⟩
  · exact ⟨_, hI.next hretired hnext _, fun _ ↦ rfl⟩
  · exact ⟨_, hI.appendResult hreceived rfl _ _ _ _ _, fun _ ↦ rfl⟩
  · exact ⟨_, hI.appendResult hreceived rfl _ _ _ _ _, fun _ ↦ rfl⟩
  · exact ⟨_, hI.appendResult hreceived rfl _ _ _ _ _, fun _ ↦ rfl⟩

end

omit hI in
/-- Reading an answer changes what is known of its port, and neither whose it is nor its probe. -/
theorem same_examined (received : Pending) (found : ServiceMatchResult) :
    (received.restore.consider found).work.key = received.work.key ∧
      (received.restore.consider found).work.probesLeft = received.work.probesLeft := by
  unfold Pending.consider Pending.restore
  split_ifs <;> exact ⟨rfl, rfl⟩

theorem examine {received : Pending} (hlookup : s.pending.lookup response.id = some pending)
    (h : I [] s) (hwork : received.work = pending.work) :
    Pumps I (examine ctx · response received s) ∨
      Rests I s (examine ctx · response received s) := by
  unfold ServiceScheduler.examine
  dsimp only
  generalize ServiceMatcher.matchResponse ctx.recognizer ctx.database _ _ _ = found
  obtain ⟨hkey, hleft⟩ := same_examined received found
  rw [hwork] at hkey hleft
  have hreplaced := hI.replace h hlookup hkey hleft
  have hagain := AList.lookup_replace (received.restore.consider found) hlookup
  split_ifs
  · exact .inl (hI.conclude hagain hreplaced _ _ _)
  · refine .inr ⟨_, hreplaced, .inr ?_, fun _ ↦ rfl⟩
    rw [AList.size_replace _ hlookup, AList.size_of_lookup hlookup]
    exact Nat.succ_ne_zero _
  · exact .inl (hI.finishClosed hagain hreplaced)

/-- **A response** ends in the pump, or leaves a probe in flight or everything as it was. -/
theorem receiveWith_cases (ctx : Context) (h : I [] s) (response : ServiceResponse) :
    Pumps I (receiveWith ctx · response s) ∨ Rests I s (receiveWith ctx · response s) := by
  have hsame : Rests I s fun _ ↦ s := ⟨s, h, .inl rfl, fun _ ↦ rfl⟩
  unfold ServiceScheduler.receiveWith
  split
  · exact .inr hsame
  rename_i pending hlookup
  split
  · exact .inr hsame
  split
  · -- bytes that count, or too many of them
    split
    · exact .inl (hI.conclude hlookup h _ _ _)
    · exact hI.examine hlookup h rfl
  · -- no bytes: only a closed connection is examined
    split
    · split
      · exact .inr hsame
      · exact hI.examine hlookup h rfl
    split
    · exact .inl (hI.conclude hlookup h _ _ _)
    split
    · exact .inl (hI.transientError hlookup h _ _)
    split
    · exact .inl (hI.conclude hlookup h _ _ _)
    · exact hI.examine hlookup h rfl

theorem giveUp (h : I [pending.work] s) : I [] (s.giveUp ctx pending) := by
  unfold ServiceScheduler.giveUp
  dsimp only
  split_ifs with hsettled hnext
  · exact hI.appendResult h rfl _ _ _ _ _
  · exact hI.next h hnext 0
  · exact hI.appendResult h rfl _ _ _ _ _
  · exact hI.appendResult h rfl _ _ _ _ _

/-- **A timeout** ends in the pump, or there is nothing in flight that it is for. -/
theorem onTimeoutWith_cases (ctx : Context) (h : I [] s) (id : ServiceProbeId) :
    Pumps I (onTimeoutWith ctx · id s) ∨ Rests I s (onTimeoutWith ctx · id s) := by
  unfold ServiceScheduler.onTimeoutWith
  split
  · exact .inr ⟨s, h, .inl rfl, fun _ ↦ rfl⟩
  rename_i pending hlookup
  left
  dsimp only
  have hcancelled : I [] (s.cancelSubmission id) := hI.quiet h rfl
  have hretired : I [pending.work]
      { s.cancelSubmission id with
        pending := s.pending.erase id
        timing := s.timing.map TimingController.onTimeout } :=
    hI.timing (hI.erase hcancelled hlookup) fun t ht ↦ ht.onTimeout
  split
  · -- without a timer for the retry, the port goes on as if it had none left
    rcases hI.deferRetry ctx hretired .retryAfterTimeout with ⟨hflag, hdeferred⟩ | ⟨hflag, hleft⟩
    · split
      · rename_i s' heq
        rw [heq] at hdeferred
        exact ⟨_, hdeferred, fun _ ↦ rfl⟩
      · rename_i heq
        rw [heq] at hflag
        exact absurd hflag Bool.false_ne_true
    · split
      · rename_i heq
        rw [heq] at hflag
        exact absurd hflag.symm Bool.false_ne_true
      · rename_i s' heq
        rw [heq, if_neg (by decide)] at hleft
        exact ⟨_, hI.giveUp hleft, fun _ ↦ rfl⟩
  · exact ⟨_, hI.giveUp hretired, fun _ ↦ rfl⟩

/-! ### Starting a probe -/

section Pump

variable {pump : ServiceScheduler → ServiceScheduler}
  (hpump : ∀ {s : ServiceScheduler}, I [] s → I [] (pump s))

include hpump

theorem receiveWith (h : I [] s) (response : ServiceResponse) :
    I [] (receiveWith ctx pump response s) :=
  kept_of_cases (hI.receiveWith_cases ctx h response) hpump

theorem onTimeoutWith (h : I [] s) (id : ServiceProbeId) :
    I [] (onTimeoutWith ctx pump id s) :=
  kept_of_cases (hI.onTimeoutWith_cases ctx h id) hpump

/-- The transport takes the probe, or it refuses it and has not called back. -/
theorem launchWith (h : I [] s) (hlookup : s.pending.lookup id = some pending)
    (hwork : pending.work = work) (timer : TimerId) (definition : ServiceProbeDefinition)
    (submission : ServiceSubmission) :
    I [] (ServiceScheduler.launch ctx pump id timer work definition submission s) := by
  subst hwork
  have hsubmitted : I [] (transportSubmit ctx pending.work submission s).2 := hI.quiet h rfl
  unfold ServiceScheduler.launch
  dsimp only
  split
  · exact Runs.run_invariant (I := I []) (fun _ response h ↦ hI.receiveWith hpump h response)
      hsubmitted _
  · rename_i hrefused
    rw [SubmitOutcome.responses_of_refused _ hrefused, List.foldl_nil]
    have hcancelled : I [] (cancelTimer timer (transportSubmit ctx pending.work submission s).2) :=
      hI.quiet hsubmitted rfl
    refine hI.appendResult (hI.quiet (hI.erase hcancelled hlookup) ?_) rfl _ _ _ _ _
    rfl

/-- **A probe** is turned down, or it is launched. -/
theorem startOrRetry (h : I [work] s) : I [] (startOrRetry ctx pump work s) := by
  have hreject : ∀ {s' : ServiceScheduler} {probe : Option ServiceProbeDefinition}
      {state : DetectionState} {error : DetectionError}, I [work] s' →
      I [] (s'.appendResult ctx work.portResult probe state error none none) :=
    fun h ↦ hI.appendResult h rfl _ _ _ _ _
  have hready : ∀ (delay : ℤ) (callback : TimerCallback),
      I [work]
        ((readClock ctx { s with nextId := s.nextId + 1 }).2.schedule ctx delay callback).2 :=
    fun _ _ ↦ hI.quiet h rfl
  unfold ServiceScheduler.startOrRetry
  split
  · exact hreject h
  dsimp only
  split
  · exact hreject h
  split
  · exact hreject (hI.quiet h rfl)
  split
  · exact hreject (hI.quiet h rfl)
  split
  · exact hreject (hI.quiet h rfl)
  · rename_i store hemplace
    obtain ⟨hfresh, rfl⟩ := AList.emplace_eq_some_iff.mp hemplace
    apply hI.launchWith hpump
    · exact hI.launch (hready _ _) hfresh
    · exact AList.lookup_insert _
    · rfl

end Pump

/-! ### The pump -/

theorem pumpLoop (h : I [] s) (fuel limit : ℕ) : I [] (pumpLoop ctx fuel limit s) := by
  induction fuel generalizing limit s with
  | zero => exact h
  | succ fuel ih =>
    unfold ServiceScheduler.pumpLoop
    split
    · exact h
    rename_i work queue hqueue
    split
    · exact ih (hI.startOrRetry (fun h ↦ hI.stopIfIdle (ih h _)) (hI.dequeue h hqueue)) limit
    · exact h

theorem pump (h : I [] s) : I [] (pump ctx s) := hI.stopIfIdle (hI.pumpLoop h _ _)

end Kept

end ServiceScheduler

end Skan.Detect
