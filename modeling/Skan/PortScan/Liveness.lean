import Skan.Io.Reactor
import Skan.PortScan.Quiescence

/-!
# When a TCP port scan waits forever

`PortScanScheduler::run` runs the engine, whose loop waits without a timeout when no timer is armed.
The armed timers are exactly those of the attempts in flight and of the deferred retries (`Armed`),
so the question is when the scheduler has neither, and the loop goes on.

* When `run` is called so, its first wait is forever: `submit` may have stopped the engine, but
  `run` begins by forgetting that.
* During the loop, a callback that ends the last attempt pumps, and a pump that finds nothing left
  to do stops the engine. Only what stays queued under a failed status keeps it from that, so
  harmless steps (`Skan.PortScan.Quiescence`) never lead to such a wait.

`scan_awake_iff` puts these together.

## The order of the proofs

As in `Skan.PortScan.Actions`, the functions that are given a pump come first, for any pump that
keeps the timers armed; what they do before they pump is stated apart (`Ends`), since a
callback is judged by its last pump.
-/

namespace Skan.PortScan

open Skan.Core Skan.ScanEngine
open Skan.Io hiding TimerId

/-- What an entry of the trace is to the engine. A refused timer is nothing to it. -/
def Effect.call : Effect → Option (EngineCall TimerCallback)
  | .timerScheduled _ callback timer =>
    if timer = 0 then none else some (.schedule callback timer)
  | .timerCancelled timer => some (.cancel timer)
  | .engineStopped => some .stop
  | _ => none

/-- The calls to the engine in a trace. -/
def callsOf (trace : List Effect) : List (EngineCall TimerCallback) := trace.filterMap Effect.call

/-- A scheduler over an engine that has memory for a timer when `accepts` says so. -/
def SchedulerContext.overEngine (accepts : List Effect → Bool) (ctx : SchedulerContext) :
    SchedulerContext :=
  { ctx with
    environment :=
      { ctx.environment with
        schedule := fun trace _ ↦ EngineCall.answer (accepts trace) (callsOf trace) } }

/-- The answers of the environment are those of an engine. -/
def SchedulerContext.EngineAnswers (ctx : SchedulerContext) : Prop :=
  ∀ trace delay, ctx.environment.schedule trace delay ≠ 0 →
    ctx.environment.schedule trace delay = EngineCall.nextTimer (callsOf trace)

theorem SchedulerContext.engineAnswers_overEngine (accepts : List Effect → Bool)
    (ctx : SchedulerContext) : (ctx.overEngine accepts).EngineAnswers := by
  intro trace delay hne
  replace hne : EngineCall.answer (accepts trace) (callsOf trace) ≠ 0 := hne
  show EngineCall.answer (accepts trace) (callsOf trace) = _
  rw [EngineCall.answer] at hne ⊢
  split_ifs at hne ⊢
  · rfl
  · exact absurd rfl hne

theorem Pending.timerId_observe (pending : Pending) (state : PortState) (reason : ScanReason)
    (at_ : TimePoint) : (pending.observe state reason at_).timerId = pending.timerId := by
  rw [Pending.observe]
  split
  · rfl
  · split_ifs
    · rfl
    · rfl

namespace PortScanScheduler

variable {timer : TimerId} {callback : TimerCallback} {delay : ℤ} {id : PortProbeId}
  {pending : Pending}

/-- Everything the scheduler has asked of the engine. -/
def calls (s : PortScanScheduler) : List (EngineCall TimerCallback) := callsOf s.trace

/-- The event of a timer. -/
def eventOf : TimerCallback → Event
  | .onTimeout id => .onTimeout id
  | .onRetryReady id => .onRetryReady id

/-- The callbacks of the scheduler: the capture descriptor's, for one response, and its timers'. -/
def client (ctx : SchedulerContext) : Client PortScanScheduler PortResponse TimerCallback where
  onEvent response s := step ctx s (.receive response)
  onTimer callback s := step ctx s (eventOf callback)
  calls := calls

/-- The waits of `run`, which refuses a scheduler that has not been given its work. -/
def waits (ctx : SchedulerContext) (place : List TimerId → TimerId → ℕ)
    (wakeups : List (Wakeup PortResponse)) (s : PortScanScheduler) :
    List (Reactor PortScanScheduler TimerCallback) :=
  if s.submitted then
    Reactor.waits (client ctx) place wakeups (Reactor.start (client ctx) place s)
  else []

/-! ### The armed timers -/

/-- The timer of an attempt in flight or of a deferred retry. -/
def Owns (s : PortScanScheduler) (timer : TimerId) : TimerCallback → Prop
  | .onTimeout id => (s.pending.lookup id).map Pending.timerId = some timer
  | .onRetryReady id => (s.deferredRetries.lookup id).map DeferredRetry.timerId = some timer

/-- The armed timers are those of the attempts in flight and of the deferred retries, and the engine
answers as it has. -/
structure Armed (s : PortScanScheduler) (e : IOEngine TimerCallback) : Prop where
  owned : e.Owned s.Owns
  answers : e.Answers s.calls

/-- A piece of the scheduler's work that leaves the timers as they should be. -/
abbrev Keeps (ctx : SchedulerContext) (s : PortScanScheduler) (e : IOEngine TimerCallback)
    (s' : PortScanScheduler) : Prop :=
  (client ctx).Keeps Armed s e s'

variable {ctx : SchedulerContext} {s s' : PortScanScheduler} {e : IOEngine TimerCallback}

theorem owns_unique {timer' : TimerId} (h : s.Owns timer callback) (h' : s.Owns timer' callback) :
    timer' = timer := by
  cases callback with
  | onTimeout id => exact Option.some.inj (h'.symm.trans h)
  | onRetryReady id => exact Option.some.inj (h'.symm.trans h)

/-- What leaves the timers of the containers as they are and asks nothing of the engine. -/
theorem keeps_of_owns (ha : Armed s e) (howns : ∀ timer callback, s'.Owns timer callback ↔
    s.Owns timer callback) (hcalls : s'.calls = s.calls) : Keeps ctx s e s' :=
  ⟨[], hcalls, fun timer callback ↦ (ha.owned timer callback).trans (howns timer callback).symm,
    hcalls ▸ ha.answers⟩

theorem keeps_of_same (ha : Armed s e) (hpending : s'.pending = s.pending)
    (hdeferred : s'.deferredRetries = s.deferredRetries) (hcalls : s'.calls = s.calls) :
    Keeps ctx s e s' := by
  refine keeps_of_owns ha (fun timer callback ↦ ?_) hcalls
  cases callback with
  | onTimeout id => rw [Owns, Owns, hpending]
  | onRetryReady id => rw [Owns, Owns, hdeferred]

/-- No timer is armed exactly when nothing is in flight and nothing deferred. -/
theorem Armed.timers_eq_empty_iff (h : Armed s e) :
    e.timers = ∅ ↔ s.pending.size = 0 ∧ s.deferredRetries.size = 0 := by
  constructor
  · intro hempty
    have hnone : ∀ timer callback, ¬ s.Owns timer callback := by
      intro timer callback howns
      rw [← h.owned, hempty, AList.lookup_empty] at howns
      exact nomatch howns
    constructor
    · refine AList.size_eq_zero_of_lookup fun id ↦ ?_
      by_contra hsome
      obtain ⟨pending, hlookup⟩ := Option.ne_none_iff_exists'.mp hsome
      exact hnone pending.timerId (.onTimeout id) (by rw [Owns, hlookup]; rfl)
    · refine AList.size_eq_zero_of_lookup fun id ↦ ?_
      by_contra hsome
      obtain ⟨retry, hlookup⟩ := Option.ne_none_iff_exists'.mp hsome
      exact hnone retry.timerId (.onRetryReady id) (by rw [Owns, hlookup]; rfl)
  · rintro ⟨hpending, hdeferred⟩
    refine AList.eq_empty_of_size_eq_zero (AList.size_eq_zero_of_lookup fun timer ↦ ?_)
    by_contra hsome
    obtain ⟨callback, hlookup⟩ := Option.ne_none_iff_exists'.mp hsome
    rw [h.owned] at hlookup
    cases callback with
    | onTimeout id =>
      rw [Owns, AList.eq_empty_of_size_eq_zero hpending] at hlookup
      exact nomatch hlookup
    | onRetryReady id =>
      rw [Owns, AList.eq_empty_of_size_eq_zero hdeferred] at hlookup
      exact nomatch hlookup

/-! ### Arming and cancelling -/

/-- What a granted timer is to the engine. -/
theorem schedule_granted (hengine : ctx.EngineAnswers) (ha : Armed s e)
    (hne : ctx.environment.schedule s.trace delay ≠ 0) (callback : TimerCallback) :
    let timer := ctx.environment.schedule s.trace delay
    timer ∉ e.timers ∧
      (e.apply (.schedule callback timer)).timers = e.timers.insert timer callback ∧
      (e.apply (.schedule callback timer)).Answers (.schedule callback timer :: s.calls) :=
  IOEngine.timers_apply_schedule ha.answers (hengine s.trace delay hne) hne callback

theorem callsOf_granted (h : timer ≠ 0) (delay : ℤ) (callback : TimerCallback)
    (trace : List Effect) :
    callsOf (.timerScheduled delay callback timer :: trace) =
      .schedule callback timer :: callsOf trace :=
  List.filterMap_cons_some (if_neg h)

theorem callsOf_refused (h : timer = 0) (delay : ℤ) (callback : TimerCallback)
    (trace : List Effect) : callsOf (.timerScheduled delay callback timer :: trace) =
      callsOf trace :=
  List.filterMap_cons_none (if_pos h)

/-- A timer that is refused. -/
theorem keeps_of_refused (ha : Armed s e) (h : (s.schedule ctx delay callback).1 = 0) :
    Keeps ctx s e (s.schedule ctx delay callback).2 :=
  keeps_of_same ha rfl rfl (callsOf_refused h _ _ _)

/-- A timer that is cancelled as soon as it is armed. -/
theorem keeps_of_cancelled (hengine : ctx.EngineAnswers) (ha : Armed s e)
    (hne : (s.schedule ctx delay callback).1 ≠ 0) :
    Keeps ctx s e
      ((s.schedule ctx delay callback).2.cancelTimer (s.schedule ctx delay callback).1) := by
  obtain ⟨hfresh, htimers, hanswers⟩ := schedule_granted hengine ha hne callback
  set timer := ctx.environment.schedule s.trace delay
  have hcalls : callsOf (.timerCancelled timer :: .timerScheduled delay callback timer :: s.trace) =
      .cancel timer :: .schedule callback timer :: s.calls :=
    congrArg _ (callsOf_granted hne _ _ _)
  refine ⟨[.cancel timer, .schedule callback timer], hcalls, fun t c ↦ ?_, ?_⟩
  · show ((e.apply (.schedule callback timer)).cancel timer).timers.lookup t = some c ↔ _
    rw [IOEngine.timers_cancel_of_insert hfresh htimers, ha.owned]
    cases c with
    | onTimeout => exact Iff.rfl
    | onRetryReady => exact Iff.rfl
  · show ((e.apply (.schedule callback timer)).cancel timer).Answers
      (callsOf (.timerCancelled timer :: .timerScheduled delay callback timer :: s.trace))
    rw [hcalls, IOEngine.Answers, EngineCall.nextTimer_cons_of_not_arms rfl]
    exact hanswers

/-- What is left when an attempt ends: its timer is no longer accounted for. -/
theorem owned_erase_pending (ha : Armed s e) (hlookup : s.pending.lookup id = some pending)
    (hpending : s'.pending = s.pending.erase id)
    (hdeferred : s'.deferredRetries = s.deferredRetries) :
    (e.cancel pending.timerId).Owned s'.Owns := by
  have howner : s.Owns pending.timerId (.onTimeout id) := by
    rw [Owns, hlookup]
    rfl
  refine ha.owned.release howner (fun _ ↦ owns_unique howner) fun timer callback ↦ ?_
  cases callback with
  | onTimeout other =>
    rw [Owns, Owns, hpending, AList.map_lookup_erase, ne_eq, ne_eq, TimerCallback.onTimeout.injEq]
  | onRetryReady other =>
    rw [Owns, Owns, hdeferred]
    exact (and_iff_left nofun).symm

theorem owned_erase_deferred (ha : Armed s e) {id : RetryId} {retry : DeferredRetry}
    (hlookup : s.deferredRetries.lookup id = some retry) (hpending : s'.pending = s.pending)
    (hdeferred : s'.deferredRetries = s.deferredRetries.erase id) :
    (e.cancel retry.timerId).Owned s'.Owns := by
  have howner : s.Owns retry.timerId (.onRetryReady id) := by
    rw [Owns, hlookup]
    rfl
  refine ha.owned.release howner (fun _ ↦ owns_unique howner) fun timer callback ↦ ?_
  cases callback with
  | onTimeout other =>
    rw [Owns, Owns, hpending]
    exact (and_iff_left nofun).symm
  | onRetryReady other =>
    rw [Owns, Owns, hdeferred, AList.map_lookup_erase, ne_eq, ne_eq,
      TimerCallback.onRetryReady.injEq]

/-- An attempt that ends while its timer is armed: the timer is cancelled. -/
theorem keeps_erase_pending (ha : Armed s e) (hlookup : s.pending.lookup id = some pending)
    (hpending : s'.pending = s.pending.erase id)
    (hdeferred : s'.deferredRetries = s.deferredRetries)
    (hcalls : s'.calls = .cancel pending.timerId :: s.calls) : Keeps ctx s e s' := by
  refine ⟨[.cancel pending.timerId], hcalls, owned_erase_pending ha hlookup hpending hdeferred, ?_⟩
  show (e.cancel pending.timerId).Answers s'.calls
  rw [hcalls, IOEngine.Answers, EngineCall.nextTimer_cons_of_not_arms rfl]
  exact ha.answers

section

variable (hengine : ctx.EngineAnswers)

include hengine

/-- A timer that is armed for a new entry. -/
theorem keeps_of_granted (ha : Armed s e)
    (htimer : ctx.environment.schedule s.trace delay = timer) (hne : timer ≠ 0)
    (howns : ∀ t c, s'.Owns t c ↔ c = callback ∧ t = timer ∨ s.Owns t c)
    (hcalls : s'.calls = .schedule callback timer :: s.calls) : Keeps ctx s e s' := by
  obtain ⟨hfresh, htimers, hanswers⟩ := schedule_granted hengine ha (htimer ▸ hne) callback
  rw [htimer] at hfresh htimers hanswers
  refine ⟨[.schedule callback timer], hcalls, ha.owned.acquire hfresh htimers howns, ?_⟩
  show (e.apply (.schedule callback timer)).Answers s'.calls
  rw [hcalls]
  exact hanswers

theorem keeps_insert_deferred (ha : Armed s e) {id : RetryId} {retry : DeferredRetry}
    (hfresh : id ∉ s.deferredRetries)
    (htimer : ctx.environment.schedule s.trace delay = retry.timerId) (hne : retry.timerId ≠ 0)
    (hpending : s'.pending = s.pending)
    (hdeferred : s'.deferredRetries = s.deferredRetries.insert id retry)
    (hcalls : s'.calls = .schedule (.onRetryReady id) retry.timerId :: s.calls) :
    Keeps ctx s e s' := by
  refine keeps_of_granted hengine ha htimer hne (fun timer callback ↦ ?_) hcalls
  cases callback with
  | onTimeout other =>
    rw [Owns, Owns, hpending]
    exact (or_iff_right fun h ↦ nomatch h.1).symm
  | onRetryReady other =>
    rw [Owns, Owns, hdeferred, AList.map_lookup_insert hfresh, TimerCallback.onRetryReady.injEq]

theorem keeps_insert_pending (ha : Armed s e) (pending : Pending) (hfresh : id ∉ s.pending)
    (htimer : ctx.environment.schedule s.trace delay = pending.timerId)
    (hne : pending.timerId ≠ 0) (hpending : s'.pending = s.pending.insert id pending)
    (hdeferred : s'.deferredRetries = s.deferredRetries)
    (hcalls : s'.calls = .schedule (.onTimeout id) pending.timerId :: s.calls) :
    Keeps ctx s e s' := by
  refine keeps_of_granted hengine ha htimer hne (fun timer callback ↦ ?_) hcalls
  cases callback with
  | onTimeout other =>
    rw [Owns, Owns, hpending, AList.map_lookup_insert hfresh, TimerCallback.onTimeout.injEq]
  | onRetryReady other =>
    rw [Owns, Owns, hdeferred]
    exact (or_iff_right fun h ↦ nomatch h.1).symm

end

/-! ### Ending an attempt -/

/-- `defer_retry` arms the timer of what it keeps. -/
theorem keeps_deferRetry (hengine : ctx.EngineAnswers) (ha : Armed s e) (work : WorkItem) :
    Keeps ctx s e (s.deferRetry ctx work).2 := by
  rw [deferRetry]
  dsimp only
  split
  · exact keeps_of_same ha rfl rfl rfl
  split
  · rename_i hrefused
    exact keeps_of_same ha rfl rfl (callsOf_refused hrefused _ _ _)
  rename_i hne
  have hcounted : Keeps ctx s e { s with nextRetryId := s.nextRetryId + 1 } :=
    keeps_of_same ha rfl rfl rfl
  split
  · refine (hcounted.trans fun ha ↦ keeps_of_cancelled hengine ha hne).trans fun ha ↦ ?_
    exact keeps_of_same ha rfl rfl rfl
  · rename_i deferredRetries hemplace
    obtain ⟨hfresh, rfl⟩ := AList.emplace_eq_some_iff.mp hemplace
    exact keeps_insert_deferred hengine ha hfresh rfl hne rfl rfl (callsOf_granted hne _ _ _)

section Attempt

variable {pump : PortScanScheduler → PortScanScheduler}

/-- **Finishing an attempt** ends with the pump. -/
theorem finishAttempt_pumps (hengine : ctx.EngineAnswers) (s : PortScanScheduler) (work : WorkItem)
    (state : PortState) (reason : ScanReason) (rttMs : Option ℚ) :
    ∃ middle, (∀ {e}, Armed s e → Keeps ctx s e middle) ∧
      finishAttempt ctx pump work state reason rttMs s = pump middle := by
  set observed := s.record (.observed work state reason) with hobserved
  have hrecorded : ∀ {e}, Armed s e → Keeps ctx s e observed :=
    fun ha ↦ keeps_of_same ha rfl rfl rfl
  have hpublish : ∀ (work : WorkItem) (state : PortState) (reason : ScanReason),
      ∃ middle, (∀ {e}, Armed s e → Keeps ctx s e middle) ∧
        pump (observed.appendTerminalResult ctx work ctx.config.method state reason rttMs) =
          pump middle := by
    intro work state reason
    refine ⟨_, fun ha ↦ (hrecorded ha).trans fun ha ↦ ?_, rfl⟩
    exact keeps_of_same ha rfl rfl rfl
  have hretry : ∀ work : WorkItem, ∃ middle, (∀ {e}, Armed s e → Keeps ctx s e middle) ∧
      retryOrFail ctx pump work rttMs observed = pump middle := by
    intro work
    have hdeferred : ∀ {e}, Armed s e → Keeps ctx s e (observed.deferRetry ctx work).2 :=
      fun ha ↦ (hrecorded ha).trans fun ha ↦ keeps_deferRetry hengine ha work
    rw [retryOrFail]
    split
    · rename_i s' heq
      rw [heq] at hdeferred
      exact ⟨s', hdeferred, rfl⟩
    · rename_i s' heq
      rw [heq] at hdeferred
      refine ⟨_, fun ha ↦ (hdeferred ha).trans fun ha ↦ ?_, rfl⟩
      exact keeps_of_same ha rfl rfl rfl
  rw [finishAttempt]
  dsimp only
  split_ifs
  · exact hpublish _ _ _
  · exact hretry _
  · exact hpublish _ _ _
  · exact hretry _
  · exact hpublish _ _ _

/-- What a callback comes to: it leaves as many attempts and retries as it found, or it pumps
last. -/
inductive Ends (ctx : SchedulerContext) (pump : PortScanScheduler → PortScanScheduler)
    (s : PortScanScheduler) (e : IOEngine TimerCallback) (s' : PortScanScheduler) : Prop
  | same (hkeeps : Keeps ctx s e s') (hpending : s'.pending.size = s.pending.size)
      (hdeferred : s'.deferredRetries.size = s.deferredRetries.size)
  | pumped {middle : PortScanScheduler} (hkeeps : Keeps ctx s e middle) (heq : s' = pump middle)

theorem Ends.keeps (h : Ends ctx pump s e s')
    (hpump : ∀ {s e}, Armed s e → Keeps ctx s e (pump s)) : Keeps ctx s e s' := by
  cases h with
  | same hkeeps => exact hkeeps
  | pumped hkeeps heq => exact heq ▸ hkeeps.trans hpump

/-- **A response** ends its attempt and cancels its timer, or it changes no timer. -/
theorem ends_receiveWith (hengine : ctx.EngineAnswers) (ha : Armed s e) (response : PortResponse) :
    Ends ctx pump s e (receiveWith ctx pump response s) := by
  rw [receiveWith]
  split
  swap
  · exact .same (.refl ha) rfl rfl
  rename_i pending probe hlookup hprobe
  split
  · exact .same (.refl ha) rfl rfl
  rename_i state reason hassess
  -- reading the clock is nothing to the timers
  split
  rename_i completedAt s₁ hclock
  have hread : Keeps ctx s e s₁ ∧ s₁.pending = s.pending ∧
      s₁.deferredRetries = s.deferredRetries := by
    split_ifs at hclock
    · cases hclock
      exact ⟨keeps_of_same ha rfl rfl rfl, rfl, rfl⟩
    · cases hclock
      exact ⟨.refl ha, rfl, rfl⟩
  obtain ⟨hkeeps, hpending, hdeferred⟩ := hread
  rw [← hpending] at hlookup
  split_ifs
  · exact .same hkeeps (congrArg _ hpending) (congrArg _ hdeferred)
  · rw [completePending, hlookup]
    dsimp only
    set ended : PortScanScheduler :=
      { (s₁.cancelTimer pending.timerId).cancelSubmission response.id with
        pending := s₁.pending.erase response.id
        timing := s₁.timing.map (·.onResponse (rttMs pending.startedAt completedAt).floor) }
    have hended : Keeps ctx s e ended :=
      hkeeps.trans fun ha ↦ keeps_erase_pending ha hlookup rfl rfl rfl
    obtain ⟨middle, hmiddle, heq⟩ := finishAttempt_pumps hengine ended pending.work state reason
      (some (rttMs pending.startedAt completedAt))
    exact .pumped (hended.trans hmiddle) heq
  · -- recording evidence on an attempt does not touch its timer
    refine .same (hkeeps.trans fun ha ↦ keeps_of_owns ha (fun timer callback ↦ ?_) rfl)
      ((AList.size_replace _ hlookup).trans (congrArg _ hpending)) (congrArg _ hdeferred)
    cases callback with
    | onTimeout id =>
      show ((s₁.pending.replace response.id _).lookup id).map Pending.timerId = _ ↔ _
      rw [Owns, AList.lookup_replace_eq_ite _ hlookup]
      split_ifs with heq
      · rw [heq, hlookup]
        exact iff_of_eq (congrArg (some · = some timer) (Pending.timerId_observe _ _ _ _))
      · exact Iff.rfl
    | onRetryReady id => exact Iff.rfl

/-- **A timeout** of an attempt in flight ends it; its timer has expired. -/
theorem onTimeoutWith_pumps (hengine : ctx.EngineAnswers) (hprobe : ctx.probe.isSome)
    (ha : Armed s e) (hlookup : s.pending.lookup id = some pending) :
    ∃ middle, Keeps ctx s (e.cancel pending.timerId) middle ∧
      onTimeoutWith ctx pump id s = pump middle := by
  obtain ⟨probe, hsome⟩ := Option.isSome_iff_exists.mp hprobe
  -- what the controller learns does not matter here
  have hended : ∀ timing : Option TimingController,
      Keeps ctx s (e.cancel pending.timerId)
        { s.cancelSubmission id with pending := s.pending.erase id, timing } :=
    fun timing ↦ ⟨[], rfl, owned_erase_pending ha hlookup rfl rfl, ha.answers⟩
  rw [onTimeoutWith, hlookup, hsome]
  dsimp only
  split
  · rename_i state hcandidate
    obtain ⟨middle, hmiddle, heq⟩ := finishAttempt_pumps hengine _ _ _ _ _
    exact ⟨middle, (hended _).trans hmiddle, heq⟩
  · obtain ⟨middle, hmiddle, heq⟩ := finishAttempt_pumps hengine _ _ _ _ _
    exact ⟨middle, (hended _).trans hmiddle, heq⟩

/-! ### Starting an attempt -/

variable (hpump : ∀ {s e}, Armed s e → Keeps ctx s e (pump s))

include hpump

section

variable (hengine : ctx.EngineAnswers)

include hengine

theorem keeps_receiveAll (ha : Armed s e) (responses : List PortResponse) :
    Keeps ctx s e (responses.foldl (fun s response ↦ receiveWith ctx pump response s) s) := by
  induction responses generalizing s e with
  | nil => exact .refl ha
  | cons response responses ih =>
      exact ((ends_receiveWith hengine ha response).keeps hpump).trans ih

/-- Handing an item to the transport: a refused submission cancels the timer and leaves nothing in
flight. -/
theorem keeps_launch (ha : Armed s e) (hlookup : s.pending.lookup id = some pending)
    (work : WorkItem) (submission : PortSubmission) :
    Keeps ctx s e (launch ctx pump id pending.timerId work submission s) := by
  set outcome := ctx.environment.submit s.trace submission
  have hsubmitted : Keeps ctx s e (s.transportSubmit ctx work submission).2 :=
    keeps_of_same ha rfl rfl rfl
  have hreceived := hsubmitted.trans fun ha ↦ keeps_receiveAll hpump hengine ha outcome.responses
  rw [launch]
  dsimp only
  split
  · exact hreceived
  · rename_i hrefused
    -- a transport that refuses has called nobody back
    have hsilent : (s.transportSubmit ctx work submission).1.responses = [] :=
      outcome.responses_of_refused hrefused
    rw [hsilent, List.foldl_nil]
    exact hsubmitted.trans fun ha ↦ keeps_erase_pending ha hlookup rfl rfl rfl

theorem keeps_startAttempt (ha : Armed s e) (probe : PortProbe) (work : WorkItem) :
    Keeps ctx s e (startAttempt ctx pump probe work s) := by
  rw [startAttempt]
  dsimp only
  split
  · exact keeps_of_same ha rfl rfl rfl
  rename_i submission hbuild
  have hread : Keeps ctx s e (readClock ctx { s with nextId := s.nextId + 1 }).2 :=
    keeps_of_same ha rfl rfl rfl
  generalize readClock ctx { s with nextId := s.nextId + 1 } = clock at hread ⊢
  refine hread.trans fun {e} ha ↦ ?_
  generalize hdelay : clock.2.attemptTimeout ctx = delay
  split
  · rename_i hrefused
    refine (keeps_of_refused ha hrefused).trans fun {e} ha ↦ ?_
    split_ifs
    · exact keeps_of_same ha rfl rfl rfl
    · exact keeps_of_same ha rfl rfl rfl
  rename_i hne
  split
  · refine (keeps_of_cancelled hengine ha hne).trans fun ha ↦ ?_
    exact keeps_of_same ha rfl rfl rfl
  · rename_i store hemplace
    obtain ⟨hfresh, rfl⟩ := AList.emplace_eq_some_iff.mp hemplace
    set pending : Pending :=
      { work, submission, startedAt := clock.1
        timerId := (schedule ctx delay (.onTimeout s.nextId) clock.2).1 }
    have hentered : ∀ launches, Keeps ctx clock.2 e
        { (schedule ctx delay (.onTimeout s.nextId) clock.2).2 with
          pending := clock.2.pending.insert s.nextId pending, launches } := by
      intro launches
      exact keeps_insert_pending hengine ha pending hfresh rfl hne rfl rfl
        (callsOf_granted hne _ _ _)
    exact (hentered _).trans fun ha ↦ keeps_launch hpump hengine ha
      (AList.lookup_insert clock.2.pending) work submission

end

end Attempt

/-! ### The pump -/

theorem keeps_stopIfIdle (ha : Armed s e) : Keeps ctx s e (stopIfIdle s) := by
  rw [stopIfIdle]
  split_ifs
  · refine ⟨[.stop], rfl, fun timer callback ↦ ?_, ?_⟩
    · cases callback with
      | onTimeout => exact ha.owned timer _
      | onRetryReady => exact ha.owned timer _
    · show e.Answers (.stop :: s.calls)
      rw [IOEngine.Answers, EngineCall.nextTimer_cons_of_not_arms rfl]
      exact ha.answers
  · exact .refl ha

theorem keeps_pumpLoop (hengine : ctx.EngineAnswers) (fuel limit : ℕ) (ha : Armed s e) :
    Keeps ctx s e (pumpLoop ctx fuel limit s) := by
  induction fuel generalizing limit s e with
  | zero => exact .refl ha
  | succ fuel ih =>
    rw [pumpLoop]
    split
    · rename_i work queue probe hqueue hprobe
      split_ifs
      · have hnested : ∀ {s e}, Armed s e →
            Keeps ctx s e (stopIfIdle (pumpLoop ctx fuel (s.limit ctx) s)) :=
          fun ha ↦ (ih _ ha).trans keeps_stopIfIdle
        have htaken : Keeps ctx s e { s with queue } := keeps_of_same ha rfl rfl rfl
        exact (htaken.trans fun ha ↦ keeps_startAttempt hnested hengine ha probe work).trans
          (ih limit)
      · exact .refl ha
    · exact .refl ha

/-- **Pumping** keeps the armed timers those of the attempts and the retries. -/
theorem keeps_pump (hengine : ctx.EngineAnswers) (ha : Armed s e) : Keeps ctx s e (pump ctx s) :=
  (keeps_pumpLoop hengine _ _ ha).trans keeps_stopIfIdle

/-! ### The callbacks -/

/-- Something is in flight or deferred. -/
def Busy (s : PortScanScheduler) : Prop := s.pending.size ≠ 0 ∨ s.deferredRetries.size ≠ 0

/-- What holds of the scheduler and the engine while the loop runs. -/
structure Running (s : PortScanScheduler) (e : IOEngine TimerCallback) :
    Prop extends Armed s e where
  recoverable : s.board.Recoverable
  busy : s.Busy

section

variable (hengine : ctx.EngineAnswers)

include hengine

/-- A callback that pumps last leaves something in flight or deferred, or it stops the engine. -/
theorem leaves_pumped {middle : PortScanScheduler} (hkeeps : Keeps ctx s e middle)
    (hrecoverable : (pump ctx middle).board.Recoverable) :
    (client ctx).Leaves Running s e (pump ctx middle) := by
  rw [pump] at hrecoverable ⊢
  have hpumped : Keeps ctx s e (pumpLoop ctx middle.queue.length (middle.limit ctx) middle) :=
    hkeeps.trans (keeps_pumpLoop hengine _ _)
  generalize pumpLoop ctx middle.queue.length (middle.limit ctx) middle =
    s₁ at hpumped hrecoverable ⊢
  refine hpumped.leaves fun {e} ha ↦ ?_
  rw [stopIfIdle] at hrecoverable ⊢
  split_ifs at hrecoverable ⊢ with hidle
  · exact ⟨[.stop], rfl, .inl List.mem_cons_self⟩
  · refine ⟨[], rfl, .inr ⟨ha, hrecoverable, ?_⟩⟩
    rw [Busy, ← not_and_or]
    rintro ⟨hpending, hdeferred⟩
    exact hidle ⟨hrecoverable.submitted, queue_eq_nil_of_recoverable hrecoverable hpending,
      hpending,
      hdeferred⟩

theorem leaves_of_ends (h : Ends ctx (pump ctx) s e s') (hbusy : s.Busy)
    (hrecoverable : s'.board.Recoverable) : (client ctx).Leaves Running s e s' := by
  cases h with
  | same hkeeps hpending hdeferred =>
    refine hkeeps.leaves fun ha ↦ ⟨[], rfl, .inr ⟨ha, hrecoverable, ?_⟩⟩
    rw [Busy, hpending, hdeferred]
    exact hbusy
  | pumped hkeeps heq =>
    rw [heq] at hrecoverable ⊢
    exact leaves_pumped hengine hkeeps hrecoverable

/-- A timer that is due ends its attempt, or puts its retry back in the queue. -/
theorem leaves_timer (hprobe : ctx.probe.isSome) (ha : Armed s e)
    (htimer : e.timers.lookup timer = some callback)
    (hrecoverable : (step ctx s (eventOf callback)).board.Recoverable) :
    (client ctx).Leaves Running s (e.cancel timer) (step ctx s (eventOf callback)) := by
  rw [ha.owned] at htimer
  cases callback with
  | onTimeout id =>
    obtain ⟨pending, hlookup, rfl⟩ := Option.map_eq_some_iff.mp htimer
    obtain ⟨middle, hkeeps, hstep⟩ : ∃ middle, Keeps ctx s (e.cancel pending.timerId) middle ∧
        step ctx s (eventOf (.onTimeout id)) = pump ctx middle :=
      onTimeoutWith_pumps hengine hprobe ha hlookup
    rw [hstep] at hrecoverable ⊢
    exact leaves_pumped hengine hkeeps hrecoverable
  | onRetryReady id =>
    obtain ⟨retry, hlookup, rfl⟩ := Option.map_eq_some_iff.mp htimer
    have hstep : step ctx s (eventOf (.onRetryReady id)) = pump ctx
        { s with
          deferredRetries := s.deferredRetries.erase id, queue := retry.work :: s.queue } := by
      show onRetryReady ctx id s = _
      rw [onRetryReady, hlookup]
    rw [hstep] at hrecoverable ⊢
    refine leaves_pumped hengine ⟨[], rfl, ?_, ha.answers⟩ hrecoverable
    exact owned_erase_deferred ha hlookup rfl rfl

end

/-- The event of a callback: a response that is delivered, or a timer. -/
def eventOfCallback : PortResponse ⊕ TimerCallback → Event
  | .inl response => .receive response
  | .inr callback => eventOf callback

theorem alive (hengine : ctx.EngineAnswers) (hprobe : ctx.probe.isSome)
    (hmax : 0 < ctx.config.maxOutstanding) :
    (client ctx).Alive Running fun s callback ↦ HarmlessStep ctx s (eventOfCallback callback) where
  timers_ne {s e} hs hempty := by
    obtain ⟨hpending, hdeferred⟩ := hs.timers_eq_empty_iff.mp hempty
    exact hs.busy.elim (· hpending) (· hdeferred)
  onEvent {s e} response hs hharmless := by
    refine leaves_of_ends hengine ?_ hs.busy
      (recoverable_step ctx hprobe hmax s _ hharmless hs.recoverable)
    exact ends_receiveWith hengine hs.toArmed response
  onTimer {s e timer callback} hs htimer hharmless :=
    leaves_timer hengine hprobe hs.toArmed htimer
      (recoverable_step ctx hprobe hmax s _ hharmless hs.recoverable)

/-! ### The submission -/

variable (ctx) in
theorem armed_create : Armed (create ctx) {} where
  owned timer callback := by
    cases callback with
    | onTimeout => exact iff_of_false nofun nofun
    | onRetryReady => exact iff_of_false nofun nofun
  answers := rfl

theorem keeps_submitHosts (ports : List Port) (hosts : List Host) (ha : Armed s e) :
    Keeps ctx s e (hosts.foldl (submitHost ctx ports) s) := by
  have hreject : ∀ (host : Host) {s e}, Armed s e → Keeps ctx s e
      (ports.foldl (fun s port ↦ s.appendTerminalResult ctx { host, port } ctx.config.method .error
        .invalidTarget none) s) := by
    intro host
    induction ports with
    | nil => exact .refl
    | cons port ports ih =>
      intro s e ha
      refine Client.Keeps.trans ?_ ih
      exact keeps_of_same ha rfl rfl rfl
  induction hosts generalizing s e with
  | nil => exact .refl ha
  | cons host hosts ih =>
    refine Client.Keeps.trans ?_ ih
    rw [submitHost]
    split_ifs
    · exact keeps_of_same ha rfl rfl rfl
    · exact (hreject host ha).trans fun ha ↦ keeps_of_same ha rfl rfl rfl

theorem keeps_submit (hengine : ctx.EngineAnswers) (target : Target) (ports : List Port)
    (ha : Armed s e) : Keeps ctx s e (submit ctx target ports s).2 := by
  rw [submit]
  split_ifs
  · exact .refl ha
  · exact keeps_of_same ha rfl rfl rfl
  · exact keeps_of_same ha rfl rfl rfl
  · have hbegun : Keeps ctx s e { s with submitted := true } := keeps_of_same ha rfl rfl rfl
    have hqueued := hbegun.trans fun ha ↦ keeps_submitHosts ports target.resolvedHosts ha
    refine Client.Keeps.trans ?_ keeps_stopIfIdle
    refine hqueued.trans fun {e} ha ↦ ?_
    split_ifs
    · exact keeps_pump hengine ha
    · exact keeps_of_same ha rfl rfl rfl

/-- **When a TCP port scan waits forever.** Whatever the engine and the transport refuse: if no
failure is recorded while items are queued, neither by `submit` nor by a callback, and no retry
timer fires after a failure, then the scan waits without a timeout if and only if `submit` has taken
the work and yet left nothing in flight and nothing deferred. -/
theorem scan_awake_iff (ctx : SchedulerContext) (accepts : List Effect → Bool)
    (place : List TimerId → TimerId → ℕ) (target : Target) (ports : List Port) :
    let ctx := ctx.overEngine accepts
    let s := (submit ctx target ports (create ctx)).2
    s.NoneQueuedAtFailure →
    ((∀ wakeups, (Reactor.start (client ctx) place s).Meets (client ctx) place
        (fun s callback ↦ HarmlessStep ctx s (eventOfCallback callback)) wakeups →
      ∀ w ∈ waits ctx place wakeups s, ¬ w.WaitsForever) ↔ (s.submitted → s.Busy)) := by
  intro ctx s hnone
  have hengine : ctx.EngineAnswers := SchedulerContext.engineAnswers_overEngine accepts _
  -- the engine as `run` finds it
  obtain ⟨new, hcalls, ha⟩ := keeps_submit hengine target ports (armed_create ctx)
  obtain ⟨hclient, hstart⟩ := Reactor.engine_start (client ctx) place s
  replace hcalls : (client ctx).calls s = new := hcalls.trans (List.append_nil new)
  rw [hcalls] at hstart
  constructor
  · intro hawake hsubmitted
    by_contra hidle
    rw [Busy, ← not_and_or, not_not] at hidle
    have hempty := ha.timers_eq_empty_iff.mpr hidle
    rw [← hstart] at hempty
    obtain ⟨w, hw, hforever⟩ := Reactor.hangs_of_none_armed (client ctx) place s hempty []
    refine hawake [] trivial w ?_ hforever
    rw [waits, if_pos hsubmitted]
    exact hw
  · intro hbusy wakeups hmeets w hw
    rw [waits] at hw
    split_ifs at hw with hsubmitted
    swap
    · exact absurd hw List.not_mem_nil
    obtain ⟨haccept, hvalid⟩ | ⟨hidle, -⟩ := submit_cases ctx target ports
    · have hrunning : Running s (IOEngine.replay {} new) :=
        ⟨ha, recoverable_submit haccept (.inl hvalid) hnone, hbusy hsubmitted⟩
      refine Reactor.awake (alive hengine haccept.probe haccept.maxOutstanding_pos) (.inr ?_)
        (Reactor.queued_start s) hmeets w hw
      rw [hclient, hstart]
      exact hrunning
    · -- a refused submission has left nothing to run for
      have hpending : s.pending = ∅ := hidle.pending
      have hdeferred : s.deferredRetries = ∅ := hidle.deferredRetries
      refine absurd (hbusy hsubmitted) ?_
      rw [Busy, hpending, hdeferred]
      exact not_or.mpr ⟨fun h ↦ h rfl, fun h ↦ h rfl⟩

/-- One port of one host, over an engine that has memory. -/
theorem scan_awake_onePort :
    let ctx := acceptingContext.overEngine fun _ ↦ true
    let s := (submit ctx { resolvedHosts := [tenNet 1] } [⟨22, .tcp⟩] (create ctx)).2
    ∀ wakeups, (Reactor.start (client ctx) (fun _ _ ↦ 0) s).Meets (client ctx) (fun _ _ ↦ 0)
        (fun s callback ↦ HarmlessStep ctx s (eventOfCallback callback)) wakeups →
      ∀ w ∈ waits ctx (fun _ _ ↦ 0) wakeups s, ¬ w.WaitsForever :=
  (scan_awake_iff acceptingContext (fun _ ↦ true) (fun _ _ ↦ 0) { resolvedHosts := [tenNet 1] }
    [⟨22, .tcp⟩] (by decide)).mpr fun _ ↦ .inl (by decide)

/-- **A stop before `run` is lost**: the only submission is refused and `submit` stops the engine,
but `run` clears the stop and waits for a response to nothing. -/
theorem not_scan_awake_refused :
    ¬ ∀ (ctx : SchedulerContext) (accepts : List Effect → Bool)
      (place : List TimerId → TimerId → ℕ) (target : Target) (ports : List Port)
      (wakeups : List (Wakeup PortResponse)),
      let ctx := ctx.overEngine accepts
      ∀ w ∈ waits ctx place wakeups (submit ctx target ports (create ctx)).2, ¬ w.WaitsForever := by
  intro hclaim
  refine hclaim { acceptingContext with environment := refusingAll } (fun _ ↦ true) (fun _ _ ↦ 0)
    { resolvedHosts := [tenNet 1] } [⟨22, .tcp⟩] [] _ (List.mem_singleton.mpr rfl) ?_
  decide

end PortScanScheduler

end Skan.PortScan
