import Skan.ScanEngine.AdaptiveActions

/-!
# The operations of the adaptive scheduler as actions

Each public operation of `AdaptiveScheduler` is a sequence of actions on its board
(`actions_step`). The marks of these actions are those its event permits (`Permitted`): a timeout
that the transport reports for an attempt in flight leaves a timer behind, and a cancellation may
find an item that is not in flight.

The transport and the reactor may fail at any submission. That a mark on the group succeeds is no
assumption: the operations read the item's state off its attempt, and `Consistent` says that it is
the one they expect.
-/

namespace Skan.ScanEngine

open Skan.Core Skan.Io

namespace ScanGroup

variable {g : ScanGroup} {id : ScanWorkId} {item : ScanWorkItem}

theorem markSubmitted_of_queued (sentAt deadline : TimePoint)
    (hitem : g.items.lookup id = some item)
    (hstate : item.state = .queued) :
    g.markSubmitted id sentAt deadline =
      (true,
        { g with
          items := g.items.replace id
            { item with state := .submitted, submittedAt := sentAt, deadline }
          metrics := g.metrics.recordSubmission (outstandingMetric g.metrics + 1) }) := by
  rw [markSubmitted, hitem]
  exact if_neg (not_not.mpr hstate)

theorem markEnded_of_submitted (state : ScanWorkState) (record : ScanMetrics → ScanMetrics)
    (hitem : g.items.lookup id = some item) (hstate : item.state = .submitted) :
    g.markEnded id state record =
      (true,
        { g with
          items := g.items.replace id { item with state }
          metrics := record g.metrics }) := by
  rw [markEnded, hitem]
  exact if_neg (not_not.mpr hstate)

theorem requeueForRetry_of_timedOut {work : ScanWorkItem}
    (hitem : g.items.lookup work.id = some item)
    (hstate : item.state = .timedOut) :
    g.requeueForRetry work =
      if g.profile.maxRetries ≤ work.retryCount then (false, g)
      else
        (true,
          { g with
            items := g.items.replace work.id
              { work with state := .queued, retryCount := work.retryCount + 1 }
            queue := g.queue ++ [work.id]
            metrics := g.metrics.recordRetry.recordTimeoutBackoff }) := by
  rw [requeueForRetry, hitem]
  refine if_congr ?_ rfl rfl
  rw [hstate]
  exact or_iff_right fun h ↦ h.1 rfl

/-- `next_queued` takes the first identifier of a queued item, and what it skips is not queued. -/
theorem nextQueuedLoop_cases (g : ScanGroup) (queue : List ScanWorkId) :
    ∃ skipped, (∀ id ∈ skipped, ∀ item, g.items.lookup id = some item → item.state ≠ .queued) ∧
      ((g.nextQueuedLoop queue = (none, []) ∧ queue = skipped) ∨
        ∃ id rest item, g.nextQueuedLoop queue = (some item, rest) ∧
          queue = skipped ++ id :: rest ∧ g.items.lookup id = some item ∧
          item.state = .queued) := by
  induction queue with
  | nil => exact ⟨[], nofun, .inl ⟨rfl, rfl⟩⟩
  | cons id queue ih =>
    obtain ⟨skipped, hskipped, hcases⟩ := ih
    -- an identifier that is skipped is one more of those
    have hskip : (∀ item, g.items.lookup id = some item → item.state ≠ .queued) →
        g.nextQueuedLoop (id :: queue) = g.nextQueuedLoop queue := by
      intro hnot
      rw [nextQueuedLoop]
      cases hitem : g.items.lookup id with
      | none => rfl
      | some item => exact if_neg (hnot item hitem)
    by_cases hqueued : ∃ item, g.items.lookup id = some item ∧ item.state = .queued
    · obtain ⟨item, hitem, hstate⟩ := hqueued
      refine ⟨[], nofun, .inr ⟨id, queue, item, ?_, rfl, hitem, hstate⟩⟩
      rw [nextQueuedLoop, hitem]
      exact if_pos hstate
    · have hnot : ∀ item, g.items.lookup id = some item → item.state ≠ .queued :=
        fun item hitem hstate ↦ hqueued ⟨item, hitem, hstate⟩
      refine ⟨id :: skipped, ?_, ?_⟩
      · rintro other hother
        rcases List.mem_cons.mp hother with rfl | hother
        · exact hnot
        · exact hskipped other hother
      · rw [hskip hnot]
        rcases hcases with ⟨hnone, rfl⟩ | ⟨next, rest, item, hsome, rfl, hitem, hstate⟩
        · exact .inl ⟨hnone, rfl⟩
        · exact .inr ⟨next, rest, item, hsome, rfl, hitem, hstate⟩

end ScanGroup

namespace AdaptiveScheduler

open Board

variable {env : Environment} {s : AdaptiveScheduler} {P : Option Flaw → Prop} {id : ScanWorkId}
  {item : ScanWorkItem} {pending : Pending} {g : ScanGroup}

/-! ### What leaves the board as it is -/

theorem board_finishIfIdle (s : AdaptiveScheduler) : board (s.finishIfIdle env) = board s := by
  rw [finishIfIdle]
  split <;> rfl

theorem board_updateAdaptiveState (s : AdaptiveScheduler) :
    board s.updateAdaptiveState = board s := rfl

/-- The counters of the tally stay as they are. -/
theorem board_count {record : ScanMetrics → ScanMetrics}
    (hrecord : tallyOf (record s.group.metrics) = tallyOf s.group.metrics) :
    board (s.count record) = board s := by
  show ({ board s with tally := tallyOf (record s.group.metrics) } : Board) = board s
  rw [hrecord]
  rfl

/-! ### The pump -/

/-- The identifiers that are skipped leave the queue one by one. -/
theorem actions_skip (hP : P none) {b : Board} (skipped rest : List ScanWorkId)
    (hqueue : b.queue = skipped ++ rest)
    (hskipped : ∀ id ∈ skipped, ∀ item, b.items.lookup id = some item → item.state ≠ .queued) :
    Actions P b { b with queue := rest } := by
  induction skipped generalizing b with
  | nil =>
    obtain rfl : b.queue = rest := hqueue
    exact .refl
  | cons id skipped ih =>
    have hfirst : Action none b { b with queue := skipped ++ rest } :=
      .skip hqueue (hskipped id List.mem_cons_self)
    refine .head ⟨none, hP, hfirst⟩ (ih rfl fun other hother ↦ ?_)
    exact hskipped other (List.mem_cons_of_mem _ hother)

theorem board_failAttempt (status : StatusCode) (hitem : s.group.items.lookup id = some item)
    (hstate : item.state = .submitted) :
    board (s.failAttempt id status) =
      { board s with
        items := (board s).items.replace id { item with state := .failed }
        tally := Ending.failed.count (board s).tally } := by
  rw [failAttempt, ScanGroup.markFailed, ScanGroup.markEnded_of_submitted _ _ hitem hstate]
  rfl

section StartAttempt

variable {b : Board} {id : ScanWorkId} {queue : List ScanWorkId} {item sent work : ScanWorkItem}

/-- An attempt that could not be made: the item's record, already that of a submitted item, is
replaced once more. -/
theorem action_failAttempt {attempts : List ScanWorkId} (status : StatusCode)
    (hstopped : b.stopped = false) (hqueue : b.queue = id :: queue)
    (hitem : b.items.lookup id = some item) (hstate : item.state = .queued)
    (hsent : sent.state = .submitted) (hid : sent.id = item.id)
    (hretry : sent.retryCount = item.retryCount)
    (hattempts : attempts = b.attempts ∨ attempts = id :: b.attempts)
    (hs : board s =
      { b with
        queue, items := b.items.replace id sent, tally := Tally.submit b.tally, attempts }) :
    Action none b (board (s.failAttempt id status)) := by
  have hitems : s.group.items.lookup id = some sent := by
    show (board s).items.lookup id = some sent
    rw [hs]
    exact AList.lookup_replace _ hitem
  rw [board_failAttempt status hitems hsent, hs]
  dsimp only
  rw [AList.replace_replace]
  exact .fail hstopped hqueue hitem hstate rfl hid hretry hattempts

theorem action_handOver (pending : Pending) (hstopped : b.stopped = false)
    (hqueue : b.queue = id :: queue) (hitem : b.items.lookup id = some item)
    (hstate : item.state = .queued) (hsent : sent.state = .submitted) (hid : sent.id = item.id)
    (hretry : sent.retryCount = item.retryCount) (hwork : work.id = id)
    (hpendingWork : pending.work = work) (hworkRetry : work.retryCount = item.retryCount)
    (hnone : id ∉ b.pending) (hfresh : pending.timerId ∉ b.timers)
    (hs : board s =
      { b with
        queue
        items := b.items.replace id sent
        pending := b.pending.insert id pending
        timers := b.timers.insert pending.timerId id
        tally := Tally.submit b.tally }) :
    Action none b (board (s.handOver env work pending.timerId)) := by
  rw [handOver]
  dsimp only
  split
  · rw [hwork]
    refine action_failAttempt _ hstopped hqueue hitem hstate hsent hid hretry (.inr rfl) ?_
    show
      { board s with
        pending := (board s).pending.erase id
        timers := (board s).timers.erase pending.timerId
        attempts := work.id :: (board s).attempts } = _
    rw [hs, hwork]
    dsimp only
    rw [AList.erase_insert _ hnone, AList.erase_insert _ hfresh]
  · show Action none b { board s with attempts := work.id :: (board s).attempts }
    rw [hs, hwork]
    exact .start hstopped hqueue hitem hstate hsent hid hretry (hpendingWork ▸ hwork)
      (hpendingWork ▸ hworkRetry) hfresh

/-- An item that was just marked as submitted: what `launch` makes of it is one action on the board
from before it left the queue. -/
theorem action_launch (sentAt : TimePoint) (hb : b.Consistent) (hstopped : b.stopped = false)
    (hqueue : b.queue = id :: queue) (hitem : b.items.lookup id = some item)
    (hstate : item.state = .queued) (hsent : sent.state = .submitted) (hid : sent.id = item.id)
    (hretry : sent.retryCount = item.retryCount) (hwork : work.id = id)
    (hworkRetry : work.retryCount = item.retryCount)
    (hs : board s =
      { b with
        queue, items := b.items.replace id sent, tally := Tally.submit b.tally }) :
    Action none b (board (s.launch env work sentAt)) := by
  have hpending : s.pending = b.pending := congrArg Board.pending hs
  have htimers : s.engine.timers = b.timers := congrArg Board.timers hs
  have hnone : id ∉ b.pending := by
    have hsound := hb id
    rw [hitem] at hsound
    exact AList.lookup_eq_none.mp (hsound.of_queued hstate).2.1
  rcases s.engine.schedule_cases (env.accepts s.trace) work.id with
    hrefused | ⟨timer, engine, hscheduled, hne, hfresh, harmed⟩
  · rw [launch, hrefused]
    dsimp only
    rw [if_pos rfl, hwork]
    exact action_failAttempt _ hstopped hqueue hitem hstate hsent hid hretry (.inl rfl) hs
  · have hinserted : s.pending.emplace id ⟨work, sentAt, timer⟩ =
        some (s.pending.insert id ⟨work, sentAt, timer⟩) :=
      AList.emplace_eq_some_iff.mpr ⟨hpending ▸ hnone, rfl⟩
    rw [launch, hscheduled]
    dsimp only
    rw [if_neg hne]
    rw [show (({ s with engine } : AdaptiveScheduler).record
      (.timerRequested s.group.rtt.timeout)).pending = s.pending from rfl, hwork, hinserted]
    refine action_handOver ⟨work, sentAt, timer⟩ hstopped hqueue hitem hstate hsent hid
      hretry hwork rfl hworkRetry hnone (htimers ▸ hfresh) ?_
    show
      { board s with
        pending := s.pending.insert id ⟨work, sentAt, timer⟩
        timers := engine.timers } = _
    rw [harmed, hs, hpending, htimers, hwork]

/-- The record of an item that is handed over now. -/
def submittedItem (env : Environment) (item : ScanWorkItem) (s : AdaptiveScheduler) :
    ScanWorkItem :=
  { item with
    state := .submitted
    submittedAt := env.now s.trace
    deadline := env.now s.trace + s.group.rtt.timeout * 1000000 }

/-- The group in which an item was just marked as submitted. -/
def submitting (env : Environment) (item : ScanWorkItem) (s : AdaptiveScheduler) : ScanGroup :=
  { s.group with
    items := s.group.items.replace item.id (submittedItem env item s)
    metrics := s.group.metrics.recordSubmission (outstandingMetric s.group.metrics + 1) }

theorem startAttempt_of_queued (hitem : s.group.items.lookup item.id = some item)
    (hstate : item.state = .queued) :
    startAttempt env item s =
      launch env (submittedItem env item s) (env.now s.trace)
        { s.record .clockRead with group := submitting env item s } := by
  have hmarked :
      s.group.markSubmitted item.id (env.now s.trace)
        (env.now s.trace + s.group.rtt.timeout * 1000000) = (true, submitting env item s) :=
    ScanGroup.markSubmitted_of_queued _ _ hitem hstate
  rw [startAttempt]
  dsimp only [readClock]
  rw [show (s.record .clockRead).group = s.group from rfl, hmarked]
  rfl

/-- An iteration of the pump, from the state before the item was taken off the queue. -/
theorem action_startAttempt (env : Environment) (hb : (board s).Consistent)
    (hstopped : s.stopped = false)
    (hqueue : s.group.queue = id :: queue) (hitem : s.group.items.lookup id = some item)
    (hstate : item.state = .queued) :
    Action none (board s)
      (board (startAttempt env item { s with group := { s.group with queue } })) := by
  have hsound := hb id
  rw [show (board s).items.lookup id = some item from hitem] at hsound
  obtain rfl := hsound.of_item.1
  rw [startAttempt_of_queued (s := { s with group := { s.group with queue } }) hitem hstate]
  have hsent : (submittedItem env item s).state = .submitted := rfl
  exact action_launch _ hb hstopped hqueue hitem hstate hsent rfl rfl rfl rfl rfl

end StartAttempt

/-- Taking the next item off the queue skips what is not queued before it. -/
theorem actions_pumpLoop (hP : P none) (fuel : ℕ) (hb : (board s).Consistent) :
    Actions P (board s) (board (pumpLoop env fuel s)) := by
  induction fuel generalizing s with
  | zero => exact .refl
  | succ fuel ih =>
    rw [pumpLoop]
    split_ifs with hgo
    · obtain ⟨-, hstopped, -, -⟩ := hgo
      obtain ⟨skipped, hskipped, hcases⟩ := s.group.nextQueuedLoop_cases s.group.queue
      rcases hcases with ⟨hnone, hqueue⟩ | ⟨id, rest, item, hsome, hqueue, hitem, hstate⟩
      · rw [ScanGroup.nextQueued, hnone]
        exact actions_skip hP skipped [] (hqueue.trans (List.append_nil _).symm) hskipped
      · rw [ScanGroup.nextQueued, hsome]
        let s' : AdaptiveScheduler := { s with group := { s.group with queue := id :: rest } }
        have hskip : Actions P (board s) (board s') :=
          actions_skip hP skipped (id :: rest) hqueue hskipped
        have hb' : (board s').Consistent := hb.of_actions hskip
        have hstart := action_startAttempt (s := s') env hb' (by simpa using hstopped) rfl hitem
          hstate
        refine (hskip.tail ⟨none, hP, hstart⟩).trans (ih ?_)
        exact consistent_of_action hstart hb'
    · exact .refl

theorem actions_pump (hP : P none) (hb : (board s).Consistent) :
    Actions P (board s) (board (pump env s)) := by
  rw [pump, board_finishIfIdle]
  exact actions_pumpLoop hP _ hb

/-- Pumping after a change that the board does not show. -/
theorem actions_pump_of_eq {s' : AdaptiveScheduler} (hP : P none) (hb : (board s).Consistent)
    (hs' : board s' = board s) : Actions P (board s) (board (pump env s')) := by
  rw [← hs']
  exact actions_pump hP (hs' ▸ hb)

/-! ### Ending an attempt -/

/-- The item of an attempt in flight. -/
theorem submitted_of_pending (hb : (board s).Consistent)
    (hpending : s.pending.lookup id = some pending) :
    ∃ item, s.group.items.lookup id = some item ∧ item.id = id ∧ item.state = .submitted ∧
      pending.work.id = id ∧ pending.work.retryCount = item.retryCount := by
  have hsound := hb id
  rw [show (board s).pending.lookup id = some pending from hpending] at hsound
  obtain ⟨item, hitem, hid, hstate, hwork, hretry, -, -⟩ := hsound.of_pending
  exact ⟨item, hitem, hid, hstate, hwork, hretry⟩

/-- The board after an attempt was retired, and its item's end marked in the group. -/
theorem action_finish (ending : Ending) {record : ScanMetrics → ScanMetrics}
    {marked : Bool × ScanGroup} {s' : AdaptiveScheduler}
    (hpending : s.pending.lookup id = some pending) (hitem : s.group.items.lookup id = some item)
    (hmarked : marked =
      (true,
        { s.group with
          items := s.group.items.replace id { item with state := ending.state }
          metrics := record s.group.metrics }))
    (hrecord : tallyOf (record s.group.metrics) = ending.count (tallyOf s.group.metrics))
    (hs' : board s' =
      { board s with
        maxRetries := marked.2.profile.maxRetries
        items := marked.2.items
        queue := marked.2.queue
        pending := s.pending.erase id
        timers := s.engine.timers.erase pending.timerId
        tally := tallyOf marked.2.metrics }) : Action none (board s) (board s') := by
  rw [hs', hmarked, hrecord]
  exact .finish ending hpending hitem

theorem action_completeAttempt (env : Environment) (completion : ScanCompletion)
    (hb : (board s).Consistent) (hpending : s.pending.lookup completion.id = some pending) :
    Action none (board s) (board (completeAttempt env completion pending s)) := by
  obtain ⟨item, hitem, -, hstate, -⟩ := submitted_of_pending hb hpending
  exact action_finish .completed hpending hitem
    (ScanGroup.markEnded_of_submitted _ _ hitem hstate) rfl rfl

theorem action_abortAttempt (hb : (board s).Consistent)
    (hpending : s.pending.lookup id = some pending) :
    Action none (board s) (board (abortAttempt id pending s)) := by
  obtain ⟨item, hitem, -, hstate, -⟩ := submitted_of_pending hb hpending
  exact action_finish .failed hpending hitem
    (ScanGroup.markEnded_of_submitted _ _ hitem hstate) rfl rfl

/-- A timed out item, before it is queued again or not. -/
def timedOut (id : ScanWorkId) (item : ScanWorkItem) (g : ScanGroup) : ScanGroup :=
  { g with
    items := g.items.replace id { item with state := .timedOut }
    metrics := g.metrics.recordTimeout (outstandingMetric g.metrics)
    congestion := g.congestion.onTimeout }

theorem timeOutItem_of_submitted {work : ScanWorkItem} (hitem : g.items.lookup id = some item)
    (hstate : item.state = .submitted) (hwork : work.id = id) :
    timeOutItem id work g =
      if g.profile.maxRetries ≤ work.retryCount then (false, timedOut id item g)
      else
        (true,
          { timedOut id item g with
            items := g.items.replace id
              { work with state := .queued, retryCount := work.retryCount + 1 }
            queue := g.queue ++ [id]
            metrics := (timedOut id item g).metrics.recordRetry.recordTimeoutBackoff }) := by
  have hmarked : g.markTimedOut id =
      (true,
        { g with
          items := g.items.replace id { item with state := .timedOut }
          metrics := g.metrics.recordTimeout (outstandingMetric g.metrics) }) :=
    ScanGroup.markEnded_of_submitted _ _ hitem hstate
  have hafter : (timedOut id item g).items.lookup work.id =
      some { item with state := .timedOut } := by
    rw [hwork]
    exact AList.lookup_replace _ hitem
  rw [timeOutItem, hmarked]
  show (timedOut id item g).requeueForRetry work = _
  rw [ScanGroup.requeueForRetry_of_timedOut hafter rfl, hwork]
  have hreplaced : ∀ w, (timedOut id item g).items.replace id w = g.items.replace id w :=
    fun w ↦ AList.replace_replace _ _ _ _
  rw [hreplaced]
  rfl

/-- A timeout, from the state in which the timer that fired was still armed. -/
theorem action_timeOutAttempt {flaw : Option Flaw} (engine : IOEngine ScanWorkId)
    (hb : (board s).Consistent) (hpending : s.pending.lookup id = some pending)
    (htimers : Disarmed (board s) id flaw engine.timers) :
    Action flaw (board s) (board (timeOutAttempt id pending { s with engine })) := by
  obtain ⟨item, hitem, -, hstate, hwork, -⟩ := submitted_of_pending hb hpending
  have hafter : board (timeOutAttempt id pending { s with engine }) =
      { board s with
        maxRetries := (timeOutItem id pending.work s.group).2.profile.maxRetries
        items := (timeOutItem id pending.work s.group).2.items
        queue := (timeOutItem id pending.work s.group).2.queue
        pending := s.pending.erase id
        timers := engine.timers
        tally := tallyOf (timeOutItem id pending.work s.group).2.metrics } := by
    rw [timeOutAttempt, apply_ite board, board_updateAdaptiveState, ite_self]
    rfl
  rw [hafter, timeOutItem_of_submitted hitem hstate hwork]
  by_cases hroom : s.group.profile.maxRetries ≤ pending.work.retryCount
  · rw [if_pos hroom]
    exact .timeOut hpending hitem htimers
  · rw [if_neg hroom]
    exact .retry hpending hitem htimers (not_le.mp hroom) rfl rfl rfl

theorem actions_completePending (completion : ScanCompletion) (hP : P none)
    (hb : (board s).Consistent) :
    Actions P (board s) (board (completePending env completion s)) := by
  rw [completePending]
  cases hpending : s.pending.lookup completion.id with
  | none => exact .refl
  | some pending =>
    have hcomplete := action_completeAttempt env completion hb hpending
    exact .head ⟨none, hP, hcomplete⟩ (actions_pump hP (consistent_of_action hcomplete hb))

theorem actions_failPending (id : ScanWorkId) (hP : P none) (hb : (board s).Consistent) :
    Actions P (board s) (board (failPending env id s)) := by
  rw [failPending]
  cases hpending : s.pending.lookup id with
  | none => exact .refl
  | some pending =>
    have hfail := action_abortAttempt hb hpending
    exact .head ⟨none, hP, hfail⟩ (actions_pump hP (consistent_of_action hfail hb))

/-! ### Cancelling -/

/-- The states that `cancel` of the group does not leave. -/
theorem cancel_of_ended (h : ∀ item, g.items.lookup id = some item →
      item.state = .completed ∨ item.state = .cancelled ∨ item.state = .failed) :
    g.cancel id = (false, g) := by
  rw [ScanGroup.cancel]
  cases hitem : g.items.lookup id with
  | none => rfl
  | some item => exact if_pos (h item hitem)

theorem cancel_of_live (hitem : g.items.lookup id = some item)
    (h : item.state ≠ .completed ∧ item.state ≠ .cancelled ∧ item.state ≠ .failed) :
    g.cancel id =
      (true,
        { g with
          items := g.items.replace id { item with state := .cancelled }
          metrics := g.metrics.recordCancellation }) := by
  rw [ScanGroup.cancel, hitem]
  exact if_neg fun hended ↦ hended.elim h.1 fun hended ↦ hended.elim h.2.1 h.2.2

/-- Cancelling an item in flight ends its attempt; another one, if it has not ended, is only marked,
which is an action of its own. -/
theorem actions_cancelItem (id : ScanWorkId) (hP : P none)
    (hidle : id ∉ s.pending → (∃ item, s.group.items.lookup id = some item ∧
      item.state ≠ .completed ∧ item.state ≠ .cancelled ∧ item.state ≠ .failed) →
      P (some .idleCancel))
    (hb : (board s).Consistent) :
    Actions P (board s) (board (cancelItem id s).2) := by
  rw [cancelItem]
  cases hpending : s.pending.lookup id with
  | some pending =>
    obtain ⟨item, hitem, -, hstate, -⟩ := submitted_of_pending hb hpending
    have hlive : item.state ≠ .completed ∧ item.state ≠ .cancelled ∧ item.state ≠ .failed := by
      rw [hstate]
      exact ⟨nofun, nofun, nofun⟩
    exact .single ⟨none, hP,
      action_finish .cancelled hpending hitem (cancel_of_live hitem hlive) rfl rfl⟩
  | none =>
    by_cases hlive : ∃ item, s.group.items.lookup id = some item ∧
      item.state ≠ .completed ∧ item.state ≠ .cancelled ∧ item.state ≠ .failed
    · have hnone := AList.lookup_eq_none.mp hpending
      obtain ⟨item, hitem, hstate⟩ := hlive
      refine .single ⟨_, hidle hnone ⟨item, hitem, hstate⟩, ?_⟩
      dsimp only
      rw [cancel_of_live hitem hstate]
      exact .cancelIdle hnone hitem hstate
    · have hcancel : s.group.cancel id = (false, s.group) := by
        refine cancel_of_ended fun item hitem ↦ ?_
        by_contra hnot
        rw [not_or, not_or] at hnot
        exact hlive ⟨item, hitem, hnot⟩
      dsimp only
      rw [hcancel]

theorem actions_cancel (id : ScanWorkId) (hP : P none)
    (hidle : id ∉ s.pending → (∃ item, s.group.items.lookup id = some item ∧
      item.state ≠ .completed ∧ item.state ≠ .cancelled ∧ item.state ≠ .failed) →
      s.started = true → s.stopped = false → P (some .idleCancel))
    (hb : (board s).Consistent) :
    Actions P (board s) (board (cancel env id s).2) := by
  rw [cancel]
  split_ifs with hclosed
  · exact .refl
  obtain ⟨hstarted, hstopped⟩ := not_or.mp hclosed
  have hcancel := actions_cancelItem id hP
    (fun hnone hlive ↦ hidle hnone hlive (by simpa using hstarted) (by simpa using hstopped)) hb
  rcases hafter : cancelItem id s with ⟨cancelled, s'⟩
  rw [hafter] at hcancel
  cases cancelled with
  | false => exact hcancel
  | true =>
    refine hcancel.trans ?_
    show Actions P (board s') (board (finishIfIdle env (pump env s')))
    rw [board_finishIfIdle]
    exact actions_pump hP (hb.of_actions hcancel)

/-! ### Shutting down -/

theorem board_foldl_abandon (entries : List (Sigma fun _ : ScanWorkId ↦ Pending))
    (s : AdaptiveScheduler) :
    board (entries.foldl abandon s) =
      { board s with timers := (entries.foldl abandon s).engine.timers } := by
  induction entries generalizing s with
  | nil => rfl
  | cons entry entries ih =>
    rw [List.foldl_cons, ih]
    rfl

/-- The timers of the attempts in flight are cancelled, and no other. -/
theorem lookup_foldl_abandon (entries : List (Sigma fun _ : ScanWorkId ↦ Pending))
    (s : AdaptiveScheduler) (timer : TimerId) :
    (entries.foldl abandon s).engine.timers.lookup timer =
      if timer ∈ entries.map fun entry ↦ entry.2.timerId then none
      else s.engine.timers.lookup timer := by
  induction entries generalizing s with
  | nil => rfl
  | cons entry entries ih =>
    have hfirst : (abandon s entry).engine.timers.lookup timer =
        if timer = entry.2.timerId then none else s.engine.timers.lookup timer :=
      AList.lookup_erase_eq_ite _ _ _
    rw [List.foldl_cons, ih, hfirst, List.map_cons]
    by_cases hrest : timer ∈ entries.map fun entry ↦ entry.2.timerId
    · rw [if_pos hrest, if_pos (List.mem_cons_of_mem _ hrest)]
    · rw [if_neg hrest]
      refine if_congr ?_ rfl rfl
      rw [List.mem_cons, or_iff_left hrest]

/-- What the cancellations of `cancel_all` do to the counters. -/
theorem tallyOf_cancelAll (n : ℕ) (m : ScanMetrics) :
    tallyOf (ScanMetrics.recordCancellation^[n] m) =
      (Ending.cancelled.count ·)^[n] (tallyOf m) := by
  have hone : Function.Semiconj tallyOf ScanMetrics.recordCancellation (Ending.cancelled.count ·) :=
    fun _ ↦ rfl
  exact hone.iterate_right n m

theorem actions_shutdown (hP : P none) : Actions P (board s) (board (shutdown env s)) := by
  rw [shutdown]
  split_ifs with hstopped
  · exact .refl
  have hboard := board_foldl_abandon s.pending.entries { s with stopped := true }
  have htimers := lookup_foldl_abandon s.pending.entries { s with stopped := true }
  generalize s.pending.entries.foldl abandon { s with stopped := true } = t at hboard htimers
  have hafter : Action none (board s)
      { board t with
        items := (board t).items.mapValues fun item ↦
          if ScanGroup.cancellable item then { item with state := .cancelled } else item
        queue := []
        pending := ∅
        tally := (Ending.cancelled.count ·)^[(board t).items.values.countP ScanGroup.cancellable]
          (board t).tally } := by
    rw [hboard]
    refine .shutdown fun timer ↦ ?_
    rw [htimers, AList.values, List.map_map]
    rfl
  have htally := tallyOf_cancelAll (t.group.items.values.countP ScanGroup.cancellable)
    t.group.metrics
  refine .single ⟨none, hP, ?_⟩
  show Action none (board s)
    { board t with
      items := (board t).items.mapValues fun item ↦
        if ScanGroup.cancellable item then { item with state := .cancelled } else item
      queue := []
      pending := ∅
      tally := tallyOf
        (ScanMetrics.recordCancellation^[t.group.items.values.countP ScanGroup.cancellable]
          t.group.metrics) }
  rw [htally]
  exact hafter

/-! ### Every event -/

theorem actions_enqueue (now : TimePoint) (item : ScanWorkItem) (hP : P none) :
    Actions P (board s) (board { s with group := (s.group.enqueue now item).2 }) := by
  rw [ScanGroup.enqueue]
  by_cases hbad : s.group.validate ≠ .ok ∨ item.id = 0 ∨ item.state ≠ .queued ∨
      item.id ∈ s.group.items
  · rw [if_pos hbad]
  · rw [if_neg hbad]
    obtain ⟨-, -, hstate, hfresh⟩ : ¬ _ ∧ ¬ _ ∧ ¬ _ ∧ ¬ _ := by
      simpa only [not_or] using hbad
    refine .single ⟨none, hP, ?_⟩
    split_ifs with hcreated
    · exact @Action.enqueue (board s) { item with createdAt := now } hfresh (not_not.mp hstate)
    · exact .enqueue hfresh (not_not.mp hstate)

theorem actions_enqueueTarget (now : TimePoint) (target protocolMetadata : Text) (hP : P none) :
    Actions P (board s)
      (board { s with group := (s.group.enqueueTarget now target protocolMetadata).2 }) := by
  rw [ScanGroup.enqueueTarget]
  by_cases hbad : s.group.validate ≠ .ok ∨ s.group.nextId = 0
  · rw [if_pos hbad]
  · rw [if_neg hbad]
    exact actions_enqueue
      (s := { s with group := { s.group with nextId := s.group.nextId + 1 } }) now _ hP

theorem actions_start (hP : P none) (hb : (board s).Consistent) :
    Actions P (board s) (board (start env s).2) := by
  rw [start]
  split_ifs
  · exact .refl
  · exact .refl
  · exact .refl
  · dsimp only
    rw [board_finishIfIdle]
    exact actions_pump_of_eq hP hb rfl

/-- A timeout that the transport reports leaves the timer of the attempt armed. -/
theorem actions_onTimeout_reported (id : ScanWorkId) (hP : P none)
    (hreported : s.stopped = false → P (some .staleTimer)) (hb : (board s).Consistent) :
    Actions P (board s) (board (onTimeout env id s)) := by
  rw [onTimeout]
  cases hpending : s.pending.lookup id with
  | none => exact .refl
  | some pending =>
    dsimp only
    split_ifs with hstopped
    · exact .refl
    have htimeOut := action_timeOutAttempt s.engine hb hpending .reported
    refine .head ⟨_, hreported (by simpa using hstopped), htimeOut⟩ (actions_pump hP ?_)
    exact consistent_of_action htimeOut hb

theorem actions_timerExpired (timer : TimerId) (hP : P none) (hb : (board s).Consistent) :
    Actions P (board s) (board (timerExpired env timer s)) := by
  rw [timerExpired, IOEngine.expire]
  cases htimer : s.engine.timers.lookup timer with
  | none => exact .refl
  | some id =>
    show Actions P (board s) (board (onTimeout env id { s with engine := s.engine.cancel timer }))
    rw [onTimeout]
    cases hpending : s.pending.lookup id with
    | none =>
      exact .single ⟨none, hP, .fireStale htimer (.inr (AList.lookup_eq_none.mp hpending))⟩
    | some pending =>
      dsimp only
      split_ifs with hstopped
      · exact .single ⟨none, hP, .fireStale htimer (.inl hstopped)⟩
      have htimeOut := action_timeOutAttempt (s.engine.cancel timer) hb hpending (.fired htimer)
      exact .head ⟨none, hP, htimeOut⟩ (actions_pump hP (consistent_of_action htimeOut hb))

theorem actions_receive (completion : ScanCompletion) (hP : P none)
    (hreported : completion.id ∈ s.pending → completion.state = .timeout → s.stopped = false →
      P (some .staleTimer))
    (hb : (board s).Consistent) :
    Actions P (board s) (board (receive env completion s)) := by
  rw [receive]
  by_cases hstopped : s.stopped = true
  · rw [if_pos hstopped]
  rw [if_neg hstopped]
  by_cases hpending : completion.id ∈ s.pending
  · rw [if_neg (not_not.mpr hpending)]
    cases hstate : completion.state with
    | validResponse => exact actions_completePending completion hP hb
    | timeout =>
      exact actions_onTimeout_reported completion.id hP (hreported hpending hstate) hb
    | malformedResponse =>
      have hmalformed : board s.countMalformed = board s := board_count rfl
      show Actions P (board s) (board (failPending env completion.id s.countMalformed))
      rw [← hmalformed]
      exact actions_failPending completion.id hP (hmalformed ▸ hb)
    | failed => exact actions_failPending completion.id hP hb
    | duplicate => exact .refl
    | lateResponse => exact .refl
  · rw [if_pos hpending]
    split_ifs <;> exact .refl

/-- The transport reports a timeout of an attempt in flight. -/
def ReportsTimeout (s : AdaptiveScheduler) (e : Event) : Prop :=
  ∃ completion, e = .receive completion ∧ completion.id ∈ s.pending ∧
    completion.state = .timeout ∧ s.stopped = false

/-- An item that is not in flight and has not ended (or timed out for good) is cancelled. -/
def CancelsIdle (s : AdaptiveScheduler) (e : Event) : Prop :=
  ∃ id, e = .cancel id ∧ s.started = true ∧ s.stopped = false ∧
    (s.group.state id = some .queued ∨ s.group.state id = some .timedOut)

/-- The marks that an event permits its actions. -/
def Permitted (s : AdaptiveScheduler) (e : Event) : Option Flaw → Prop
  | none => True
  | some .staleTimer => ReportsTimeout s e
  | some .idleCancel => CancelsIdle s e

/-- An item that can still be cancelled without being in flight is queued or timed out. -/
theorem state_of_idle (hb : (board s).Consistent) (hidle : id ∉ s.pending)
    (hitem : s.group.items.lookup id = some item)
    (hlive : item.state ≠ .completed ∧ item.state ≠ .cancelled ∧ item.state ≠ .failed) :
    s.group.state id = some .queued ∨ s.group.state id = some .timedOut := by
  have hsound := hb id
  rw [show (board s).items.lookup id = some item from hitem,
    show (board s).pending.lookup id = none from AList.lookup_eq_none.mpr hidle] at hsound
  rw [ScanGroup.state, hitem]
  cases hstate : item.state with
  | queued => exact .inl (congrArg some hstate)
  | timedOut => exact .inr (congrArg some hstate)
  | submitted =>
    obtain ⟨pending, hpending⟩ := hsound.of_submitted hstate
    exact absurd hpending nofun
  | completed => exact absurd hstate hlive.1
  | cancelled => exact absurd hstate hlive.2.1
  | failed => exact absurd hstate hlive.2.2

/-- **Every event is a sequence of actions**, with the marks the event permits. -/
theorem actions_step (env : Environment) (s : AdaptiveScheduler) (e : Event)
    (hb : (board s).Consistent) :
    Actions (Permitted s e) (board s) (board (step env s e)) := by
  cases e with
  | enqueue now item => exact actions_enqueue now item trivial
  | enqueueTarget now target protocolMetadata =>
    exact actions_enqueueTarget now target protocolMetadata trivial
  | start => exact actions_start trivial hb
  | pump => exact actions_pump trivial hb
  | receive completion =>
    exact actions_receive completion trivial
      (fun hpending hstate hstopped ↦ ⟨completion, rfl, hpending, hstate, hstopped⟩) hb
  | timerExpired timer => exact actions_timerExpired timer trivial hb
  | cancel id =>
    refine actions_cancel id trivial (fun hidle hlive hstarted hstopped ↦ ?_) hb
    obtain ⟨item, hitem, hlive⟩ := hlive
    exact ⟨id, rfl, hstarted, hstopped, state_of_idle hb hidle hitem hlive⟩
  | shutdown => exact actions_shutdown trivial

end AdaptiveScheduler

end Skan.ScanEngine
