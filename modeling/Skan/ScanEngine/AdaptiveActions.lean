import Skan.ScanEngine.AdaptiveScheduler

/-!
# What the adaptive scheduler does to one item at a time

The scheduler's state falls into items: an item's record in the group, its attempt in flight, its
place in the queue and the attempts already made of it. `Sound` is the life of one item, and
`Action` is every way the scheduler changes one (`board` is what an action can see). Every event is
a sequence of actions (`actions_step`), so an invariant is proved for each action, and holds of
every run.

Two actions carry a mark (`Flaw`): ending an attempt on a timeout that the transport reports, which
leaves the attempt's timer armed, and cancelling an item that is not in flight.
-/

namespace Skan.ScanEngine

open Skan.Core Skan.Io
open CongestionController (saturatingSucc)

namespace AdaptiveScheduler

/-- The counters of the metrics that `outstanding_metric` reads, and that of the retries. -/
structure Tally where
  submitted : ℕ
  completed : ℕ
  timedOut : ℕ
  failed : ℕ
  cancelled : ℕ
  retries : ℕ
  deriving DecidableEq

def tallyOf (m : ScanMetrics) : Tally where
  submitted := m.totalSubmitted
  completed := m.completed
  timedOut := m.timedOut
  failed := m.failed
  cancelled := m.cancelled
  retries := m.retries

/-- What the actions see of a scheduler. -/
structure Board where
  maxRetries : ℕ
  stopped : Bool
  items : KeyedStore ScanWorkId ScanWorkItem
  queue : List ScanWorkId
  pending : KeyedStore ScanWorkId Pending
  timers : KeyedStore TimerId ScanWorkId
  tally : Tally
  attempts : List ScanWorkId

/-- The identifier of the item an effect hands to the transport. -/
def Effect.attempt : Effect → Option ScanWorkId
  | .submitted work _ => some work.id
  | _ => none

def board (s : AdaptiveScheduler) : Board where
  maxRetries := s.group.profile.maxRetries
  stopped := s.stopped
  items := s.group.items
  queue := s.group.queue
  pending := s.pending
  timers := s.engine.timers
  tally := tallyOf s.group.metrics
  attempts := s.trace.filterMap Effect.attempt

namespace Board

/-- The life of an item: its record, its attempt in flight, how often it is in the queue, and how
often it was handed to the transport, at most once more than it may be retried. -/
inductive Sound (maxRetries : ℕ) (id : ScanWorkId) :
    Option ScanWorkItem → Option Pending → ℕ → ℕ → Prop
  | absent : Sound maxRetries id none none 0 0
  | queued {item : ScanWorkItem} {attempts : ℕ} (hid : item.id = id) (hstate : item.state = .queued)
      (hattempts : attempts ≤ min item.retryCount maxRetries) :
      Sound maxRetries id (some item) none 1 attempts
  | submitted {item : ScanWorkItem} {pending : Pending} {attempts : ℕ} (hid : item.id = id)
      (hstate : item.state = .submitted) (hwork : pending.work.id = id)
      (hretry : pending.work.retryCount = item.retryCount)
      (hattempts : attempts ≤ min item.retryCount maxRetries + 1) :
      Sound maxRetries id (some item) (some pending) 0 attempts
  | cancelled {item : ScanWorkItem} {places attempts : ℕ} (hid : item.id = id)
      (hstate : item.state = .cancelled) (hplaces : places ≤ 1)
      (hattempts : attempts ≤ min item.retryCount maxRetries + 1) :
      Sound maxRetries id (some item) none places attempts
  | ended {item : ScanWorkItem} {attempts : ℕ} (hid : item.id = id)
      (hstate : item.state = .completed ∨ item.state = .failed ∨ item.state = .timedOut)
      (hattempts : attempts ≤ min item.retryCount maxRetries + 1) :
      Sound maxRetries id (some item) none 0 attempts

/-- Every item is sound. -/
def Consistent (b : Board) : Prop :=
  ∀ id, Sound b.maxRetries id (b.items.lookup id) (b.pending.lookup id) (b.queue.count id)
    (b.attempts.count id)

/-- What an action may be marked with. -/
inductive Flaw where
  | staleTimer
  | idleCancel
  deriving DecidableEq

/-- How the timer of an attempt that timed out is disarmed: it fired; or, when the transport
reported the timeout, not at all. -/
inductive Disarmed (b : Board) (id : ScanWorkId) :
    Option Flaw → KeyedStore TimerId ScanWorkId → Prop
  | fired {timer : TimerId} (htimer : b.timers.lookup timer = some id) :
      Disarmed b id none (b.timers.erase timer)
  | reported : Disarmed b id (some .staleTimer) b.timers

/-- An attempt that ends for good: the state its item gets, and the counter it bumps. -/
inductive Ending where
  | completed
  | failed
  | cancelled

def Ending.state : Ending → ScanWorkState
  | .completed => .completed
  | .failed => .failed
  | .cancelled => .cancelled

def Ending.count (tally : Tally) : Ending → Tally
  | .completed => { tally with completed := saturatingSucc tally.completed }
  | .failed => { tally with failed := saturatingSucc tally.failed }
  | .cancelled => { tally with cancelled := saturatingSucc tally.cancelled }

/-- The counters when an attempt is made. -/
def Tally.submit (tally : Tally) : Tally :=
  { tally with submitted := saturatingSucc tally.submitted }

/-- The counters when an attempt times out. -/
def Tally.timeOut (tally : Tally) : Tally :=
  { tally with timedOut := saturatingSucc tally.timedOut }

/-- The counters when an attempt times out and its item is queued again. -/
def Tally.retry (tally : Tally) : Tally :=
  { tally with
    timedOut := saturatingSucc tally.timedOut
    retries := saturatingSucc tally.retries }

/-- One change of one item (or, at the end of a scan, of all). -/
inductive Action : Option Flaw → Board → Board → Prop
  | enqueue {b : Board} {item : ScanWorkItem} (hfresh : item.id ∉ b.items)
      (hstate : item.state = .queued) :
      Action none b
        { b with items := b.items.insert item.id item, queue := b.queue ++ [item.id] }
  | skip {b : Board} {id : ScanWorkId} {queue : List ScanWorkId} (hqueue : b.queue = id :: queue)
      (hstate : ∀ item, b.items.lookup id = some item → item.state ≠ .queued) :
      Action none b { b with queue }
  | fail {b : Board} {id : ScanWorkId} {queue attempts : List ScanWorkId}
      {item failed : ScanWorkItem} (hstopped : b.stopped = false) (hqueue : b.queue = id :: queue)
      (hitem : b.items.lookup id = some item) (hstate : item.state = .queued)
      (hfailed : failed.state = .failed) (hid : failed.id = item.id)
      (hretry : failed.retryCount = item.retryCount)
      (hattempts : attempts = b.attempts ∨ attempts = id :: b.attempts) :
      Action none b
        { b with
          queue
          items := b.items.replace id failed
          tally := Ending.failed.count (Tally.submit b.tally)
          attempts }
  | start {b : Board} {id : ScanWorkId} {queue : List ScanWorkId} {item sent : ScanWorkItem}
      {pending : Pending} (hstopped : b.stopped = false) (hqueue : b.queue = id :: queue)
      (hitem : b.items.lookup id = some item) (hstate : item.state = .queued)
      (hsent : sent.state = .submitted) (hid : sent.id = item.id)
      (hretry : sent.retryCount = item.retryCount) (hwork : pending.work.id = id)
      (hworkRetry : pending.work.retryCount = item.retryCount)
      (htimer : pending.timerId ∉ b.timers) :
      Action none b
        { b with
          queue
          items := b.items.replace id sent
          pending := b.pending.insert id pending
          timers := b.timers.insert pending.timerId id
          tally := Tally.submit b.tally
          attempts := id :: b.attempts }
  | finish {b : Board} {id : ScanWorkId} {item : ScanWorkItem} {pending : Pending}
      (ending : Ending) (hpending : b.pending.lookup id = some pending)
      (hitem : b.items.lookup id = some item) :
      Action none b
        { b with
          items := b.items.replace id { item with state := ending.state }
          pending := b.pending.erase id
          timers := b.timers.erase pending.timerId
          tally := ending.count b.tally }
  | timeOut {b : Board} {flaw : Option Flaw} {id : ScanWorkId} {item : ScanWorkItem}
      {pending : Pending} {timers : KeyedStore TimerId ScanWorkId}
      (hpending : b.pending.lookup id = some pending) (hitem : b.items.lookup id = some item)
      (htimers : Disarmed b id flaw timers) :
      Action flaw b
        { b with
          items := b.items.replace id { item with state := .timedOut }
          pending := b.pending.erase id
          timers
          tally := Tally.timeOut b.tally }
  | retry {b : Board} {flaw : Option Flaw} {id : ScanWorkId} {item again : ScanWorkItem}
      {pending : Pending} {timers : KeyedStore TimerId ScanWorkId}
      (hpending : b.pending.lookup id = some pending) (hitem : b.items.lookup id = some item)
      (htimers : Disarmed b id flaw timers) (hroom : pending.work.retryCount < b.maxRetries)
      (hid : again.id = pending.work.id) (hstate : again.state = .queued)
      (hretry : again.retryCount = pending.work.retryCount + 1) :
      Action flaw b
        { b with
          items := b.items.replace id again
          queue := b.queue ++ [id]
          pending := b.pending.erase id
          timers
          tally := Tally.retry b.tally }
  | fireStale {b : Board} {id : ScanWorkId} {timer : TimerId}
      (htimer : b.timers.lookup timer = some id)
      (hidle : b.stopped = true ∨ id ∉ b.pending) :
      Action none b { b with timers := b.timers.erase timer }
  | cancelIdle {b : Board} {id : ScanWorkId} {item : ScanWorkItem} (hidle : id ∉ b.pending)
      (hitem : b.items.lookup id = some item)
      (hstate : item.state ≠ .completed ∧ item.state ≠ .cancelled ∧ item.state ≠ .failed) :
      Action (some .idleCancel) b
        { b with
          items := b.items.replace id { item with state := .cancelled }
          tally := Ending.cancelled.count b.tally }
  | shutdown {b : Board} {timers : KeyedStore TimerId ScanWorkId}
      (htimers : ∀ timer, timers.lookup timer =
        if timer ∈ b.pending.values.map Pending.timerId then none else b.timers.lookup timer) :
      Action none b
        { b with
          stopped := true
          items := b.items.mapValues fun item ↦
            if ScanGroup.cancellable item then { item with state := .cancelled } else item
          queue := []
          pending := ∅
          timers
          tally := (Ending.cancelled.count ·)^[b.items.values.countP ScanGroup.cancellable]
            b.tally }

/-- Actions with the marks of `P`, one after the other. -/
abbrev Actions (P : Option Flaw → Prop) : Board → Board → Prop :=
  Relation.ReflTransGen fun b b' ↦ ∃ flaw, P flaw ∧ Action flaw b b'

/-! ### The life of an item, read back -/

section Sound

variable {maxRetries places attempts : ℕ} {id : ScanWorkId} {item : Option ScanWorkItem}
  {pending : Option Pending} {i : ScanWorkItem}

/-- An attempt in flight is one of an item that is submitted. -/
theorem Sound.of_pending {p : Pending} (h : Sound maxRetries id item (some p) places attempts) :
    ∃ i, item = some i ∧ i.id = id ∧ i.state = .submitted ∧ p.work.id = id ∧
      p.work.retryCount = i.retryCount ∧ places = 0 ∧
      attempts ≤ min i.retryCount maxRetries + 1 := by
  cases h with
  | submitted hid hstate hwork hretry hattempts =>
    exact ⟨_, rfl, hid, hstate, hwork, hretry, rfl, hattempts⟩

section

variable (h : Sound maxRetries id (some i) pending places attempts)

include h

/-- A submitted item has an attempt in flight. -/
theorem Sound.of_submitted (hstate : i.state = .submitted) : ∃ p, pending = some p := by
  cases h with
  | submitted => exact ⟨_, rfl⟩
  | queued _ hother => exact absurd (hother.symm.trans hstate) nofun
  | cancelled _ hother => exact absurd (hother.symm.trans hstate) nofun
  | ended _ hother =>
    rcases hother with hother | hother | hother <;> exact absurd (hother.symm.trans hstate) nofun

/-- A queued item is in the queue once. -/
theorem Sound.of_queued (hstate : i.state = .queued) :
    i.id = id ∧ pending = none ∧ places = 1 ∧ attempts ≤ min i.retryCount maxRetries := by
  cases h with
  | queued hid _ hattempts => exact ⟨hid, rfl, rfl, hattempts⟩
  | submitted _ hother => exact absurd (hother.symm.trans hstate) nofun
  | cancelled _ hother => exact absurd (hother.symm.trans hstate) nofun
  | ended _ hother =>
    rcases hother with hother | hother | hother <;> exact absurd (hother.symm.trans hstate) nofun

/-- An item is stored under its own identifier, and handed over at most once more than it may be
retried. -/
theorem Sound.of_item : i.id = id ∧ places ≤ 1 ∧ attempts ≤ min i.retryCount maxRetries + 1 := by
  cases h with
  | queued hid _ hattempts => exact ⟨hid, le_rfl, Nat.le_succ_of_le hattempts⟩
  | submitted hid _ _ _ hattempts => exact ⟨hid, Nat.zero_le _, hattempts⟩
  | cancelled hid _ hplaces hattempts => exact ⟨hid, hplaces, hattempts⟩
  | ended hid _ hattempts => exact ⟨hid, Nat.zero_le _, hattempts⟩

end

/-- An item that is not in the group is nowhere else. -/
theorem Sound.of_absent (h : Sound maxRetries id none pending places attempts) :
    pending = none ∧ places = 0 ∧ attempts = 0 := by
  cases h
  exact ⟨rfl, rfl, rfl⟩

/-- What is still in the queue without being queued was cancelled. -/
theorem Sound.of_place (h : Sound maxRetries id item pending (places + 1) attempts)
    (hstate : ∀ i, item = some i → i.state ≠ .queued) :
    Sound maxRetries id item pending places attempts := by
  cases h with
  | queued _ hqueued => exact absurd hqueued (hstate _ rfl)
  | cancelled hid hcancelled hplaces hattempts =>
    exact .cancelled hid hcancelled (Nat.le_of_succ_le hplaces) hattempts

theorem Sound.attempts_le (h : Sound maxRetries id item pending places attempts) :
    attempts ≤ maxRetries + 1 := by
  cases hitem : item with
  | none =>
    rw [hitem] at h
    cases h
    exact Nat.zero_le _
  | some i =>
    rw [hitem] at h
    exact h.of_item.2.2.trans (Nat.succ_le_succ (min_le_right _ _))

end Sound

/-! ### Every action keeps the items consistent -/

section Consistent

variable {b b' : Board} {id other : ScanWorkId} {item : ScanWorkItem} {queue : List ScanWorkId}
  {tally : Tally} {timers : KeyedStore TimerId ScanWorkId}

/-- A change of one item: it is sound after it, and the others are as they were. -/
theorem Consistent.change (hb : b.Consistent) (id : ScanWorkId)
    (hmax : b'.maxRetries = b.maxRetries)
    (hself : Sound b.maxRetries id (b'.items.lookup id) (b'.pending.lookup id) (b'.queue.count id)
      (b'.attempts.count id))
    (hitems : ∀ other, other ≠ id → b'.items.lookup other = b.items.lookup other)
    (hpending : ∀ other, other ≠ id → b'.pending.lookup other = b.pending.lookup other)
    (hqueue : ∀ other, other ≠ id → b'.queue.count other = b.queue.count other)
    (hattempts : ∀ other, other ≠ id → b'.attempts.count other = b.attempts.count other) :
    b'.Consistent := by
  intro other
  rw [hmax]
  by_cases hother : other = id
  · rw [hother]
    exact hself
  · rw [hitems other hother, hpending other hother, hqueue other hother, hattempts other hother]
    exact hb other

private theorem count_cons_other (h : other ≠ id) (l : List ScanWorkId) :
    (id :: l).count other = l.count other := List.count_cons_of_ne (Ne.symm h)

private theorem count_append_other (h : other ≠ id) (l : List ScanWorkId) :
    (l ++ [id]).count other = l.count other := by
  rw [List.count_append, count_cons_other h, List.count_nil, Nat.add_zero]

/-- The records are changed at the first identifier of the queue, which leaves the queue. -/
theorem lookup_replace_other {items : KeyedStore ScanWorkId ScanWorkItem}
    (h : items.lookup id = some item) (changed : ScanWorkItem) (hother : other ≠ id) :
    (items.replace id changed).lookup other = items.lookup other := by
  rw [AList.lookup_replace_eq_ite changed h, if_neg hother]

theorem Consistent.enqueue (hb : b.Consistent) (hfresh : item.id ∉ b.items)
    (hstate : item.state = .queued) :
    Consistent
      { b with items := b.items.insert item.id item, queue := b.queue ++ [item.id] } := by
  have hsound := hb item.id
  rw [AList.lookup_eq_none.mpr hfresh] at hsound
  obtain ⟨hpending, hplaces, hattempts⟩ := hsound.of_absent
  refine hb.change item.id rfl ?_ (fun other hother ↦ ?_) (fun _ _ ↦ rfl)
    (fun other hother ↦ count_append_other hother _) (fun _ _ ↦ rfl)
  · rw [AList.lookup_insert, hpending, List.count_append, hplaces, List.count_singleton_self,
      hattempts]
    exact .queued rfl hstate (Nat.zero_le _)
  · exact AList.lookup_insert_ne hother

theorem Consistent.skip (hb : b.Consistent) (hqueue : b.queue = id :: queue)
    (hstate : ∀ item, b.items.lookup id = some item → item.state ≠ .queued) :
    Consistent { b with queue } := by
  have hsound := hb id
  rw [hqueue, List.count_cons_self] at hsound
  refine hb.change id rfl (hsound.of_place hstate) (fun _ _ ↦ rfl) (fun _ _ ↦ rfl)
    (fun other hother ↦ ?_) (fun _ _ ↦ rfl)
  rw [hqueue]
  exact (count_cons_other hother _).symm

/-- The item at the head of the queue is taken off it, and its record changed. -/
theorem Consistent.takeOff {pending : KeyedStore ScanWorkId Pending} {attempts : List ScanWorkId}
    (changed : ScanWorkItem) (hb : b.Consistent) (hqueue : b.queue = id :: queue)
    (hitem : b.items.lookup id = some item) (hstate : item.state = .queued)
    (hsound : item.id = id → b.pending.lookup id = none →
      b.attempts.count id ≤ min item.retryCount b.maxRetries →
      Sound b.maxRetries id (some changed) (pending.lookup id) 0 (attempts.count id))
    (hpending : ∀ other, other ≠ id → pending.lookup other = b.pending.lookup other)
    (hattempts : ∀ other, other ≠ id → attempts.count other = b.attempts.count other) :
    Consistent
      { b with queue, items := b.items.replace id changed, pending, timers, tally, attempts } := by
  have hbefore := hb id
  rw [hitem, hqueue, List.count_cons_self] at hbefore
  obtain ⟨hid, hnone, hplaces, hcount⟩ := hbefore.of_queued hstate
  refine hb.change id rfl ?_ (fun other hother ↦ lookup_replace_other hitem _ hother) hpending
    (fun other hother ↦ ?_) hattempts
  · rw [AList.lookup_replace _ hitem, show queue.count id = 0 from Nat.succ.inj hplaces]
    exact hsound hid hnone hcount
  · rw [hqueue]
    exact (count_cons_other hother _).symm

/-- The attempt in flight of an item ends, and its record is changed. -/
theorem Consistent.land {changed : ScanWorkItem} {pending : Pending} (hb : b.Consistent)
    (hpending : b.pending.lookup id = some pending) (hitem : b.items.lookup id = some item)
    (hsound : item.id = id → pending.work.id = id → pending.work.retryCount = item.retryCount →
      b.queue.count id = 0 → b.attempts.count id ≤ min item.retryCount b.maxRetries + 1 →
      Sound b.maxRetries id (some changed) none (queue.count id) (b.attempts.count id))
    (hqueue : ∀ other, other ≠ id → queue.count other = b.queue.count other) :
    Consistent
      { b with
        items := b.items.replace id changed
        queue
        pending := b.pending.erase id
        timers
        tally } := by
  have hbefore := hb id
  rw [hitem, hpending] at hbefore
  obtain ⟨i, hi, hid, -, hwork, hretry, hplaces, hcount⟩ := hbefore.of_pending
  obtain rfl := Option.some.inj hi
  refine hb.change id rfl ?_ (fun other hother ↦ lookup_replace_other hitem _ hother)
    (fun other hother ↦ AList.lookup_erase_ne hother) hqueue (fun _ _ ↦ rfl)
  rw [AList.lookup_replace _ hitem, AList.lookup_erase]
  exact hsound hid hwork hretry hplaces hcount

theorem Consistent.finish {pending : Pending} (ending : Ending) (hb : b.Consistent)
    (hpending : b.pending.lookup id = some pending) (hitem : b.items.lookup id = some item) :
    Consistent
      { b with
        items := b.items.replace id { item with state := ending.state }
        pending := b.pending.erase id
        timers
        tally } := by
  refine hb.land hpending hitem (fun hid _ _ hplaces hcount ↦ ?_) (fun _ _ ↦ rfl)
  rw [hplaces]
  cases ending with
  | completed => exact .ended hid (.inl rfl) hcount
  | failed => exact .ended hid (.inr (.inl rfl)) hcount
  | cancelled => exact .cancelled hid rfl (Nat.zero_le _) hcount

theorem Consistent.cancelIdle (hb : b.Consistent) (hidle : id ∉ b.pending)
    (hitem : b.items.lookup id = some item) :
    Consistent
      { b with items := b.items.replace id { item with state := .cancelled }, tally } := by
  have hbefore := hb id
  rw [hitem] at hbefore
  obtain ⟨hid, hplaces, hcount⟩ := hbefore.of_item
  refine hb.change id rfl ?_ (fun other hother ↦ lookup_replace_other hitem _ hother)
    (fun _ _ ↦ rfl) (fun _ _ ↦ rfl) (fun _ _ ↦ rfl)
  rw [AList.lookup_replace _ hitem, AList.lookup_eq_none.mpr hidle]
  exact .cancelled hid rfl hplaces hcount

theorem Consistent.shutdown (hb : b.Consistent) :
    Consistent
      { b with
        stopped := true
        items := b.items.mapValues fun item ↦
          if ScanGroup.cancellable item then { item with state := .cancelled } else item
        queue := []
        pending := ∅
        timers
        tally } := by
  intro id
  have hbefore := hb id
  rw [AList.lookup_mapValues, AList.lookup_empty, List.count_nil]
  generalize b.items.lookup id = item at hbefore
  generalize b.pending.lookup id = pending at hbefore
  show Sound b.maxRetries id _ _ _ (b.attempts.count id)
  generalize b.queue.count id = places at hbefore
  generalize b.attempts.count id = attempts at hbefore ⊢
  cases hbefore with
  | absent => exact .absent
  | queued hid hstate hattempts =>
    rw [Option.map_some, if_pos (by simp [ScanGroup.cancellable, hstate])]
    exact .cancelled hid rfl (Nat.zero_le _) (Nat.le_succ_of_le hattempts)
  | submitted hid hstate _ _ hattempts =>
    rw [Option.map_some, if_pos (by simp [ScanGroup.cancellable, hstate])]
    exact .cancelled hid rfl (Nat.zero_le _) hattempts
  | cancelled hid hstate _ hattempts =>
    rw [Option.map_some, if_neg (by simp [ScanGroup.cancellable, hstate])]
    exact .cancelled hid hstate (Nat.zero_le _) hattempts
  | ended hid hstate hattempts =>
    rw [Option.map_some, if_neg (by rcases hstate with h | h | h <;> simp
      [ScanGroup.cancellable, h])]
    exact .ended hid hstate hattempts

/-- **Every action keeps the items consistent**, whatever it is marked with. -/
theorem consistent_of_action {flaw : Option Flaw} (h : Action flaw b b') (hb : b.Consistent) :
    b'.Consistent := by
  cases h with
  | enqueue hfresh hstate => exact hb.enqueue hfresh hstate
  | skip hqueue hstate => exact hb.skip hqueue hstate
  | @fail _ id _ attempts item failed _ hqueue hitem hstate hfailed hid hretry hattempts =>
    refine hb.takeOff failed hqueue hitem hstate (fun hitemId hnone hcount ↦ ?_)
      (fun _ _ ↦ rfl) (fun other hother ↦ ?_)
    · rw [hnone]
      refine .ended (hid.trans hitemId) (.inr (.inl hfailed)) ?_
      rw [hretry]
      rcases hattempts with rfl | rfl
      · exact Nat.le_succ_of_le hcount
      · rw [List.count_cons_self]
        exact Nat.succ_le_succ hcount
    · rcases hattempts with rfl | rfl
      · rfl
      · exact count_cons_other hother _
  | @start _ id _ item sent pending _ hqueue hitem hstate hsent hid hretry hwork hworkRetry =>
    refine hb.takeOff sent hqueue hitem hstate (fun hitemId _ hcount ↦ ?_)
      (fun other hother ↦ AList.lookup_insert_ne hother)
      (fun other hother ↦ count_cons_other hother _)
    rw [AList.lookup_insert, List.count_cons_self]
    refine .submitted (hid.trans hitemId) hsent hwork (hworkRetry.trans hretry.symm) ?_
    rw [hretry]
    exact Nat.succ_le_succ hcount
  | finish ending hpending hitem => exact hb.finish ending hpending hitem
  | timeOut hpending hitem htimers =>
    refine hb.land hpending hitem (fun hid _ _ hplaces hcount ↦ ?_) (fun _ _ ↦ rfl)
    rw [hplaces]
    exact .ended hid (.inr (.inr rfl)) hcount
  | @retry _ _ id item again pending timers hpending hitem htimers hroom hid hstate hretry =>
    refine hb.land hpending hitem (fun _ hwork hcount hplaces hattempts ↦ ?_)
      (fun other hother ↦ count_append_other hother _)
    rw [List.count_append, hplaces, List.count_singleton_self]
    refine .queued (hid.trans hwork) hstate ?_
    omega
  | fireStale => exact hb
  | cancelIdle hidle hitem _ => exact hb.cancelIdle hidle hitem
  | shutdown _ => exact hb.shutdown

theorem Consistent.of_actions {P : Option Flaw → Prop} (hb : b.Consistent) (h : Actions P b b') :
    b'.Consistent :=
  Runs.steps_invariant (fun ⟨_, _, haction⟩ ↦ consistent_of_action haction) h hb

end Consistent

end Board

end AdaptiveScheduler

end Skan.ScanEngine
