import Mathlib.Algebra.Order.Ring.Int
import Mathlib.Data.List.TakeWhile
import Skan.Core.Types
import Skan.Io.Timers
import Skan.Library.Runs

/-!
# The deadline queue of the reactor

`schedule`, `cancel`, `dispatch_timers` and `wait_timeout_ms` of `src/io/io_engine.cpp`, with the
clock. A cancelled timer stays in the queue of the deadlines until it gets to its front, where the
loops drop it.

A callback is run by the loop that took its timer off the queue, and what it does to the engine it
does by calls of `schedule` and `cancel`; so a run is a sequence of small steps, an iteration of the
loop being one of them, in any order (`Step`). The queue is listed as it is going to be popped:
among equal deadlines the heap may choose, which is why `push` may put them in any order (`Pushed`).

Time points are unbounded: that `now + delay` goes past 64-bit nanoseconds is not modelled.

What the theorems rest on is that no identifier is handed out twice, and that a new deadline is
never before the clock: so a timer that has fired or was cancelled is never armed again, and
whatever is armed later is due no earlier than what has fired (`Consistent`). -/

namespace Skan.Io

open Skan.Core Runs

/-- A deadline in the queue. -/
structure TimerQueueEntry where
  deadline : TimePoint
  id : TimerId
  deriving DecidableEq

structure Timer (α : Type*) where
  deadline : TimePoint
  callback : α
  cancelled : Bool := false

/-- What has happened, for the theorems. -/
inductive Happening where
  | scheduled (entry : TimerQueueEntry)
  | cancelled (id : TimerId)
  | fired (entry : TimerQueueEntry)
  deriving DecidableEq

/-- The timers of the engine, its queue, the last reading of the clock, and what has happened so
far, newest first. -/
structure DeadlineEngine (α : Type*) where
  engine : IOEngine (Timer α) := {}
  timerQueue : List TimerQueueEntry := []
  clock : TimePoint := 0
  history : List Happening := []

variable {α : Type*}

/-- The queue with an entry pushed to it. -/
structure Pushed (entry : TimerQueueEntry) (queue queue' : List TimerQueueEntry) : Prop where
  perm : queue'.Perm (entry :: queue)
  sorted : queue'.Pairwise fun a b ↦ a.deadline ≤ b.deadline

namespace DeadlineEngine

variable {history : List Happening} {queue : List TimerQueueEntry} {id : TimerId}

/-- `schedule`, at a reading of the clock. -/
def schedule (accepts : Bool) (now delay : TimePoint) (callback : α)
    (queue : List TimerQueueEntry) (s : DeadlineEngine α) : DeadlineEngine α :=
  let deadline := now + max delay 0
  match s.engine.schedule accepts { deadline, callback } with
  | (id, engine) =>
    if id = 0 then { s with engine, clock := now }
    else
      { engine
        timerQueue := queue
        clock := now
        history := .scheduled ⟨deadline, id⟩ :: s.history }

/-- `cancel`. -/
def cancel (id : TimerId) (s : DeadlineEngine α) : DeadlineEngine α :=
  if id = 0 then s
  else { s with engine := s.engine.cancel id, history := .cancelled id :: s.history }

/-- One iteration of `dispatch_timers`, up to the call of the callback; `none` when the loop
ends. -/
def dispatchTimer (now : TimePoint) (s : DeadlineEngine α) :
    Option (Option α × DeadlineEngine α) :=
  match s.timerQueue with
  | [] => none
  | entry :: queue =>
    if entry.deadline > now then none
    else
      match s.engine.timers.lookup entry.id with
      | none => some (none, { s with timerQueue := queue, clock := now })
      | some timer =>
        if timer.cancelled then some (none, { s with timerQueue := queue, clock := now })
        else some (some timer.callback,
          { engine := s.engine.cancel entry.id
            timerQueue := queue
            clock := now
            history := .fired entry :: s.history })

/-- The loop of `run_once_impl` that drops stale entries. -/
def purge (s : DeadlineEngine α) : DeadlineEngine α :=
  { s with timerQueue := s.timerQueue.dropWhile fun entry ↦ entry.id ∉ s.engine.timers }

/-- Nanoseconds in a millisecond. -/
def millisecond : TimePoint := 1000000

/-- `std::numeric_limits<int>::max()`. -/
def intMax : ℤ := 2 ^ 31 - 1

/-- A positive duration in milliseconds, rounded up. -/
def roundedUp (remaining : ℤ) : ℤ :=
  let rounded := remaining / millisecond
  if rounded * millisecond < remaining then rounded + 1 else rounded

/-- `wait_timeout_ms`; -1 is no limit. -/
def waitTimeoutMs (requestedTimeoutMs : ℤ) (now : TimePoint) (s : DeadlineEngine α) : ℤ :=
  let timeout := if requestedTimeoutMs < 0 then -1 else requestedTimeoutMs
  match s.timerQueue.head?.bind fun entry ↦ s.engine.timers.lookup entry.id with
  | none => timeout
  | some timer =>
    let timerTimeout :=
      if timer.deadline > now then
        if roundedUp (timer.deadline - now) ≥ intMax then intMax
        else roundedUp (timer.deadline - now)
      else 0
    if timeout < 0 then timerTimeout else min timeout timerTimeout

/-- What happens to the engine: calls from outside or from a callback, and the iterations of the two
loops. The clock does not go back. -/
inductive Step : DeadlineEngine α → DeadlineEngine α → Prop
  | schedule {s : DeadlineEngine α} {accepts : Bool} {now delay : TimePoint} {callback : α}
    {queue : List TimerQueueEntry} (hnow : s.clock ≤ now)
    (hqueue : Pushed ⟨now + max delay 0, s.engine.nextTimerId⟩ s.timerQueue queue) :
    Step s (s.schedule accepts now delay callback queue)
  /-- The queue cannot grow: the timer is taken back, and its identifier is lost. -/
  | outOfMemory {s : DeadlineEngine α} {timer : Timer α} (hnext : s.engine.nextTimerId ≠ 0) :
    Step s { s with
      engine := (s.engine.schedule true timer).2.cancel (s.engine.schedule true timer).1 }
  | cancel {s : DeadlineEngine α} {id : TimerId} : Step s (s.cancel id)
  | dispatchTimer {s s' : DeadlineEngine α} {now : TimePoint} {callback : Option α}
    (hnow : s.clock ≤ now) (h : s.dispatchTimer now = some (callback, s')) : Step s s'
  | purge {s : DeadlineEngine α} : Step s s.purge

/-! ### What a run keeps -/

/-- A timer that was scheduled, and cancelled after that. -/
def Cancelled (id : TimerId) (history : List Happening) : Prop :=
  ∃ later earlier deadline, history = later ++ .cancelled id :: earlier ∧
    .scheduled ⟨deadline, id⟩ ∈ earlier

/-- The timers that have fired, newest first. -/
def fired (history : List Happening) : List TimerQueueEntry :=
  history.filterMap fun
    | .fired entry => some entry
    | _ => none

/-- The queue and the armed timers agree, and nothing that has fired or was cancelled is armed. -/
structure Consistent (s : DeadlineEngine α) : Prop where
  nodup : (s.timerQueue.map (·.id)).Nodup
  sorted : s.timerQueue.Pairwise fun a b ↦ a.deadline ≤ b.deadline
  live : ∀ id timer, s.engine.timers.lookup id = some timer →
    ⟨timer.deadline, id⟩ ∈ s.timerQueue ∧ timer.cancelled = false
  queue_scheduled : ∀ entry ∈ s.timerQueue, .scheduled entry ∈ s.history
  scheduled_lt : s.engine.nextTimerId ≠ 0 → ∀ entry, .scheduled entry ∈ s.history →
    entry.id < s.engine.nextTimerId
  fired_scheduled : ∀ entry ∈ fired s.history, .scheduled entry ∈ s.history
  fired_not_live : ∀ entry ∈ fired s.history, entry.id ∉ s.engine.timers
  fired_le : ∀ entry ∈ fired s.history, entry.deadline ≤ s.clock ∧
    ∀ queued ∈ s.timerQueue, entry.deadline ≤ queued.deadline
  cancelled_not_live : ∀ id, Cancelled id s.history → id ∉ s.engine.timers

/-- Each timer fired once, in the order of the deadlines, and none that was cancelled. -/
structure Lawful (history : List Happening) : Prop where
  once : ((fired history).map (·.id)).Nodup
  ordered : (fired history).Pairwise fun later earlier ↦ earlier.deadline ≤ later.deadline
  not_cancelled : ∀ later entry earlier, history = later ++ .fired entry :: earlier →
    ¬ Cancelled entry.id earlier

theorem cancelled_cons {happening : Happening} (h : Cancelled id (happening :: history)) :
    Cancelled id history ∨
      happening = .cancelled id ∧ ∃ deadline, .scheduled ⟨deadline, id⟩ ∈ history := by
  obtain ⟨later, earlier, deadline, heq, hmem⟩ := h
  cases later with
  | nil =>
    obtain ⟨rfl, rfl⟩ := List.cons.inj heq
    exact .inr ⟨rfl, deadline, hmem⟩
  | cons first later =>
    obtain ⟨rfl, rfl⟩ := List.cons.inj heq
    exact .inl ⟨later, earlier, deadline, rfl, hmem⟩

theorem exists_scheduled_of_cancelled (h : Cancelled id history) :
    ∃ deadline, .scheduled ⟨deadline, id⟩ ∈ history := by
  obtain ⟨later, earlier, deadline, rfl, hmem⟩ := h
  exact ⟨deadline, List.mem_append_right _ (List.mem_cons_of_mem _ hmem)⟩

/-- What is not the firing of a timer leaves the rest lawful. -/
theorem Lawful.cons {happening : Happening} (h : Lawful history)
    (hnot : ∀ entry, happening ≠ .fired entry) : Lawful (happening :: history) := by
  have hfired : fired (happening :: history) = fired history := by
    cases happening with
    | fired entry => exact absurd rfl (hnot entry)
    | scheduled => rfl
    | cancelled => rfl
  refine ⟨hfired ▸ h.once, hfired ▸ h.ordered, fun later entry earlier heq ↦ ?_⟩
  cases later with
  | nil => exact absurd (List.cons.inj heq).1 (hnot entry)
  | cons first later => exact h.not_cancelled later entry earlier (List.cons.inj heq).2

theorem Lawful.fire {entry : TimerQueueEntry} (h : Lawful history)
    (honce : entry.id ∉ (fired history).map (·.id))
    (hordered : ∀ earlier ∈ fired history, earlier.deadline ≤ entry.deadline)
    (hcancelled : ¬ Cancelled entry.id history) : Lawful (.fired entry :: history) := by
  have hfired : fired (.fired entry :: history) = entry :: fired history := rfl
  refine ⟨?_, ?_, fun later entry' earlier heq ↦ ?_⟩
  · rw [hfired, List.map_cons]
    exact List.nodup_cons.mpr ⟨honce, h.once⟩
  · rw [hfired]
    exact List.pairwise_cons.mpr ⟨hordered, h.ordered⟩
  · cases later with
    | nil =>
      obtain ⟨hentry, rfl⟩ := List.cons.inj heq
      obtain rfl := Happening.fired.inj hentry
      exact hcancelled
    | cons first later => exact h.not_cancelled later entry' earlier (List.cons.inj heq).2

theorem lawful_nil : Lawful [] := ⟨.nil, .nil, fun later _ _ heq ↦ by simp at heq⟩

theorem consistent_empty : Consistent ({} : DeadlineEngine α) where
  nodup := .nil
  sorted := .nil
  live _ _ h := by simp at h
  queue_scheduled := by simp
  scheduled_lt := by simp
  fired_scheduled := by simp [fired]
  fired_not_live := by simp [fired]
  fired_le := by simp [fired]
  cancelled_not_live id h := by
    obtain ⟨_, hmem⟩ := exists_scheduled_of_cancelled h
    simp at hmem

/-! ### One step -/

variable {s : DeadlineEngine α}

section

variable (h : s.Consistent)

include h

theorem Consistent.tick {now : TimePoint} (hnow : s.clock ≤ now) :
    Consistent { s with clock := now } :=
  { h with fired_le := fun entry hentry ↦
      ⟨Int.le_trans (h.fired_le entry hentry).1 hnow, (h.fired_le entry hentry).2⟩ }

/-- An identifier that has been scheduled is not the next one. -/
theorem Consistent.ne_next (hnext : s.engine.nextTimerId ≠ 0) {entry : TimerQueueEntry}
    (hentry : .scheduled entry ∈ s.history) : entry.id ≠ s.engine.nextTimerId := by
  intro heq
  have hlt := h.scheduled_lt hnext entry hentry
  rw [heq] at hlt
  exact UInt64.lt_irrefl _ hlt

theorem Consistent.schedule (hlawful : Lawful s.history) {accepts : Bool} {now delay : TimePoint}
    {callback : α} (hnow : s.clock ≤ now)
    (hqueue : Pushed ⟨now + max delay 0, s.engine.nextTimerId⟩ s.timerQueue queue) :
    (s.schedule accepts now delay callback queue).Consistent ∧
      Lawful (s.schedule accepts now delay callback queue).history := by
  rw [DeadlineEngine.schedule, IOEngine.schedule]
  split_ifs with hrefused
  · exact ⟨h.tick hnow, hlawful⟩
  obtain ⟨-, hnext⟩ := not_or.mp hrefused
  dsimp only
  rw [if_neg hnext]
  refine ⟨?_, hlawful.cons (by simp)⟩
  have hmem (entry : TimerQueueEntry) : entry ∈ queue ↔
      entry = ⟨now + max delay 0, s.engine.nextTimerId⟩ ∨ entry ∈ s.timerQueue := by
    rw [hqueue.perm.mem_iff, List.mem_cons]
  exact
    { nodup := by
        rw [(hqueue.perm.map _).nodup_iff, List.map_cons, List.nodup_cons]
        refine ⟨fun hid ↦ ?_, h.nodup⟩
        obtain ⟨entry, hentry, heq⟩ := List.mem_map.mp hid
        exact h.ne_next hnext (h.queue_scheduled entry hentry) heq
      sorted := hqueue.sorted
      live := fun id timer hlookup ↦ by
        rw [AList.lookup_insert_eq_ite] at hlookup
        split_ifs at hlookup with hid
        · obtain rfl := Option.some.inj hlookup
          exact ⟨(hmem _).mpr (.inl (by rw [hid])), rfl⟩
        · obtain ⟨hold, hcancelled⟩ := h.live id timer hlookup
          exact ⟨(hmem _).mpr (.inr hold), hcancelled⟩
      queue_scheduled := fun entry hentry ↦ by
        rcases (hmem entry).mp hentry with rfl | hold
        · exact List.mem_cons_self
        · exact List.mem_cons_of_mem _ (h.queue_scheduled entry hold)
      scheduled_lt := fun hne entry hentry ↦ by
        have hlt := IOEngine.lt_add_one_of_ne hne
        rcases List.mem_cons.mp hentry with heq | hold
        · obtain rfl := Happening.scheduled.inj heq
          exact hlt
        · exact UInt64.lt_trans (h.scheduled_lt hnext entry hold) hlt
      fired_scheduled := fun entry hentry ↦
        List.mem_cons_of_mem _ (h.fired_scheduled entry hentry)
      fired_not_live := fun entry hentry hid ↦ by
        rcases (AList.mem_insert _).mp hid with heq | hold
        · exact h.ne_next hnext (h.fired_scheduled entry hentry) heq
        · exact h.fired_not_live entry hentry hold
      fired_le := fun entry hentry ↦ by
        obtain ⟨hclock, hqueued⟩ := h.fired_le entry hentry
        refine ⟨Int.le_trans hclock hnow, fun queued hmemQueued ↦ ?_⟩
        rcases (hmem queued).mp hmemQueued with rfl | hold
        · -- a new deadline is not before the clock, and what has fired was due
          exact Int.le_trans hclock
            (Int.le_trans hnow (Int.le_add_of_nonneg_right (le_max_right delay 0)))
        · exact hqueued queued hold
      cancelled_not_live := fun id hcancelled hid ↦ by
        have hcancelled := (cancelled_cons hcancelled).resolve_right (by simp)
        rcases (AList.mem_insert _).mp hid with heq | hold
        · obtain ⟨deadline, hscheduled⟩ := exists_scheduled_of_cancelled hcancelled
          exact h.ne_next hnext hscheduled heq
        · exact h.cancelled_not_live id hcancelled hold }

theorem Consistent.outOfMemory {timer : Timer α} (hnext : s.engine.nextTimerId ≠ 0) :
    Consistent { s with
      engine := (s.engine.schedule true timer).2.cancel (s.engine.schedule true timer).1 } := by
  have hfresh : s.engine.nextTimerId ∉ s.engine.timers := fun hmem ↦
    absurd (s.engine.lt_next hnext _ hmem) (UInt64.lt_irrefl _)
  have htimers : ((s.engine.schedule true timer).2.cancel
      (s.engine.schedule true timer).1).timers = s.engine.timers := by
    rw [IOEngine.schedule, dif_neg (by simpa using hnext)]
    exact AList.erase_insert timer hfresh
  have hid : ((s.engine.schedule true timer).2.cancel
      (s.engine.schedule true timer).1).nextTimerId = s.engine.nextTimerId + 1 := by
    rw [IOEngine.schedule, dif_neg (by simpa using hnext)]
    rfl
  exact
    { nodup := h.nodup
      sorted := h.sorted
      live := by rw [htimers]; exact h.live
      queue_scheduled := h.queue_scheduled
      scheduled_lt := fun hne entry hentry ↦ by
        rw [hid] at hne ⊢
        exact UInt64.lt_trans (h.scheduled_lt hnext entry hentry) (IOEngine.lt_add_one_of_ne hne)
      fired_scheduled := h.fired_scheduled
      fired_not_live := by rw [htimers]; exact h.fired_not_live
      fired_le := h.fired_le
      cancelled_not_live := by rw [htimers]; exact h.cancelled_not_live }

theorem Consistent.cancel (id : TimerId) : (s.cancel id).Consistent := by
  rw [DeadlineEngine.cancel]
  split_ifs
  · exact h
  have hlive {id' : TimerId} (hid' : id' ∈ s.engine.timers.erase id) :
      id' ≠ id ∧ id' ∈ s.engine.timers := AList.mem_erase.mp hid'
  exact
    { nodup := h.nodup
      sorted := h.sorted
      live := fun id' timer hlookup ↦ by
        have herase : (s.engine.timers.erase id).lookup id' = some timer := hlookup
        rw [AList.lookup_erase_eq_ite] at herase
        split_ifs at herase
        exact h.live id' timer herase
      queue_scheduled := fun entry hentry ↦ List.mem_cons_of_mem _ (h.queue_scheduled entry hentry)
      scheduled_lt := fun hne entry hentry ↦
        h.scheduled_lt hne entry ((List.mem_cons.mp hentry).resolve_left (by simp))
      fired_scheduled := fun entry hentry ↦ List.mem_cons_of_mem _ (h.fired_scheduled entry hentry)
      fired_not_live := fun entry hentry hid ↦ h.fired_not_live entry hentry (hlive hid).2
      fired_le := h.fired_le
      cancelled_not_live := fun id' hcancelled hid ↦ by
        rcases cancelled_cons hcancelled with hold | ⟨heq, -⟩
        · exact h.cancelled_not_live id' hold (hlive hid).2
        · exact (hlive hid).1 (Happening.cancelled.inj heq).symm }

end

theorem Lawful.cancel (hlawful : Lawful s.history) (id : TimerId) :
    Lawful (s.cancel id).history := by
  rw [DeadlineEngine.cancel]
  split_ifs
  · exact hlawful
  · exact hlawful.cons (by simp)

/-- Dropping what is not armed from the front of the queue. -/
theorem Consistent.drop (h : s.Consistent) (hsuffix : queue <:+ s.timerQueue)
    (hstale : ∀ entry ∈ s.timerQueue, entry.id ∈ s.engine.timers → entry ∈ queue) :
    Consistent { s with timerQueue := queue } where
  nodup := h.nodup.sublist (hsuffix.sublist.map _)
  sorted := h.sorted.sublist hsuffix.sublist
  live id timer hlookup := by
    obtain ⟨hmem, hcancelled⟩ := h.live id timer hlookup
    exact ⟨hstale _ hmem (AList.mem_of_lookup hlookup), hcancelled⟩
  queue_scheduled entry hentry := h.queue_scheduled entry (hsuffix.subset hentry)
  scheduled_lt := h.scheduled_lt
  fired_scheduled := h.fired_scheduled
  fired_not_live := h.fired_not_live
  fired_le entry hentry :=
    ⟨(h.fired_le entry hentry).1, fun queued hqueued ↦
      (h.fired_le entry hentry).2 queued (hsuffix.subset hqueued)⟩
  cancelled_not_live := h.cancelled_not_live

theorem Consistent.purge (h : s.Consistent) : s.purge.Consistent := by
  refine h.drop (List.dropWhile_suffix _) fun entry hentry hid ↦ ?_
  have hsplit := List.takeWhile_append_dropWhile
    (p := fun entry : TimerQueueEntry ↦ decide (entry.id ∉ s.engine.timers)) (l := s.timerQueue)
  rw [← hsplit] at hentry
  refine (List.mem_append.mp hentry).resolve_left fun htaken ↦ ?_
  exact absurd hid (by simpa using List.mem_takeWhile_imp htaken)

theorem Consistent.dispatchTimer (h : s.Consistent) (hlawful : Lawful s.history)
    {s' : DeadlineEngine α} {now : TimePoint} {callback : Option α} (hnow : s.clock ≤ now)
    (hstep : s.dispatchTimer now = some (callback, s')) : s'.Consistent ∧ Lawful s'.history := by
  rw [DeadlineEngine.dispatchTimer] at hstep
  split at hstep
  · exact absurd hstep (by simp)
  next entry queue hqueue =>
  split at hstep
  · exact absurd hstep (by simp)
  next hdue =>
  have hsuffix : queue <:+ s.timerQueue := hqueue ▸ List.suffix_cons _ _
  split at hstep
  · next hlookup =>
    obtain ⟨-, rfl⟩ := Prod.mk.inj (Option.some.inj hstep)
    refine ⟨(h.drop hsuffix fun other hother hid ↦ ?_).tick hnow, hlawful⟩
    rw [hqueue] at hother
    refine (List.mem_cons.mp hother).resolve_left ?_
    rintro rfl
    exact absurd hid (AList.lookup_eq_none.mp hlookup)
  · next timer hlookup =>
    obtain ⟨hmem, hcancelled⟩ := h.live _ _ hlookup
    rw [hcancelled, if_neg Bool.false_ne_true] at hstep
    obtain ⟨-, rfl⟩ := Prod.mk.inj (Option.some.inj hstep)
    have hlive := AList.mem_of_lookup hlookup
    have hentry : entry ∈ s.timerQueue := hqueue ▸ List.mem_cons_self
    have hnodup := h.nodup
    have hsorted := h.sorted
    rw [hqueue, List.map_cons, List.nodup_cons] at hnodup
    rw [hqueue, List.pairwise_cons] at hsorted
    have hearlier : ∀ earlier ∈ fired s.history, earlier.deadline ≤ entry.deadline :=
      fun earlier hfired ↦ (h.fired_le earlier hfired).2 entry hentry
    have hfired (other : TimerQueueEntry) (hother : other ∈ fired (.fired entry :: s.history)) :
        other = entry ∨ other ∈ fired s.history := List.mem_cons.mp hother
    refine ⟨?_, hlawful.fire (fun hid ↦ ?_) hearlier fun hcancelled ↦
      h.cancelled_not_live _ hcancelled hlive⟩
    · exact
        { nodup := hnodup.2
          sorted := hsorted.2
          live := fun id timer' hlookup' ↦ by
            have herase : (s.engine.timers.erase entry.id).lookup id = some timer' := hlookup'
            rw [AList.lookup_erase_eq_ite] at herase
            split_ifs at herase with hid
            obtain ⟨hmem', hcancelled'⟩ := h.live id timer' herase
            rw [hqueue] at hmem'
            refine ⟨(List.mem_cons.mp hmem').resolve_left fun heq ↦ hid ?_, hcancelled'⟩
            rw [← heq]
          queue_scheduled := fun queued hqueued ↦
            List.mem_cons_of_mem _ (h.queue_scheduled queued (hsuffix.subset hqueued))
          scheduled_lt := fun hne other hother ↦
            h.scheduled_lt hne other ((List.mem_cons.mp hother).resolve_left (by simp))
          fired_scheduled := fun other hother ↦ by
            rcases hfired other hother with rfl | hold
            · exact List.mem_cons_of_mem _ (h.queue_scheduled _ hentry)
            · exact List.mem_cons_of_mem _ (h.fired_scheduled other hold)
          fired_not_live := fun other hother hid ↦ by
            obtain ⟨hne, hid⟩ := AList.mem_erase.mp hid
            rcases hfired other hother with rfl | hold
            · exact hne rfl
            · exact h.fired_not_live other hold hid
          fired_le := fun other hother ↦ by
            rcases hfired other hother with rfl | hold
            · exact ⟨Int.not_lt.mp hdue, hsorted.1⟩
            · obtain ⟨hclock, hqueued⟩ := h.fired_le other hold
              exact ⟨Int.le_trans hclock hnow, fun queued hq ↦
                hqueued queued (hsuffix.subset hq)⟩
          cancelled_not_live := fun id hcancelled hid ↦
            h.cancelled_not_live id ((cancelled_cons hcancelled).resolve_right (by simp))
              (AList.mem_erase.mp hid).2 }
    · obtain ⟨other, hother, heq⟩ := List.mem_map.mp hid
      exact h.fired_not_live other hother (heq ▸ hlive)

/-- **One step** keeps the queue consistent and the history lawful. -/
theorem Step.invariant {s s' : DeadlineEngine α} (hstep : Step s s')
    (h : s.Consistent ∧ Lawful s.history) : s'.Consistent ∧ Lawful s'.history := by
  obtain ⟨hconsistent, hlawful⟩ := h
  cases hstep with
  | schedule hnow hqueue => exact hconsistent.schedule hlawful hnow hqueue
  | outOfMemory hnext => exact ⟨hconsistent.outOfMemory hnext, hlawful⟩
  | cancel => exact ⟨hconsistent.cancel _, hlawful.cancel _⟩
  | dispatchTimer hnow hdispatch => exact hconsistent.dispatchTimer hlawful hnow hdispatch
  | purge => exact ⟨hconsistent.purge, hlawful⟩

/-! ### The wait -/

/-- The front of a purged queue is armed, and is the deadline of a timer that is due first. -/
theorem Consistent.front_of_live (h : s.Consistent) {timer : Timer α}
    (hlookup : s.engine.timers.lookup id = some timer) :
    ∃ entry first, s.purge.timerQueue.head? = some entry ∧
      s.engine.timers.lookup entry.id = some first ∧ first.deadline ≤ timer.deadline := by
  have hpurge := h.purge
  obtain ⟨hmem, -⟩ := hpurge.live id timer hlookup
  obtain ⟨entry, queue, hqueue⟩ := List.exists_cons_of_ne_nil (List.ne_nil_of_mem hmem)
  have hlive : entry.id ∈ s.engine.timers := by
    have hhead := List.head?_dropWhile_not
      (fun entry : TimerQueueEntry ↦ decide (entry.id ∉ s.engine.timers)) s.timerQueue
    rw [show s.timerQueue.dropWhile _ = entry :: queue from hqueue] at hhead
    simpa using hhead
  obtain ⟨first, hfirst⟩ : ∃ first, s.engine.timers.lookup entry.id = some first :=
    Option.isSome_iff_exists.mp (AList.lookup_isSome.mpr hlive)
  refine ⟨entry, first, by rw [hqueue]; rfl, hfirst, ?_⟩
  have hfirstMem := (hpurge.live entry.id first hfirst).1
  have hnodup := hpurge.nodup
  have hsorted := hpurge.sorted
  rw [hqueue] at hmem hfirstMem hnodup hsorted
  rw [List.map_cons, List.nodup_cons] at hnodup
  have heq : ⟨first.deadline, entry.id⟩ = entry :=
    (List.mem_cons.mp hfirstMem).resolve_right fun hmem ↦
      hnodup.1 (List.mem_map.mpr ⟨_, hmem, rfl⟩)
  have hdeadline : first.deadline = entry.deadline := congrArg TimerQueueEntry.deadline heq
  rw [hdeadline]
  rcases List.mem_cons.mp hmem with htimer | htimer
  · exact (congrArg TimerQueueEntry.deadline htimer).symm.le
  · exact List.rel_of_pairwise_cons hsorted htimer

theorem roundedUp_eq (remaining : ℤ) :
    roundedUp remaining = (remaining + (millisecond - 1)) / millisecond := by
  rw [roundedUp]
  simp only [millisecond]
  split_ifs <;> omega

/-- The wait is no longer than what is left, rounded up to a millisecond. -/
theorem waitTimeoutMs_le {requestedTimeoutMs : ℤ} {now : TimePoint} {entry : TimerQueueEntry}
    {timer : Timer α} (hhead : s.timerQueue.head? = some entry)
    (hlookup : s.engine.timers.lookup entry.id = some timer) :
    0 ≤ s.waitTimeoutMs requestedTimeoutMs now ∧
      s.waitTimeoutMs requestedTimeoutMs now ≤
        max 0 ((timer.deadline - now + (millisecond - 1)) / millisecond) := by
  have hfront : (s.timerQueue.head?.bind fun entry ↦ s.engine.timers.lookup entry.id) =
      some timer := by
    rw [hhead, Option.bind_some, hlookup]
  have hround := roundedUp_eq (timer.deadline - now)
  have hpos : now < timer.deadline → 0 ≤ roundedUp (timer.deadline - now) := fun hlt ↦ by
    rw [hround]
    exact Int.ediv_nonneg (Int.add_nonneg (Int.sub_nonneg_of_le hlt.le) (by decide)) (by decide)
  rw [waitTimeoutMs, hfront, ← hround]
  dsimp only [intMax]
  generalize roundedUp (timer.deadline - now) = rounded at hpos ⊢
  by_cases hdue : timer.deadline > now
  · have hrounded := hpos hdue
    simp only [if_pos hdue]
    split_ifs <;> omega
  · simp only [if_neg hdue]
    split_ifs <;> omega

/-- Among entries with distinct identifiers, one is alone with its own. -/
theorem filter_id_eq (hnodup : (queue.map (·.id)).Nodup) {entry : TimerQueueEntry}
    (hmem : entry ∈ queue) : queue.filter (·.id = entry.id) = [entry] := by
  induction queue with
  | nil => exact absurd hmem List.not_mem_nil
  | cons first queue ih =>
    rw [List.map_cons, List.nodup_cons] at hnodup
    rcases List.mem_cons.mp hmem with rfl | hmem
    · have hnone : queue.filter (·.id = entry.id) = [] :=
        List.filter_eq_nil_iff.mpr fun other hother heq ↦
          hnodup.1 (List.mem_map.mpr ⟨other, hother, of_decide_eq_true heq⟩)
      rw [List.filter_cons_of_pos (by simp), hnone]
    · have hne : ¬ first.id = entry.id := fun heq ↦
        hnodup.1 (heq ▸ List.mem_map.mpr ⟨entry, hmem, rfl⟩)
      rw [List.filter_cons_of_neg (by simpa using hne), ih hnodup.2 hmem]

/-- **The timers, after any steps.** An armed timer has exactly one entry in the queue; every timer
has fired at most once, not after it was cancelled, and in the order of the deadlines; and once
stale entries are dropped the engine waits no longer than to the deadline of any armed timer,
rounded up to a millisecond. -/
theorem timers_run {s : DeadlineEngine α} (h : Relation.ReflTransGen Step {} s) :
    (∀ id timer, s.engine.timers.lookup id = some timer →
      s.timerQueue.filter (·.id = id) = [⟨timer.deadline, id⟩]) ∧
      Lawful s.history ∧
      ∀ requestedTimeoutMs now id timer, s.engine.timers.lookup id = some timer →
        0 ≤ s.purge.waitTimeoutMs requestedTimeoutMs now ∧
          s.purge.waitTimeoutMs requestedTimeoutMs now ≤
            max 0 ((timer.deadline - now + (millisecond - 1)) / millisecond) := by
  obtain ⟨hconsistent, hlawful⟩ :=
    steps_invariant (I := fun s ↦ s.Consistent ∧ Lawful s.history) Step.invariant h
      ⟨consistent_empty, lawful_nil⟩
  refine ⟨fun id timer hlookup ↦ ?_, hlawful, fun requestedTimeoutMs now id timer hlookup ↦ ?_⟩
  · exact filter_id_eq hconsistent.nodup (hconsistent.live id timer hlookup).1
  · obtain ⟨entry, first, hhead, hfirst, hle⟩ := hconsistent.front_of_live hlookup
    obtain ⟨hpos, hwait⟩ :=
      @waitTimeoutMs_le _ s.purge requestedTimeoutMs now entry first hhead hfirst
    refine ⟨hpos, hwait.trans (max_le_max le_rfl ?_)⟩
    exact Int.ediv_le_ediv (by decide) (Int.add_le_add_right (Int.sub_le_sub_right hle now) _)

/-- Three timers are scheduled, the last of them due first, and that one is cancelled. The engine
waits for the second; then the second fires, and the first. -/
theorem timers_run_fired :
    ∃ s s' : DeadlineEngine Unit,
      Relation.ReflTransGen Step {} s ∧ Relation.ReflTransGen Step s s' ∧
      s.history = [.cancelled 3, .scheduled ⟨1000000, 3⟩, .scheduled ⟨3000000, 2⟩,
        .scheduled ⟨5000000, 1⟩] ∧
      s.purge.waitTimeoutMs (-1) 0 ≤ 3 ∧
      s'.history = .fired ⟨5000000, 1⟩ :: .fired ⟨3000000, 2⟩ :: s.history ∧
      Lawful s'.history := by
  let first : DeadlineEngine Unit := schedule true 0 5000000 () [⟨5000000, 1⟩] {}
  let second := schedule true 0 3000000 () [⟨3000000, 2⟩, ⟨5000000, 1⟩] first
  let third := schedule true 0 1000000 () [⟨1000000, 3⟩, ⟨3000000, 2⟩, ⟨5000000, 1⟩] second
  let waiting := third.cancel 3
  let fired : DeadlineEngine Unit :=
    { engine := waiting.engine.cancel 2
      timerQueue := [⟨5000000, 1⟩]
      clock := 4000000
      history := .fired ⟨3000000, 2⟩ :: waiting.history }
  let done : DeadlineEngine Unit :=
    { engine := fired.engine.cancel 1
      clock := 6000000
      history := .fired ⟨5000000, 1⟩ :: fired.history }
  have hfirst : Step {} first := .schedule (by decide) ⟨by decide, List.pairwise_singleton _ _⟩
  have hsecond : Step first second := .schedule (by decide) ⟨by decide, by simp⟩
  have hthird : Step second third := .schedule (by decide) ⟨by decide, by simp⟩
  have hwaiting : Relation.ReflTransGen Step {} waiting :=
    (((Relation.ReflTransGen.single hfirst).tail hsecond).tail hthird).tail .cancel
  -- the stale entry goes first
  have hfired : Step waiting.purge fired :=
    .dispatchTimer (show waiting.purge.clock ≤ 4000000 by decide) rfl
  have hdone : Step fired done := .dispatchTimer (show fired.clock ≤ 6000000 by decide) rfl
  have hlater : Relation.ReflTransGen Step waiting done :=
    ((Relation.ReflTransGen.single .purge).tail hfired).tail hdone
  have hbound := ((timers_run hwaiting).2.2 (-1) 0 2 ⟨3000000, (), false⟩ rfl).2
  exact ⟨waiting, done, hwaiting, hlater, rfl, hbound.trans (by decide), rfl,
    (timers_run (hwaiting.trans hlater)).2.1⟩

end DeadlineEngine

end Skan.Io
