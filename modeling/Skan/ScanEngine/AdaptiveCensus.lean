import Skan.ScanEngine.AdaptiveInvariants

/-!
# The metrics of the adaptive scheduler

`outstanding_metric` computes how many items are in flight from what was submitted and what has
ended. `Census` says that each counter is the number of items it is about, so that the difference is
right; every action keeps it, but one: an item that is cancelled while it is not in flight is
subtracted although it was not submitted, or was subtracted already.

The arithmetic of the six counts (`Counted`, `Balanced`, `Closed`) comes first, then what each
action does to them. The counters saturate, so there must be room for every attempt
(`Board.Room`). -/

namespace Skan.ScanEngine

open Skan.Core Skan.Io
open CongestionController (saturatingSucc)

namespace AdaptiveScheduler

open Board

variable {env : Environment} {s : AdaptiveScheduler} {b b' : Board} {flaw : Option Flaw}
  {id : ScanWorkId} {item : ScanWorkItem} {P : Option Flaw → Prop} {events : List Event}

/-! ### Counting items -/

/-- How many items are in a state. -/
def population (items : List ScanWorkItem) (state : ScanWorkState) : ℕ :=
  items.countP (·.state = state)

/-- How many retries the items had, as far as they may be retried. -/
def retried (maxRetries : ℕ) (items : List ScanWorkItem) : ℕ :=
  (items.map fun item ↦ min item.retryCount maxRetries).sum

/-- Every item is in one of the states. -/
theorem sum_population (items : List ScanWorkItem) :
    population items .queued + population items .submitted + population items .completed +
      population items .timedOut + population items .cancelled + population items .failed =
        items.length := by
  induction items with
  | nil => rfl
  | cons item items ih =>
    simp only [population, List.countP_cons, List.length_cons] at ih ⊢
    rw [← ih]
    cases item.state <;> simp <;> omega

/-- Each item has at most `maxRetries` retries. -/
theorem retried_le (maxRetries : ℕ) (items : List ScanWorkItem) :
    retried maxRetries items ≤ items.length * maxRetries := by
  induction items with
  | nil => exact Nat.zero_le _
  | cons item items ih =>
    show min item.retryCount maxRetries + retried maxRetries items ≤ (items.length + 1) * maxRetries
    have hitem : min item.retryCount maxRetries ≤ maxRetries := min_le_right _ _
    rw [Nat.succ_mul]
    omega

section Replace

variable {items : KeyedStore ScanWorkId ScanWorkItem} {id : ScanWorkId} {item : ScanWorkItem}

/-- One item changes its state. -/
theorem population_replace (changed : ScanWorkItem) (hitem : items.lookup id = some item)
    (state : ScanWorkState) :
    population (items.replace id changed).values state + (if item.state = state then 1 else 0) =
      population items.values state + if changed.state = state then 1 else 0 := by
  have hcount := AList.countP_values_replace (decide <| ·.state = state) changed hitem
  simpa only [population, decide_eq_true_eq] using hcount

/-- One item counts its retries. -/
theorem retried_replace (maxRetries : ℕ) (changed : ScanWorkItem)
    (hitem : items.lookup id = some item) :
    retried maxRetries (items.replace id changed).values + min item.retryCount maxRetries =
      retried maxRetries items.values + min changed.retryCount maxRetries := by
  have hafter := ((AList.values_replace changed hitem).map
    fun item ↦ min item.retryCount maxRetries).sum_eq
  have hbefore := ((AList.values_of_lookup hitem).map
    fun item ↦ min item.retryCount maxRetries).sum_eq
  rw [List.map_cons, List.sum_cons] at hafter hbefore
  rw [retried, retried, hafter, hbefore]
  omega

end Replace

/-- The counters say how many items are in each state that ends one; a retried item is not among
them. -/
structure Counted (tally : Tally) (count : ScanWorkState → ℕ) (retried : ℕ) : Prop where
  completed : tally.completed = count .completed
  failed : tally.failed = count .failed
  cancelled : tally.cancelled = count .cancelled
  timedOut : tally.timedOut = count .timedOut + tally.retries
  retries : tally.retries ≤ retried

/-- What was submitted and has not ended is in flight. -/
structure Balanced (tally : Tally) (count : ScanWorkState → ℕ) (retried : ℕ) : Prop
    extends Counted tally count retried where
  submitted : tally.submitted =
    count .submitted + tally.completed + tally.timedOut + tally.failed + tally.cancelled

/-- Nothing is in flight; what was still queued is among the cancelled. -/
structure Closed (tally : Tally) (count : ScanWorkState → ℕ) (retried : ℕ) : Prop
    extends Counted tally count retried where
  idle : count .submitted = 0
  submitted : tally.submitted ≤
    tally.completed + tally.timedOut + tally.failed + tally.cancelled

theorem saturatingSucc_of_lt {n : ℕ} (h : n < sizeMax) : saturatingSucc n = n + 1 := if_pos h

/-- An item changes from one state to another. -/
def Changes (before after : ScanWorkState) (count count' : ScanWorkState → ℕ) : Prop :=
  ∀ state, count' state + (if before = state then 1 else 0) =
    count state + if after = state then 1 else 0

section Balanced

variable {tally : Tally} {count count' : ScanWorkState → ℕ} {retried retried' : ℕ}

/-- The number of items in all states. -/
def total (count : ScanWorkState → ℕ) : ℕ :=
  count .queued + count .submitted + count .completed + count .timedOut + count .cancelled +
    count .failed

/-- What a change of one item does to each of the six counts. -/
theorem Changes.all {before after : ScanWorkState} (h : Changes before after count count') :
    (count' .queued + (if before = .queued then 1 else 0) =
      count .queued + if after = .queued then 1 else 0) ∧
    (count' .submitted + (if before = .submitted then 1 else 0) =
      count .submitted + if after = .submitted then 1 else 0) ∧
    (count' .completed + (if before = .completed then 1 else 0) =
      count .completed + if after = .completed then 1 else 0) ∧
    (count' .timedOut + (if before = .timedOut then 1 else 0) =
      count .timedOut + if after = .timedOut then 1 else 0) ∧
    (count' .cancelled + (if before = .cancelled then 1 else 0) =
      count .cancelled + if after = .cancelled then 1 else 0) ∧
    (count' .failed + (if before = .failed then 1 else 0) =
      count .failed + if after = .failed then 1 else 0) :=
  ⟨h _, h _, h _, h _, h _, h _⟩

/-- An ending is counted. -/
theorem Balanced.finish (ending : Ending) (h : Balanced tally count retried)
    (hroom : retried + total count ≤ sizeMax)
    (hcount : Changes .submitted ending.state count count') (hretried : retried ≤ retried') :
    Balanced (ending.count tally) count' retried' := by
  obtain ⟨⟨hcompleted, hfailed, hcancelled, htimedOut, hretries⟩, hsubmitted⟩ := h
  have hall := hcount.all
  rw [total] at hroom
  cases ending with
  | completed =>
    simp [Ending.state] at hall
    have hlt : tally.completed < sizeMax := by omega
    refine ⟨⟨?_, ?_, ?_, ?_, ?_⟩, ?_⟩ <;> simp only [Ending.count, saturatingSucc_of_lt hlt] <;>
      omega
  | failed =>
    simp [Ending.state] at hall
    have hlt : tally.failed < sizeMax := by omega
    refine ⟨⟨?_, ?_, ?_, ?_, ?_⟩, ?_⟩ <;> simp only [Ending.count, saturatingSucc_of_lt hlt] <;>
      omega
  | cancelled =>
    simp [Ending.state] at hall
    have hlt : tally.cancelled < sizeMax := by omega
    refine ⟨⟨?_, ?_, ?_, ?_, ?_⟩, ?_⟩ <;> simp only [Ending.count, saturatingSucc_of_lt hlt] <;>
      omega

section

variable (h : Balanced tally count retried) (hroom : retried + total count ≤ sizeMax)

include h hroom

/-- So is a submission. -/
theorem Balanced.submit (hcount : Changes .queued .submitted count count')
    (hretried : retried ≤ retried') : Balanced (Tally.submit tally) count' retried' := by
  obtain ⟨⟨hcompleted, hfailed, hcancelled, htimedOut, hretries⟩, hsubmitted⟩ := h
  have hall := hcount.all
  simp at hall
  rw [total] at hroom
  have hlt : tally.submitted < sizeMax := by omega
  refine ⟨⟨?_, ?_, ?_, ?_, ?_⟩, ?_⟩ <;> simp only [Tally.submit, saturatingSucc_of_lt hlt] <;> omega

/-- So is a timeout. -/
theorem Balanced.timeOut (hcount : Changes .submitted .timedOut count count')
    (hretried : retried ≤ retried') : Balanced (Tally.timeOut tally) count' retried' := by
  obtain ⟨⟨hcompleted, hfailed, hcancelled, htimedOut, hretries⟩, hsubmitted⟩ := h
  have hall := hcount.all
  simp at hall
  rw [total] at hroom
  have hlt : tally.timedOut < sizeMax := by omega
  refine ⟨⟨?_, ?_, ?_, ?_, ?_⟩, ?_⟩ <;> simp only [Tally.timeOut, saturatingSucc_of_lt hlt] <;>
    omega

/-- A retry counts as a timeout as well. -/
theorem Balanced.retry (hcount : Changes .submitted .queued count count')
    (hretried : retried < retried') : Balanced (Tally.retry tally) count' retried' := by
  obtain ⟨⟨hcompleted, hfailed, hcancelled, htimedOut, hretries⟩, hsubmitted⟩ := h
  have hall := hcount.all
  simp at hall
  rw [total] at hroom
  have hlt : tally.timedOut < sizeMax := by omega
  have hltRetries : tally.retries < sizeMax := by omega
  refine ⟨⟨?_, ?_, ?_, ?_, ?_⟩, ?_⟩ <;>
    simp only [Tally.retry, saturatingSucc_of_lt hlt, saturatingSucc_of_lt hltRetries] <;> omega

/-- An attempt that could not be made was submitted and failed. -/
theorem Balanced.fail (hcount : Changes .queued .failed count count')
    (hretried : retried ≤ retried') :
    Balanced (Ending.failed.count (Tally.submit tally)) count' retried' := by
  obtain ⟨⟨hcompleted, hfailed, hcancelled, htimedOut, hretries⟩, hsubmitted⟩ := h
  have hall := hcount.all
  simp at hall
  rw [total] at hroom
  have hlt : tally.submitted < sizeMax := by omega
  have hltFailed : tally.failed < sizeMax := by omega
  refine ⟨⟨?_, ?_, ?_, ?_, ?_⟩, ?_⟩ <;>
    simp only [Ending.count, Tally.submit, saturatingSucc_of_lt hlt,
      saturatingSucc_of_lt hltFailed] <;> omega

end

theorem iterate_cancelled (n : ℕ) (hroom : tally.cancelled + n ≤ sizeMax) :
    (Ending.cancelled.count ·)^[n] tally = { tally with cancelled := tally.cancelled + n } := by
  induction n with
  | zero => rfl
  | succ n ih =>
    rw [Function.iterate_succ_apply', ih (by omega)]
    show ({ tally with cancelled := saturatingSucc (tally.cancelled + n) } : Tally) = _
    rw [saturatingSucc_of_lt (by omega), Nat.add_assoc]

/-- Shutting down cancels what is queued or in flight. -/
theorem Counted.close (h : Counted tally count retried)
    (hsubmitted : tally.submitted ≤
      count .submitted + tally.completed + tally.timedOut + tally.failed + tally.cancelled)
    (hroom : retried + total count ≤ sizeMax) (hidle : count' .submitted = 0)
    (hcompleted : count' .completed = count .completed)
    (hfailed : count' .failed = count .failed) (htimedOut : count' .timedOut = count .timedOut)
    (hcancelled : count' .cancelled = count .cancelled + (count .queued + count .submitted))
    (hretried : retried ≤ retried') :
    Closed ((Ending.cancelled.count ·)^[count .queued + count .submitted] tally) count'
      retried' := by
  obtain ⟨hc, hf, hx, ht, hr⟩ := h
  rw [total] at hroom
  rw [iterate_cancelled _ (by omega)]
  refine ⟨⟨hc.trans hcompleted.symm, hf.trans hfailed.symm, ?_, ?_, hr.trans hretried⟩, hidle, ?_⟩
  · rw [hcancelled, hx]
  · rw [htimedOut]
    exact ht
  · show tally.submitted ≤ tally.completed + tally.timedOut + tally.failed +
      (tally.cancelled + (count .queued + count .submitted))
    omega

end Balanced

section Lists

variable {tally : Tally} {items : List ScanWorkItem} {maxRetries : ℕ} {item : ScanWorkItem}

/-- One more queued item changes none of the counts that the counters are about. -/
theorem population_cons_queued (hstate : item.state = .queued) (state : ScanWorkState)
    (hother : state ≠ .queued) : population (item :: items) state = population items state := by
  rw [population, List.countP_cons_of_neg (by simpa [hstate] using hother.symm)]
  rfl

/-- A queued item counts for nothing yet. -/
theorem Counted.enqueue
    (h : Counted tally (population items) (retried maxRetries items))
    (hstate : item.state = .queued) :
    Counted tally (population (item :: items)) (retried maxRetries (item :: items)) := by
  refine ⟨?_, ?_, ?_, ?_, h.retries.trans (Nat.le_add_left _ _)⟩
  · rw [population_cons_queued hstate .completed nofun, h.completed]
  · rw [population_cons_queued hstate .failed nofun, h.failed]
  · rw [population_cons_queued hstate .cancelled nofun, h.cancelled]
  · rw [population_cons_queued hstate .timedOut nofun, h.timedOut]

theorem Balanced.enqueue
    (h : Balanced tally (population items) (retried maxRetries items))
    (hstate : item.state = .queued) :
    Balanced tally (population (item :: items)) (retried maxRetries (item :: items)) := by
  refine ⟨h.toCounted.enqueue hstate, ?_⟩
  rw [population_cons_queued hstate .submitted nofun]
  exact h.submitted

theorem Closed.enqueue
    (h : Closed tally (population items) (retried maxRetries items))
    (hstate : item.state = .queued) :
    Closed tally (population (item :: items)) (retried maxRetries (item :: items)) := by
  refine ⟨h.toCounted.enqueue hstate, ?_, h.submitted⟩
  rw [population_cons_queued hstate .submitted nofun]
  exact h.idle

/-- What shutting down makes of an item. -/
def closing (item : ScanWorkItem) : ScanWorkItem :=
  if ScanGroup.cancellable item then { item with state := .cancelled } else item

/-- Shutting down cancels what has not ended. -/
theorem population_closing (items : List ScanWorkItem) :
    population (items.map closing) .submitted = 0 ∧
    population (items.map closing) .completed = population items .completed ∧
    population (items.map closing) .failed = population items .failed ∧
    population (items.map closing) .timedOut = population items .timedOut ∧
    population (items.map closing) .cancelled =
      population items .cancelled + (population items .queued + population items .submitted) ∧
    items.countP ScanGroup.cancellable =
      population items .queued + population items .submitted := by
  induction items with
  | nil => exact ⟨rfl, rfl, rfl, rfl, rfl, rfl⟩
  | cons item items ih =>
    obtain ⟨hidle, hcompleted, hfailed, htimedOut, hcancelled, hclosed⟩ := ih
    simp only [population] at hidle hcompleted hfailed htimedOut hcancelled hclosed
    simp only [population, List.map_cons, List.countP_cons, hclosed]
    cases hstate : item.state <;>
      simp only [closing, ScanGroup.cancellable, hstate, reduceCtorEq, decide_true, decide_false,
        Bool.or_true, Bool.or_false, Bool.false_eq_true, if_true, if_false] <;>
      omega

theorem retried_closing (items : List ScanWorkItem) :
    retried maxRetries (items.map closing) = retried maxRetries items := by
  rw [retried, List.map_map]
  refine congrArg List.sum (List.map_congr_left fun item _ ↦ ?_)
  show min (closing item).retryCount maxRetries = _
  rw [closing]
  split <;> rfl

end Lists

/-- The counters of a board, while the scan runs and after it was shut down. -/
structure Census (b : Board) : Prop where
  running : b.stopped = false →
    Balanced b.tally (population b.items.values) (retried b.maxRetries b.items.values)
  closed : b.stopped = true →
    Closed b.tally (population b.items.values) (retried b.maxRetries b.items.values) ∧
      b.pending = ∅

/-- The counters have room for every attempt that may be made. -/
def Board.Room (b : Board) : Prop := b.items.size * (b.maxRetries + 1) ≤ sizeMax

theorem Board.Room.retried_add_total_le (h : b.Room) :
    retried b.maxRetries b.items.values + total (population b.items.values) ≤ sizeMax := by
  have hretried := retried_le b.maxRetries b.items.values
  rw [Room, ← AList.length_values, Nat.mul_succ] at h
  rw [total, sum_population]
  omega

/-- A change of one item's record, of a scan that is not shut down. -/
theorem Census.change {changed : ScanWorkItem} {queue pending timers tally'
    attempts} (hstopped : b.stopped = false) (hitem : b.items.lookup id = some item)
    (hbalanced : ∀ count' retried',
      Changes item.state changed.state (population b.items.values) count' →
      retried' + min item.retryCount b.maxRetries =
        retried b.maxRetries b.items.values + min changed.retryCount b.maxRetries →
      Balanced tally' count' retried') :
    Census
      { b with
        items := b.items.replace id changed, queue, pending, timers, tally := tally', attempts } :=
  ⟨fun _ ↦ hbalanced _ _ (population_replace changed hitem) (retried_replace _ changed hitem),
    fun hclosed ↦ absurd (hstopped.symm.trans hclosed) nofun⟩

/-- An item in flight is submitted, and the scan is not shut down. -/
theorem Census.of_pending (h : Census b) (hb : b.Consistent) {pending : Pending}
    (hpending : b.pending.lookup id = some pending) (hitem : b.items.lookup id = some item) :
    item.state = .submitted ∧ b.stopped = false ∧ pending.work.retryCount = item.retryCount := by
  have hsound := hb id
  rw [hitem, hpending] at hsound
  obtain ⟨i, hi, -, hstate, -, hretry, -⟩ := hsound.of_pending
  obtain rfl := Option.some.inj hi
  refine ⟨hstate, ?_, hretry⟩
  by_contra hstopped
  rw [(h.closed (by simpa using hstopped)).2] at hpending
  exact absurd hpending nofun

/-- What the census says whether the scan is shut down or not. -/
theorem Census.counted (h : Census b) :
    Counted b.tally (population b.items.values) (retried b.maxRetries b.items.values) ∧
      b.tally.submitted ≤ population b.items.values .submitted + b.tally.completed +
        b.tally.timedOut + b.tally.failed + b.tally.cancelled := by
  cases hstopped : b.stopped with
  | false => exact ⟨(h.running hstopped).toCounted, (h.running hstopped).submitted.le⟩
  | true =>
    obtain ⟨hclosed, -⟩ := h.closed hstopped
    refine ⟨hclosed.toCounted, ?_⟩
    rw [hclosed.idle, Nat.zero_add]
    exact hclosed.submitted

/-- **An action keeps the census.** -/
theorem census_of_action (h : Action flaw b b') (hflaw : flaw ≠ some .idleCancel)
    (hb : b.Consistent) (hroom : b.Room) (hcensus : Census b) : Census b' := by
  have hroom := hroom.retried_add_total_le
  cases h with
  | @enqueue _ item hfresh hstate =>
    have hvalues : (b.items.insert item.id item).values = item :: b.items.values :=
      AList.values_insert _ hfresh
    refine ⟨fun hstopped ↦ ?_, fun hstopped ↦ ⟨?_, (hcensus.closed hstopped).2⟩⟩
    · rw [hvalues]
      exact (hcensus.running hstopped).enqueue hstate
    · rw [hvalues]
      exact (hcensus.closed hstopped).1.enqueue hstate
  | skip => exact ⟨hcensus.running, hcensus.closed⟩
  | @fail _ id _ attempts item failed hstopped hqueue hitem hstate hfailed hid hretry =>
    refine .change hstopped hitem fun count' retried' hcount hretried ↦ ?_
    rw [hstate, hfailed] at hcount
    rw [hretry] at hretried
    exact (hcensus.running hstopped).fail hroom hcount (by omega)
  | start hstopped hqueue hitem hstate hsent hid hretry =>
    refine .change hstopped hitem fun count' retried' hcount hretried ↦ ?_
    rw [hstate, hsent] at hcount
    rw [hretry] at hretried
    exact (hcensus.running hstopped).submit hroom hcount (by omega)
  | finish ending hpending hitem =>
    obtain ⟨hstate, hstopped, -⟩ := hcensus.of_pending hb hpending hitem
    refine .change hstopped hitem fun count' retried' hcount hretried ↦ ?_
    rw [hstate] at hcount
    exact (hcensus.running hstopped).finish ending hroom hcount (by dsimp only at hretried; omega)
  | timeOut hpending hitem htimers =>
    obtain ⟨hstate, hstopped, -⟩ := hcensus.of_pending hb hpending hitem
    refine .change hstopped hitem fun count' retried' hcount hretried ↦ ?_
    rw [hstate] at hcount
    exact (hcensus.running hstopped).timeOut hroom hcount (by dsimp only at hretried; omega)
  | retry hpending hitem htimers hmay hid hagain hretry =>
    obtain ⟨hstate, hstopped, hwork⟩ := hcensus.of_pending hb hpending hitem
    refine .change hstopped hitem fun count' retried' hcount hretried ↦ ?_
    rw [hstate, hagain] at hcount
    exact (hcensus.running hstopped).retry hroom hcount (by omega)
  | fireStale => exact ⟨hcensus.running, hcensus.closed⟩
  | cancelIdle => exact absurd rfl hflaw
  | shutdown htimers =>
    refine ⟨fun hstopped ↦ absurd hstopped nofun, fun _ ↦ ⟨?_, rfl⟩⟩
    obtain ⟨hidle, hcompleted, hfailed, htimedOut, hcancelled, hclosed⟩ :=
      population_closing b.items.values
    rw [AList.values_mapValues, hclosed]
    obtain ⟨hcounted, hsubmitted⟩ := hcensus.counted
    exact hcounted.close hsubmitted hroom hidle hcompleted hfailed htimedOut hcancelled
      (retried_closing _).ge

theorem size_items_of_action (h : Action flaw b b') : b.items.size ≤ b'.items.size := by
  cases h with
  | enqueue hfresh =>
    rw [AList.size_insert _ hfresh]
    exact Nat.le_succ _
  | skip | fireStale => exact le_rfl
  | fail _ _ hitem => exact (AList.size_replace _ hitem).ge
  | start _ _ hitem => exact (AList.size_replace _ hitem).ge
  | finish _ _ hitem => exact (AList.size_replace _ hitem).ge
  | timeOut _ hitem => exact (AList.size_replace _ hitem).ge
  | retry _ hitem => exact (AList.size_replace _ hitem).ge
  | cancelIdle _ hitem => exact (AList.size_replace _ hitem).ge
  | shutdown =>
    rw [← AList.length_values, ← AList.length_values, AList.values_mapValues, List.length_map]

/-- What there is room for at the end there was room for before. -/
theorem room_of_action (h : Action flaw b b') (hroom : b'.Room) : b.Room := by
  rw [Room, maxRetries_of_action h] at hroom
  exact (Nat.mul_le_mul_right _ (size_items_of_action h)).trans hroom

theorem room_of_actions (h : Actions P b b') (hroom : b'.Room) : b.Room := by
  induction h with
  | refl => exact hroom
  | tail _ hlast ih =>
    obtain ⟨flaw, -, haction⟩ := hlast
    exact ih (room_of_action haction hroom)

theorem census_of_actions (hP : ∀ flaw, P flaw → flaw ≠ some .idleCancel) (h : Actions P b b')
    (hb : b.Consistent) (hcensus : Census b) (hroom : b'.Room) : Census b' := by
  induction h with
  | refl => exact hcensus
  | tail hfirst hlast ih =>
    obtain ⟨flaw, hflaw, haction⟩ := hlast
    have hbefore := room_of_action haction hroom
    exact census_of_action haction (hP flaw hflaw) (hb.of_actions hfirst) hbefore (ih hbefore)

/-- What has ended stays as it is. -/
theorem lookup_of_action (h : Action flaw b b') (hflaw : flaw ≠ some .idleCancel)
    (hb : b.Consistent) (hitem : b.items.lookup id = some item) (hfinal : item.state.final = true) :
    b'.items.lookup id = some item := by
  -- an action changes the record of an item that has not ended
  have hother : ∀ {id' : ScanWorkId} {item' : ScanWorkItem} (changed : ScanWorkItem),
      b.items.lookup id' = some item' → item'.state.final = false →
      (b.items.replace id' changed).lookup id = some item := by
    intro id' item' changed hitem' hlive
    have hne : id ≠ id' := by
      rintro rfl
      obtain rfl := Option.some.inj (hitem.symm.trans hitem')
      exact absurd (hfinal.symm.trans hlive) nofun
    rw [AList.lookup_replace_ne hne _ hitem']
    exact hitem
  have hsubmitted : ∀ {id' : ScanWorkId} {item' : ScanWorkItem} {pending : Pending},
      b.pending.lookup id' = some pending → b.items.lookup id' = some item' →
      item'.state.final = false := by
    intro id' item' pending hpending hitem'
    have hsound := hb id'
    rw [hpending, hitem'] at hsound
    obtain ⟨i, hi, -, hstate, -⟩ := hsound.of_pending
    obtain rfl := Option.some.inj hi
    rw [hstate]
    rfl
  cases h with
  | @enqueue _ new hfresh =>
    have hne : id ≠ new.id := by
      rintro rfl
      exact hfresh (AList.mem_of_lookup hitem)
    exact (AList.lookup_insert_ne hne).trans hitem
  | skip | fireStale => exact hitem
  | fail _ _ hitem' hstate => exact hother _ hitem' (by rw [hstate]; rfl)
  | start _ _ hitem' hstate => exact hother _ hitem' (by rw [hstate]; rfl)
  | finish _ hpending hitem' => exact hother _ hitem' (hsubmitted hpending hitem')
  | timeOut hpending hitem' => exact hother _ hitem' (hsubmitted hpending hitem')
  | retry hpending hitem' => exact hother _ hitem' (hsubmitted hpending hitem')
  | cancelIdle => exact absurd rfl hflaw
  | shutdown =>
    rw [AList.lookup_mapValues, hitem, Option.map_some]
    refine congrArg some (if_neg ?_)
    cases hstate : item.state <;> simp [ScanGroup.cancellable, hstate] <;>
      simp [hstate, ScanWorkState.final] at hfinal

/-- An item that has ended stays as it is. -/
theorem lookup_of_actions (hP : ∀ flaw, P flaw → flaw ≠ some .idleCancel) (h : Actions P b b')
    (hb : b.Consistent) (hitem : b.items.lookup id = some item) (hfinal : item.state.final = true) :
    b'.items.lookup id = some item := by
  induction h with
  | refl => exact hitem
  | tail hfirst hlast ih =>
    obtain ⟨flaw, hflaw, haction⟩ := hlast
    exact lookup_of_action haction (hP flaw hflaw) (hb.of_actions hfirst) ih hfinal

/-- The marks of an event that cancels no idle item. -/
theorem ne_idleCancel_of_permitted {e : Event} (h : ¬ CancelsIdle s e) (flaw : Option Flaw)
    (hflaw : Permitted s e flaw) : flaw ≠ some .idleCancel := by
  rintro rfl
  exact h hflaw

section

variable (hb : (board s).Consistent)

include hb

theorem room_of_run (hroom : (board (Runs.run (step env) s events)).Room) : (board s).Room := by
  induction events generalizing s with
  | nil => exact hroom
  | cons e events ih =>
    have hactions := actions_step env s e hb
    exact room_of_actions hactions (ih (hb.of_actions hactions) hroom)

/-- **A run keeps the census.** -/
theorem census_run (hcensus : Census (board s))
    (hwithin : Runs.Within (step env) (fun s e ↦ ¬ CancelsIdle s e) s events)
    (hroom : (board (Runs.run (step env) s events)).Room) :
    Census (board (Runs.run (step env) s events)) := by
  induction events generalizing s with
  | nil => exact hcensus
  | cons e events ih =>
    have hactions := actions_step env s e hb
    have hb' := hb.of_actions hactions
    have hpermitted := ne_idleCancel_of_permitted hwithin.1
    exact ih hb' (census_of_actions hpermitted hactions hb hcensus (room_of_run hb' hroom))
      hwithin.2 hroom

theorem lookup_run (hwithin : Runs.Within (step env) (fun s e ↦ ¬ CancelsIdle s e) s events)
    (hitem : s.group.items.lookup id = some item) (hfinal : item.state.final = true) :
    (Runs.run (step env) s events).group.items.lookup id = some item := by
  induction events generalizing s with
  | nil => exact hitem
  | cons e events ih =>
    have hactions := actions_step env s e hb
    have hpermitted := ne_idleCancel_of_permitted hwithin.1
    exact ih (hb.of_actions hactions) hwithin.2
      (lookup_of_actions hpermitted hactions hb hitem hfinal)

end

/-- A new scheduler has counted nothing. -/
theorem census_create (profile : TimingProfile) :
    Census (board (create (ScanGroup.create profile))) :=
  ⟨fun _ ↦ ⟨⟨rfl, rfl, rfl, rfl, le_rfl⟩, rfl⟩, fun hstopped ↦ absurd hstopped nofun⟩

/-- What is said of the counters of a group: each is the number of items it is about (those that
were retried apart), and their difference the number of items in flight. -/
structure MetricsExact (g : ScanGroup) : Prop where
  outstanding : outstandingMetric g.metrics = g.outstandingCount
  completed : g.metrics.completed = population g.items.values .completed
  failed : g.metrics.failed = population g.items.values .failed
  cancelled : g.metrics.cancelled = population g.items.values .cancelled
  timedOut : g.metrics.timedOut = population g.items.values .timedOut + g.metrics.retries

theorem Census.metricsExact (h : Census (board s)) : MetricsExact s.group := by
  have hcounted := h.counted.1
  refine ⟨?_, hcounted.completed, hcounted.failed, hcounted.cancelled, hcounted.timedOut⟩
  show s.group.metrics.totalSubmitted - s.group.metrics.completed - s.group.metrics.timedOut -
    s.group.metrics.failed - s.group.metrics.cancelled = population s.group.items.values .submitted
  cases hstopped : s.stopped with
  | false =>
    have hsubmitted : s.group.metrics.totalSubmitted =
        population s.group.items.values .submitted + s.group.metrics.completed +
          s.group.metrics.timedOut + s.group.metrics.failed + s.group.metrics.cancelled :=
      (h.running hstopped).submitted
    omega
  | true =>
    obtain ⟨hclosed, -⟩ := h.closed hstopped
    have hidle : population s.group.items.values .submitted = 0 := hclosed.idle
    have hsubmitted : s.group.metrics.totalSubmitted ≤
        s.group.metrics.completed + s.group.metrics.timedOut + s.group.metrics.failed +
          s.group.metrics.cancelled := hclosed.submitted
    omega

/-- **The counters are an exact census**, in every run in which no queued or timed out item is
cancelled and whose items leave the counters room; and an item that has ended keeps its record for
the rest of the run. -/
theorem census (env : Environment) (profile : TimingProfile) (events later : List Event)
    (hwithin : Runs.Within (step env) (fun s e ↦ ¬ CancelsIdle s e)
      (create (ScanGroup.create profile)) (events ++ later))
    (hroom : (Runs.run (step env) (create (ScanGroup.create profile)) events).group.items.size *
      (profile.maxRetries + 1) ≤ sizeMax) :
    MetricsExact (Runs.run (step env) (create (ScanGroup.create profile)) events).group ∧
    ∀ id item,
      (Runs.run (step env) (create (ScanGroup.create profile)) events).group.items.lookup id =
        some item →
      item.state.final = true →
      (Runs.run (step env) (create (ScanGroup.create profile))
        (events ++ later)).group.items.lookup id = some item := by
  obtain ⟨hevents, hlater⟩ := Runs.within_append.mp hwithin
  have hcreate := consistent_create profile
  refine ⟨(census_run hcreate (census_create profile) hevents ?_).metricsExact,
    fun id item hitem hfinal ↦ ?_⟩
  · rw [Room, show (board _).maxRetries = profile.maxRetries from maxRetries_run hcreate events]
    exact hroom
  · rw [Runs.run_append]
    exact lookup_run (consistent_run env hcreate events) hlater hitem hfinal

/-- Two items, one of them cancelled while it is still queued. -/
def cancelledQueued : List Event :=
  [.enqueueTarget 1 [] [], .enqueueTarget 1 [] [], .start, .cancel 2]

/-- The cancellation is subtracted from what was submitted, though the item never was: one item is
in flight, and none is counted. -/
theorem not_metricsExact_cancelledQueued :
    ¬ MetricsExact (Runs.run (step willing)
      (create (ScanGroup.create { initialParallelism := 1 })) cancelledQueued).group :=
  fun h ↦ absurd h.outstanding (by decide +kernel)

/-- The item in flight is cancelled instead, and the other takes its place. -/
theorem census_cancelled :
    MetricsExact (Runs.run (step willing) (create (ScanGroup.create { initialParallelism := 1 }))
      [.enqueueTarget 1 [] [], .enqueueTarget 1 [] [], .start, .cancel 1]).group := by
  refine (census willing { initialParallelism := 1 }
    [.enqueueTarget 1 [] [], .enqueueTarget 1 [] [], .start, .cancel 1] [] ?_ ?_).1
  · rw [List.append_nil]
    refine Runs.within_cons.mpr ⟨?_, Runs.within_cons.mpr ⟨?_, Runs.within_cons.mpr ⟨?_,
      Runs.within_cons.mpr ⟨?_, trivial⟩⟩⟩⟩
    all_goals rintro ⟨id, he, -, -, hstate⟩
    · exact absurd he nofun
    · exact absurd he nofun
    · exact absurd he nofun
    · obtain rfl := Event.cancel.inj he
      revert hstate
      decide +kernel
  · decide +kernel

end AdaptiveScheduler

end Skan.ScanEngine
