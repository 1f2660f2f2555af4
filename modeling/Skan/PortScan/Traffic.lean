import Skan.PortScan.Quiescence

/-!
# The traffic of the port scan scheduler

How often a (host, port) pair is handed to the transport, how many of its attempts are in flight at
once, and how many attempts are in flight at all when another one starts.

## Two accounts

**The board** bounds what is counted pair by pair. An item that waits may still be handed over once
for each retry it has left and once more, an item in flight once for each retry it has left; with
what was handed over already that is the pair's `Board.allowance`, which no action raises
(`Board.allowance_le_of_action`). The load of a pair, the items that are not yet results, shrinks
because results are a sink of the flow.

**The limit** is not on the board. `pump` reads it on entry, so the bound on `pending_.size()` at a
later iteration needs that nothing inside the loop lowers it: a nested `receive` tells the timing
controller of responses only, and a response never lowers the parallelism (`Widens`). A timeout
does, but no timer fires inside the loop.

A pair that was submitted twice has two items, and each has its own retries: the scheduler removes
no duplicates (`not_trafficBounded_duplicated`). -/

namespace Skan.PortScan

open Skan.Core Skan.ScanEngine Flow

variable {work : Multiset (Text × Port)}

/-- The item a trace entry hands to the transport. -/
def Effect.submittedWork : Effect → Option WorkItem
  | .submitted work _ _ => some work
  | _ => none

/-! ### What a pair may still cost -/

/-- The items of a pair among `works`. -/
def copies (pair : Text × Port) (works : List WorkItem) : ℕ :=
  (works.map WorkItem.key : Multiset (Text × Port)).count pair

/-- The attempts the items of a pair among `works` have left, out of so many each. -/
def remaining (attempts : ℕ) (pair : Text × Port) (works : List WorkItem) : ℕ :=
  (works.map fun work ↦ if work.key = pair then attempts - work.retryCount else 0).sum

section Counting

variable {pair : Text × Port} {works works' : List WorkItem} {attempts : ℕ}

@[simp] theorem copies_nil (pair : Text × Port) : copies pair [] = 0 := rfl

@[simp] theorem copies_cons (pair : Text × Port) (work : WorkItem) (works : List WorkItem) :
    copies pair (work :: works) = (if work.key = pair then 1 else 0) + copies pair works := by
  rw [copies, List.map_cons, ← Multiset.cons_coe, Multiset.count_cons, Nat.add_comm]
  simp only [copies, eq_comm]

@[simp] theorem remaining_nil (attempts : ℕ) (pair : Text × Port) :
    remaining attempts pair [] = 0 :=
  rfl

@[simp] theorem remaining_cons (attempts : ℕ) (pair : Text × Port) (work : WorkItem)
    (works : List WorkItem) :
    remaining attempts pair (work :: works) =
      (if work.key = pair then attempts - work.retryCount else 0) + remaining attempts pair works :=
  rfl

theorem remaining_perm (h : works.Perm works') (attempts : ℕ) (pair : Text × Port) :
    remaining attempts pair works = remaining attempts pair works' := (h.map _).sum_eq

/-- Items that were never retried have all their attempts left. -/
theorem remaining_fresh (hfresh : ∀ work ∈ works, work.retryCount = 0) (attempts : ℕ)
    (pair : Text × Port) : remaining attempts pair works = copies pair works * attempts := by
  induction works with
  | nil => simp
  | cons work works ih =>
    obtain ⟨hwork, hworks⟩ := List.forall_mem_cons.mp hfresh
    rw [remaining_cons, copies_cons, ih hworks, hwork, Nat.add_mul]
    by_cases hkey : work.key = pair
    · simp [hkey]
    · simp [hkey]

end Counting

namespace Board

variable {id : RetryId} {retry : DeferredRetry} {b : Board}

/-- The items handed to the transport so far. -/
def handedOver (b : Board) : List WorkItem := b.log.filterMap Effect.submittedWork

/-- The items in flight. -/
def flying (b : Board) : List WorkItem := b.pending.values.map Pending.work

/-- The items that wait for a retry timer. -/
def waiting (b : Board) : List WorkItem := b.deferredRetries.values.map DeferredRetry.work

/-- How often a pair was handed over and may still be, with a budget of `M` retries. -/
def allowance (M : ℕ) (pair : Text × Port) (b : Board) : ℕ :=
  copies pair b.handedOver + remaining (M + 1) pair b.queue + remaining M pair b.flying +
    remaining (M + 1) pair b.waiting

/-- The items of a pair that are not results yet. -/
def load (pair : Text × Port) (b : Board) : ℕ :=
  copies pair b.queue + copies pair b.flying + copies pair b.waiting

/-- Moves only take items out of the load: what is a result stays one. -/
theorem load_le_of_moves {b' : Board} (h : Moves Location.Edge b.holding b'.holding)
    (pair : Text × Port) : b'.load pair ≤ b.load pair := by
  have hcounts : ∀ b : Board, ∑ location, (b.holding location).count pair =
      b.load pair + (b.holding .results).count pair := by
    intro b
    rw [PortScanScheduler.sum_location]
    simp only [holding, load, flying, waiting, copies, List.map_map, Function.comp_def]
    omega
  have hsum := sum_count_eq h.total_eq pair
  rw [← sum_count_eq rfl pair, hcounts, hcounts] at hsum
  have hsink : ∀ b, ¬ Location.Edge .results b := fun b h ↦ by cases h
  have hresults := Multiset.count_le_of_le pair (h.le_of_sink hsink)
  omega

/-! ### How the items in flight and those that wait change -/

/-- An attempt that ends gives its item back. -/
theorem flying_of_lookup {id : PortProbeId} {pending : Pending}
    (h : b.pending.lookup id = some pending) :
    b.flying.Perm (pending.work :: (b.pending.erase id).values.map Pending.work) := by
  have hvalues := (AList.values_of_lookup h).map Pending.work
  rwa [List.map_cons] at hvalues

theorem waiting_of_lookup (h : b.deferredRetries.lookup id = some retry) :
    b.waiting.Perm
      (retry.work :: (b.deferredRetries.erase id).values.map DeferredRetry.work) := by
  have hvalues := (AList.values_of_lookup h).map DeferredRetry.work
  rwa [List.map_cons] at hvalues

/-- The retry budget is `M`, and no item that waits for an attempt has used up more than that. -/
structure Metered (ctx : SchedulerContext) (M : ℕ) (b : Board) : Prop where
  budget : retryBudget ctx b.timing = M
  queued : ∀ work ∈ b.queue, work.retryCount ≤ M
  waiting : ∀ work ∈ b.waiting, work.retryCount ≤ M

variable {ctx : SchedulerContext} {M : ℕ} {b b' : Board}

theorem metered_of_action (h : Action ctx b b') (hb : b.Metered ctx M) : b'.Metered ctx M := by
  have hqueued : ∀ work ∈ b'.queue, work.retryCount ≤ M := fun work hmem ↦
    hb.queued work ((queue_suffix_of_action h).subset hmem)
  have hbudget := hb.budget
  cases h with
  | publish _ htiming =>
    exact ⟨(PortScanScheduler.retryBudget_of_timingStep ctx htiming).trans hbudget, hqueued,
      hb.waiting⟩
  | @defer id pending retryId retry timing hlookup htiming hfresh hkey hleft hcount =>
    refine ⟨(PortScanScheduler.retryBudget_of_timingStep ctx htiming).trans hbudget, hqueued, ?_⟩
    rw [Board.waiting, AList.values_insert retry hfresh, List.map_cons]
    refine List.forall_mem_cons.mpr ⟨?_, hb.waiting⟩
    omega
  | deferFailing _ htiming =>
    exact ⟨(PortScanScheduler.retryBudget_of_timingStep ctx htiming).trans hbudget, hqueued,
      hb.waiting⟩
  | _ => exact ⟨hbudget, hqueued, hb.waiting⟩

/-- **No action raises a pair's allowance.** Starting an attempt turns an attempt that was left into
one that was made; deferring a retry turns one of a flying item into one of a waiting item; every
other action only gives attempts up. -/
theorem allowance_le_of_action (h : Action ctx b b') (hb : b.Metered ctx M) (pair : Text × Port) :
    b'.allowance M pair ≤ b.allowance M pair := by
  cases h with
  | reject hstatus hqueue =>
    simp only [allowance, handedOver, flying, waiting, hqueue, remaining_cons]
    omega
  | rejectFailing hstatus hqueue =>
    simp only [allowance, handedOver, flying, waiting, hqueue, remaining_cons]
    simp only [List.filterMap_cons, Effect.submittedWork]
    omega
  | @refuse work queue result submission status limit hstatus hqueue =>
    have hcount := hb.queued work (hqueue ▸ List.mem_cons_self)
    simp only [allowance, handedOver, flying, waiting, hqueue, remaining_cons]
    simp only [List.filterMap_cons, Effect.submittedWork, copies_cons]
    split_ifs <;> omega
  | @start id pending work queue limit hstatus hqueue hfresh hwork =>
    have hcount := hb.queued work (hqueue ▸ List.mem_cons_self)
    simp only [allowance, handedOver, flying, waiting, hqueue, remaining_cons]
    rw [AList.values_insert pending hfresh, List.map_cons, hwork]
    simp only [List.filterMap_cons, Effect.submittedWork, copies_cons, remaining_cons]
    split_ifs <;> omega
  | observe state reason at_ hlookup =>
    have hflying := remaining_perm (AList.map_values_replace Pending.work hlookup
      (observe_work _ state reason at_)) M pair
    simp only [allowance, flying, hflying]
    exact le_rfl
  | publish hlookup =>
    have hflying := remaining_perm (flying_of_lookup hlookup) M pair
    simp only [allowance, hflying, remaining_cons]
    simp only [handedOver, flying, waiting]
    omega
  | @defer id pending retryId retry timing hlookup htiming hfresh hkey hleft hcount =>
    have hflying := remaining_perm (flying_of_lookup hlookup) M pair
    simp only [allowance, hflying, remaining_cons]
    simp only [handedOver, flying, waiting]
    rw [AList.values_insert retry hfresh, List.map_cons, remaining_cons, hkey, hcount]
    split_ifs <;> omega
  | deferFailing hlookup =>
    have hflying := remaining_perm (flying_of_lookup hlookup) M pair
    simp only [allowance, hflying, remaining_cons]
    simp only [handedOver, flying, waiting, List.filterMap_cons, Effect.submittedWork]
    omega

/-- Putting a retry back leaves the allowance as it is, and the board metered. -/
theorem metered_requeue (h : b.deferredRetries.lookup id = some retry) (hb : b.Metered ctx M) :
    (b.requeue id retry).Metered ctx M := by
  have hwaiting := waiting_of_lookup h
  refine ⟨hb.budget, List.forall_mem_cons.mpr ⟨?_, hb.queued⟩, fun work hmem ↦ ?_⟩
  · exact hb.waiting _ (hwaiting.mem_iff.mpr List.mem_cons_self)
  · exact hb.waiting work (hwaiting.mem_iff.mpr (List.mem_cons_of_mem _ hmem))

theorem allowance_requeue (h : b.deferredRetries.lookup id = some retry) (pair : Text × Port) :
    (b.requeue id retry).allowance M pair = b.allowance M pair := by
  have hwaiting := remaining_perm (waiting_of_lookup h) (M + 1) pair
  simp only [allowance, hwaiting, remaining_cons]
  simp only [requeue, handedOver, flying, waiting, remaining_cons]
  omega

/-! ### Traffic that respects a bound -/

/-- No pair costs more than `work` allows, and every launch found fewer attempts of its pair in
flight than `work` has of it. -/
structure Regulated (ctx : SchedulerContext) (M : ℕ) (work : Multiset (Text × Port)) (b : Board) :
    Prop where
  metered : b.Metered ctx M
  allowance : ∀ pair, b.allowance M pair ≤ work.count pair * (M + 1)
  load : ∀ pair, b.load pair ≤ work.count pair
  launched : b.launches.map Launch.work = b.handedOver
  alone : ∀ l ∈ b.launches, copies l.work.key l.inFlight < work.count l.work.key

/-- The head of the queue is not in flight: the load counts it apart from those that are. -/
theorem copies_flying_lt {work : WorkItem} {queue : List WorkItem}
    (hqueue : b.queue = work :: queue) :
    copies work.key b.flying < b.load work.key := by
  rw [load, hqueue, copies_cons, if_pos rfl]
  omega

theorem regulated_of_action (h : Action ctx b b') (hb : b.Regulated ctx M work) :
    b'.Regulated ctx M work := by
  have hmetered := metered_of_action h hb.metered
  have hallowance : ∀ pair, b'.allowance M pair ≤ work.count pair * (M + 1) := fun pair ↦
    (allowance_le_of_action h hb.metered pair).trans (hb.allowance pair)
  have hload : ∀ pair, b'.load pair ≤ work.count pair := fun pair ↦
    (load_le_of_moves (moves_of_action h) pair).trans (hb.load pair)
  have hlaunched := hb.launched
  cases h with
  | refuse _ hqueue =>
    refine ⟨hmetered, hallowance, hload, congrArg (_ :: ·) hlaunched, ?_⟩
    exact List.forall_mem_cons.mpr ⟨(copies_flying_lt hqueue).trans_le (hb.load _), hb.alone⟩
  | start _ hqueue =>
    refine ⟨hmetered, hallowance, hload, congrArg (_ :: ·) hlaunched, ?_⟩
    exact List.forall_mem_cons.mpr ⟨(copies_flying_lt hqueue).trans_le (hb.load _), hb.alone⟩
  | _ => exact ⟨hmetered, hallowance, hload, hlaunched, hb.alone⟩

theorem regulated_of_actions (h : Actions ctx b b') (hb : b.Regulated ctx M work) :
    b'.Regulated ctx M work :=
  Runs.steps_invariant regulated_of_action h hb

theorem regulated_requeue (h : b.deferredRetries.lookup id = some retry)
    (hb : b.Regulated ctx M work) :
    (b.requeue id retry).Regulated ctx M work where
  metered := metered_requeue h hb.metered
  allowance pair := (allowance_requeue h pair).le.trans (hb.allowance pair)
  load pair := (load_le_of_moves (moves_requeue h) pair).trans (hb.load pair)
  launched := hb.launched
  alone := hb.alone

end Board

/-! ### The limit does not fall while the pump runs -/

namespace PortScanScheduler

/-- The parallelism of the timing controller, if there is one, is within its bounds. -/
def TimingClamped (s : PortScanScheduler) : Prop := ∀ t ∈ s.timing, t.Clamped

/-- Every launch found room: fewer attempts in flight than the limit allowed. -/
def Roomy (s : PortScanScheduler) : Prop := ∀ l ∈ s.launches, l.inFlight.length < l.limit

variable (ctx : SchedulerContext)

/-- From `s` to `s'` the limit has not fallen and every new launch found room, given that the
parallelism is within its bounds. -/
def Widens (s s' : PortScanScheduler) : Prop :=
  s.TimingClamped → s'.TimingClamped ∧ s.limit ctx ≤ s'.limit ctx ∧ (s.Roomy → s'.Roomy)

variable {ctx}

theorem Widens.trans {a b c : PortScanScheduler} (hab : Widens ctx a b) (hbc : Widens ctx b c) :
    Widens ctx a c := by
  intro ha
  obtain ⟨hb, hlimit, hroomy⟩ := hab ha
  obtain ⟨hc, hlimit', hroomy'⟩ := hbc hb
  exact ⟨hc, hlimit.trans hlimit', hroomy' ∘ hroomy⟩

/-- What touches neither the timing controller nor the launches. -/
theorem widens_of_same {s s' : PortScanScheduler} (htiming : s'.timing = s.timing)
    (hlaunches : s'.launches = s.launches) : Widens ctx s s' := by
  have hlimit : s'.limit ctx = s.limit ctx := by rw [limit, limit, htiming]
  rintro hs
  exact ⟨fun t ht ↦ hs t (htiming ▸ ht), hlimit.ge, fun h l hl ↦ h l (hlaunches ▸ hl)⟩

theorem Widens.refl (s : PortScanScheduler) : Widens ctx s s := widens_of_same rfl rfl

/-- A response told to the timing controller. -/
theorem widens_onResponse {s s' : PortScanScheduler} (rtt : ℤ)
    (htiming : s'.timing = s.timing.map (·.onResponse rtt)) (hlaunches : s'.launches = s.launches) :
    Widens ctx s s' := by
  intro hs
  refine ⟨fun t ht ↦ ?_, ?_, fun h l hl ↦ h l (hlaunches ▸ hl)⟩
  · rw [htiming] at ht
    obtain ⟨t₀, ht₀, rfl⟩ := Option.map_eq_some_iff.mp ht
    exact (hs t₀ ht₀).onResponse rtt
  · rw [limit, limit, htiming]
    cases hsome : s.timing with
    | none => exact le_rfl
    | some t => exact (hs t hsome).parallelismLimit_le_onResponse rtt _

theorem same_stopIfIdle (s : PortScanScheduler) :
    (stopIfIdle s).timing = s.timing ∧ (stopIfIdle s).launches = s.launches := by
  unfold stopIfIdle
  split <;> exact ⟨rfl, rfl⟩

section Attempt

variable {pump : PortScanScheduler → PortScanScheduler} (hpump : ∀ s, Widens ctx s (pump s))

include hpump

theorem widens_retryOrFail (work : WorkItem) (rttMs : Option ℚ) (s : PortScanScheduler) :
    Widens ctx s (retryOrFail ctx pump work rttMs s) := by
  have hboard : (s.deferRetry ctx work).2.timing = s.timing ∧
      (s.deferRetry ctx work).2.launches = s.launches := by
    obtain ⟨-, _, _, -, -, hboard⟩ | ⟨-, hboard⟩ := board_deferRetry ctx work s <;>
      exact ⟨congrArg Board.timing hboard, congrArg Board.launches hboard⟩
  unfold retryOrFail
  split
  · rename_i s' heq
    rw [heq] at hboard
    exact (widens_of_same hboard.1 hboard.2).trans (hpump s')
  · rename_i s' heq
    rw [heq] at hboard
    refine Widens.trans ?_ (hpump _)
    exact widens_of_same hboard.1 hboard.2

theorem widens_finishAttempt (work : WorkItem) (state : PortState) (reason : ScanReason)
    (rttMs : Option ℚ) (s : PortScanScheduler) :
    Widens ctx s (finishAttempt ctx pump work state reason rttMs s) := by
  have hpublish : ∀ (s' : PortScanScheduler), s'.timing = s.timing → s'.launches = s.launches →
      Widens ctx s (pump s') := fun s' htiming hlaunches ↦
    (widens_of_same htiming hlaunches).trans (hpump s')
  have hretry : ∀ item, Widens ctx s
      (retryOrFail ctx pump item rttMs (s.record (.observed work state reason))) := by
    intro item
    refine Widens.trans ?_ (widens_retryOrFail hpump _ _ _)
    exact widens_of_same rfl rfl
  rw [finishAttempt]
  dsimp only
  split_ifs
  · exact hpublish _ rfl rfl
  · exact hretry _
  · exact hpublish _ rfl rfl
  · exact hretry _
  · exact hpublish _ rfl rfl

/-- **A response** never lowers the limit. -/
theorem widens_receiveWith (response : PortResponse) (s : PortScanScheduler) :
    Widens ctx s (receiveWith ctx pump response s) := by
  unfold receiveWith
  split
  · split
    · exact .refl s
    · split
      rename_i completedAt s' hclock
      have hsame : s'.timing = s.timing ∧ s'.launches = s.launches := by
        split at hclock <;> cases hclock <;> exact ⟨rfl, rfl⟩
      refine (widens_of_same hsame.1 hsame.2).trans ?_
      split_ifs
      · exact .refl s'
      · unfold completePending
        split
        · exact .refl s'
        · refine Widens.trans ?_ (widens_finishAttempt hpump _ _ _ _ _)
          exact widens_onResponse _ rfl rfl
      · exact widens_of_same rfl rfl
  · exact .refl s

omit hpump in
/-- A launch that finds room is added. -/
theorem widens_launched {s s' : PortScanScheduler} {l : Launch} (htiming : s'.timing = s.timing)
    (hroom : l.inFlight.length < l.limit) (hlaunches : s'.launches = l :: s.launches) :
    Widens ctx s s' := by
  have hlimit : s'.limit ctx = s.limit ctx := by rw [limit, limit, htiming]
  intro hs
  refine ⟨fun t ht ↦ hs t (htiming ▸ ht), hlimit.ge, fun h ↦ ?_⟩
  rw [Roomy, hlaunches]
  exact List.forall_mem_cons.mpr ⟨hroom, h⟩

theorem widens_launch (id : PortProbeId) (timer : TimerId) (work : WorkItem)
    (submission : PortSubmission) (s : PortScanScheduler) :
    Widens ctx s (launch ctx pump id timer work submission s) := by
  have hreceive : Widens ctx s
      ((s.transportSubmit ctx work submission).1.responses.foldl
        (fun s response ↦ receiveWith ctx pump response s)
        (s.transportSubmit ctx work submission).2) :=
    Runs.run_related (R := Widens ctx) .refl .trans
      (fun s response ↦ widens_receiveWith hpump response s)
      (s.transportSubmit ctx work submission).2 _
  unfold launch
  dsimp only
  split_ifs
  · exact hreceive
  · exact hreceive.trans (widens_of_same rfl rfl)

/-- **Starting an attempt**, when fewer are in flight than the limit allows. -/
theorem widens_startAttempt (probe : PortProbe) (work : WorkItem) {s : PortScanScheduler}
    (hroom : s.pending.size < s.limit ctx) :
    Widens ctx s (startAttempt ctx pump probe work s) := by
  have hresult : ∀ s' reason, Widens ctx s s' → Widens ctx s
      (s'.appendTerminalResult ctx work ctx.config.method .error reason none) :=
    fun s' reason h ↦ h.trans (widens_of_same rfl rfl)
  have hstatus : ∀ s' status, Widens ctx s s' → Widens ctx s (s'.setStatus status) :=
    fun s' status h ↦ h.trans (widens_of_same rfl rfl)
  unfold startAttempt
  dsimp only
  split
  · exact hresult _ _ (widens_of_same rfl rfl)
  split
  · split_ifs
    · exact hstatus _ _ (hresult _ _ (widens_of_same rfl rfl))
    · exact hresult _ _ (widens_of_same rfl rfl)
  split
  · exact hstatus _ _ (hresult _ _ (widens_of_same rfl rfl))
  · refine Widens.trans ?_ (widens_launch hpump _ _ _ _ _)
    refine @widens_launched ctx s _ ⟨work, s.pending.values.map Pending.work, s.limit ctx⟩
      rfl ?_ rfl
    rw [List.length_map, AList.length_values]
    exact hroom

end Attempt

/-- **The loop of `pump`** under a limit that is not above the current one. -/
theorem widens_pumpLoop (fuel : ℕ) {limit : ℕ} {s : PortScanScheduler}
    (hlimit : limit ≤ s.limit ctx) :
    Widens ctx s (pumpLoop ctx fuel limit s) := by
  induction fuel generalizing limit s with
  | zero => exact .refl s
  | succ fuel ih =>
    unfold pumpLoop
    split
    · rename_i work queue probe hqueue hprobe
      split
      · rename_i hguard
        have hnested : ∀ s, Widens ctx s (stopIfIdle (pumpLoop ctx fuel (s.limit ctx) s)) :=
          fun s ↦ (ih le_rfl).trans (widens_of_same (same_stopIfIdle _).1 (same_stopIfIdle _).2)
        have hstart : Widens ctx s _ :=
          (widens_of_same rfl rfl).trans (widens_startAttempt hnested probe work
            (s := { s with queue }) (hguard.2.trans_le hlimit))
        -- the limit read on entry is still not above the current one
        intro hs
        exact (hstart.trans (ih (hlimit.trans (hstart hs).2.1))) hs
      · exact .refl s
    · exact .refl s

variable (ctx) in
theorem widens_pump (s : PortScanScheduler) : Widens ctx s (pump ctx s) :=
  (widens_pumpLoop _ le_rfl).trans (widens_of_same (same_stopIfIdle _).1 (same_stopIfIdle _).2)

/-- Every launch found room, and the parallelism is within its bounds. -/
structure RoomyClamped (s : PortScanScheduler) : Prop where
  clamped : s.TimingClamped
  roomy : s.Roomy

theorem RoomyClamped.widens {s s' : PortScanScheduler} (hs : s.RoomyClamped)
    (h : Widens ctx s s') : s'.RoomyClamped :=
  ⟨(h hs.clamped).1, (h hs.clamped).2.2 hs.roomy⟩

/-- **A timeout** can lower the limit, before it pumps. -/
theorem roomyClamped_onTimeout {s : PortScanScheduler} (id : PortProbeId) (hs : s.RoomyClamped) :
    (onTimeout ctx id s).RoomyClamped := by
  unfold onTimeout onTimeoutWith
  split
  · rename_i pending probe hlookup hprobe
    dsimp only
    split
    · refine hs.widens (Widens.trans ?_ (widens_finishAttempt (widens_pump ctx) _ _ _ _ _))
      exact widens_onResponse _ rfl rfl
    · refine RoomyClamped.widens ?_ (widens_finishAttempt (widens_pump ctx) _ _ _ _ _)
      refine ⟨fun t ht ↦ ?_, hs.roomy⟩
      obtain ⟨t₀, ht₀, rfl⟩ := Option.map_eq_some_iff.mp ht
      exact (hs.clamped t₀ ht₀).onTimeout
  · exact hs

theorem roomyClamped_step (s : PortScanScheduler) (event : Event) (hs : s.RoomyClamped) :
    (step ctx s event).RoomyClamped := by
  cases event with
  | receive response => exact hs.widens (widens_receiveWith (widens_pump ctx) response s)
  | onTimeout id => exact roomyClamped_onTimeout id hs
  | onRetryReady id =>
    show (onRetryReady ctx id s).RoomyClamped
    unfold onRetryReady
    split
    · exact hs
    · refine RoomyClamped.widens ?_ (widens_pump ctx _)
      exact ⟨hs.clamped, hs.roomy⟩
  | pump => exact hs.widens (widens_pump ctx s)

/-! ### Submission -/

variable {target : Target} {ports : List Port}

/-- The timing of an acceptable configuration starts within its bounds. -/
theorem Acceptable.clamped (h : Acceptable ctx target ports) : (create ctx).TimingClamped := by
  intro t ht
  obtain ⟨rfl, hok⟩ := h.timing_eq ht
  exact TimingController.clamped_create hok

theorem regulated_step {M : ℕ} (s : PortScanScheduler) (event : Event)
    (hs : s.board.Regulated ctx M work) : (step ctx s event).board.Regulated ctx M work := by
  cases event with
  | receive response => exact Board.regulated_of_actions (actions_receive ctx response s) hs
  | onTimeout id => exact Board.regulated_of_actions (actions_onTimeout ctx id s) hs
  | onRetryReady id =>
    obtain ⟨-, hsame⟩ | ⟨retry, hlookup, hactions⟩ := actions_onRetryReady ctx id s
    · show (onRetryReady ctx id s).board.Regulated ctx M work
      rw [hsame]
      exact hs
    · exact Board.regulated_of_actions hactions (Board.regulated_requeue hlookup hs)
  | pump => exact Board.regulated_of_actions (actions_pump ctx s) hs

/-- Items as submitted have all their attempts before them. -/
theorem regulated_queued (ctx : SchedulerContext) (target : Target) (ports : List Port) :
    (queued ctx target ports).board.Regulated ctx (maxRetries ctx (create ctx))
      (submittedPairs target ports) := by
  have hfresh : ∀ work ∈ (queued ctx target ports).queue, work.retryCount = 0 := by
    intro work hmem
    obtain ⟨host, -, hport⟩ := List.mem_flatMap.mp hmem
    obtain ⟨port, -, rfl⟩ := List.mem_map.mp hport
    rfl
  have hcopies : ∀ pair, copies pair (queued ctx target ports).queue =
      (submittedPairs target ports : Multiset (Text × Port)).count pair := by
    intro pair
    rw [copies, queued, map_key_items]
    rfl
  refine ⟨⟨retryBudget_timing ctx (create ctx), fun work hmem ↦ ?_, List.forall_mem_nil _⟩,
    fun pair ↦ ?_, fun pair ↦ ?_, rfl, List.forall_mem_nil _⟩
  · exact (hfresh work hmem).le.trans (Nat.zero_le _)
  · show copies pair [] + remaining _ pair (queued ctx target ports).queue + 0 + 0 ≤ _
    rw [remaining_fresh hfresh, hcopies, copies_nil, Nat.zero_add]
    exact le_rfl
  · show copies pair (queued ctx target ports).queue + 0 + 0 ≤ _
    exact (hcopies pair).le

/-! ### The traffic of a run -/

/-- The items handed to `transport.submit` so far. -/
def submissions (s : PortScanScheduler) : List WorkItem := s.trace.filterMap Effect.submittedWork

theorem handedOver_board (s : PortScanScheduler) : s.board.handedOver = s.submissions := by
  show (s.trace.filter Effect.isLogged).filterMap Effect.submittedWork = _
  rw [List.filterMap_filter]
  refine List.filterMap_congr fun e _ ↦ ?_
  cases e <;> rfl

/-- The traffic for `work`, a multiset of pairs, under a budget of `retries`. -/
structure TrafficBounded (work : Multiset (Text × Port)) (retries : ℕ) (s : PortScanScheduler) :
    Prop where
  /-- Each pair is handed to the transport at most once, and once more for each retry. -/
  attempts : ∀ pair, copies pair s.submissions ≤ work.count pair * (1 + retries)
  /-- At most one attempt is in flight for each time the pair is in `work`. -/
  inFlight : ∀ pair, copies pair (s.pending.values.map Pending.work) ≤ work.count pair
  /-- The launches are what was handed to the transport. -/
  launched : s.launches.map Launch.work = s.submissions
  /-- The same as `inFlight`, when an attempt starts, for the attempts before it. -/
  alone : ∀ l ∈ s.launches, copies l.work.key l.inFlight < work.count l.work.key
  /-- When an attempt starts, fewer are in flight than the parallelism limit. -/
  room : ∀ l ∈ s.launches, l.inFlight.length < l.limit

theorem trafficBounded_of_regulated {s : PortScanScheduler} {retries : ℕ}
    (h : s.board.Regulated ctx retries work) (hroomy : s.Roomy) :
    s.TrafficBounded work retries where
  attempts pair := by
    have hallowance := h.allowance pair
    rw [Board.allowance, handedOver_board, Nat.add_comm retries] at hallowance
    omega
  inFlight pair := by
    have hload := h.load pair
    rw [Board.load] at hload
    show copies pair s.board.flying ≤ _
    omega
  launched := h.launched.trans (handedOver_board s)
  alone := h.alone
  room := hroomy

/-- **The traffic is bounded.** In every run, whatever the configuration, the environment and the
events: a pair is handed to the transport at most `1 + max_retries` times and has at most one
attempt in flight for each time it was submitted, and an attempt starts only while fewer are in
flight than the limit of that moment. -/
theorem traffic_bounded (ctx : SchedulerContext) (target : Target) (ports : List Port)
    (events : List Event) :
    (Runs.run (step ctx) (submit ctx target ports (create ctx)).2 events).TrafficBounded
      (submittedPairs target ports) (maxRetries ctx (create ctx)) := by
  set s := (submit ctx target ports (create ctx)).2 with hs
  obtain ⟨haccept, hvalid⟩ | hidle := submit_cases ctx target ports
  · rw [haccept.submit_eq_pump hvalid] at hs
    have hregulated : s.board.Regulated ctx (maxRetries ctx (create ctx))
        (submittedPairs target ports) := by
      rw [hs, board_stopIfIdle]
      exact Board.regulated_of_actions (actions_pump ctx _) (regulated_queued ctx target ports)
    have hroomy : s.RoomyClamped := by
      rw [hs]
      have hpumped : Widens ctx (queued ctx target ports)
          (stopIfIdle (pump ctx (queued ctx target ports))) :=
        (widens_pump ctx _).trans (widens_of_same (same_stopIfIdle _).1 (same_stopIfIdle _).2)
      exact RoomyClamped.widens ⟨haccept.clamped, nofun⟩ hpumped
    exact trafficBounded_of_regulated (Runs.run_invariant regulated_step hregulated events)
      (Runs.run_invariant roomyClamped_step hroomy events).roomy
  · -- nothing is ever handed over
    have hboard : (Runs.run (step ctx) s events).board = s.board :=
      board_run_of_idle ctx hidle.1 events
    set s' := Runs.run (step ctx) s events
    rw [← hboard] at hidle
    have hpending : s'.pending = ∅ := hidle.1.pending
    have hlaunches : s'.launches = [] := hidle.1.launches
    have hsubmissions : s'.submissions = [] := by
      rw [← handedOver_board, Board.handedOver, hidle.1.log]
      rfl
    refine ⟨fun pair ↦ ?_, fun pair ↦ ?_, ?_, ?_, ?_⟩
    · rw [hsubmissions]
      exact Nat.zero_le _
    · rw [hpending]
      exact Nat.zero_le _
    · rw [hlaunches, hsubmissions]
      rfl
    · rw [hlaunches]
      exact List.forall_mem_nil _
    · rw [hlaunches]
      exact List.forall_mem_nil _

/-- A port that is listed twice is handed to the transport twice without any retry, and both
attempts are in flight at once: attempts are counted for each time a pair was submitted. -/
theorem not_trafficBounded_duplicated :
    let s := (submit acceptingContext { resolvedHosts := [tenNet 1] } [⟨22, .tcp⟩, ⟨22, .tcp⟩]
      (create acceptingContext)).2
    ¬ (∀ pair, copies pair s.submissions ≤ 1 +
      maxRetries acceptingContext (create acceptingContext)) ∧
      ¬ ∀ pair, copies pair (s.pending.values.map Pending.work) ≤ 1 := by
  intro s
  have hsubmitted : copies ((tenNet 1).address, ⟨22, .tcp⟩) s.submissions = 2 := by decide
  have hflying : copies ((tenNet 1).address, ⟨22, .tcp⟩) (s.pending.values.map Pending.work) =
      2 := by
    decide
  refine ⟨fun h ↦ ?_, fun h ↦ ?_⟩
  · have hle := h ((tenNet 1).address, ⟨22, .tcp⟩)
    rw [hsubmitted] at hle
    exact absurd hle (by decide)
  · have hle := h ((tenNet 1).address, ⟨22, .tcp⟩)
    rw [hflying] at hle
    exact absurd hle (by decide)

end PortScanScheduler

end Skan.PortScan
