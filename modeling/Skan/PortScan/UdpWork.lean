import Skan.PortScan.UdpActions

/-!
# When the UDP scheduler loses no work

The UDP scheduler keeps its work in three containers, which refine the flow of `Skan.Library.Flow`;
a probe that times out without evidence goes back to the queue. As with the TCP scheduler, `pump`
starts probes only while the status is `Ok`, and the status never returns to `Ok`. So work is lost
in three ways: behind an item whose probe could not be started, in a retry that is queued after a
failure, and in `submit`, which drops the whole queue when one host is invalid.

* `work_kept_of_harmless`: in a run where none of the three happens, the scheduler is at rest, with
  no probe in flight, only when it is complete, and every pair with a valid host has exactly one
  result.
* `work_stuck`: a nonempty queue under a failed status is never drained.
* `mixed_hosts_lose_results`: one invalid host costs the valid ones their results.
-/

namespace Skan.PortScan

open Skan.Core Skan.ScanEngine Flow
open Skan.PortScan.Board (TimingBounded timingBounded_of_step)

namespace UDPScheduler

variable {s : UDPScheduler}

/-! ### The flow of the work -/

/-- The containers of the scheduler. -/
inductive Location where
  | queue
  | pending
  | results
  deriving DecidableEq

instance : Fintype Location where
  elems := {.queue, .pending, .results}
  complete := by rintro (_ | _ | _) <;> decide

/-- Where a pair can go from each container. Nothing leaves the results. -/
inductive Location.Edge : Location → Location → Prop
  | start : Edge .queue .pending
  | fail : Edge .queue .results
  | publish : Edge .pending .results
  | retry : Edge .pending .queue

namespace Board

variable {id : UDPProbeId} {pending : Pending}

/-- The pairs in each container. -/
def holding (b : Board) : Holding Location (Text × Port)
  | .queue => b.queue.map WorkItem.key
  | .pending => b.pending.values.map fun pending ↦ pending.work.key
  | .results => b.results.map PortResult.key

variable {b b' : Board} {key : Text × Port}

theorem holding_publish {result : PortResult} (hkey : result.key = key)
    (hresults : b'.results = b.results ++ [result]) (hqueue : b'.queue = b.queue)
    (hpending : b'.pending = b.pending) : b'.holding = b.holding + Pi.single .results {key} := by
  refine eq_add_single Location.results key ?_ ?_
  · show Multiset.ofList (b'.results.map PortResult.key) = _
    rw [hresults, List.map_append, ← Multiset.coe_add, add_comm, ← hkey]
    rfl
  · rintro (_ | _ | _) h
    · simp only [holding, hqueue]
    · simp only [holding, hpending]
    · exact absurd rfl h

theorem holding_enqueue {work : WorkItem} (hkey : work.key = key)
    (hqueue : b'.queue = work :: b.queue)
    (hpending : b'.pending = b.pending) (hresults : b'.results = b.results) :
    b'.holding = b.holding + Pi.single .queue {key} := by
  refine eq_add_single Location.queue key ?_ ?_
  · show Multiset.ofList (b'.queue.map WorkItem.key) = _
    rw [hqueue, List.map_cons, hkey]
    rfl
  · rintro (_ | _ | _) h
    · exact absurd rfl h
    · simp only [holding, hpending]
    · simp only [holding, hresults]

theorem holding_insertPending (hkey : pending.work.key = key) (hfresh : id ∉ b.pending)
    (hpending : b'.pending = b.pending.insert id pending) (hqueue : b'.queue = b.queue)
    (hresults : b'.results = b.results) : b'.holding = b.holding + Pi.single .pending {key} := by
  refine eq_add_single Location.pending key ?_ ?_
  · simp only [holding, hpending, AList.values_insert pending hfresh, List.map_cons, hkey,
      Multiset.cons_coe]
  · rintro (_ | _ | _) h
    · simp only [holding, hqueue]
    · exact absurd rfl h
    · simp only [holding, hresults]

theorem holding_erasePending (hlookup : b.pending.lookup id = some pending)
    (hpending : b'.pending = b.pending.erase id) (hqueue : b'.queue = b.queue)
    (hresults : b'.results = b.results) :
    b.holding = b'.holding + Pi.single .pending {pending.work.key} := by
  refine eq_add_single Location.pending pending.work.key ?_ ?_
  · simp only [holding, hpending]
    exact Multiset.coe_eq_coe.mpr
      ((AList.values_of_lookup hlookup).map fun pending ↦ pending.work.key)
  · rintro (_ | _ | _) h
    · simp only [holding, hqueue]
    · exact absurd rfl h
    · simp only [holding, hresults]

theorem observe_work (pending : Pending) (state : PortState) (reason : ScanReason)
    (at_ : TimePoint) : (pending.observe state reason at_).work = pending.work := by
  unfold Pending.observe
  split
  · rfl
  · split <;> rfl

/-- Evidence recorded on a probe leaves every pair where it is. -/
theorem holding_observe (hlookup : b.pending.lookup id = some pending) (state : PortState)
    (reason : ScanReason) (at_ : TimePoint) :
    { b with pending := b.pending.replace id (pending.observe state reason at_) }.holding =
      b.holding := by
  funext location
  cases location with
  | pending =>
    refine Multiset.coe_eq_coe.mpr (AList.map_values_replace (fun p : Pending ↦ p.work.key) hlookup
      ?_)
    rw [observe_work]
  | _ => rfl

variable {ctx : Context}

/-- **Every action** moves at most one pair, along one edge. -/
theorem moves_of_action (h : Action ctx b b') : Moves Location.Edge b.holding b'.holding := by
  cases h with
  | @fail work queue result status _ hqueue hkey =>
    exact Moves.single .fail (holding_enqueue (b := { b with queue }) rfl hqueue rfl rfl)
      (holding_publish hkey rfl rfl rfl)
  | @exhaust work queue result _ hqueue hkey =>
    exact Moves.single .fail (holding_enqueue (b := { b with queue }) rfl hqueue rfl rfl)
      (holding_publish hkey rfl rfl rfl)
  | @start id pending work queue _ hqueue hfresh hwork =>
    exact Moves.single .start (holding_enqueue (b := { b with queue }) rfl hqueue rfl rfl)
      (holding_insertPending (by rw [hwork]) hfresh rfl rfl rfl)
  | observe state reason at_ hlookup => rw [holding_observe hlookup]
  | @publish id pending result timing hlookup _ hkey =>
    have herase : b.holding = (b.retire id pending).holding +
        Pi.single .pending {pending.work.key} :=
      holding_erasePending hlookup rfl rfl rfl
    exact Moves.single .publish herase (holding_publish hkey rfl rfl rfl)

theorem moves_of_actions (h : Actions ctx b b') : Moves Location.Edge b.holding b'.holding := by
  induction h with
  | refl => exact .refl
  | tail _ hstep ih => exact ih.trans (moves_of_action hstep)

/-- Queueing a probe's item again is a move as well. -/
theorem moves_requeue (hlookup : b.pending.lookup id = some pending)
    (timing : Option TimingController) :
    Moves Location.Edge b.holding (b.requeue id pending timing).holding := by
  have herase : b.holding = (b.retire id pending).holding + Pi.single .pending {pending.work.key} :=
    holding_erasePending hlookup rfl rfl rfl
  refine Moves.single .retry herase ?_
  exact @holding_enqueue (b.retire id pending) (b.requeue id pending timing) pending.work.key
    { pending.work with retryCount := pending.work.retryCount + 1 } rfl rfl rfl rfl

/-! ### What a failure leaves behind -/

theorem queue_suffix_of_action (h : Action ctx b b') : b'.queue <:+ b.queue := by
  cases h with
  | fail _ hqueue => exact hqueue ▸ List.suffix_cons _ _
  | exhaust _ hqueue => exact hqueue ▸ List.suffix_cons _ _
  | start _ hqueue => exact hqueue ▸ List.suffix_cons _ _
  | observe => exact List.suffix_refl _
  | publish => exact List.suffix_refl _

theorem log_suffix_of_action (h : Action ctx b b') : b.log <:+ b'.log := by
  cases h with
  | fail => exact List.suffix_cons _ _
  | exhaust => exact List.suffix_cons _ _
  | _ => exact List.suffix_refl _

/-- Under a failed status nothing is taken off the queue, and the status stays failed. -/
theorem stuck_of_action (h : Action ctx b b') (hfailed : b.status ≠ .ok) :
    b'.queue = b.queue ∧ b'.status ≠ .ok := by
  cases h with
  | fail hstatus => exact absurd hstatus hfailed
  | exhaust hstatus => exact absurd hstatus hfailed
  | start hstatus => exact absurd hstatus hfailed
  | observe => exact ⟨rfl, hfailed⟩
  | publish => exact ⟨rfl, hfailed⟩

theorem stuck_of_actions (h : Actions ctx b b') (hfailed : b.status ≠ .ok) :
    b'.queue = b.queue ∧ b'.status ≠ .ok := by
  induction h with
  | refl => exact ⟨rfl, hfailed⟩
  | tail _ hstep ih =>
    obtain ⟨hqueue, hstatus⟩ := stuck_of_action hstep ih.2
    exact ⟨hqueue.trans ih.1, hstatus⟩

/-- No failure was recorded while items were queued. -/
def NoneQueuedAtFailure (b : Board) : Prop :=
  ∀ status queued, .failed status queued ∈ b.log → queued = 0

/-- A failed status leaves no item queued. -/
def Drained (b : Board) : Prop := b.status ≠ .ok → b.queue = []

theorem drained_of_action (h : Action ctx b b') (hnone : b'.NoneQueuedAtFailure) (hb : b.Drained) :
    b'.Drained := by
  have hsuffix := queue_suffix_of_action h
  cases h with
  | fail => exact fun _ ↦ List.length_eq_zero_iff.mp (hnone _ _ List.mem_cons_self)
  | exhaust => exact fun _ ↦ List.length_eq_zero_iff.mp (hnone _ _ List.mem_cons_self)
  | _ =>
    intro hfailed
    exact List.suffix_nil.mp (hb hfailed ▸ hsuffix)

theorem drained_of_actions (h : Actions ctx b b') (hnone : b'.NoneQueuedAtFailure)
    (hb : b.Drained) : b'.Drained := by
  induction h with
  | refl => exact hb
  | @tail c d hbc hstep ih =>
    have hearlier : c.NoneQueuedAtFailure := fun status queued hmem ↦
      hnone status queued ((log_suffix_of_action hstep).subset hmem)
    exact drained_of_action hstep hnone (ih hearlier)

/-- While the status is `Ok`, an item waits in the queue only behind a probe in flight. -/
def Settled (b : Board) : Prop := b.status = .ok → b.queue = [] ∨ 0 < b.pending.size

theorem timingBounded_of_actions (h : Actions ctx b b') (hb : TimingBounded b.timing) :
    TimingBounded b'.timing := by
  refine Runs.steps_invariant (I := fun b : Board ↦ TimingBounded b.timing) ?_ h hb
  intro b b' hstep hb
  cases hstep with
  | publish _ htiming => exact timingBounded_of_step htiming hb
  | _ => exact hb

theorem submitted_of_actions (h : Actions ctx b b') : b'.submitted = b.submitted :=
  Runs.steps_related (R := fun b b' : Board ↦ b'.submitted = b.submitted) (fun _ ↦ rfl)
    (fun h h' ↦ h'.trans h) (fun hstep ↦ by cases hstep <;> rfl) h

/-- What lets a scheduler come to rest only when it is complete. -/
structure Recoverable (b : Board) : Prop where
  submitted : b.submitted = true
  timing : TimingBounded b.timing
  settled : b.Settled
  drained : b.Drained

/-- Actions keep everything but `Settled`. -/
theorem Recoverable.of_actions (h : Actions ctx b b') (hnone : b'.NoneQueuedAtFailure)
    (hsettled : b'.Settled) (hsubmitted : b.submitted = true)
    (htiming : TimingBounded b.timing) (hdrained : b.Drained) :
    b'.Recoverable where
  submitted := (submitted_of_actions h).trans hsubmitted
  timing := timingBounded_of_actions h htiming
  settled := hsettled
  drained := drained_of_actions h hnone hdrained

end Board

/-! ### Where the pump stops -/

variable (ctx : Context)

theorem queue_failProbe (work : WorkItem) (sourcePort : UInt16) (reason : ScanReason)
    (status : StatusCode) (s : UDPScheduler) :
    (s.failProbe ctx work sourcePort reason status).queue = s.queue :=
  congrArg Board.queue (board_releaseSourcePort sourcePort s)

/-- Starting a probe leaves the rest of the queue alone. -/
theorem queue_startProbe (work : WorkItem) (s : UDPScheduler) :
    (startProbe ctx work s).queue = s.queue := by
  unfold startProbe
  split
  · rename_i s₁ hallocate
    obtain ⟨hs₁, -⟩ := allocateLoop_none hallocate
    show s₁.queue = s.queue
    rw [hs₁]
  rename_i sourcePort s₁ hallocate
  obtain ⟨-, -, hs₁⟩ := allocateLoop_some hallocate
  have hqueue : s₁.queue = s.queue := by rw [hs₁]
  rw [← hqueue]
  split
  · exact queue_failProbe ctx _ _ _ _ _
  dsimp only
  split
  · exact queue_failProbe ctx _ _ _ _ _
  unfold launch
  dsimp only
  split_ifs
  · exact queue_failProbe ctx _ _ _ _ _
  split
  · exact queue_failProbe ctx _ _ _ _ _
  · unfold handOver
    dsimp only
    split
    · rfl
    · exact queue_failProbe ctx _ _ _ _ _

/-- **The pump's loop runs to its end**: it stops only because the status is not `Ok`, the queue is
empty, or the limit is reached. -/
theorem pumpLoop_done (limit fuel : ℕ) (s : UDPScheduler) (hfuel : s.queue.length ≤ fuel) :
    (pumpLoop ctx limit fuel s).status ≠ .ok ∨ (pumpLoop ctx limit fuel s).queue = [] ∨
      limit ≤ (pumpLoop ctx limit fuel s).pending.size := by
  induction fuel generalizing s with
  | zero => exact .inr (.inl (List.length_eq_zero_iff.mp (Nat.le_zero.mp hfuel)))
  | succ fuel ih =>
    unfold pumpLoop
    rcases hqueue : s.queue with - | ⟨work, queue⟩
    · exact .inr (.inl hqueue)
    dsimp only
    split_ifs with hguard
    · refine ih _ ?_
      rw [queue_startProbe]
      simpa [hqueue] using hfuel
    · rcases not_and_or.mp hguard with hstatus | hsize
      · exact .inl hstatus
      · exact .inr (.inr (Nat.not_lt.mp hsize))

variable {ctx}

section

variable (hmax : 0 < ctx.config.maxOutstanding)
  (htiming : TimingBounded s.timing)

include hmax htiming

theorem settled_pump : (pump ctx s).board.Settled := by
  have hlimit : 0 < s.limit ctx := by
    unfold limit
    split
    · exact hmax
    · rename_i timing heq
      exact (htiming timing heq).parallelismLimit_pos _
  rw [pump, board_stopIfIdle]
  intro hstatus
  rcases pumpLoop_done ctx (s.limit ctx) s.queue.length s le_rfl with hfailed | hempty | hfull
  · exact absurd hstatus hfailed
  · exact .inl hempty
  · exact .inr (hlimit.trans_le hfull)

theorem settled_completePending (hs : s.board.Settled) (id : UDPProbeId) (state : PortState)
    (reason : ScanReason) (completedAt : TimePoint) :
    (completePending ctx id state reason completedAt s).board.Settled := by
  unfold completePending
  split
  · exact hs
  · rename_i pending hlookup
    have hsame : ((s.record (.timerCancelled pending.timerId)).retire id pending).timing =
        s.timing :=
      congrArg Board.timing (board_retire id pending (s.record (.timerCancelled pending.timerId)))
    refine settled_pump hmax ?_
    refine timingBounded_of_step (.response _ _) ?_
    exact hsame.symm ▸ htiming

theorem settled_receive (hs : s.board.Settled) (response : UDPResponse) :
    (receive ctx response s).board.Settled := by
  unfold receive
  split
  · exact hs
  rename_i pending hlookup
  split
  · exact hs
  split
  rename_i completedAt s' hclock
  have hboard : s'.board = s.board := by
    split at hclock <;> cases hclock <;> rfl
  have hpending : s'.pending = s.pending := congrArg Board.pending hboard
  have hsame : s'.timing = s.timing := congrArg Board.timing hboard
  rw [← hboard] at hs
  rw [← hsame] at htiming
  split_ifs
  · exact hs
  · exact settled_completePending hmax htiming hs _ _ _ _
  · -- evidence recorded on a probe keeps the probe in flight
    intro hstatus
    rcases hs hstatus with hempty | hpos
    · exact .inl hempty
    · refine .inr ?_
      rw [← hpending] at hlookup
      show 0 < (s'.pending.replace response.id _).size
      rw [AList.size_replace _ hlookup]
      exact hpos

theorem settled_onTimeout (hs : s.board.Settled) (id : UDPProbeId) :
    (onTimeout ctx id s).board.Settled := by
  unfold onTimeout
  split
  · exact hs
  rename_i pending hlookup
  have hsame : (s.retire id pending).timing = s.timing :=
    congrArg Board.timing (board_retire id pending s)
  dsimp only
  split
  · refine settled_pump hmax (timingBounded_of_step (.response _ _) ?_)
    exact hsame.symm ▸ htiming
  · have hadapted : TimingBounded
        ((s.retire id pending).timing.map TimingController.onTimeout) :=
      timingBounded_of_step (.timeout _) (hsame.symm ▸ htiming)
    split_ifs
    · exact settled_pump hmax hadapted
    · exact settled_pump hmax hadapted

end

/-! ### The invariant -/

/-- No failure was recorded while items were queued. -/
def NoneQueuedAtFailure (s : UDPScheduler) : Prop :=
  ∀ status queued, .failed status queued ∈ s.trace → queued = 0

theorem NoneQueuedAtFailure.board (h : s.NoneQueuedAtFailure) : s.board.NoneQueuedAtFailure :=
  fun status queued hmem ↦ h status queued (List.mem_of_mem_filter hmem)

/-- The queue length a failure was recorded with; zero for anything else. -/
def queuedAt : Effect → ℕ
  | .failed _ queued => queued
  | _ => 0

instance (s : UDPScheduler) : Decidable s.NoneQueuedAtFailure :=
  decidable_of_iff (∀ effect ∈ s.trace, queuedAt effect = 0)
    ⟨fun h status queued hmem ↦ h (.failed status queued) hmem, fun h effect hmem ↦ by
      cases effect with
      | failed status queued => exact h status queued hmem
      | _ => rfl⟩

variable (ctx) in
/-- A step is harmless when no failure strikes in it while items are queued, and it is not a timeout
that queues an item again after a failure. -/
def HarmlessStep (s : UDPScheduler) (event : Event) : Prop :=
  (∀ id, event = .onTimeout id → Retries ctx s id → s.status = .ok) ∧
    (step ctx s event).NoneQueuedAtFailure

/-- A scheduler that has accepted a submission ignores every later one. -/
theorem submit_of_submitted (h : s.submitted = true) (target : Target) (ports : List Port) :
    (submit ctx target ports s).2 = s := by
  rw [submit, if_pos h]

/-- **Harmless steps keep the scheduler recoverable.** -/
theorem recoverable_step (hmax : 0 < ctx.config.maxOutstanding) (s : UDPScheduler) (event : Event)
    (hharmless : HarmlessStep ctx s event) (hs : s.board.Recoverable) :
    (step ctx s event).board.Recoverable := by
  obtain ⟨hretry, hnone⟩ := hharmless
  cases event with
  | submit target ports =>
    show (submit ctx target ports s).2.board.Recoverable
    rw [submit_of_submitted hs.submitted]
    exact hs
  | receive response =>
    exact .of_actions (actions_receive ctx response s) hnone.board
      (settled_receive hmax hs.timing hs.settled response) hs.submitted hs.timing hs.drained
  | onTimeout id =>
    have hsettled := settled_onTimeout hmax hs.timing hs.settled id
    obtain hactions | ⟨hretries, pending, timing, hlookup, htiming, hactions⟩ :=
      actions_onTimeout ctx id s
    · exact .of_actions hactions hnone.board hsettled hs.submitted hs.timing hs.drained
    · -- the item is queued under an `Ok` status, so the board is drained for free
      have hok := hretry id rfl hretries
      refine .of_actions hactions hnone.board hsettled hs.submitted ?_ fun hfailed ↦
        absurd hok hfailed
      exact timingBounded_of_step htiming hs.timing

/-! ### Submission -/

/-- The pairs in each container of the scheduler. -/
def holding (s : UDPScheduler) : Holding Location (Text × Port) := s.board.holding

/-- **Every event** after an accepted submission is a sequence of moves. -/
theorem moves_step (s : UDPScheduler) (event : Event) (hs : s.submitted = true) :
    Moves Location.Edge s.holding (step ctx s event).holding := by
  cases event with
  | submit target ports =>
    show Moves Location.Edge s.holding (submit ctx target ports s).2.holding
    rw [submit_of_submitted hs]
  | receive response => exact Board.moves_of_actions (actions_receive ctx response s)
  | onTimeout id =>
    obtain hactions | ⟨-, pending, timing, hlookup, -, hactions⟩ := actions_onTimeout ctx id s
    · exact Board.moves_of_actions hactions
    · exact (Board.moves_requeue (b := s.board) hlookup timing).trans
        (Board.moves_of_actions hactions)

theorem sum_location {M : Type*} [AddCommMonoid M] (f : Location → M) :
    ∑ location, f location = f .queue + (f .pending + f .results) := by
  show ∑ location ∈ {.queue, .pending, .results}, f location = _
  simp

/-- The items of a submission are its pairs, in the order of the hosts and then of the ports. -/
theorem map_key_items (ctx : Context) (hosts : List Host) (ports : List Port) :
    (hosts.flatMap (items ctx ports)).map WorkItem.key = hosts.map Host.address ×ˢ ports := by
  induction hosts with
  | nil => rfl
  | cons host hosts ih =>
    rw [List.flatMap_cons, List.map_append, ih, List.map_cons, List.product_cons, items,
      List.map_map]
    rfl

variable {target : Target} {ports : List Port}

theorem Acceptable.maxOutstanding_pos (h : Acceptable ctx target ports s) :
    0 < ctx.config.maxOutstanding := by
  have hconfig := h.config
  unfold validateConfig at hconfig
  split_ifs at hconfig with h₁ h₂ h₃
  · exact absurd hconfig h₁
  · simp only [not_or] at h₃
    exact Nat.pos_of_ne_zero h₃.2.1

theorem Acceptable.timing (h : Acceptable ctx target ports (create ctx)) :
    TimingBounded (create ctx).timing := by
  have hconfig := h.config
  unfold validateConfig at hconfig
  split_ifs at hconfig with h₁ h₂ h₃
  · exact absurd hconfig h₁
  simp only [not_or] at h₃
  intro t ht
  have hok : t.validate = .ok := by
    by_contra hne
    exact h₃.2.2 (by rw [Option.mem_def.mp ht]; simpa using hne)
  unfold create at ht
  dsimp only at ht
  split_ifs at ht
  · cases ht
    exact TimingController.bounded_create hok
  · cases ht

/-- What `submit` leaves behind: the submitted pairs, when all the hosts are valid. -/
structure Accepted (ctx : Context) (target : Target) (ports : List Port) (s : UDPScheduler) :
    Prop where
  recoverable : s.board.Recoverable
  total : (∃ host ∈ target.resolvedHosts, validHost ctx host) →
    ∑ location, s.holding location =
      (PortScanScheduler.submittedPairs target ports : Multiset (Text × Port))

/-- **A harmless submission** of hosts that are all valid, or all invalid. -/
theorem accepted_submit (h : Acceptable ctx target ports (create ctx))
    (hhosts : (∀ host ∈ target.resolvedHosts, validHost ctx host) ∨
      ∀ host ∈ target.resolvedHosts, ¬ validHost ctx host)
    (hnone : (submit ctx target ports (create ctx)).2.NoneQueuedAtFailure) :
    Accepted ctx target ports (submit ctx target ports (create ctx)).2 := by
  obtain ⟨results, s₁, hkeys, -, hboard, hsubmit⟩ := h.submit_eq
  have htiming : TimingBounded s₁.timing := by
    have hsame : s₁.timing = (create ctx).timing := congrArg Board.timing hboard
    rw [hsame]
    exact h.timing
  have hsubmitted : s₁.board.submitted = true := by rw [hboard]; rfl
  obtain hvalid | hinvalid := hhosts
  · have hall : target.resolvedHosts.all (validHost ctx) = true := List.all_eq_true.mpr hvalid
    have hstatus : s₁.status = .ok := by
      show s₁.board.status = .ok
      rw [hboard, Board.accept, hall]
      rfl
    rw [hsubmit, if_pos hstatus] at hnone ⊢
    have hnone := hnone.board
    rw [board_stopIfIdle] at hnone
    refine ⟨?_, fun _ ↦ ?_⟩
    · rw [board_stopIfIdle]
      exact .of_actions (actions_pump ctx s₁) hnone (settled_pump h.maxOutstanding_pos htiming)
        hsubmitted
        htiming fun hfailed ↦ absurd hstatus hfailed
    · have hmoves := Board.moves_of_actions (actions_pump ctx s₁)
      have hfilter : target.resolvedHosts.filter (validHost ctx) = target.resolvedHosts :=
        List.filter_eq_self.mpr hvalid
      have hnobody : target.resolvedHosts.filter (fun host ↦ !validHost ctx host) = [] := by
        rw [List.filter_eq_nil_iff]
        intro host hmem
        simp [hvalid host hmem]
      have hresults : results = [] := by
        rw [hnobody] at hkeys
        exact List.map_eq_nil_iff.mp hkeys
      rw [holding, board_stopIfIdle, hmoves.total_eq, sum_location, hboard, hresults]
      -- the fresh board held nothing
      show Multiset.ofList ((((create ctx).board.queue ++
        (target.resolvedHosts.filter (validHost ctx)).flatMap (items ctx ports))).map
          WorkItem.key) +
          (0 + 0) = _
      rw [hfilter, add_zero, add_zero]
      show Multiset.ofList ((target.resolvedHosts.flatMap (items ctx ports)).map WorkItem.key) = _
      rw [map_key_items]
      rfl
  · obtain ⟨host, hmem⟩ := List.exists_mem_of_ne_nil _ h.hosts_ne_nil
    have hall : target.resolvedHosts.all (validHost ctx) = false :=
      List.all_eq_false.mpr ⟨host, hmem, hinvalid host hmem⟩
    have hstatus : s₁.status ≠ .ok := by
      show s₁.board.status ≠ .ok
      rw [hboard, Board.accept, hall]
      show StatusCode.invalidArgument ≠ .ok
      decide
    rw [hsubmit, if_neg hstatus]
    refine ⟨?_, fun hsome ↦ ?_⟩
    · rw [board_stopIfIdle]
      exact ⟨hsubmitted, htiming, fun _ ↦ .inl rfl, fun _ ↦ rfl⟩
    · obtain ⟨other, hother, hvalid⟩ := hsome
      exact absurd hvalid (hinvalid other hother)

/-! ### No work is lost -/

variable (ctx target ports) in
/-- At rest, nothing is queued, the scan is complete, and every pair with a valid host has exactly
one result. -/
def Lossless (s : UDPScheduler) : Prop :=
  s.pending.size = 0 →
    s.queue = [] ∧ s.complete = true ∧
      ∀ host ∈ target.resolvedHosts, validHost ctx host → ∀ port ∈ ports,
        (s.results.map PortResult.key).count (host.address, port) = 1

/-- At rest, a recoverable scheduler that holds the submitted pairs is lossless. -/
theorem lossless_of_accepted (h : Accepted ctx target ports s)
    (hhosts : (target.resolvedHosts.map Host.address).Nodup) (hnodup : ports.Nodup) :
    Lossless ctx target ports s := by
  intro hpending
  have hqueue : s.queue = [] := by
    by_cases hstatus : s.status = .ok
    · rcases h.recoverable.settled hstatus with hempty | hpos
      · exact hempty
      · exact absurd hpending (Nat.pos_iff_ne_zero.mp hpos)
    · exact h.recoverable.drained hstatus
  refine ⟨hqueue, ?_, fun host hmem hvalid port hport ↦ ?_⟩
  · have hsubmitted : s.submitted = true := h.recoverable.submitted
    simp [complete, hsubmitted, hqueue, hpending]
  · have hperm := h.total ⟨host, hmem, hvalid⟩
    rw [← AList.values_eq_nil_iff] at hpending
    rw [sum_location] at hperm
    simp only [holding, board, Board.holding, hqueue, hpending, List.map_nil, Multiset.coe_nil,
      zero_add] at hperm
    rw [(Multiset.coe_eq_coe.mp hperm).count_eq]
    exact List.count_eq_one_of_mem (hhosts.product hnodup)
      (List.mem_product.mpr ⟨List.mem_map_of_mem hmem, hport⟩)

theorem accepted_step (hmax : 0 < ctx.config.maxOutstanding) (s : UDPScheduler) (event : Event)
    (hharmless : HarmlessStep ctx s event) (hs : Accepted ctx target ports s) :
    Accepted ctx target ports (step ctx s event) where
  recoverable := recoverable_step hmax s event hharmless hs.recoverable
  total hsome := (moves_step s event hs.recoverable.submitted).total_eq.trans (hs.total hsome)

/-- **No work is lost in a harmless run.** Whatever the engine, the transport and the packet builder
refuse: as long as no failure is recorded while items are queued, no timeout queues an item again
after a failure, and the hosts are all valid or all invalid, no probe is pending only when the
scheduler is complete, with exactly one result for every pair whose host is valid. -/
theorem work_kept_of_harmless (h : Acceptable ctx target ports (create ctx))
    (hvalidity : (∀ host ∈ target.resolvedHosts, validHost ctx host) ∨
      ∀ host ∈ target.resolvedHosts, ¬ validHost ctx host)
    (hhosts : (target.resolvedHosts.map Host.address).Nodup) (hnodup : ports.Nodup)
    (hsubmit : (submit ctx target ports (create ctx)).2.NoneQueuedAtFailure) {events : List Event}
    (hevents : Runs.Within (step ctx) (HarmlessStep ctx) (submit ctx target ports (create ctx)).2
      events) :
    Lossless ctx target ports
      (Runs.run (step ctx) (submit ctx target ports (create ctx)).2 events) :=
  lossless_of_accepted
    (Runs.run_invariant_within (accepted_step h.maxOutstanding_pos)
      (accepted_submit h hvalidity hsubmit) hevents) hhosts hnodup

/-- An engine that accepts everything and a transport that answers the `n`-th submission, from zero,
with the given status; the database has the default probe only. -/
def answeringContext (answer : ℕ → StatusCode) : Context where
  inet := PortScanScheduler.ipv4OnlyInet
  environment :=
    { now := fun trace ↦ trace.length
      schedule := fun _ _ ↦ 1
      submit := fun trace _ ↦ answer (trace.countP fun e ↦ e matches .submitted _ _) }
  database := {}
  config := { method := .udp }

/-- Every submission but the first is refused, with an I/O error. -/
def refusingLater : Context := answeringContext fun n ↦ if n = 0 then .ok else .ioError

/-- Two UDP ports of 10.0.0.1. -/
def twoPorts : List Port := [⟨53, .udp⟩, ⟨161, .udp⟩]

/-- The second of two submissions is refused while the first is in flight, which then times out. -/
theorem work_kept_of_harmless_refusal :
    Lossless refusingLater { resolvedHosts := [PortScanScheduler.tenNet 1] } twoPorts
      (Runs.run (step refusingLater)
        (submit refusingLater { resolvedHosts := [PortScanScheduler.tenNet 1] } twoPorts
          (create refusingLater)).2
        [.onTimeout 1]) := by
  refine work_kept_of_harmless ⟨by decide, by decide, by decide, by decide, by decide⟩
    (.inl (by decide)) (by decide) (by decide) (by decide +kernel)
      ⟨⟨?_, by decide +kernel⟩, trivial⟩
  -- the budget is zero, so no timeout queues anything again
  rintro id - ⟨pending, -, -, hbudget⟩
  exact absurd hbudget (Nat.not_lt_zero _)

/-! ### How work is lost -/

/-- Stuck: items are queued under a failed status. -/
def Stuck (s : UDPScheduler) : Prop := s.submitted = true ∧ s.status ≠ .ok ∧ s.queue ≠ []

theorem stuck_step (s : UDPScheduler) (event : Event) (hs : s.Stuck) :
    (step ctx s event).Stuck := by
  obtain ⟨hsubmitted, hstatus, hqueue⟩ := hs
  have hof : Actions ctx s.board (step ctx s event).board → (step ctx s event).Stuck := by
    intro h
    obtain ⟨hsame, hfailed⟩ := Board.stuck_of_actions h hstatus
    exact ⟨(Board.submitted_of_actions h).trans hsubmitted, hfailed,
      fun hnil ↦ hqueue (hsame.symm.trans hnil)⟩
  cases event with
  | submit target ports =>
    show (submit ctx target ports s).2.Stuck
    rw [submit_of_submitted hsubmitted]
    exact ⟨hsubmitted, hstatus, hqueue⟩
  | receive response => exact hof (actions_receive ctx response s)
  | onTimeout id =>
    obtain hactions | ⟨-, pending, timing, hlookup, -, hactions⟩ := actions_onTimeout ctx id s
    · exact hof hactions
    · obtain ⟨hsame, hfailed⟩ := Board.stuck_of_actions hactions hstatus
      exact ⟨(Board.submitted_of_actions hactions).trans hsubmitted, hfailed,
        fun hnil ↦ List.cons_ne_nil _ _ (hsame.symm.trans hnil)⟩

/-- **A queue under a failed status is never drained**: whatever happens next, the scan does not
complete, and at rest it has lost its work. -/
theorem work_stuck {s : UDPScheduler} (hs : s.Stuck) (events : List Event) :
    (Runs.run (step ctx) s events).complete = false ∧
      ((Runs.run (step ctx) s events).pending.size = 0 →
        ¬ Lossless ctx target ports (Runs.run (step ctx) s events)) := by
  obtain ⟨-, -, hqueue⟩ := Runs.run_invariant (@stuck_step ctx) hs events
  refine ⟨?_, fun hpending hlossless ↦ hqueue (hlossless hpending).1⟩
  simp [complete, hqueue]

/-- The first of two submissions is refused: the second port stays where it is. -/
theorem work_stuck_firstRefused :
    let ctx := answeringContext fun _ ↦ .ioError
    (Runs.run (step ctx) (submit ctx { resolvedHosts := [PortScanScheduler.tenNet 1] } twoPorts
      (create ctx)).2 [.onTimeout 1]).complete = false :=
  (@work_stuck _ { resolvedHosts := [] } [] _
    ⟨by decide +kernel, by decide +kernel, by decide +kernel⟩ _).1

/-- The first of two submissions is refused, and the scheduler is at rest with the second port still
queued. -/
theorem not_work_kept_firstRefused :
    Acceptable (answeringContext fun _ ↦ .ioError) { resolvedHosts := [PortScanScheduler.tenNet 1] }
        twoPorts (create (answeringContext fun _ ↦ .ioError)) ∧
      ¬ Lossless (answeringContext fun _ ↦ .ioError)
        { resolvedHosts := [PortScanScheduler.tenNet 1] } twoPorts
        (submit (answeringContext fun _ ↦ .ioError)
          { resolvedHosts := [PortScanScheduler.tenNet 1] } twoPorts
          (create (answeringContext fun _ ↦ .ioError))).2 := by
  refine ⟨⟨by decide, by decide, by decide, by decide, by decide⟩, fun h ↦ ?_⟩
  have hqueue := (h (by decide +kernel)).1
  exact absurd hqueue (by decide +kernel)

/-- **One invalid host costs the valid ones their results**: they get none, though the scan is
complete. -/
theorem mixed_hosts_lose_results (h : Acceptable ctx target ports (create ctx))
    (hinvalid : ∃ host ∈ target.resolvedHosts, ¬ validHost ctx host)
    (hvalid : ∃ host ∈ target.resolvedHosts, validHost ctx host)
    (hhosts : (target.resolvedHosts.map Host.address).Nodup) :
    (submit ctx target ports (create ctx)).2.complete = true ∧
      ¬ Lossless ctx target ports (submit ctx target ports (create ctx)).2 := by
  obtain ⟨results, s₁, hkeys, -, hboard, hsubmit⟩ := h.submit_eq
  have hall : target.resolvedHosts.all (validHost ctx) = false := by
    obtain ⟨host, hmem, hhost⟩ := hinvalid
    exact List.all_eq_false.mpr ⟨host, hmem, hhost⟩
  have hstatus : s₁.status ≠ .ok := by
    show s₁.board.status ≠ .ok
    rw [hboard, Board.accept, hall]
    show StatusCode.invalidArgument ≠ .ok
    decide
  rw [if_neg hstatus] at hsubmit
  set s := (submit ctx target ports (create ctx)).2 with hs
  have hsBoard : s.board = { s₁.board with queue := [] } := by
    rw [hsubmit, board_stopIfIdle]
    rfl
  rw [hboard] at hsBoard
  have hqueue : s.queue = [] := congrArg Board.queue hsBoard
  have hpending : s.pending = ∅ := congrArg Board.pending hsBoard
  have hsubmitted : s.submitted = true := congrArg Board.submitted hsBoard
  have hresults : s.results = results := congrArg Board.results hsBoard
  refine ⟨by simp [complete, hqueue, hpending, hsubmitted], fun hlossless ↦ ?_⟩
  obtain ⟨host, hmem, hhost⟩ := hvalid
  obtain ⟨port, hport⟩ := List.exists_mem_of_ne_nil _ h.ports_ne_nil
  have hcount := (hlossless (by rw [hpending]; rfl)).2.2 host hmem hhost port hport
  rw [hresults, hkeys, PortScanScheduler.count_refused hhosts hmem hhost] at hcount
  exact absurd hcount (by decide)

end UDPScheduler

end Skan.PortScan
