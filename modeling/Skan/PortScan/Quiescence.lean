import Skan.PortScan.WorkConservation

/-!
# What a failure leaves behind in the port scan scheduler

`pump` starts attempts only while the status is `Ok`, and the status never returns to `Ok`. So once
a call has failed, whatever is still queued stays queued: the scheduler can come to rest, with
nothing in flight and nothing deferred, and yet be incomplete.

* `lossless_of_harmless` is when this cannot happen: no failure is recorded while items are queued,
  no retry timer fires after a failure, and the hosts are all valid or all invalid. Then at every
  moment of rest the queue is empty, the scan is complete, and every pair with a valid host has
  exactly one result.
* `queue_stuck` is the converse mechanism: a nonempty queue under a failed status is never drained.
* `mixed_hosts_lose_work`: one invalid host among valid ones costs the valid ones their results.

## What carries the proof

Two facts of the board, kept by every action: under a failed status the queue only shrinks
(`Board.queue_suffix`), and a failure is logged with the number of items queued behind it
(`Board.queue_of_failed`). The third is the pump's own: it stops only when the status is not `Ok`,
the queue is empty, or the limit is reached (`pumpLoop_done`), and the limit is never zero.
-/

namespace Skan.PortScan

open Skan.Core Skan.ScanEngine Flow

variable {b b' : Board}

namespace Board

variable {ctx : SchedulerContext}

/-! ### Facts every action keeps -/

theorem queue_suffix_of_action (h : Action ctx b b') : b'.queue <:+ b.queue := by
  cases h with
  | reject hstatus hqueue => exact hqueue ▸ List.suffix_cons _ _
  | rejectFailing hstatus hqueue => exact hqueue ▸ List.suffix_cons _ _
  | refuse hstatus hqueue => exact hqueue ▸ List.suffix_cons _ _
  | start hstatus hqueue => exact hqueue ▸ List.suffix_cons _ _
  | _ => exact List.suffix_refl _

/-- Actions never lengthen the queue. -/
theorem queue_suffix (h : Actions ctx b b') : b'.queue <:+ b.queue :=
  Runs.steps_related (R := fun b b' : Board ↦ b'.queue <:+ b.queue)
    (fun _ ↦ List.suffix_refl _) (fun h h' ↦ h'.trans h) queue_suffix_of_action h

theorem log_suffix_of_action (h : Action ctx b b') : b.log <:+ b'.log := by
  cases h with
  | rejectFailing => exact List.suffix_cons _ _
  | refuse => exact (List.suffix_cons _ _).trans (List.suffix_cons _ _)
  | start => exact List.suffix_cons _ _
  | deferFailing => exact List.suffix_cons _ _
  | _ => exact List.suffix_refl _

/-- Under a failed status nothing is taken off the queue, and the status stays failed. -/
theorem stuck_of_action (h : Action ctx b b') (hfailed : b.status ≠ .ok) :
    b'.queue = b.queue ∧ b'.status ≠ .ok := by
  cases h with
  | reject hstatus => exact absurd hstatus hfailed
  | rejectFailing hstatus => exact absurd hstatus hfailed
  | refuse hstatus => exact absurd hstatus hfailed
  | start hstatus => exact absurd hstatus hfailed
  | deferFailing _ _ _ _ hnew => exact ⟨rfl, hnew⟩
  | _ => exact ⟨rfl, hfailed⟩

theorem stuck_of_actions (h : Actions ctx b b') (hfailed : b.status ≠ .ok) :
    b'.queue = b.queue ∧ b'.status ≠ .ok := by
  induction h with
  | refl => exact ⟨rfl, hfailed⟩
  | tail _ hstep ih =>
    obtain ⟨hqueue, hstatus⟩ := stuck_of_action hstep ih.2
    exact ⟨hqueue.trans ih.1, hstatus⟩

/-- No failure was recorded while items were queued. -/
def NoneQueuedAtFailure (b : Board) : Prop :=
  ∀ status queued, .failed status queued ∈ b.log → queued = 0

/-- A failed status leaves no item queued. -/
def Drained (b : Board) : Prop := b.status ≠ .ok → b.queue = []

/-- Failures recorded with an empty queue leave the board drained. -/
theorem drained_of_action (h : Action ctx b b') (hnone : b'.NoneQueuedAtFailure) (hb : b.Drained) :
    b'.Drained := by
  have hsuffix := queue_suffix_of_action h
  cases h with
  | rejectFailing =>
    exact fun _ ↦ List.length_eq_zero_iff.mp (hnone _ _ List.mem_cons_self)
  | refuse => exact fun _ ↦ List.length_eq_zero_iff.mp (hnone _ _ List.mem_cons_self)
  | deferFailing => exact fun _ ↦ List.length_eq_zero_iff.mp (hnone _ _ List.mem_cons_self)
  | _ =>
    intro hfailed
    exact List.suffix_nil.mp (hb hfailed ▸ hsuffix)

theorem drained_of_actions (h : Actions ctx b b') (hnone : b'.NoneQueuedAtFailure)
    (hb : b.Drained) : b'.Drained := by
  induction h with
  | refl => exact hb
  | @tail c d hbc hstep ih =>
    have hearlier : c.NoneQueuedAtFailure := fun status queued hmem ↦
      hnone status queued ((log_suffix_of_action hstep).subset hmem)
    exact drained_of_action hstep hnone (ih hearlier)

/-- The timing controller keeps its limit positive. -/
def TimingBounded (timing : Option TimingController) : Prop := ∀ t ∈ timing, t.Bounded

theorem timingBounded_of_step {timing timing' : Option TimingController}
    (h : TimingStep timing timing') (hb : TimingBounded timing) : TimingBounded timing' := by
  cases h with
  | response rtt =>
    rintro t ht
    obtain ⟨t₀, ht₀, rfl⟩ := Option.map_eq_some_iff.mp ht
    exact (hb t₀ ht₀).onResponse rtt
  | timeout =>
    rintro t ht
    obtain ⟨t₀, ht₀, rfl⟩ := Option.map_eq_some_iff.mp ht
    exact (hb t₀ ht₀).onTimeout

theorem timingBounded_of_actions (h : Actions ctx b b') (hb : TimingBounded b.timing) :
    TimingBounded b'.timing := by
  refine Runs.steps_invariant (I := fun b : Board ↦ TimingBounded b.timing) ?_ h hb
  intro b b' hstep hb
  cases hstep with
  | publish _ htiming => exact timingBounded_of_step htiming hb
  | defer _ htiming => exact timingBounded_of_step htiming hb
  | deferFailing _ htiming => exact timingBounded_of_step htiming hb
  | _ => exact hb

/-- Every refused submission has its Error result. -/
def RefusalsReported (b : Board) : Prop :=
  ∀ work submission status, .submitted work submission status ∈ b.log → status ≠ .ok →
    ∃ result ∈ b.results, result.key = work.key ∧ result.state = .error

theorem refusalsReported_of_action (h : Action ctx b b') (hb : b.RefusalsReported) :
    b'.RefusalsReported := by
  have hkeep : ∀ result work submission status,
      (.submitted work submission status) ∈ b.log → status ≠ .ok →
        ∃ r ∈ b.results ++ [result], r.key = work.key ∧ r.state = .error := by
    intro result work submission status hmem hne
    obtain ⟨r, hr, hkey⟩ := hb work submission status hmem hne
    exact ⟨r, List.mem_append_left _ hr, hkey⟩
  cases h with
  | reject => exact fun work submission status hmem hne ↦ hkeep _ work submission status hmem hne
  | rejectFailing =>
    intro work submission status hmem hne
    rcases List.mem_cons.mp hmem with heq | hmem
    · exact absurd heq (by simp)
    · exact hkeep _ work submission status hmem hne
  | @refuse item queue result submission status limit hstatus hqueue hkey hblamed =>
    intro work submission status hmem hne
    rcases List.mem_cons.mp hmem with heq | hmem
    · exact absurd heq (by simp)
    rcases List.mem_cons.mp hmem with heq | hmem
    · cases heq
      exact ⟨result, List.mem_append_right _ List.mem_cons_self, hkey, hblamed.state⟩
    · exact hkeep _ work submission status hmem hne
  | start =>
    intro work submission status hmem hne
    rcases List.mem_cons.mp hmem with heq | hmem
    · cases heq
      exact absurd rfl hne
    · exact hb work submission status hmem hne
  | publish => exact fun work submission status hmem hne ↦ hkeep _ work submission status hmem hne
  | deferFailing =>
    intro work submission status hmem hne
    rcases List.mem_cons.mp hmem with heq | hmem
    · exact absurd heq (by simp)
    · exact hkeep _ work submission status hmem hne
  | _ => exact hb

theorem refusalsReported_of_actions (h : Actions ctx b b') (hb : b.RefusalsReported) :
    b'.RefusalsReported :=
  Runs.steps_invariant refusalsReported_of_action h hb

/-- While the status is `Ok`, an item waits in the queue only behind an attempt in flight. -/
def Settled (b : Board) : Prop := b.status = .ok → b.queue = [] ∨ 0 < b.pending.size

theorem submitted_of_actions (h : Actions ctx b b') : b'.submitted = b.submitted :=
  Runs.steps_related (R := fun b b' : Board ↦ b'.submitted = b.submitted) (fun _ ↦ rfl)
    (fun h h' ↦ h'.trans h) (fun hstep ↦ by cases hstep <;> rfl) h

/-- What lets a scheduler come to rest only when it is complete. -/
structure Recoverable (b : Board) : Prop where
  submitted : b.submitted = true
  timing : TimingBounded b.timing
  settled : b.Settled
  drained : b.Drained
  reported : b.RefusalsReported

/-- Actions keep everything but `Settled`. -/
theorem Recoverable.of_actions (h : Actions ctx b b') (hnone : b'.NoneQueuedAtFailure)
    (hsettled : b'.Settled) (hsubmitted : b.submitted = true) (htiming : TimingBounded b.timing)
    (hdrained : b.Drained) (hreported : b.RefusalsReported) :
    b'.Recoverable where
  submitted := (submitted_of_actions h).trans hsubmitted
  timing := timingBounded_of_actions h htiming
  settled := hsettled
  drained := drained_of_actions h hnone hdrained
  reported := refusalsReported_of_actions h hreported

end Board

namespace PortScanScheduler

variable (ctx : SchedulerContext) {s : PortScanScheduler}

/-! ### Where the pump stops -/

/-- **The pump's loop runs to its end**: with fuel for the whole queue it stops only because the
status is not `Ok`, the queue is empty, or the limit is reached. -/
theorem pumpLoop_done (hprobe : ctx.probe.isSome) (fuel limit : ℕ) (s : PortScanScheduler)
    (hfuel : s.queue.length ≤ fuel) :
    (pumpLoop ctx fuel limit s).status ≠ .ok ∨ (pumpLoop ctx fuel limit s).queue = [] ∨
      limit ≤ (pumpLoop ctx fuel limit s).pending.size := by
  induction fuel generalizing s with
  | zero => exact .inr (.inl (List.length_eq_zero_iff.mp (Nat.le_zero.mp hfuel)))
  | succ fuel ih =>
    obtain ⟨probe, hsome⟩ := Option.isSome_iff_exists.mp hprobe
    unfold pumpLoop
    rw [hsome]
    rcases hqueue : s.queue with - | ⟨work, queue⟩
    · exact .inr (.inl hqueue)
    dsimp only
    split
    · rename_i hguard
      have hnested : ∀ s, Actions ctx s.board
          (stopIfIdle (pumpLoop ctx fuel (s.limit ctx) s)).board := by
        intro s
        rw [board_stopIfIdle]
        exact actions_pumpLoop ctx fuel _ s
      obtain ⟨b, -, hpopped, hrest⟩ := actions_startAttempt ctx hnested hguard.1 hqueue probe
      have hshorter := (hpopped ▸ Board.queue_suffix hrest).length_le
      refine ih _ (hshorter.trans ?_)
      simpa [hqueue] using hfuel
    · rename_i hguard
      rcases not_and_or.mp hguard with hstatus | hsize
      · exact .inl hstatus
      · exact .inr (.inr (Nat.not_lt.mp hsize))

theorem limit_pos (hmax : 0 < ctx.config.maxOutstanding) (htiming : Board.TimingBounded s.timing) :
    0 < s.limit ctx := by
  unfold limit
  split
  · exact hmax
  · rename_i timing heq
    exact (htiming timing heq).parallelismLimit_pos _

section

variable (hprobe : ctx.probe.isSome) (hmax : 0 < ctx.config.maxOutstanding)
  (htiming : Board.TimingBounded s.timing)

include hprobe hmax htiming

theorem settled_pump : (pump ctx s).board.Settled := by
  rw [pump, board_stopIfIdle]
  intro hstatus
  rcases pumpLoop_done ctx hprobe _ (s.limit ctx) s le_rfl with hfailed | hempty | hfull
  · exact absurd hstatus hfailed
  · exact .inl hempty
  · exact .inr ((limit_pos ctx hmax htiming).trans_le hfull)

/-- The ways to a settled state: nothing relevant changed, or the pump ran last. -/
theorem settled_finishAttempt (work : WorkItem) (state : PortState) (reason : ScanReason)
    (rttMs : Option ℚ) :
    (finishAttempt ctx (pump ctx) work state reason rttMs s).board.Settled := by
  rw [finishAttempt]
  have hobserved : Board.TimingBounded (s.record (.observed work state reason)).timing := htiming
  generalize s.record (.observed work state reason) = s at hobserved
  have hpublish : ∀ (work : WorkItem) (state : PortState) (reason : ScanReason),
      (pump ctx (s.appendTerminalResult ctx work ctx.config.method state reason
        rttMs)).board.Settled :=
    fun _ _ _ ↦ settled_pump ctx hprobe hmax hobserved
  have hretry : ∀ work : WorkItem, (retryOrFail ctx (pump ctx) work rttMs s).board.Settled := by
    intro work
    have hsame : (s.deferRetry ctx work).2.timing = s.timing := by
      rcases board_deferRetry ctx work s with ⟨-, _, _, -, -, hboard⟩ | ⟨-, hboard⟩ <;>
        exact congrArg Board.timing hboard
    unfold retryOrFail
    split
    · rename_i s' heq
      rw [heq] at hsame
      exact settled_pump ctx hprobe hmax (hsame ▸ hobserved)
    · rename_i s' heq
      rw [heq] at hsame
      exact settled_pump ctx hprobe hmax (by exact hsame ▸ hobserved)
  dsimp only
  split_ifs
  · exact hpublish _ _ _
  · exact hretry _
  · exact hpublish _ _ _
  · exact hretry _
  · exact hpublish _ _ _

theorem settled_receive (hs : s.board.Settled) (response : PortResponse) :
    (receive ctx response s).board.Settled := by
  unfold receive receiveWith
  split
  · rename_i pending probe hlookup hsome
    split
    · exact hs
    · rename_i state reason hassess
      split
      rename_i completedAt s' hclock
      have hboard : s'.board = s.board := by
        split at hclock <;> cases hclock <;> rfl
      have hpending : s'.pending = s.pending := congrArg Board.pending hboard
      rw [← hboard] at hs
      have hsame : s'.timing = s.timing := congrArg Board.timing hboard
      rw [← hsame] at htiming
      split_ifs
      · exact hs
      · unfold completePending
        split
        · exact hs
        · exact settled_finishAttempt ctx hprobe hmax
            (Board.timingBounded_of_step (.response _ _) htiming) _ _ _ _
      · -- evidence recorded on an attempt keeps the attempt in flight
        intro hstatus
        rcases hs hstatus with hempty | hpos
        · exact .inl hempty
        · refine .inr ?_
          rw [← hpending] at hlookup
          show 0 < (s'.pending.replace response.id _).size
          rw [AList.size_replace _ hlookup]
          exact hpos
  · exact hs

theorem settled_onTimeout (hs : s.board.Settled) (id : PortProbeId) :
    (onTimeout ctx id s).board.Settled := by
  unfold onTimeout onTimeoutWith
  split
  · dsimp only
    split
    · exact settled_finishAttempt ctx hprobe hmax
        (Board.timingBounded_of_step (.response _ _) htiming) _ _ _ _
    · exact settled_finishAttempt ctx hprobe hmax
        (Board.timingBounded_of_step (.timeout _) htiming) _ _ _ _
  · exact hs

theorem settled_step (hs : s.board.Settled) (event : Event) : (step ctx s event).board.Settled := by
  cases event with
  | receive response => exact settled_receive ctx hprobe hmax htiming hs response
  | onTimeout id => exact settled_onTimeout ctx hprobe hmax htiming hs id
  | onRetryReady id =>
    show (onRetryReady ctx id s).board.Settled
    unfold onRetryReady
    split
    · exact hs
    · exact settled_pump ctx hprobe hmax htiming
  | pump => exact settled_pump ctx hprobe hmax htiming

end

/-! ### The invariant -/

/-- No failure was recorded while items were queued. -/
def NoneQueuedAtFailure (s : PortScanScheduler) : Prop :=
  ∀ status queued, .failed status queued ∈ s.trace → queued = 0

theorem NoneQueuedAtFailure.board (h : s.NoneQueuedAtFailure) : s.board.NoneQueuedAtFailure :=
  fun status queued hmem ↦ h status queued (List.mem_of_mem_filter hmem)

/-- The queue length a failure was recorded with; zero for anything else. -/
def queuedAt : Effect → ℕ
  | .failed _ queued => queued
  | _ => 0

instance (s : PortScanScheduler) : Decidable s.NoneQueuedAtFailure :=
  decidable_of_iff (∀ effect ∈ s.trace, queuedAt effect = 0)
    ⟨fun h status queued hmem ↦ h (.failed status queued) hmem, fun h effect hmem ↦ by
      cases effect with
      | failed status queued => exact h status queued hmem
      | _ => rfl⟩

/-- A step is harmless when no failure strikes in it while items are queued, and it is not a retry
timer firing after a failure. -/
def HarmlessStep (s : PortScanScheduler) (event : Event) : Prop :=
  (∀ id, event = .onRetryReady id → id ∈ s.deferredRetries → s.status = .ok) ∧
    (step ctx s event).NoneQueuedAtFailure

/-- **Harmless steps keep the scheduler recoverable.** -/
theorem recoverable_step (hprobe : ctx.probe.isSome) (hmax : 0 < ctx.config.maxOutstanding)
    (s : PortScanScheduler) (event : Event) (hharmless : HarmlessStep ctx s event)
    (hs : s.board.Recoverable) : (step ctx s event).board.Recoverable := by
  obtain ⟨hretry, hnone⟩ := hharmless
  have hsettled := settled_step ctx hprobe hmax hs.timing hs.settled event
  have hof : Actions ctx s.board (step ctx s event).board → (step ctx s event).board.Recoverable :=
    fun h ↦ .of_actions h hnone.board hsettled hs.submitted hs.timing hs.drained hs.reported
  cases event with
  | receive response => exact hof (actions_receive ctx response s)
  | onTimeout id => exact hof (actions_onTimeout ctx id s)
  | onRetryReady id =>
    obtain ⟨-, hsame⟩ | ⟨retry, hlookup, hactions⟩ := actions_onRetryReady ctx id s
    · show (onRetryReady ctx id s).board.Recoverable
      rw [hsame]
      exact hs
    · -- the retry is put back under an `Ok` status, so the board is drained for free
      have hok := hretry id rfl (AList.mem_of_lookup hlookup)
      exact .of_actions hactions hnone.board hsettled hs.submitted hs.timing
        (fun hfailed ↦ absurd hok hfailed) hs.reported
  | pump => exact hof (actions_pump ctx s)

/-! ### Submission, with invalid hosts -/

/-- The results of an invalid host: one Error per port. -/
theorem board_rejectHost (ports : List Port) (host : Host) (s : PortScanScheduler) :
    ∃ results : List PortResult,
      (ports.foldl (fun s port ↦ s.appendTerminalResult ctx { host, port } ctx.config.method .error
          .invalidTarget none) s).board = { s.board with results := s.board.results ++ results } ∧
        results.map PortResult.key = (ports.map fun port ↦ (host.address, port)) ∧
          ∀ result ∈ results, Blamed ctx result := by
  induction ports generalizing s with
  | nil => exact ⟨[], by simp, rfl, List.forall_mem_nil _⟩
  | cons port ports ih =>
    obtain ⟨result, hkey, hblamed, happend⟩ :=
      board_appendError ctx { host, port } .invalidTarget none (.inl rfl) nofun s
    obtain ⟨results, hboard, hkeys, hrest⟩ := ih (s.appendTerminalResult ctx { host, port }
      ctx.config.method .error .invalidTarget none)
    refine ⟨result :: results, ?_, ?_, List.forall_mem_cons.mpr ⟨hblamed, hrest⟩⟩
    · rw [List.foldl_cons, hboard, happend]
      simp
    · rw [List.map_cons, List.map_cons, hkey, hkeys]
      rfl

/-- The loop of `submit` over the hosts: valid hosts are queued, invalid ones get Error results and
make the status `InvalidArgument`. -/
theorem board_submitHosts (ports : List Port) (hosts : List Host) (s : PortScanScheduler) :
    ∃ results : List PortResult,
      (hosts.foldl (submitHost ctx ports) s).board =
        { s.board with
          queue := s.board.queue ++ (hosts.filter (validHostAddress ctx.inet)).flatMap
            fun host ↦ ports.map fun port ↦ { host, port }
          results := s.board.results ++ results
          status := if hosts.all (validHostAddress ctx.inet) then s.board.status
            else .invalidArgument } ∧
        results.map PortResult.key =
          (hosts.filter fun host ↦ !validHostAddress ctx.inet host).map Host.address ×ˢ ports ∧
        ∀ result ∈ results, Blamed ctx result := by
  induction hosts generalizing s with
  | nil => exact ⟨[], by simp, rfl, List.forall_mem_nil _⟩
  | cons host hosts ih =>
    obtain ⟨results, hboard, hkeys, hblamed⟩ := ih (submitHost ctx ports s host)
    rw [List.foldl_cons, hboard]
    by_cases hvalid : validHostAddress ctx.inet host
    · refine ⟨results, ?_, ?_, hblamed⟩
      · simp [submitHost, hvalid, board]
      · simp [hvalid, hkeys]
    · obtain ⟨rejected, hrejected, hrejectedKeys, hrejectedBlamed⟩ :=
        board_rejectHost ctx ports host s
      have hhost : (submitHost ctx ports s host).board =
          { s.board with
            results := s.board.results ++ rejected, status := .invalidArgument } := by
        unfold submitHost
        rw [if_neg hvalid]
        show ({ (ports.foldl _ s).board with status := .invalidArgument } : Board) = _
        rw [hrejected]
      refine ⟨rejected ++ results, ?_, ?_, List.forall_mem_append.mpr ⟨hrejectedBlamed, hblamed⟩⟩
      · rw [hhost]
        simp [hvalid]
      · simp [hvalid, hkeys, hrejectedKeys, List.product_cons]

variable {ctx} {target : Target} {ports : List Port}

section

variable (h : Acceptable ctx target ports)

include h

theorem Acceptable.probe : ctx.probe.isSome := by
  have hconfig := h.config
  unfold validateConfig at hconfig
  split_ifs at hconfig with h₁ h₂ h₃
  · exact absurd hconfig h₁
  · simp only [not_or] at h₂
    exact Option.isSome_iff_ne_none.mpr (by simpa using h₂.1)

theorem Acceptable.maxOutstanding_pos : 0 < ctx.config.maxOutstanding := by
  have hconfig := h.config
  unfold validateConfig at hconfig
  split_ifs at hconfig with h₁ h₂ h₃
  · exact absurd hconfig h₁
  · omega

/-- The timing controller is that of a valid profile. -/
theorem Acceptable.timing_eq {t : TimingController} (ht : t ∈ (create ctx).timing) :
    t = .create ctx.config.timingProfile ∧
      (TimingController.create ctx.config.timingProfile).validate = .ok := by
  have hconfig := h.config
  unfold validateConfig at hconfig
  split_ifs at hconfig with h₁ h₂ h₃
  · exact absurd hconfig h₁
  simp only [not_or] at h₃
  have hok : t.validate = .ok := by
    by_contra hne
    exact h₃.2.2.2 (by rw [Option.mem_def.mp ht]; simpa using hne)
  unfold create at ht
  dsimp only at ht
  split_ifs at ht
  · cases ht
    exact ⟨rfl, hok⟩
  · cases ht

theorem Acceptable.timing : Board.TimingBounded (create ctx).timing := by
  intro t ht
  obtain ⟨rfl, hok⟩ := h.timing_eq ht
  exact TimingController.bounded_create hok

/-- What `submit` leaves behind when some host is invalid: results for the invalid hosts only, and
nothing queued. -/
theorem Acceptable.board_submit_of_invalid
    (hinvalid : ∃ host ∈ target.resolvedHosts, ¬ validHostAddress ctx.inet host) :
    ∃ results : List PortResult,
      (submit ctx target ports (create ctx)).2.board =
        { (create ctx).board with submitted := true, results, status := .invalidArgument } ∧
      results.map PortResult.key = (target.resolvedHosts.filter
        fun host ↦ !validHostAddress ctx.inet host).map Host.address ×ˢ ports ∧
      ∀ result ∈ results, Blamed ctx result := by
  obtain ⟨results, hboard, hkeys, hblamed⟩ := board_submitHosts ctx ports target.resolvedHosts
    { create ctx with submitted := true }
  have hsome : target.resolvedHosts.all (validHostAddress ctx.inet) = false := by
    obtain ⟨host, hmem, hhost⟩ := hinvalid
    exact List.all_eq_false.mpr ⟨host, hmem, hhost⟩
  rw [hsome] at hboard
  refine ⟨results, ?_, hkeys, hblamed⟩
  rw [h.submit_eq]
  set s := target.resolvedHosts.foldl (submitHost ctx ports) { create ctx with submitted := true }
    with hs
  have hstatus : s.status ≠ .ok := by
    have hboardStatus : s.status = .invalidArgument := congrArg Board.status hboard
    rw [hboardStatus]
    decide
  rw [board_stopIfIdle, if_neg hstatus]
  show ({ s.board with queue := [] } : Board) = _
  rw [hboard]
  rfl

end

/-- Nothing is queued, in flight or waiting, and nothing was ever handed over. -/
structure Idle (b : Board) : Prop where
  queue : b.queue = []
  pending : b.pending = ∅
  deferredRetries : b.deferredRetries = ∅
  log : b.log = []
  launches : b.launches = []

/-- Nothing can happen to an idle board. -/
theorem Idle.not_action (hb : Idle b) : ¬ Action ctx b b' := by
  have hlookup : ∀ id pending, b.pending.lookup id = some pending → False := by
    intro id pending h
    rw [hb.pending, AList.lookup_empty] at h
    exact nomatch h
  have hqueue : ∀ work queue, b.queue = work :: queue → False := by
    intro work queue h
    rw [hb.queue] at h
    exact nomatch h
  intro h
  cases h with
  | reject _ h => exact hqueue _ _ h
  | rejectFailing _ h => exact hqueue _ _ h
  | refuse _ h => exact hqueue _ _ h
  | start _ h => exact hqueue _ _ h
  | observe _ _ _ h => exact hlookup _ _ h
  | publish h => exact hlookup _ _ h
  | defer h => exact hlookup _ _ h
  | deferFailing h => exact hlookup _ _ h

theorem Idle.eq_of_actions (hb : Idle b) (h : Actions ctx b b') : b' = b := by
  obtain rfl | ⟨c, hstep, -⟩ := h.cases_head
  · rfl
  · exact absurd hstep hb.not_action

theorem board_step_of_idle (hs : Idle s.board) (event : Event) :
    (step ctx s event).board = s.board := by
  cases event with
  | receive response => exact hs.eq_of_actions (actions_receive ctx response s)
  | onTimeout id => exact hs.eq_of_actions (actions_onTimeout ctx id s)
  | onRetryReady id =>
    obtain ⟨-, hsame⟩ | ⟨retry, hlookup, -⟩ := actions_onRetryReady ctx id s
    · exact congrArg board hsame
    · have hnone : s.deferredRetries = ∅ := hs.deferredRetries
      rw [hnone, AList.lookup_empty] at hlookup
      exact nomatch hlookup
  | pump => exact hs.eq_of_actions (actions_pump ctx s)

variable (ctx) in
/-- **An idle scheduler stays as it is.** -/
theorem board_run_of_idle (hs : Idle s.board) (events : List Event) :
    (Runs.run (step ctx) s events).board = s.board :=
  Runs.run_invariant (I := fun s' : PortScanScheduler ↦ s'.board = s.board)
    (fun _ event h ↦ (board_step_of_idle (h ▸ hs) event).trans h) rfl events

variable (ctx target ports) in
/-- A submission is accepted, with hosts that are all valid, or it leaves the scheduler idle; then
all the results there are report invalid hosts of an acceptable submission. -/
theorem submit_cases :
    (Acceptable ctx target ports ∧
        ∀ host ∈ target.resolvedHosts, validHostAddress ctx.inet host) ∨
      Idle (submit ctx target ports (create ctx)).2.board ∧
        ∀ result ∈ (submit ctx target ports (create ctx)).2.results,
          Acceptable ctx target ports ∧ Blamed ctx result ∧
            result.key ∈ submittedPairs target ports := by
  by_cases haccept : Acceptable ctx target ports
  · by_cases hvalid : ∀ host ∈ target.resolvedHosts, validHostAddress ctx.inet host
    · exact .inl ⟨haccept, hvalid⟩
    · simp only [not_forall, exists_prop] at hvalid
      obtain ⟨results, hboard, hkeys, hblamed⟩ := haccept.board_submit_of_invalid hvalid
      have hresults : (submit ctx target ports (create ctx)).2.results = results :=
        congrArg Board.results hboard
      rw [hboard, hresults]
      refine .inr ⟨⟨rfl, rfl, rfl, rfl, rfl⟩, fun result hmem ↦ ⟨haccept, hblamed result hmem, ?_⟩⟩
      have hkey := List.mem_map_of_mem (f := PortResult.key) hmem
      rw [hkeys] at hkey
      obtain ⟨hhost, hport⟩ := List.mem_product.mp hkey
      obtain ⟨host, hfiltered, haddress⟩ := List.mem_map.mp hhost
      exact List.mem_product.mpr
        ⟨List.mem_map.mpr ⟨host, List.mem_of_mem_filter hfiltered, haddress⟩, hport⟩
  · right
    unfold submit
    split_ifs with hsubmitted hconfig hempty
    · exact ⟨⟨rfl, rfl, rfl, rfl, rfl⟩, List.forall_mem_nil _⟩
    · exact ⟨⟨rfl, rfl, rfl, rfl, rfl⟩, List.forall_mem_nil _⟩
    · exact ⟨⟨rfl, rfl, rfl, rfl, rfl⟩, List.forall_mem_nil _⟩
    · -- nothing was wrong with the submission
      simp only [not_or, Bool.not_eq_true, List.any_eq_false, Bool.or_eq_false_iff,
        decide_eq_false_iff_not, not_not] at hempty
      exact absurd ⟨not_not.mp hconfig, hempty.1, hempty.2.1, hempty.2.2⟩ haccept

/-- **A harmless submission** of hosts that are all valid, or all invalid, leaves the scheduler
recoverable. -/
theorem recoverable_submit (h : Acceptable ctx target ports)
    (hhosts : (∀ host ∈ target.resolvedHosts, validHostAddress ctx.inet host) ∨
      ∀ host ∈ target.resolvedHosts, ¬ validHostAddress ctx.inet host)
    (hnone : (submit ctx target ports (create ctx)).2.NoneQueuedAtFailure) :
    (submit ctx target ports (create ctx)).2.board.Recoverable := by
  obtain hvalid | hinvalid := hhosts
  · rw [h.submit_eq_pump hvalid] at hnone ⊢
    have hboard := hnone.board
    rw [board_stopIfIdle] at hboard ⊢
    exact .of_actions (actions_pump ctx _) hboard
      (settled_pump ctx h.probe h.maxOutstanding_pos h.timing) rfl h.timing
      (fun hfailed ↦ absurd rfl hfailed) (fun _ _ _ hmem ↦ absurd hmem List.not_mem_nil)
  · obtain ⟨host, hmem⟩ := List.exists_mem_of_ne_nil _ h.hosts_ne_nil
    obtain ⟨results, hboard, -⟩ := h.board_submit_of_invalid ⟨host, hmem, hinvalid host hmem⟩
    rw [hboard]
    exact ⟨rfl, h.timing, fun _ ↦ .inl rfl, fun _ ↦ rfl,
      fun _ _ _ hlog ↦ absurd hlog List.not_mem_nil⟩

/-! ### No work is lost -/

/-- At rest, nothing is queued, the scan is complete, every pair with a valid host has exactly one
result, and a pair whose submission was refused has an Error result. -/
def Lossless (ctx : SchedulerContext) (target : Target) (ports : List Port)
    (s : PortScanScheduler) : Prop :=
  s.pending.size = 0 → s.deferredRetries.size = 0 →
    s.queue = [] ∧ s.complete = true ∧
      (∀ host ∈ target.resolvedHosts, validHostAddress ctx.inet host → ∀ port ∈ ports,
        (s.results.map PortResult.key).count (host.address, port) = 1) ∧
      ∀ work submission status, .submitted work submission status ∈ s.trace → status ≠ .ok →
        ∃ result ∈ s.results, result.key = work.key ∧ result.state = .error

/-- A recoverable scheduler at rest has an empty queue. -/
theorem queue_eq_nil_of_recoverable (h : s.board.Recoverable) (hpending : s.pending.size = 0) :
    s.queue = [] := by
  by_cases hstatus : s.status = .ok
  · rcases h.settled hstatus with hempty | hpos
    · exact hempty
    · exact absurd hpending (Nat.pos_iff_ne_zero.mp hpos)
  · exact h.drained hstatus

/-- At rest, a recoverable scheduler that holds the submitted pairs is lossless. -/
theorem lossless_of_recoverable (h : s.board.Recoverable)
    (hhosts : (target.resolvedHosts.map Host.address).Nodup) (hnodup : ports.Nodup)
    (htotal : (∃ host ∈ target.resolvedHosts, validHostAddress ctx.inet host) →
      ∑ location, s.holding location = submittedPairs target ports) :
    Lossless ctx target ports s := by
  intro hpending hdeferred
  have hqueue := queue_eq_nil_of_recoverable h hpending
  refine ⟨hqueue, ?_, ?_, ?_⟩
  · have hsubmitted : s.submitted = true := h.submitted
    simp [complete, hsubmitted, hqueue, hpending, hdeferred]
  · intro host hmem hvalid port hport
    have hperm := htotal ⟨host, hmem, hvalid⟩
    rw [← AList.values_eq_nil_iff] at hpending hdeferred
    rw [sum_location] at hperm
    simp only [holding, board, Board.holding, hqueue, hpending, hdeferred, List.map_nil,
      Multiset.coe_nil, zero_add] at hperm
    rw [(Multiset.coe_eq_coe.mp hperm).count_eq]
    exact List.count_eq_one_of_mem (hhosts.product hnodup)
      (List.mem_product.mpr ⟨List.mem_map_of_mem hmem, hport⟩)
  · intro work submission status hmem hne
    exact h.reported work submission status (List.mem_filter.mpr ⟨hmem, rfl⟩) hne

/-- **No work is lost in a harmless run.** Whatever the engine and the transport refuse: as long as
no failure is recorded while items are queued, no retry timer fires after a failure, and the hosts
are all valid or all invalid, the scheduler is at rest only when it is complete, with exactly one
result for every pair whose host is valid. -/
theorem lossless_of_harmless (h : Acceptable ctx target ports)
    (hvalidity : (∀ host ∈ target.resolvedHosts, validHostAddress ctx.inet host) ∨
      ∀ host ∈ target.resolvedHosts, ¬ validHostAddress ctx.inet host)
    (hhosts : (target.resolvedHosts.map Host.address).Nodup) (hnodup : ports.Nodup)
    (hsubmit : (submit ctx target ports (create ctx)).2.NoneQueuedAtFailure) {events : List Event}
    (hevents : Runs.Within (step ctx) (HarmlessStep ctx) (submit ctx target ports (create ctx)).2
      events) :
    Lossless ctx target ports
      (Runs.run (step ctx) (submit ctx target ports (create ctx)).2 events) := by
  refine lossless_of_recoverable ?_ hhosts hnodup ?_
  · exact Runs.run_invariant_within (I := fun s : PortScanScheduler ↦ s.board.Recoverable)
      (recoverable_step ctx h.probe h.maxOutstanding_pos) (recoverable_submit h hvalidity hsubmit)
      hevents
  · rintro ⟨host, hmem, hvalid⟩
    have hall := hvalidity.resolve_right fun hnone ↦ hnone host hmem hvalid
    exact (moves_run ctx _ events).total_eq.trans (total_submit h.config hall h.ports_valid)

/-- A transport that refuses its third submission, with an I/O error. -/
def refusingThird : Environment where
  now trace := trace.length
  schedule trace _ := UInt64.ofNat (trace.length + 1)
  submit trace submission :=
    if (trace.filter Effect.isLogged).length = 2 then { status := .ioError }
    else acceptingEnvironment.submit trace submission

/-- The last of three submissions is refused while the first two are in flight; these then end by a
connection and by a timeout. -/
theorem lossless_of_harmless_refusal :
    Lossless { acceptingContext with environment := refusingThird }
      { resolvedHosts := [tenNet 1] } [⟨22, .tcp⟩, ⟨80, .tcp⟩, ⟨443, .tcp⟩]
      (Runs.run (step { acceptingContext with environment := refusingThird })
        (submit { acceptingContext with environment := refusingThird }
          { resolvedHosts := [tenNet 1] } [⟨22, .tcp⟩, ⟨80, .tcp⟩, ⟨443, .tcp⟩]
          (create { acceptingContext with environment := refusingThird })).2
        [.receive { id := 2, kind := .connected, receivedAt := 100 }, .onTimeout 1]) :=
  lossless_of_harmless ⟨by decide, by decide, by decide, by decide⟩ (.inl (by decide))
    (by decide) (by decide) (by decide)
    ⟨⟨by rintro id ⟨⟩, by decide⟩, ⟨by rintro id ⟨⟩, by decide⟩, trivial⟩

/-! ### How work is lost -/

/-- Stuck: items are queued under a failed status. -/
def Stuck (s : PortScanScheduler) : Prop := s.status ≠ .ok ∧ s.queue ≠ []

theorem stuck_step (s : PortScanScheduler) (event : Event) (hs : s.Stuck) :
    (step ctx s event).Stuck := by
  obtain ⟨hstatus, hqueue⟩ := hs
  have hof : Actions ctx s.board (step ctx s event).board → (step ctx s event).Stuck := by
    intro h
    obtain ⟨hsame, hfailed⟩ := Board.stuck_of_actions h hstatus
    exact ⟨hfailed, fun hnil ↦ hqueue (hsame.symm.trans hnil)⟩
  cases event with
  | receive response => exact hof (actions_receive ctx response s)
  | onTimeout id => exact hof (actions_onTimeout ctx id s)
  | onRetryReady id =>
    obtain ⟨-, hsame⟩ | ⟨retry, -, hactions⟩ := actions_onRetryReady ctx id s
    · show (onRetryReady ctx id s).Stuck
      rw [hsame]
      exact ⟨hstatus, hqueue⟩
    · obtain ⟨hsame, hfailed⟩ := Board.stuck_of_actions hactions hstatus
      exact ⟨hfailed, fun hnil ↦ List.cons_ne_nil _ _ (hsame.symm.trans hnil)⟩
  | pump => exact hof (actions_pump ctx s)

/-- **A queue under a failed status is never drained**: whatever happens next, the scan does not
complete, and at rest it has lost its work. -/
theorem queue_stuck {s : PortScanScheduler} (hs : s.Stuck) (events : List Event) :
    (Runs.run (step ctx) s events).complete = false ∧
      ((Runs.run (step ctx) s events).pending.size = 0 →
        (Runs.run (step ctx) s events).deferredRetries.size = 0 →
          ¬ Lossless ctx target ports (Runs.run (step ctx) s events)) := by
  have hrun := Runs.run_invariant (@stuck_step ctx) hs events
  refine ⟨?_, fun hpending hdeferred hlossless ↦ hrun.2 (hlossless hpending hdeferred).1⟩
  simp [complete, hrun.2]

/-- A transport that refuses every submission, with an I/O error. -/
def refusingAll : Environment where
  now trace := trace.length
  schedule trace _ := UInt64.ofNat (trace.length + 1)
  submit _ _ := { status := .ioError }

/-- The first of two submissions is refused: the second port stays where it is. -/
theorem queue_stuck_refusal :
    let ctx := { acceptingContext with environment := refusingAll }
    (Runs.run (step ctx) (submit ctx { resolvedHosts := [tenNet 1] } [⟨22, .tcp⟩, ⟨80, .tcp⟩]
      (create ctx)).2 [.pump]).complete = false :=
  (@queue_stuck _ { resolvedHosts := [] } [] _ ⟨by decide, by decide⟩ _).1

/-- The first of two submissions is refused, and the scheduler is at rest with the second port still
queued. -/
theorem not_lossless_refusal :
    Acceptable { acceptingContext with environment := refusingAll } { resolvedHosts := [tenNet 1] }
        [⟨22, .tcp⟩, ⟨80, .tcp⟩] ∧
      ¬ Lossless { acceptingContext with environment := refusingAll }
        { resolvedHosts := [tenNet 1] } [⟨22, .tcp⟩, ⟨80, .tcp⟩]
        (submit { acceptingContext with environment := refusingAll }
          { resolvedHosts := [tenNet 1] } [⟨22, .tcp⟩, ⟨80, .tcp⟩]
          (create { acceptingContext with environment := refusingAll })).2 := by
  refine ⟨⟨by decide, by decide, by decide, by decide⟩, fun h ↦ ?_⟩
  exact absurd (h (by decide) (by decide)).1 (by decide)

/-- No pair of an accepted host is among those of the refused ones. -/
theorem count_refused {valid : Host → Bool} {hosts : List Host}
    (hhosts : (hosts.map Host.address).Nodup) {host : Host} (hmem : host ∈ hosts)
    (hhost : valid host) {port : Port} :
    ((hosts.filter fun host ↦ !valid host).map Host.address ×ˢ ports).count (host.address, port) =
      0 := by
  rw [List.count_eq_zero]
  intro hpair
  -- the address of the valid host would be that of an invalid one
  obtain ⟨other, hother, haddress⟩ := List.mem_map.mp (List.mem_product.mp hpair).1
  obtain ⟨hotherMem, hotherInvalid⟩ := List.mem_filter.mp hother
  obtain rfl := List.inj_on_of_nodup_map hhosts hotherMem hmem haddress
  rw [hhost] at hotherInvalid
  exact absurd hotherInvalid (by decide)

/-- **One invalid host costs the valid ones their results**: they get none, though the scan is
complete. -/
theorem mixed_hosts_lose_work (h : Acceptable ctx target ports)
    (hinvalid : ∃ host ∈ target.resolvedHosts, ¬ validHostAddress ctx.inet host)
    (hvalid : ∃ host ∈ target.resolvedHosts, validHostAddress ctx.inet host)
    (hhosts : (target.resolvedHosts.map Host.address).Nodup) :
    (submit ctx target ports (create ctx)).2.complete = true ∧
      ¬ Lossless ctx target ports (submit ctx target ports (create ctx)).2 := by
  obtain ⟨results, hboard, hkeys, -⟩ := h.board_submit_of_invalid hinvalid
  set s := (submit ctx target ports (create ctx)).2 with hs
  have hqueue : s.queue = [] := congrArg Board.queue hboard
  have hpending : s.pending = ∅ := congrArg Board.pending hboard
  have hdeferred : s.deferredRetries = ∅ := congrArg Board.deferredRetries hboard
  have hsubmitted : s.submitted = true := congrArg Board.submitted hboard
  have hresults : s.results = results := congrArg Board.results hboard
  refine ⟨by simp [complete, hqueue, hpending, hdeferred, hsubmitted], fun hlossless ↦ ?_⟩
  obtain ⟨host, hmem, hhost⟩ := hvalid
  obtain ⟨port, hport⟩ := List.exists_mem_of_ne_nil _ h.ports_ne_nil
  have hcount := (hlossless (by rw [hpending]; rfl) (by rw [hdeferred]; rfl)).2.2.1 host hmem hhost
    port hport
  rw [hresults, hkeys, count_refused hhosts hmem hhost] at hcount
  exact absurd hcount (by decide)

/-- The second of two hosts has no address. -/
theorem mixed_hosts_lose_work_noAddress :
    ¬ Lossless acceptingContext { resolvedHosts := [tenNet 1, { address := [] }] } [⟨22, .tcp⟩]
      (submit acceptingContext { resolvedHosts := [tenNet 1, { address := [] }] } [⟨22, .tcp⟩]
        (create acceptingContext)).2 :=
  (mixed_hosts_lose_work ⟨by decide, by decide, by decide, by decide⟩
    ⟨_, .tail _ (.head _), by decide⟩ ⟨_, .head _, by decide⟩ (by decide)).2

end PortScanScheduler

end Skan.PortScan
