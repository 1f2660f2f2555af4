import Skan.Detect.PortCensus

/-!
# The service scheduler does not stall

A transport may answer before `submit` returns, and the answer may put the port back into the queue
for its next probe and pump again. `probesLeft` measures what is left: a probe that is started takes
one off, and nothing that happens inside `pump` adds to it (`Spends.kept`). So the fuel of the model
is never felt: the loop stops only where its condition fails (`pumpLoop_stops`).

Every event ends in the pump or leaves a probe in flight. So a scheduler that has not failed never
has ports queued and none in flight, and one that is complete has stopped its engine
(`moving_run`). -/

namespace Skan.Detect

open Skan.Core Skan.PortScan Skan.ScanEngine

namespace ServiceScheduler

variable {ctx : Context} {s : ServiceScheduler} {n : ℕ}

/-! ### What is spent -/

/-- At most `n` probes are left, those of the ports in hand included. -/
def Spends (n : ℕ) (inHand : List WorkItem) (s : ServiceScheduler) : Prop :=
  s.probesLeft + (inHand.map WorkItem.probesLeft).sum ≤ n

/-- To take a port off the queue is what spends a probe. -/
theorem Spends.dequeue {work : WorkItem} {queue : List WorkItem} (h : Spends (n + 1) [] s)
    (hqueue : s.queue = work :: queue) : Spends n [work] { s with queue } := by
  simp only [Spends, probesLeft, hqueue, List.map_cons, List.map_nil, List.sum_cons,
    List.sum_nil] at h ⊢
  omega

/-- **Whatever becomes of a port**, no probes are added. -/
theorem Spends.kept (n : ℕ) : Kept (Spends n) where
  quiet := by
    intro inHand s s' h hsame
    have hqueue : s'.queue = s.queue := congrArg Holdings.queue hsame
    have hpending : s'.pending = s.pending := congrArg Holdings.pending hsame
    rwa [Spends, probesLeft, hqueue, hpending]
  timing h _ := h
  publish h _ := (Nat.le_add_right _ _).trans h
  erase := by
    intro s id pending h hlookup
    have hperm := (AList.values_of_lookup hlookup).map fun pending ↦ pending.work.probesLeft
    simp only [Spends, probesLeft, hperm.sum_eq, List.map_cons, List.map_nil, List.sum_cons,
      List.sum_nil] at h ⊢
    omega
  replace := by
    intro s id pending examined h hlookup _ hsame
    have hperm := AList.map_values_replace (fun pending ↦ pending.work.probesLeft) hlookup hsame
    rw [Spends, probesLeft] at h ⊢
    rwa [hperm.sum_eq]
  dequeue h hqueue := Spends.dequeue (h.trans (Nat.le_succ n)) hqueue
  launch := by
    intro s id pending h hfresh
    simp only [Spends, probesLeft, AList.values_insert _ hfresh, List.map_cons, List.map_nil,
      List.sum_cons, List.sum_nil] at h ⊢
    omega
  requeue := by
    intro s work work' h _ hless
    simp only [Spends, probesLeft, List.map_cons, List.map_nil, List.sum_cons, List.sum_nil] at h ⊢
    omega
  defer h _ _ := (Nat.le_add_right _ _).trans h
  lose h _ := (Nat.le_add_right _ _).trans h

/-! ### The loop -/

/-- The condition of the loop of `pump`, with the port it takes off the queue. -/
structure Continues (limit : ℕ) (s : ServiceScheduler) (work : WorkItem) (queue : List WorkItem) :
    Prop where
  queue : s.queue = work :: queue
  status : s.status = .ok
  room : s.pending.size < limit

/-- **The loop** stops where its condition fails, if its fuel covers the probes left. -/
theorem pumpLoop_stops (h : Spends n [] s) (limit : ℕ) (work : WorkItem) (queue : List WorkItem) :
    ¬ Continues limit (pumpLoop ctx n limit s) work queue := by
  induction n generalizing s with
  | zero =>
    intro hcontinues
    have hqueue : s.queue = work :: queue := hcontinues.queue
    simp [Spends, probesLeft, hqueue] at h
  | succ n ih =>
    unfold ServiceScheduler.pumpLoop
    split
    · rename_i hnil
      exact fun hcontinues ↦ List.cons_ne_nil _ _ (hcontinues.queue.symm.trans hnil)
    rename_i first rest hqueue
    split
    · -- the port taken off the queue is what makes less fuel enough
      have hkept := Spends.kept n
      exact ih (hkept.startOrRetry (fun hs ↦ hkept.stopIfIdle (hkept.pumpLoop hs _ _))
        (h.dequeue hqueue))
    · rename_i hends
      exact fun hcontinues ↦ hends ⟨hcontinues.status, hcontinues.room⟩

/-! ### Nothing is left lying -/

/-- The timing controller, if there is one, leaves room for a probe. -/
def Roomy (s : ServiceScheduler) : Prop := ∀ timing, s.timing = some timing → timing.Bounded

theorem roomy_kept : Kept fun _ s ↦ s.submitted = true ∧ s.Roomy where
  quiet := by
    intro inHand s s' h hsame
    have hsubmitted : s'.submitted = s.submitted := congrArg Holdings.submitted hsame
    have htiming : s'.timing = s.timing := congrArg Holdings.timing hsame
    rwa [Roomy, hsubmitted, htiming]
  timing h hf := by
    refine ⟨h.1, fun timing htiming ↦ ?_⟩
    obtain ⟨before, hbefore, rfl⟩ := Option.map_eq_some_iff.mp htiming
    exact hf before (h.2 before hbefore)
  publish h _ := h
  erase h _ := h
  replace h _ _ _ := h
  dequeue h _ := h
  launch h _ := h
  requeue h _ _ := h
  defer h _ _ := h
  lose h _ := h

/-- A scheduler that has not failed has a probe in flight while ports are queued, and one that is
complete has stopped its engine. -/
structure Moving (s : ServiceScheduler) : Prop where
  inFlight : s.status = .ok → s.queue ≠ [] → s.pending.size ≠ 0
  stopped : s.complete = true → Effect.engineStopped ∈ s.trace

theorem moving_stopIfIdle (h : s.status = .ok → s.queue ≠ [] → s.pending.size ≠ 0) :
    s.stopIfIdle.Moving := by
  unfold ServiceScheduler.stopIfIdle
  split
  · exact ⟨h, fun _ ↦ List.mem_cons_self⟩
  · rename_i hbusy
    exact ⟨h, fun hcomplete ↦ absurd (of_decide_eq_true hcomplete) hbusy⟩

/-- **The pump** leaves nothing lying: its limit is not zero. -/
theorem moving_pump (hconfig : ctx.config.maxOutstanding ≠ 0) (h : s.Roomy) :
    (pump ctx s).Moving := by
  refine moving_stopIfIdle fun hstatus hqueue hidle ↦ ?_
  -- the condition of the loop still holds, for nothing is in flight
  obtain ⟨work, queue, hqueue⟩ := List.exists_cons_of_ne_nil hqueue
  refine pumpLoop_stops (n := s.probesLeft) le_rfl (s.limit ctx) work queue ⟨hqueue, hstatus, ?_⟩
  rw [hidle, limit]
  cases htiming : s.timing with
  | none => exact Nat.pos_of_ne_zero hconfig
  | some timing => exact (h timing htiming).parallelismLimit_pos _

/-- What every call keeps once ports have been taken. -/
structure Live (ctx : Context) (s : ServiceScheduler) : Prop where
  config : ctx.config.maxOutstanding ≠ 0
  roomy : s.submitted = true ∧ s.Roomy
  moving : s.Moving

theorem Live.of_cases {f : (ServiceScheduler → ServiceScheduler) → ServiceScheduler}
    (h : Live ctx s) (hcases : Pumps (fun _ s ↦ s.submitted = true ∧ s.Roomy) f ∨
      Rests (fun _ s ↦ s.submitted = true ∧ s.Roomy) s f) : Live ctx (f (pump ctx)) := by
  rcases hcases with ⟨s', hroomy, heq⟩ | ⟨s', hroomy, hrests, heq⟩
  · rw [heq]
    exact ⟨h.config, roomy_kept.pump hroomy, moving_pump h.config hroomy.2⟩
  · rw [heq]
    rcases hrests with rfl | hpending
    · exact h
    · refine ⟨h.config, hroomy, fun _ _ ↦ hpending, fun hcomplete ↦ ?_⟩
      exact absurd (of_decide_eq_true hcomplete).2.2.1 hpending

theorem Live.step (h : Live ctx s) (e : Event) : Live ctx (step ctx s e) := by
  cases e with
  | receive response => exact h.of_cases (roomy_kept.receiveWith_cases ctx h.roomy response)
  | onTimeout id => exact h.of_cases (roomy_kept.onTimeoutWith_cases ctx h.roomy id)
  | onRetryReady id =>
    show Live ctx (onRetryReady ctx id s)
    unfold onRetryReady
    split
    · exact h
    · exact h.of_cases (.inl ⟨_, by exact h.roomy, fun _ ↦ rfl⟩)
  | engineReturned status =>
    show Live ctx (engineReturned status s)
    unfold engineReturned
    split
    · rename_i hfailed
      refine ⟨h.config, h.roomy, fun hok ↦ absurd hok hfailed.2.2, fun hcomplete ↦ ?_⟩
      exact List.mem_cons_of_mem _ (h.moving.stopped hcomplete)
    · exact h

theorem kept_submitPort (openPorts : List PortResult) (seen : List (Text × Port)) :
    (openPorts.foldl (submitPort ctx) (seen, s)).2.submitted = s.submitted ∧
      (openPorts.foldl (submitPort ctx) (seen, s)).2.timing = s.timing := by
  refine Runs.run_invariant (I := fun c : List (Text × Port) × ServiceScheduler ↦
    c.2.submitted = s.submitted ∧ c.2.timing = s.timing) (fun c portResult hc ↦ ?_) ⟨rfl, rfl⟩ _
  rw [← hc.1, ← hc.2, submitPort]
  dsimp only
  split_ifs <;> exact ⟨rfl, rfl⟩

/-- A submission that is accepted. -/
theorem live_submit (hconfig : (create ctx).validateConfig ctx = .ok)
    (openPorts : List PortResult) : Live ctx (submit ctx openPorts (create ctx)).2 := by
  have hbounds := hconfig
  rw [validateConfig] at hbounds
  split_ifs at hbounds with hengine hdatabase hbad
  · exact absurd hbounds hengine
  · exact absurd hbounds hdatabase
  simp only [not_or] at hbad
  obtain ⟨hmax, -, -, -, -, htiming⟩ := hbad
  have hroomy : (create ctx).Roomy := by
    intro timing hsome
    rw [hsome] at htiming
    have hok : timing.validate = .ok := by simpa using htiming
    rw [create] at hsome
    split_ifs at hsome
    obtain rfl := Option.some.inj hsome
    exact TimingController.bounded_create hok
  rw [submit, if_neg (show ¬ (create ctx).submitted = true from Bool.false_ne_true),
    if_neg (not_not.mpr hconfig)]
  dsimp only
  generalize hcollected : (openPorts.foldl (submitPort ctx)
    ([], { create ctx with submitted := true })).2 = collected
  have hstart : collected.submitted = true ∧ collected.Roomy := by
    rw [Roomy, ← hcollected, (kept_submitPort openPorts []).1, (kept_submitPort openPorts []).2]
    exact ⟨rfl, hroomy⟩
  split
  · have hpumped := moving_pump hmax hstart.2
    exact ⟨hmax, @Kept.stopIfIdle _ _ [] roomy_kept (roomy_kept.pump hstart),
      moving_stopIfIdle hpumped.inFlight⟩
  · exact ⟨hmax, @Kept.stopIfIdle _ _ [] roomy_kept hstart,
      moving_stopIfIdle fun _ hqueue ↦ absurd rfl hqueue⟩

/-- **The scheduler never stalls**, and never waits when there is nothing left to wait for: after a
submission that is accepted and any calls, whatever the transport, the engine and the clock
answer. -/
theorem moving_run (hconfig : (create ctx).validateConfig ctx = .ok) (openPorts : List PortResult)
    (calls : List Call) :
    (Runs.run (call ctx) (submit ctx openPorts (create ctx)).2 calls).Moving := by
  refine (Runs.run_invariant (I := Live ctx) (fun s c hs ↦ ?_) (live_submit hconfig openPorts)
    calls).moving
  cases c with
  | submit openPorts' =>
    show Live ctx (submit ctx openPorts' s).2
    rw [submit, if_pos hs.roomy.1]
    exact hs
  | event e => exact hs.step e

/-- One probe at a time: the second port is queued while the first is in flight. -/
theorem moving_oneAtATime :
    let ctx := { oneRetry with config := { maxOutstanding := 1, adaptiveTiming := false } }
    let openPorts := [openHttpPort, { openHttpPort with target := literal "10.0.0.2" }]
    (submit ctx openPorts (create ctx)).2.queue ≠ [] ∧
      (Runs.run (call ctx) (submit ctx openPorts (create ctx)).2 [.event (.onTimeout 1)]).Moving :=
  ⟨by decide +kernel, moving_run (by decide +kernel) _ _⟩

end ServiceScheduler

end Skan.Detect
