import Skan.ScanEngine.AdaptiveRuns

/-!
# What every run of the adaptive scheduler keeps

Two accounts of a run, each an invariant of the actions:

* the items (`Conserved`): what is pending, what is queued, and how often each was handed over;
* the timers (`Armed`): those armed are those of the attempts in flight, as long as the transport
  reports no timeout itself. A run that shows why is at the end.
-/

namespace Skan.ScanEngine

open Skan.Core Skan.Io

/-- The states that end an item. -/
def ScanWorkState.final : ScanWorkState → Bool
  | .completed | .timedOut | .cancelled | .failed => true
  | .queued | .submitted => false

namespace AdaptiveScheduler

open Board

variable {env : Environment} {s : AdaptiveScheduler} {b b' : Board} {flaw : Option Flaw}
  {id : ScanWorkId} {pending : Pending}

/-! ### The items -/

theorem maxRetries_of_action (h : Action flaw b b') : b'.maxRetries = b.maxRetries := by
  cases h <;> rfl

/-- A run leaves the limit on retries as it is. -/
theorem maxRetries_of_actions {P : Option Flaw → Prop} (h : Actions P b b') :
    b'.maxRetries = b.maxRetries :=
  Runs.steps_related (R := fun a c : Board ↦ c.maxRetries = a.maxRetries) (fun _ ↦ rfl)
    (fun h h' ↦ h'.trans h) (fun ⟨_, _, haction⟩ ↦ maxRetries_of_action haction) h

theorem consistent_create (profile : TimingProfile) :
    (board (create (ScanGroup.create profile))).Consistent :=
  fun _ ↦ .absent

theorem consistent_run (env : Environment) (hb : (board s).Consistent) (events : List Event) :
    (board (Runs.run (step env) s events)).Consistent :=
  Runs.run_invariant (I := fun s ↦ (board s).Consistent)
    (fun s e hb ↦ hb.of_actions (actions_step env s e hb)) hb events

theorem maxRetries_run (hb : (board s).Consistent) (events : List Event) :
    (Runs.run (step env) s events).group.profile.maxRetries = s.group.profile.maxRetries := by
  have hrun : (board (Runs.run (step env) s events)).Consistent ∧
      (board (Runs.run (step env) s events)).maxRetries = (board s).maxRetries := Runs.run_invariant
    (I := fun t ↦ (board t).Consistent ∧ (board t).maxRetries = (board s).maxRetries)
    (fun t e ht ↦ ⟨ht.1.of_actions (actions_step env t e ht.1),
      (maxRetries_of_actions (actions_step env t e ht.1)).trans ht.2⟩) ⟨hb, rfl⟩ events
  exact hrun.2

/-- How often an item was handed to the transport. -/
def submissions (s : AdaptiveScheduler) (id : ScanWorkId) : ℕ :=
  (s.trace.filterMap Effect.attempt).count id

/-- What is said of the items of a scheduler whose group allows `maxRetries` retries. -/
structure Conserved (maxRetries : ℕ) (s : AdaptiveScheduler) : Prop where
  pending_iff : ∀ id, id ∈ s.pending ↔ s.group.state id = some .submitted
  queued : ∀ id, s.group.state id = some .queued → s.group.queue.count id = 1
  attempts : ∀ id, submissions s id ≤ 1 + maxRetries
  complete : s.complete = true → ∀ id item, s.group.items.lookup id = some item →
    item.state.final = true

theorem state_eq_some_iff {state : ScanWorkState} :
    s.group.state id = some state ↔
      ∃ item, s.group.items.lookup id = some item ∧ item.state = state :=
  Option.map_eq_some_iff

section

variable (hb : (board s).Consistent)

include hb

theorem Board.Consistent.pending_iff (id : ScanWorkId) :
    id ∈ s.pending ↔ s.group.state id = some .submitted := by
  have hsound := hb id
  rw [state_eq_some_iff]
  constructor
  · intro hpending
    obtain ⟨pending, hlookup⟩ := Option.isSome_iff_exists.mp (AList.lookup_isSome.mpr hpending)
    obtain ⟨item, hitem, -, hstate, -⟩ := submitted_of_pending hb hlookup
    exact ⟨item, hitem, hstate⟩
  · rintro ⟨item, hitem, hstate⟩
    rw [show (board s).items.lookup id = some item from hitem] at hsound
    obtain ⟨pending, hpending⟩ := hsound.of_submitted hstate
    exact AList.mem_of_lookup hpending

theorem Board.Consistent.count_queue (h : s.group.state id = some .queued) :
    s.group.queue.count id = 1 := by
  obtain ⟨item, hitem, hstate⟩ := state_eq_some_iff.mp h
  have hsound := hb id
  rw [show (board s).items.lookup id = some item from hitem] at hsound
  exact (hsound.of_queued hstate).2.2.1

theorem Board.Consistent.final_of_complete (h : s.complete = true) {item : ScanWorkItem}
    (hitem : s.group.items.lookup id = some item) : item.state.final = true := by
  rw [complete, Bool.and_eq_true, Bool.and_eq_true, decide_eq_true_iff, decide_eq_true_iff] at h
  obtain ⟨⟨-, hqueue⟩, hpending⟩ := h
  have hqueue : s.group.queue = [] := List.length_eq_zero_iff.mp hqueue
  cases hstate : item.state with
  | queued =>
    have hcount := hb.count_queue (state_eq_some_iff.mpr ⟨item, hitem, hstate⟩)
    rw [hqueue, List.count_nil] at hcount
    exact absurd hcount nofun
  | submitted =>
    have hmem := (hb.pending_iff id).mpr (state_eq_some_iff.mpr ⟨item, hitem, hstate⟩)
    rw [AList.eq_empty_of_size_eq_zero hpending] at hmem
    exact absurd hmem (AList.notMem_empty id)
  | completed => rfl
  | timedOut => rfl
  | cancelled => rfl
  | failed => rfl

end

/-- **Items are conserved in every run.** What is in flight is what is submitted, what is queued is
in the queue once, no item is handed over more often than it may be retried and once more, and when
the scan is complete every item has ended. -/
theorem conserved (env : Environment) (profile : TimingProfile) (events : List Event) :
    Conserved profile.maxRetries
      (Runs.run (step env) (create (ScanGroup.create profile)) events) := by
  have hb := consistent_run env (consistent_create profile) events
  refine ⟨hb.pending_iff, fun id ↦ hb.count_queue, fun id ↦ ?_,
    fun h id item ↦ hb.final_of_complete h⟩
  have hattempts := (hb id).attempts_le
  rw [show (board _).maxRetries = profile.maxRetries from
    maxRetries_run (consistent_create profile) events, Nat.add_comm] at hattempts
  exact hattempts

/-! ### The timers -/

/-- The armed timers are those of the attempts in flight, each armed for the item of its attempt. -/
structure Armed (b : Board) : Prop where
  lookup_iff : ∀ timer id, b.timers.lookup timer = some id ↔
    ∃ pending, b.pending.lookup id = some pending ∧ pending.timerId = timer
  closed : b.stopped = true → b.pending = ∅

/-- An attempt in flight ends, and its timer with it. -/
theorem Armed.retire (h : Armed b) {items queue tally}
    (hpending : b.pending.lookup id = some pending) :
    Armed
      { b with
        items, queue, tally
        pending := b.pending.erase id
        timers := b.timers.erase pending.timerId } := by
  have hown : b.timers.lookup pending.timerId = some id :=
    (h.lookup_iff _ _).mpr ⟨pending, hpending, rfl⟩
  refine ⟨fun timer other ↦ ?_, fun hstopped ↦ ?_⟩
  · show (b.timers.erase pending.timerId).lookup timer = some other ↔
      ∃ p, (b.pending.erase id).lookup other = some p ∧ p.timerId = timer
    rw [AList.lookup_erase_eq_ite, AList.lookup_erase_eq_ite]
    by_cases htimer : timer = pending.timerId
    · rw [if_pos htimer]
      refine iff_of_false nofun ?_
      rintro ⟨p, hp, hpTimer⟩
      split_ifs at hp with hother
      -- a second attempt with this timer would be one of the same item
      have hsecond := (h.lookup_iff _ _).mpr ⟨p, hp, hpTimer⟩
      rw [htimer, hown] at hsecond
      exact hother (Option.some.inj hsecond).symm
    · rw [if_neg htimer, h.lookup_iff]
      refine exists_congr fun p ↦ ?_
      by_cases hother : other = id
      · rw [if_pos hother, hother, hpending]
        refine iff_of_false ?_ nofun
        rintro ⟨hp, hpTimer⟩
        rw [Option.some.inj hp] at htimer
        exact htimer hpTimer.symm
      · rw [if_neg hother]
  · have hempty := h.closed hstopped
    rw [hempty] at hpending
    exact absurd hpending nofun

/-- An attempt is made, under a timer of its own. -/
theorem Armed.start (h : Armed b) {items queue tally attempts} (hstopped : b.stopped = false)
    (hnone : id ∉ b.pending) (hfresh : pending.timerId ∉ b.timers) :
    Armed
      { b with
        items, queue, tally, attempts
        pending := b.pending.insert id pending
        timers := b.timers.insert pending.timerId id } := by
  refine ⟨fun timer other ↦ ?_, fun hclosed ↦ ?_⟩
  · show (b.timers.insert pending.timerId id).lookup timer = some other ↔
      ∃ p, (b.pending.insert id pending).lookup other = some p ∧ p.timerId = timer
    rw [AList.lookup_insert_eq_ite, AList.lookup_insert_eq_ite]
    have hunarmed : ∀ p, b.pending.lookup other = some p → p.timerId ≠ pending.timerId := by
      intro p hp htimer
      have harmed := (h.lookup_iff p.timerId other).mpr ⟨p, hp, rfl⟩
      rw [htimer] at harmed
      exact hfresh (AList.mem_of_lookup harmed)
    by_cases htimer : timer = pending.timerId <;> by_cases hother : other = id
    · rw [if_pos htimer, if_pos hother, hother]
      exact iff_of_true rfl ⟨pending, rfl, htimer.symm⟩
    · rw [if_pos htimer, if_neg hother, htimer]
      refine iff_of_false (fun hid ↦ hother (Option.some.inj hid).symm) ?_
      rintro ⟨p, hp, hpTimer⟩
      exact hunarmed p hp hpTimer
    · rw [if_neg htimer, if_pos hother, hother, h.lookup_iff]
      refine iff_of_false ?_ ?_
      · rintro ⟨p, hp, -⟩
        exact hnone (AList.mem_of_lookup hp)
      · rintro ⟨p, hp, hpTimer⟩
        rw [← Option.some.inj hp] at hpTimer
        exact htimer hpTimer.symm
    · rw [if_neg htimer, if_neg hother]
      exact h.lookup_iff timer other
  · exact absurd (hstopped.symm.trans hclosed) nofun

/-- A timer that fires is that of an attempt in flight. -/
theorem Armed.pending_of_fired (h : Armed b) {timer : TimerId}
    (htimer : b.timers.lookup timer = some id) :
    ∃ pending, b.pending.lookup id = some pending ∧ pending.timerId = timer :=
  (h.lookup_iff timer id).mp htimer

/-- The timer of an attempt that timed out is disarmed, if no timeout is reported. -/
theorem Armed.timers_of_disarmed (h : Armed b) {timers : KeyedStore TimerId ScanWorkId}
    (hpending : b.pending.lookup id = some pending) (htimers : Disarmed b id flaw timers)
    (hflaw : flaw ≠ some .staleTimer) : timers = b.timers.erase pending.timerId := by
  cases htimers with
  | fired htimer =>
    obtain ⟨p, hp, rfl⟩ := h.pending_of_fired htimer
    rw [hpending] at hp
    rw [Option.some.inj hp]
  | reported => exact absurd rfl hflaw

theorem armed_of_action (h : Action flaw b b') (hflaw : flaw ≠ some .staleTimer)
    (hb : b.Consistent) (harmed : Armed b) : Armed b' := by
  cases h with
  | enqueue | skip | fail | cancelIdle => exact ⟨harmed.lookup_iff, harmed.closed⟩
  | @start _ id _ item sent pending hstopped hqueue hitem hstate _ _ _ _ _ htimer =>
    have hsound := hb id
    rw [hitem] at hsound
    have hnone : id ∉ b.pending := AList.lookup_eq_none.mp (hsound.of_queued hstate).2.1
    exact harmed.start hstopped hnone htimer
  | finish ending hpending hitem => exact harmed.retire hpending
  | timeOut hpending hitem htimers =>
    rw [harmed.timers_of_disarmed hpending htimers hflaw]
    exact harmed.retire hpending
  | retry hpending hitem htimers =>
    rw [harmed.timers_of_disarmed hpending htimers hflaw]
    exact harmed.retire hpending
  | fireStale htimer hidle =>
    -- no timer is stale
    obtain ⟨pending, hpending, -⟩ := harmed.pending_of_fired htimer
    rcases hidle with hstopped | hnone
    · rw [harmed.closed hstopped] at hpending
      exact absurd hpending nofun
    · exact absurd (AList.mem_of_lookup hpending) hnone
  | shutdown htimers =>
    refine ⟨fun timer id ↦ ?_, fun _ ↦ rfl⟩
    rw [htimers, AList.lookup_empty]
    refine iff_of_false (fun hid ↦ ?_) (fun ⟨_, hp, _⟩ ↦ absurd hp nofun)
    split_ifs at hid with hmem
    obtain ⟨pending, hpending, rfl⟩ := harmed.pending_of_fired hid
    exact hmem (List.mem_map_of_mem (AList.mem_values_of_lookup hpending))

theorem armed_of_actions {P : Option Flaw → Prop} (hP : ∀ flaw, P flaw → flaw ≠ some .staleTimer)
    (h : Actions P b b') (hb : b.Consistent) (harmed : Armed b) : Armed b' := by
  have hboth : b'.Consistent ∧ Armed b' :=
    Runs.steps_invariant (I := fun c : Board ↦ c.Consistent ∧ Armed c)
      (fun ⟨flaw, hflaw, haction⟩ hc ↦
        ⟨consistent_of_action haction hc.1, armed_of_action haction (hP flaw hflaw) hc.1 hc.2⟩)
      h ⟨hb, harmed⟩
  exact hboth.2

theorem armed_create (profile : TimingProfile) :
    Armed (board (create (ScanGroup.create profile))) :=
  ⟨fun _ _ ↦ iff_of_false nofun fun ⟨_, hp, _⟩ ↦ absurd hp nofun, fun _ ↦ rfl⟩

/-- What is said of the timers of a scheduler: they are those of the attempts in flight, and no two
attempts share one. -/
structure TimersLive (s : AdaptiveScheduler) : Prop where
  lookup_iff : ∀ timer id, s.engine.timers.lookup timer = some id ↔
    ∃ pending, s.pending.lookup id = some pending ∧ pending.timerId = timer
  timer_injective : ∀ id id' pending pending', s.pending.lookup id = some pending →
    s.pending.lookup id' = some pending' → pending.timerId = pending'.timerId → id = id'

theorem Armed.timersLive (h : Armed (board s)) : TimersLive s := by
  refine ⟨h.lookup_iff, fun id id' pending pending' hpending hpending' htimer ↦ ?_⟩
  have hfirst := (h.lookup_iff pending.timerId id).mpr ⟨pending, hpending, rfl⟩
  have hsecond := (h.lookup_iff pending.timerId id').mpr ⟨pending', hpending', htimer.symm⟩
  exact Option.some.inj (hfirst.symm.trans hsecond)

/-- **Timers belong to attempts in flight**, in every run in which the transport reports no timeout
of an attempt in flight: an attempt is timed out by its own timer only. -/
theorem timers_live (env : Environment) (profile : TimingProfile) (events : List Event)
    (hwithin : Runs.Within (step env) (fun s e ↦ ¬ ReportsTimeout s e)
      (create (ScanGroup.create profile)) events) :
    TimersLive (Runs.run (step env) (create (ScanGroup.create profile)) events) := by
  have hboth := Runs.run_invariant_within
    (I := fun s ↦ (board s).Consistent ∧ Armed (board s)) (fun s e hreported hs ↦ ?_)
    ⟨consistent_create profile, armed_create profile⟩ hwithin
  · exact hboth.2.timersLive
  have hactions := actions_step env s e hs.1
  refine ⟨hs.1.of_actions hactions, armed_of_actions (fun flaw hflaw ↦ ?_) hactions hs.1 hs.2⟩
  rintro rfl
  exact hreported hflaw

/-- A reactor and a transport that never refuse. -/
def willing : Environment where
  now := fun _ ↦ 0
  accepts := fun _ ↦ true
  submit := fun _ _ ↦ .ok

/-- One item that may be retried once; the transport reports a timeout of its first attempt. -/
def reportedTimeout : List Event :=
  [.enqueueTarget 1 [] [], .start, .receive { id := 1, state := .timeout }]

/-- The timer of the first attempt is left armed, for the item whose attempt in flight is now the
second. -/
theorem not_timers_live_reported :
    ¬ TimersLive
      (Runs.run (step willing) (create (ScanGroup.create { maxRetries := 1 }))
        reportedTimeout) := by
  intro h
  obtain ⟨pending, hpending, htimer⟩ := (h.lookup_iff 1 1).mp (by decide +kernel)
  have hsecond : ((Runs.run (step willing) (create (ScanGroup.create { maxRetries := 1 }))
      reportedTimeout).pending.lookup 1).map Pending.timerId = some 2 := by decide +kernel
  rw [hpending, Option.map_some, htimer] at hsecond
  exact absurd hsecond (by decide)

/-- The first attempt times out on its own timer instead. -/
theorem timers_live_expired :
    TimersLive (Runs.run (step willing) (create (ScanGroup.create { maxRetries := 1 }))
      [.enqueueTarget 1 [] [], .start, .timerExpired 1]) :=
  timers_live willing { maxRetries := 1 } [.enqueueTarget 1 [] [], .start, .timerExpired 1]
    (Runs.within_of_forall (by
      rintro e he s ⟨completion, rfl, -⟩
      simp at he) _)

end AdaptiveScheduler

end Skan.ScanEngine
