import Skan.Discovery.Scheduler
import Skan.Io.Reactor

/-!
# What the discovery scheduler can do

An account of `DiscoveryScheduler` by **actions**: what can happen to one probe, with what it asks
of the engine. Every operation is a sequence of actions (`actions_submitHost`, `actions_submit`,
`actions_step`), so an invariant of the scheduler is a case analysis over `Action`.

The control flow is dealt with here: where the pump stops (`pump_done`), and that a callback which
ends a probe pumps and then stops the engine if nothing is left to do (`step_cases`).
-/

namespace Skan.Discovery

open Skan.Core Skan.PortScan
open Skan.Io hiding TimerId

/-- The pair a result is about. -/
def DiscoveryResult.key (result : DiscoveryResult) : Text × ProbeType :=
  (result.target, result.probe)

namespace DiscoveryScheduler

variable {τ : Type} {workQueue : List WorkItem} {item : WorkItem}

/-- The pair a queued item is about. -/
def WorkItem.key (item : WorkItem) : Text × ProbeType := (item.host.address, item.type)

/-- The pair a probe in flight is about. -/
def PendingProbe.key (pending : PendingProbe) : Text × ProbeType :=
  (pending.submission.target, pending.type)

/-- The work that is left when an item is taken off the queue, and its identifier with it. -/
def taken (workQueue : List WorkItem) (s : DiscoveryScheduler τ) : DiscoveryScheduler τ :=
  { s with workQueue, nextProbeId := nextId s.nextProbeId }

/-- What an entry of the trace is to the engine. A refused timer is nothing to it. -/
def Effect.call : Effect → Option (EngineCall ProbeId)
  | .timerScheduled _ id timer => if timer = 0 then none else some (.schedule id timer)
  | .timerCancelled timer => some (.cancel timer)
  | .engineStopped => some .stop
  | _ => none

/-- The calls to the engine in a trace. -/
def callsOf (trace : List Effect) : List (EngineCall ProbeId) := trace.filterMap Effect.call

/-- Everything the scheduler has asked of the engine. -/
def calls (s : DiscoveryScheduler τ) : List (EngineCall ProbeId) := callsOf s.trace

theorem callsOf_refused {timer : TimerId} (h : timer = 0) (delay : ℤ) (id : ProbeId)
    (trace : List Effect) : callsOf (.timerScheduled delay id timer :: trace) = callsOf trace :=
  List.filterMap_cons_none (if_pos h)

theorem callsOf_armed {timer : TimerId} (h : timer ≠ 0) (delay : ℤ) (id : ProbeId)
    (trace : List Effect) :
    callsOf (.timerScheduled delay id timer :: trace) = .schedule id timer :: callsOf trace :=
  List.filterMap_cons_some (if_neg h)

/-- What can happen to a scheduler: to the probe at the head of its queue, to one in flight, or to
none. What is left open is what no container, no identifier and no timer depends on. -/
inductive Action (ctx : Context τ) (s : DiscoveryScheduler τ) : DiscoveryScheduler τ → Prop
  /-- The clock is read, or a response is counted. -/
  | idle {trace : List Effect} (duplicates late : ℕ) (hcalls : callsOf trace = s.calls) :
      Action ctx s
        { s with trace, duplicateResponseCount := duplicates, lateResponseCount := late }
  /-- An item of a type that is not configured is dropped. -/
  | skip {item : WorkItem} {workQueue : List WorkItem} (hqueue : s.workQueue = item :: workQueue)
      (hnone : probeFor ctx item.type = none) : Action ctx s { s with workQueue }
  /-- A probe cannot be built, sent or timed. -/
  | reject {item : WorkItem} {workQueue : List WorkItem} {result : DiscoveryResult} {transport : τ}
      {evidence : KeyedStore Text (List DiscoveryResult)} {trace : List Effect}
      (hqueue : s.workQueue = item :: workQueue) (hkey : result.key = item.key)
      (hcalls : callsOf trace = s.calls) :
      Action ctx s
        { s.taken workQueue with results := s.results ++ [result], transport, evidence, trace }
  /-- A probe goes in flight under a timer, unless its identifier is in use. -/
  | start {item : WorkItem} {workQueue : List WorkItem} {entered : PendingProbe} {transport : τ}
      {trace : List Effect} (hqueue : s.workQueue = item :: workQueue)
      (hkey : entered.key = item.key) (hid : entered.id = s.nextProbeId)
      (htimer : ∃ earlier, callsOf earlier = s.calls ∧
        ctx.environment.schedule earlier ctx.config.timeout = entered.timerId)
      (hne : entered.timerId ≠ 0)
      (hcalls : callsOf trace = .schedule s.nextProbeId entered.timerId :: s.calls) :
      Action ctx s
        { s.taken workQueue with
          pending := (s.pending.emplace s.nextProbeId entered).getD s.pending, transport, trace }
  /-- A response ends a probe. -/
  | complete {id : ProbeId} {pending : PendingProbe} {result : DiscoveryResult}
      {evidence : KeyedStore Text (List DiscoveryResult)} {trace : List Effect}
      (hlookup : s.pending.lookup id = some pending) (hkey : result.key = pending.key)
      (hcalls : callsOf trace = .cancel pending.timerId :: s.calls) :
      Action ctx s
        { s with
          completedProbeIds := insert pending.id s.completedProbeIds
          pending := s.pending.erase id, results := s.results ++ [result], evidence, trace }
  /-- A probe ends at its deadline. -/
  | expire {id : ProbeId} {pending : PendingProbe} {result : DiscoveryResult}
      {evidence : KeyedStore Text (List DiscoveryResult)} {trace : List Effect}
      (hlookup : s.pending.lookup id = some pending) (hkey : result.key = pending.key)
      (hcalls : callsOf trace = s.calls) :
      Action ctx s
        { s with
          expiredProbeIds := insert id s.expiredProbeIds
          pending := s.pending.erase id, results := s.results ++ [result], evidence, trace }
  /-- The engine is stopped. -/
  | stop (hcomplete : s.complete) : Action ctx s (s.record .engineStopped)

/-- Any number of actions. -/
abbrev Actions (ctx : Context τ) : DiscoveryScheduler τ → DiscoveryScheduler τ → Prop :=
  Relation.ReflTransGen (Action ctx)

variable {ctx : Context τ} {s s' : DiscoveryScheduler τ}

/-! ### Publishing a result -/

/-- What `append_result` does. -/
theorem appendResult_eq (ctx : Context τ) (result : DiscoveryResult) (s : DiscoveryScheduler τ) :
    ∃ (published : DiscoveryResult) (evidence : KeyedStore Text (List DiscoveryResult))
      (trace : List Effect), published.key = result.key ∧ callsOf trace = s.calls ∧
        s.appendResult ctx result =
          { s with results := s.results ++ [published], evidence, trace } := by
  rw [appendResult]
  by_cases h : result.timestamp = 0
  · rw [if_pos h]
    exact ⟨{ result with timestamp := ctx.environment.now s.trace }, _, .clockRead :: s.trace, rfl,
      rfl, rfl⟩
  · rw [if_neg h]
    exact ⟨result, _, s.trace, rfl, rfl, rfl⟩

theorem appendUnknown_eq (ctx : Context τ) (target : Text) (probe : ProbeType)
    (reason : DiscoveryReason) (s : DiscoveryScheduler τ) :
    ∃ (published : DiscoveryResult) (evidence : KeyedStore Text (List DiscoveryResult))
      (trace : List Effect), published.key = (target, probe) ∧ callsOf trace = s.calls ∧
        s.appendUnknown ctx target probe reason =
          { s with results := s.results ++ [published], evidence, trace } :=
  appendResult_eq ctx { target, probe, timestamp := ctx.environment.now s.trace, reason }
    (s.record .clockRead)

/-! ### Starting a probe -/

/-- A configured probe type has a probe. -/
theorem probeFor_of_mem {type : ProbeType} (h : type ∈ ctx.config.probes) :
    probeFor ctx type = some (probeOf ctx.inet type) := by
  rw [probeFor, probes, List.find?_map]
  have hfind : ctx.config.probes.find? (fun t ↦ decide ((probeOf ctx.inet t).type = type)) =
      some type := by
    simp only [type_probeOf]
    generalize ctx.config.probes = types at h
    induction types with
    | nil => exact absurd h List.not_mem_nil
    | cons t types ih =>
      rw [List.find?_cons]
      by_cases ht : t = type
      · simp [ht]
      · simp only [ht, decide_false]
        exact ih ((List.mem_cons.mp h).resolve_left (Ne.symm ht))
  show (ctx.config.probes.find? fun t ↦ decide ((probeOf ctx.inet t).type = type)).map _ = _
  rw [hfind]
  rfl

/-- A probe that is found is the one of the type asked for. -/
theorem probeFor_eq_some {type : ProbeType} {probe : DiscoveryProbe}
    (h : probeFor ctx type = some probe) : probe = probeOf ctx.inet type := by
  obtain ⟨t, ht, rfl⟩ := List.mem_map.mp (List.mem_of_find?_eq_some h)
  have htype := List.find?_some h
  rw [type_probeOf, decide_eq_true_eq] at htype
  rw [htype]

section

variable (hqueue : s.workQueue = item :: workQueue)

include hqueue

/-- An item that is taken off the queue and has its result published. -/
theorem action_appendUnknown (reason : DiscoveryReason) (transport : τ) (trace : List Effect)
    (hcalls : callsOf trace = s.calls) :
    Action ctx s
      (appendUnknown ctx item.host.address item.type reason
        { s.taken workQueue with transport, trace }) := by
  obtain ⟨published, evidence, trace', hkey, htrace, heq⟩ :=
    appendUnknown_eq ctx item.host.address item.type reason
      { s.taken workQueue with transport, trace }
  rw [heq]
  exact .reject hqueue hkey (htrace.trans hcalls)

theorem action_enterPending {submission : ProbeSubmission}
    (htarget : submission.target = item.host.address) (transport : τ) (trace : List Effect)
    (hcalls : callsOf trace = s.calls) :
    Action ctx s
      (enterPending ctx s.nextProbeId item submission
        { s.taken workQueue with transport, trace }).2 := by
  have hread : callsOf (.clockRead :: trace) = s.calls := hcalls
  set timer := ctx.environment.schedule (.clockRead :: trace) ctx.config.timeout with htimer
  rw [enterPending, readClock]
  dsimp only
  rw [schedule]
  dsimp only
  split
  · rename_i hrefused
    refine action_appendUnknown hqueue .internalError transport
      (.timerScheduled ctx.config.timeout s.nextProbeId timer :: .clockRead :: trace) ?_
    exact (callsOf_refused hrefused _ _ _).trans hread
  · rename_i hne
    let entered : PendingProbe :=
      ⟨s.nextProbeId, item.type, item.target.originalSpecification, submission,
        ctx.environment.now trace, ctx.environment.now trace + ctx.config.timeout * 1000000, timer⟩
    have hkey : entered.key = item.key := by
      rw [PendingProbe.key, htarget]
      rfl
    exact .start hqueue hkey rfl ⟨_, hread, rfl⟩ hne
      ((callsOf_armed hne _ _ _).trans (congrArg _ hread))

/-- **`submit_one`** is one action: the item at the head of the queue is dropped, rejected or
started. It leaves the queue in any case. -/
theorem action_submitOne : Action ctx s (submitOne ctx item { s with workQueue }).2 := by
  rw [submitOne]
  split
  · rename_i hnone
    exact .skip hqueue hnone
  rename_i probe hprobe
  obtain rfl := probeFor_eq_some hprobe
  dsimp only
  split
  · rename_i status hbuild
    exact action_appendUnknown hqueue (reasonForStatus status) s.transport s.trace rfl
  rename_i submission hbuild
  rw [handOver, transportSubmit]
  set answer := ctx.environment.submit s.trace submission s.transport
  dsimp only
  split
  · exact action_enterPending hqueue (about_of_build hbuild).target_eq answer.2
      (.submitted submission answer.1 :: s.trace) rfl
  · exact action_appendUnknown hqueue (reasonForStatus answer.1) answer.2
      (.submitted submission answer.1 :: s.trace) rfl

end

theorem workQueue_appendUnknown (target : Text) (probe : ProbeType) (reason : DiscoveryReason)
    (s : DiscoveryScheduler τ) :
    (s.appendUnknown ctx target probe reason).workQueue = s.workQueue := by
  obtain ⟨published, evidence, trace, -, -, heq⟩ := appendUnknown_eq ctx target probe reason s
  rw [heq]

/-- `submit_one` does not put anything on the queue. -/
theorem workQueue_submitOne (item : WorkItem) (s : DiscoveryScheduler τ) :
    (submitOne ctx item s).2.workQueue = s.workQueue := by
  rw [submitOne]
  split
  · rfl
  dsimp only
  split
  · exact workQueue_appendUnknown _ _ _ _
  rw [handOver]
  dsimp only
  split
  · rw [enterPending]
    dsimp only
    split
    · exact workQueue_appendUnknown _ _ _ _
    · rfl
  · exact workQueue_appendUnknown _ _ _ _

/-! ### The pump -/

/-- The pump acts item by item. -/
theorem actions_pumpLoop (fuel : ℕ) (s : DiscoveryScheduler τ) :
    Actions ctx s (pumpLoop ctx fuel s) := by
  induction fuel generalizing s with
  | zero => exact .refl
  | succ fuel ih =>
    rw [pumpLoop]
    split
    · exact .refl
    · rename_i item workQueue hqueue
      split_ifs
      · exact .head (action_submitOne hqueue) (ih _)
      · exact .refl

theorem actions_pump (s : DiscoveryScheduler τ) : Actions ctx s (pump ctx s) := actions_pumpLoop _ s

/-- The loop of `pump` runs to its end when it has fuel for the whole queue. -/
theorem pumpLoop_done {fuel : ℕ} (hfuel : s.workQueue.length ≤ fuel) :
    (pumpLoop ctx fuel s).workQueue = [] ∨
      ctx.config.maxOutstanding.toNat ≤ (pumpLoop ctx fuel s).pending.size := by
  induction fuel generalizing s with
  | zero => exact .inl (List.length_eq_zero_iff.mp (Nat.le_zero.mp hfuel))
  | succ fuel ih =>
    rw [pumpLoop]
    split
    · rename_i hnil
      exact .inl hnil
    · rename_i item workQueue hqueue
      split_ifs with hroom
      · refine ih ?_
        rw [workQueue_submitOne]
        rw [hqueue, List.length_cons] at hfuel
        exact Nat.le_of_succ_le_succ hfuel
      · exact .inr (Nat.not_lt.mp hroom)

/-- **The pump leaves nothing queued, or it leaves as many probes in flight as there may be.** -/
theorem pump_done (ctx : Context τ) (s : DiscoveryScheduler τ) :
    (pump ctx s).workQueue = [] ∨
      ctx.config.maxOutstanding.toNat ≤ (pump ctx s).pending.size :=
  pumpLoop_done le_rfl

theorem actions_stopIfComplete (s : DiscoveryScheduler τ) : Actions ctx s s.stopIfComplete := by
  rw [stopIfComplete]
  split_ifs with hcomplete
  · exact .single (.stop hcomplete)
  · exact .refl

/-! ### Ending a probe -/

/-- How a callback ends: nothing has happened, or a probe has ended and the pump and `stop_if_idle`
came last. -/
inductive Ends (ctx : Context τ) (s : DiscoveryScheduler τ) : DiscoveryScheduler τ → Prop
  | idle {s' : DiscoveryScheduler τ} (haction : Action ctx s s')
      (hqueue : s'.workQueue = s.workQueue)
      (hpending : s'.pending = s.pending) (hcalls : s'.calls = s.calls) : Ends ctx s s'
  | pumped {middle : DiscoveryScheduler τ} (haction : Action ctx s middle) :
      Ends ctx s (stopIfComplete (pump ctx middle))

theorem Ends.refl (ctx : Context τ) (s : DiscoveryScheduler τ) : Ends ctx s s := by
  have hidle : Action ctx s s := .idle s.duplicateResponseCount s.lateResponseCount rfl
  exact .idle hidle rfl rfl rfl

theorem Ends.actions (h : Ends ctx s s') : Actions ctx s s' := by
  cases h with
  | idle haction => exact .single haction
  | pumped haction =>
    exact .head haction ((actions_pump _).trans (actions_stopIfComplete _))

theorem ends_finish {id : ProbeId} {pending : PendingProbe}
    (hlookup : s.pending.lookup id = some pending) {result : DiscoveryResult}
    (hkey : result.key = pending.key) (trace : List Effect) (hcalls : callsOf trace = s.calls) :
    Ends ctx s ({ s with trace }.finish ctx id pending result) := by
  obtain ⟨published, evidence, trace', hpublished, htrace, heq⟩ :=
    appendResult_eq ctx result { s with trace }
  rw [finish, heq]
  exact .pumped (.complete hlookup (hpublished.trans hkey) (congrArg _ (htrace.trans hcalls)))

/-- A response ends the probe it is for. -/
theorem ends_receivePending (response : DiscoveryResponse) {pending : PendingProbe}
    (hlookup : s.pending.lookup response.probeId = some pending) :
    Ends ctx s (receivePending ctx response pending s).2 := by
  have htime : ∃ trace, callsOf trace = s.calls ∧
      (s.receptionTime ctx response).2 = { s with trace } := by
    rw [receptionTime]
    split_ifs
    · exact ⟨.clockRead :: s.trace, rfl, rfl⟩
    · exact ⟨s.trace, rfl, rfl⟩
  obtain ⟨trace, hcalls, htime⟩ := htime
  rw [receivePending]
  dsimp only
  split
  · rw [htime]
    exact ends_finish hlookup rfl trace hcalls
  split
  · exact ends_finish hlookup rfl (.clockRead :: s.trace) rfl
  · exact .refl ctx s
  · rw [htime]
    exact ends_finish hlookup rfl trace hcalls

theorem ends_receive (response : DiscoveryResponse) (s : DiscoveryScheduler τ) :
    Ends ctx s (receive ctx response s).2 := by
  rw [receive]
  split
  · exact .refl ctx s
  split
  · split_ifs
    · exact .idle (.idle s.duplicateResponseCount (s.lateResponseCount + 1) rfl) rfl rfl rfl
    · exact .idle (.idle (s.duplicateResponseCount + 1) s.lateResponseCount rfl) rfl rfl rfl
    · exact .refl ctx s
  · rename_i pending hlookup
    exact ends_receivePending response hlookup

theorem ends_expire (id : ProbeId) (s : DiscoveryScheduler τ) : Ends ctx s (expire ctx id s) := by
  rw [expire]
  split
  · exact .refl ctx s
  · rename_i pending hlookup
    obtain ⟨published, evidence, trace, hkey, hcalls, heq⟩ :=
      appendUnknown_eq ctx pending.submission.target pending.type .timeout s
    rw [heq]
    exact .pumped (.expire hlookup hkey hcalls)

/-- **Every event is a sequence of actions.** -/
theorem actions_step (s : DiscoveryScheduler τ) (event : Event) :
    Actions ctx s (step ctx s event) := by
  cases event with
  | receive response => exact (ends_receive response s).actions
  | expire id => exact (ends_expire id s).actions
  | pump => exact actions_pump s

end DiscoveryScheduler

end Skan.Discovery
