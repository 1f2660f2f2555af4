import Skan.PortScan.Quiescence

/-!
# How deep the pump nests

A transport may answer before `submit` returns. The answer ends its attempt, and ending an attempt
pumps again, while the pump that handed the item over is still in its loop. `Calls` is that relation
between activations, each named by the state it was entered in; the activations that are active at
one moment are a chain of it, which begins with one that an event or the submission entered
(`ActiveStack`).

## The pump without fuel

`pumpLoop_fuel` shows that the fuel of the model is never felt, so `pump` is the loop of the source
whose nested pump is `pump` itself (`pump_iterates`), and `Calls` can speak of `pump` alone.

## The bound

An activation has taken an item off the queue when it enters another (`Calls.queue_lt`), and nothing
puts one back before it returns. So the queue bounds the nesting, and nothing else does: the attempt
that has ended is out of `pending_` before the nested pump compares its size with the limit.
-/

namespace Skan.PortScan

open Skan.Core Skan.ScanEngine

namespace PortScanScheduler

variable (ctx : SchedulerContext) {pending : Pending} {s entered : PortScanScheduler}
  {work : WorkItem} {limit : ℕ}

/-! ### Where a callback enters the pump -/

/-- The state in which `receive` enters the pump, if it does. -/
def receiveEntry (response : PortResponse) (s : PortScanScheduler) : Option PortScanScheduler :=
  match s.pending.lookup response.id, ctx.probe with
  | some pending, some probe =>
    match probe.assess response pending.submission with
    | .error _ => none
    | .ok (state, reason) =>
      let (completedAt, s) :=
        if response.receivedAt = 0 then s.readClock ctx else (response.receivedAt, s)
      if completedAt < pending.startedAt then none
      else if state = .error ∨ ctx.config.method = .tcpConnect then
        some (completePending ctx id response.id state reason completedAt s)
      else none
  | _, _ => none

/-- The same for `on_timeout`. -/
def timeoutEntry (timedOut : PortProbeId) (s : PortScanScheduler) : Option PortScanScheduler :=
  match s.pending.lookup timedOut, ctx.probe with
  | some _, some _ => some (onTimeoutWith ctx id timedOut s)
  | _, _ => none

/-- The same for every event. -/
def eventEntry (s : PortScanScheduler) : Event → Option PortScanScheduler
  | .receive response => receiveEntry ctx response s
  | .onTimeout id => timeoutEntry ctx id s
  | .onRetryReady id =>
    (s.deferredRetries.lookup id).map fun retry ↦
      { s with deferredRetries := s.deferredRetries.erase id, queue := retry.work :: s.queue }
  | .pump => some s

section TailCall

variable (pump : PortScanScheduler → PortScanScheduler)

theorem retryOrFail_tail (work : WorkItem) (rttMs : Option ℚ) (s : PortScanScheduler) :
    retryOrFail ctx pump work rttMs s = pump (retryOrFail ctx id work rttMs s) := by
  rw [retryOrFail, retryOrFail]
  split <;> rfl

/-- **Finishing an attempt** does everything else before it pumps. -/
theorem finishAttempt_tail (work : WorkItem) (state : PortState) (reason : ScanReason)
    (rttMs : Option ℚ) (s : PortScanScheduler) :
    finishAttempt ctx pump work state reason rttMs s =
      pump (finishAttempt ctx id work state reason rttMs s) := by
  rw [finishAttempt, finishAttempt]
  dsimp only
  split_ifs
  · rfl
  · exact retryOrFail_tail ctx pump _ rttMs _
  · rfl
  · exact retryOrFail_tail ctx pump _ rttMs _
  · rfl

theorem completePending_tail {id : PortProbeId} (hlookup : s.pending.lookup id = some pending)
    (state : PortState) (reason : ScanReason) (completedAt : TimePoint) :
    completePending ctx pump id state reason completedAt s =
      pump (completePending ctx (fun s ↦ s) id state reason completedAt s) := by
  rw [completePending, completePending, hlookup]
  exact finishAttempt_tail ctx pump _ state reason _ _

/-- **A response** that enters the pump returns with it, whatever the pump is. -/
theorem receiveWith_eq (response : PortResponse) (s : PortScanScheduler) :
    receiveWith ctx pump response s =
      match receiveEntry ctx response s with
      | some entered => pump entered
      | none => receiveWith ctx id response s := by
  rw [receiveEntry, receiveWith.eq_def, receiveWith.eq_def]
  rcases hlookup : s.pending.lookup response.id with - | pending
  · rfl
  rcases ctx.probe with - | probe
  · rfl
  dsimp only
  rcases probe.assess response pending.submission with - | ⟨state, reason⟩
  · rfl
  dsimp only
  -- reading the clock leaves the attempt where it is
  have hclock : (if response.receivedAt = 0 then s.readClock ctx
      else (response.receivedAt, s)).2.pending.lookup response.id = some pending := by
    rw [← hlookup]
    split_ifs <;> rfl
  split_ifs at hclock ⊢
  all_goals first
    | rfl
    | exact completePending_tail ctx pump hclock state reason _

theorem onTimeoutWith_tail {id : PortProbeId} (hentry : timeoutEntry ctx id s = some entered) :
    onTimeoutWith ctx pump id s = pump entered := by
  rw [timeoutEntry] at hentry
  split at hentry
  swap
  · cases hentry
  rename_i pending probe hlookup hprobe
  cases hentry
  rw [onTimeoutWith.eq_def, onTimeoutWith.eq_def, hlookup, hprobe]
  dsimp only
  split
  · exact finishAttempt_tail ctx pump _ _ _ _ _
  · exact finishAttempt_tail ctx pump _ _ _ _ _

end TailCall

/-! ### What the pump is given has no longer a queue -/

/-- A pump that does nothing, in the place of the one that a callback would enter. -/
theorem actions_id (s : PortScanScheduler) : Actions ctx s.board (id s).board := .refl

theorem receiveEntry_queue {response : PortResponse}
    (hentry : receiveEntry ctx response s = some entered) : entered.queue <:+ s.queue := by
  have hid := receiveWith_eq ctx id response s
  rw [hentry] at hid
  have hactions := actions_receiveWith ctx (actions_id ctx) response s
  rw [hid] at hactions
  exact Board.queue_suffix hactions

theorem receiveAll_queue {pump : PortScanScheduler → PortScanScheduler}
    (hpump : ∀ s, Actions ctx s.board (pump s).board) (responses : List PortResponse)
    (s : PortScanScheduler) :
    (responses.foldl (fun s response ↦ receiveWith ctx pump response s) s).queue <:+ s.queue :=
  Board.queue_suffix (actions_receiveAll ctx hpump responses s)

theorem startAttempt_queue {pump : PortScanScheduler → PortScanScheduler}
    (hpump : ∀ s, Actions ctx s.board (pump s).board) {queue : List WorkItem}
    (hstatus : s.status = .ok) (hqueue : s.queue = work :: queue) (probe : PortProbe) :
    (startAttempt ctx pump probe work { s with queue }).queue <:+ queue := by
  obtain ⟨b, -, hpopped, hrest⟩ := actions_startAttempt ctx hpump hstatus hqueue probe
  exact hpopped ▸ Board.queue_suffix hrest

/-! ### What is handed to the transport -/

/-- An item on its way to the transport: what `submit` is called with, and in which state. -/
structure Handover where
  id : PortProbeId
  timer : TimerId
  submission : PortSubmission
  state : PortScanScheduler

/-- What an iteration of the loop of `pump` hands to the transport, if it gets that far. -/
def handover (probe : PortProbe) (work : WorkItem) (s : PortScanScheduler) : Option Handover :=
  let id := s.nextId
  let s := { s with nextId := id + 1 }
  match probe.build id work.host work.port ctx.config with
  | .error _ => none
  | .ok submission =>
    let (startedAt, s) := s.readClock ctx
    let (timer, s) := s.schedule ctx (s.attemptTimeout ctx) (.onTimeout id)
    if timer = 0 then none
    else
      match s.pending.emplace id { work, submission, startedAt, timerId := timer } with
      | none => none
      | some pending =>
        let launched : Launch :=
          { work, inFlight := s.pending.values.map Pending.work, limit := s.limit ctx }
        some { id, timer, submission,
               state := { s with pending, launches := launched :: s.launches } }

/-- **An iteration** that hands something over is that launch; one that does not never pumps. -/
theorem startAttempt_eq (pump : PortScanScheduler → PortScanScheduler) (probe : PortProbe)
    (work : WorkItem) (s : PortScanScheduler) :
    startAttempt ctx pump probe work s =
      match handover ctx probe work s with
      | some h => launch ctx pump h.id h.timer work h.submission h.state
      | none => startAttempt ctx id probe work s := by
  rw [handover, startAttempt, startAttempt]
  dsimp only
  rcases probe.build s.nextId work.host work.port ctx.config with - | submission
  · rfl
  dsimp only
  split_ifs
  · rfl
  · rfl
  · generalize AList.emplace (_ : KeyedStore PortProbeId Pending) _ _ = entered
    cases entered <;> rfl

theorem handover_queue {probe : PortProbe} {h : Handover}
    (hhandover : handover ctx probe work s = some h) : h.state.queue = s.queue := by
  rw [handover] at hhandover
  dsimp only at hhandover
  split at hhandover
  · cases hhandover
  split_ifs at hhandover
  split at hhandover
  · cases hhandover
  · cases hhandover
    rfl

/-! ### The fuel of the loop is never felt -/

section Agree

variable {ctx} {pump pump' : PortScanScheduler → PortScanScheduler} {queue : List WorkItem}
  (hpump : ∀ s, Actions ctx s.board (pump s).board)
  (hagree : ∀ s : PortScanScheduler, s.queue <:+ queue → pump s = pump' s)

include hagree in
theorem receiveWith_agree (hs : s.queue <:+ queue) (response : PortResponse) :
    receiveWith ctx pump response s = receiveWith ctx pump' response s := by
  rw [receiveWith_eq ctx pump, receiveWith_eq ctx pump']
  rcases hentry : receiveEntry ctx response s with - | entered
  · rfl
  · exact hagree entered ((receiveEntry_queue ctx hentry).trans hs)

include hpump hagree in
theorem receiveAll_agree (responses : List PortResponse) (hs : s.queue <:+ queue) :
    responses.foldl (fun s response ↦ receiveWith ctx pump response s) s =
      responses.foldl (fun s response ↦ receiveWith ctx pump' response s) s := by
  induction responses generalizing s with
  | nil => rfl
  | cons response responses ih =>
    rw [List.foldl_cons, List.foldl_cons, ← receiveWith_agree hagree hs response]
    exact ih ((receiveAll_queue ctx hpump [response] s).trans hs)

include hpump hagree in
/-- Two pumps that agree wherever the queue is no longer than this do the same in an iteration. -/
theorem startAttempt_agree (probe : PortProbe) (work : WorkItem) (hs : s.queue = queue) :
    startAttempt ctx pump probe work s = startAttempt ctx pump' probe work s := by
  rw [startAttempt_eq ctx pump, startAttempt_eq ctx pump']
  rcases hhandover : handover ctx probe work s with - | h
  · rfl
  have hqueue : (h.state.transportSubmit ctx work h.submission).2.queue <:+ queue := by
    show h.state.queue <:+ queue
    rw [handover_queue ctx hhandover, hs]
  dsimp only
  rw [launch, launch]
  dsimp only
  rw [receiveAll_agree hpump hagree _ hqueue]

end Agree

theorem actions_nested (fuel : ℕ) (s : PortScanScheduler) :
    Actions ctx s.board (stopIfIdle (pumpLoop ctx fuel (s.limit ctx) s)).board := by
  rw [board_stopIfIdle]
  exact actions_pumpLoop ctx fuel _ s

/-! ### The loop -/

/-- The condition of the loop of `pump`, with the item it takes off the queue. -/
structure Continues (limit : ℕ) (s : PortScanScheduler) (probe : PortProbe) (work : WorkItem)
    (queue : List WorkItem) : Prop where
  probe : ctx.probe = some probe
  status : s.status = .ok
  queue : s.queue = work :: queue
  room : s.pending.size < limit

variable {ctx} in
/-- The loop stops where its condition fails. -/
theorem pumpLoop_stop (hends : ∀ probe work queue, ¬ Continues ctx limit s probe work queue)
    (fuel : ℕ) : pumpLoop ctx fuel limit s = s := by
  cases fuel with
  | zero => rfl
  | succ fuel =>
    rw [pumpLoop]
    split
    · rename_i work queue probe hqueue hprobe
      rw [if_neg fun h ↦ hends probe work queue ⟨hprobe, h.1, hqueue, h.2⟩]
    · rfl

variable {ctx} in
/-- The loop goes on where its condition holds. -/
theorem pumpLoop_continue {probe : PortProbe} {queue : List WorkItem}
    (h : Continues ctx limit s probe work queue) (fuel : ℕ) :
    pumpLoop ctx (fuel + 1) limit s =
      pumpLoop ctx fuel limit
        (startAttempt ctx (fun s ↦ stopIfIdle (pumpLoop ctx fuel (s.limit ctx) s)) probe work
          { s with queue }) := by
  rw [pumpLoop]
  split
  · rename_i work' queue' probe' hqueue hprobe
    obtain ⟨rfl, rfl⟩ := List.cons.inj (h.queue.symm.trans hqueue)
    obtain rfl := Option.some.inj (h.probe.symm.trans hprobe)
    rw [if_pos ⟨h.status, h.room⟩]
  · rename_i hnone
    exact (hnone work queue probe h.queue h.probe).elim

/-- **Any fuel** that covers the queue gives the same loop. -/
theorem pumpLoop_fuel {fuel fuel' : ℕ} (limit : ℕ) (hfuel : s.queue.length ≤ fuel)
    (hfuel' : s.queue.length ≤ fuel') : pumpLoop ctx fuel limit s = pumpLoop ctx fuel' limit s := by
  by_cases hguard : ∃ probe work queue, Continues ctx limit s probe work queue
  swap
  · simp only [not_exists] at hguard
    rw [pumpLoop_stop hguard, pumpLoop_stop hguard]
  induction fuel generalizing fuel' limit s with
  | zero =>
    obtain ⟨probe, work, queue, hcontinues⟩ := hguard
    rw [hcontinues.queue] at hfuel
    exact absurd hfuel (Nat.not_succ_le_zero _)
  | succ fuel ih =>
    obtain ⟨probe, work, queue, hcontinues⟩ := hguard
    rw [hcontinues.queue, List.length_cons] at hfuel hfuel'
    obtain ⟨fuel', rfl⟩ : ∃ n, fuel' = n + 1 := ⟨fuel' - 1, by omega⟩
    -- whatever has no longer a queue than is left now runs the same with either fuel
    have hsame : ∀ (limit : ℕ) {t : PortScanScheduler}, t.queue <:+ queue →
        pumpLoop ctx fuel limit t = pumpLoop ctx fuel' limit t := by
      intro limit t ht
      have hlength := ht.length_le
      by_cases hgoes : ∃ probe work queue, Continues ctx limit t probe work queue
      · exact ih limit (by omega) (by omega) hgoes
      · simp only [not_exists] at hgoes
        rw [pumpLoop_stop hgoes, pumpLoop_stop hgoes]
    have hnested := actions_nested ctx fuel
    rw [pumpLoop_continue hcontinues, pumpLoop_continue hcontinues,
      ← startAttempt_agree hnested (fun t ht ↦ congrArg stopIfIdle (hsame _ ht)) probe work rfl]
    exact hsame limit (startAttempt_queue ctx hnested hcontinues.status hcontinues.queue probe)

/-! ### One activation, and the activations it enters -/

/-- One iteration of the loop of a `pump` that read `limit` on entry. -/
inductive Iterates (limit : ℕ) : PortScanScheduler → PortScanScheduler → Prop
  | mk {s : PortScanScheduler} {probe : PortProbe} {work : WorkItem} {queue : List WorkItem}
      (hcontinues : Continues ctx limit s probe work queue) :
      Iterates limit s (startAttempt ctx (pump ctx) probe work { s with queue })

/-- The activation of `pump` that was entered in one state enters another: an iteration of its loop
hands its item to the transport, and a response that arrives before `submit` returns, after some
others, enters the pump. -/
inductive Calls : PortScanScheduler → PortScanScheduler → Prop
  | mk {s now entered : PortScanScheduler} {probe : PortProbe} {work : WorkItem}
      {queue : List WorkItem} {h : Handover} {earlier later : List PortResponse}
      {response : PortResponse}
      (hloop : Relation.ReflTransGen (Iterates ctx (s.limit ctx)) s now)
      (hcontinues : Continues ctx (s.limit ctx) now probe work queue)
      (hhandover : handover ctx probe work { now with queue } = some h)
      (hresponses : (h.state.transportSubmit ctx work h.submission).1.responses =
        earlier ++ response :: later)
      (hentry : receiveEntry ctx response
        (earlier.foldl (fun s response ↦ receive ctx response s)
          (h.state.transportSubmit ctx work h.submission).2) = some entered) :
      Calls s entered

theorem pumpLoop_iterates (limit : ℕ) (s : PortScanScheduler) :
    ∃ last, Relation.ReflTransGen (Iterates ctx limit) s last ∧
      (∀ probe work queue, ¬ Continues ctx limit last probe work queue) ∧
        pumpLoop ctx s.queue.length limit s = last := by
  generalize hlength : s.queue.length = length
  induction length using Nat.strong_induction_on generalizing s with
  | _ length ih =>
    by_cases hguard : ∃ probe work queue, Continues ctx limit s probe work queue
    · obtain ⟨probe, work, queue, hcontinues⟩ := hguard
      obtain rfl : queue.length + 1 = length := by
        rw [← hlength, hcontinues.queue, List.length_cons]
      have hagree : ∀ t : PortScanScheduler, t.queue <:+ queue →
          stopIfIdle (pumpLoop ctx queue.length (t.limit ctx) t) = pump ctx t :=
        fun t ht ↦ congrArg stopIfIdle (pumpLoop_fuel ctx _ ht.length_le le_rfl)
      have hsuffix :=
        startAttempt_queue ctx (actions_pump ctx) hcontinues.status hcontinues.queue probe
      obtain ⟨last, hloop, hends, heq⟩ := ih _ (Nat.lt_succ_of_le hsuffix.length_le) _ rfl
      refine ⟨last, .head (.mk hcontinues) hloop, hends, ?_⟩
      rw [pumpLoop_continue hcontinues,
        startAttempt_agree (actions_nested ctx queue.length) hagree probe work rfl, ← heq]
      exact pumpLoop_fuel ctx limit hsuffix.length_le le_rfl
    · simp only [not_exists] at hguard
      exact ⟨s, .refl, hguard, pumpLoop_stop hguard length⟩

/-- **The pump without fuel**: it iterates, its nested pumps being itself, until it cannot go on. -/
theorem pump_iterates (s : PortScanScheduler) :
    ∃ last, Relation.ReflTransGen (Iterates ctx (s.limit ctx)) s last ∧
      (∀ probe work queue, ¬ Continues ctx (s.limit ctx) last probe work queue) ∧
        pump ctx s = stopIfIdle last := by
  obtain ⟨last, hloop, hends, heq⟩ := pumpLoop_iterates ctx (s.limit ctx) s
  exact ⟨last, hloop, hends, congrArg stopIfIdle heq⟩

theorem iterates_queue {s' : PortScanScheduler}
    (h : Relation.ReflTransGen (Iterates ctx limit) s s') : s'.queue <:+ s.queue := by
  induction h with
  | refl => exact List.suffix_rfl
  | @tail now _ _ hstep ih =>
    cases hstep with
    | @mk probe work queue hcontinues =>
      have hstart :=
        startAttempt_queue ctx (actions_pump ctx) hcontinues.status hcontinues.queue probe
      have hpopped : queue <:+ now.queue := by
        rw [hcontinues.queue]
        exact List.suffix_cons _ _
      exact (hstart.trans hpopped).trans ih

variable {ctx} in
/-- **A nested activation** is entered with a shorter queue. -/
theorem Calls.queue_lt (h : Calls ctx s entered) : entered.queue.length < s.queue.length := by
  cases h with
  | @mk now _ probe work queue h earlier later response hloop hcontinues hhandover _ hentry =>
    have hnow := (iterates_queue ctx hloop).length_le
    rw [hcontinues.queue, List.length_cons] at hnow
    have hhanded : (h.state.transportSubmit ctx work h.submission).2.queue = queue :=
      handover_queue ctx hhandover
    have hreceived := receiveAll_queue ctx (actions_pump ctx) earlier
      (h.state.transportSubmit ctx work h.submission).2
    rw [hhanded] at hreceived
    have hentered := ((receiveEntry_queue ctx hentry).trans hreceived).length_le
    exact Nat.lt_of_le_of_lt hentered hnow

/-! ### The activations of a run -/

variable (target : Target) (ports : List Port)

/-- The states in which the submission and the events of a scan enter the pump. -/
inductive Outermost : PortScanScheduler → Prop
  | submission (haccept : Acceptable ctx target ports)
      (hvalid : ∀ host ∈ target.resolvedHosts, validHostAddress ctx.inet host) :
      Outermost (queued ctx target ports)
  | event (events : List Event) {event : Event} {entered : PortScanScheduler}
      (hentry : eventEntry ctx
        (Runs.run (step ctx) (submit ctx target ports (create ctx)).2 events) event =
          some entered) :
      Outermost entered

/-- The pump activations that are active at one moment of a scan, the outermost first. -/
structure ActiveStack (stack : List PortScanScheduler) : Prop where
  outermost : ∀ s ∈ stack.head?, Outermost ctx target ports s
  nested : stack.IsChain (Calls ctx)

/-- What a callback does before it enters the pump. -/
theorem actions_eventEntry {event : Event} (hentry : eventEntry ctx s event = some entered) :
    Actions ctx s.board entered.board ∨
      ∃ id retry, s.deferredRetries.lookup id = some retry ∧
        entered.board = s.board.requeue id retry := by
  cases event with
  | receive response =>
    have hreceive : receiveEntry ctx response s = some entered := hentry
    have hid := receiveWith_eq ctx id response s
    rw [hreceive] at hid
    have hactions := actions_receiveWith ctx (actions_id ctx) response s
    rw [hid] at hactions
    exact .inl hactions
  | onTimeout timedOut =>
    have hactions := actions_onTimeoutWith ctx (actions_id ctx) timedOut s
    rw [onTimeoutWith_tail ctx id hentry] at hactions
    exact .inl hactions
  | onRetryReady id =>
    obtain ⟨retry, hlookup, rfl⟩ := Option.map_eq_some_iff.mp hentry
    exact .inr ⟨id, retry, hlookup, rfl⟩
  | pump =>
    cases hentry
    exact .inl .refl

variable {target ports} in
/-- **An outermost activation** never has more items queued than were submitted. -/
theorem Outermost.queue_le (h : Outermost ctx target ports s) :
    s.queue.length ≤ (submittedPairs target ports).length := by
  cases h with
  | submission haccept hvalid =>
    have hkeys := map_key_items target.resolvedHosts ports
    rw [submittedPairs, ← hkeys, List.length_map]
    exact le_rfl
  | @event events event _ hentry =>
    obtain ⟨haccept, hvalid⟩ | ⟨hidle, -⟩ := submit_cases ctx target ports
    · -- the queue is a part of what the scheduler holds, and that is what was submitted
      have hmoves : Flow.Moves Location.Edge
          (Runs.run (step ctx) (submit ctx target ports (create ctx)).2 events).holding
            s.holding := by
        obtain hactions | ⟨id, retry, hlookup, hboard⟩ := actions_eventEntry ctx hentry
        · exact Board.moves_of_actions hactions
        · show Flow.Moves Location.Edge _ s.board.holding
          rw [hboard]
          exact Board.moves_requeue hlookup
      have hall : Flow.Moves Location.Edge _ s.holding := (moves_run ctx _ events).trans hmoves
      have htotal := hall.total_eq.trans
        (total_submit haccept.config hvalid haccept.ports_valid)
      rw [sum_location] at htotal
      have hcard := congrArg Multiset.card htotal
      rw [Multiset.card_add, Multiset.coe_card] at hcard
      have hqueue : (s.holding .queue).card = s.queue.length := List.length_map _
      omega
    · -- a refused submission leaves nothing to queue
      have hrun := board_run_of_idle ctx hidle events
      rw [← hrun] at hidle
      obtain hactions | ⟨id, retry, hlookup, -⟩ := actions_eventEntry ctx hentry
      · have hqueue : s.board.queue = [] := hidle.eq_of_actions hactions ▸ hidle.queue
        rw [show s.queue = [] from hqueue]
        exact Nat.zero_le _
      · have hnone : AList.lookup id (∅ : KeyedStore RetryId DeferredRetry) = some retry := by
          rw [← hidle.deferredRetries]
          exact hlookup
        rw [AList.lookup_empty] at hnone
        cases hnone

/-- A chain that keeps taking items off the queue is no longer than the queue it begins with. -/
theorem length_le_of_chain {stack : List PortScanScheduler} (h : (s :: stack).IsChain (Calls ctx)) :
    stack.length ≤ s.queue.length := by
  induction stack generalizing s with
  | nil => exact Nat.zero_le _
  | cons entered stack ih =>
    obtain ⟨hcalls, hrest⟩ := List.isChain_cons_cons.mp h
    exact (Nat.succ_le_succ (ih hrest)).trans hcalls.queue_lt

/-- **The nesting of the pump** is bounded by the work: whatever the transport answers and when, at
no moment of a scan are more than one activation for each submitted (host, port) pair, and one more,
active at once. -/
theorem activations_bounded {stack : List PortScanScheduler}
    (h : ActiveStack ctx target ports stack) :
    stack.length ≤ (submittedPairs target ports).length + 1 := by
  rcases stack with - | ⟨s, stack⟩
  · exact Nat.zero_le _
  · exact Nat.succ_le_succ
      ((length_le_of_chain ctx h.nested).trans (h.outermost s rfl).queue_le)

/-! ### A transport that connects at once

`TcpConnectTransport` calls back before `submit` returns when `connect` succeeds at once. If it
always does, each activation enters the next and the whole queue is nested, under any limit. -/

section Prompt

/-- A fixed-timing connect scan over a transport all of whose connections succeed at once. -/
structure Prompt : Prop where
  method : ctx.config.method = .tcpConnect
  probe : ctx.probe = some (tcpConnectProbe ctx.inet)
  room : 0 < ctx.config.maxOutstanding
  timers : ∀ trace delay, ctx.environment.schedule trace delay ≠ 0
  clock : ∀ e trace, ctx.environment.now trace ≤ ctx.environment.now (e :: trace)
  accepts : ∀ trace submission, (ctx.environment.submit trace submission).status = .ok
  connects : ∀ trace submission, (ctx.environment.submit trace submission).responses =
    [{ id := submission.id, sourceAddress := submission.target, kind := .connected,
       receivedAt := ctx.environment.now trace }]

/-- A scheduler that is about to start the next item, with nothing in flight. -/
structure Poised (s : PortScanScheduler) : Prop where
  timing : s.timing = none
  status : s.status = .ok
  pending : s.pending = ∅
  id_pos : 0 < s.nextId.toNat
  id_lt : s.nextId.toNat + s.queue.length < 2 ^ 64
  items : ∀ work ∈ s.queue, work.port.protocol = .tcp ∧ work.port.number ≠ 0 ∧
    work.host.address ≠ [] ∧ validHostAddress ctx.inet work.host

variable {ctx} {s : PortScanScheduler} {work : WorkItem} {queue : List WorkItem}

theorem effectiveAddress_of_validHost {host : Host} (h : validHostAddress ctx.inet host) :
    ∃ address, effectiveAddress ctx.inet host.ipAddress host.address = some address := by
  rw [validHostAddress, Bool.or_eq_true] at h
  rw [effectiveAddress]
  split_ifs with hvalid
  · exact ⟨_, rfl⟩
  · exact Option.isSome_iff_exists.mp (h.resolve_left hvalid)

section

variable (hprompt : Prompt ctx)

include hprompt

/-- The item of a poised scheduler is handed over: its attempt is the only one in flight. -/
theorem Prompt.handover (hs : Poised ctx s) (hqueue : s.queue = work :: queue) :
    ∃ (h : Handover) (pending : Pending),
      handover ctx (tcpConnectProbe ctx.inet) work { s with queue } = some h ∧
        h.submission = pending.submission ∧ h.submission.id = s.nextId ∧
        pending.startedAt ≤ ctx.environment.now h.state.trace ∧
        h.state =
          { s with
            queue
            nextId := s.nextId + 1
            pending := s.pending.insert s.nextId pending
            trace := h.state.trace
            launches := h.state.launches } := by
  obtain ⟨htcp, hnumber, haddress, hvalid⟩ := hs.items work (hqueue ▸ List.mem_cons_self)
  obtain ⟨address, heffective⟩ := effectiveAddress_of_validHost hvalid
  have hid : s.nextId ≠ 0 := fun hzero ↦ absurd (congrArg UInt64.toNat hzero) hs.id_pos.ne'
  have hbuild : (tcpConnectProbe ctx.inet).build s.nextId work.host work.port ctx.config =
      .ok { id := s.nextId, probe := .tcpConnect, target := work.host.address, port := work.port,
            targetIp := address } := by
    show TcpConnectProbe.build ctx.inet s.nextId work.host work.port ctx.config = _
    rw [TcpConnectProbe.build, if_neg (by tauto), heffective]
  have hfresh : s.nextId ∉ s.pending := by
    rw [hs.pending]
    exact AList.notMem_empty _
  rw [PortScanScheduler.handover]
  dsimp only
  rw [hbuild]
  dsimp only
  split
  · rename_i hzero
    exact absurd hzero (hprompt.timers _ _)
  split
  · rename_i hemplace
    exact nomatch (AList.emplace_eq_some_iff.mpr ⟨hfresh, rfl⟩).symm.trans hemplace
  · rename_i pending hemplace
    obtain ⟨-, rfl⟩ := AList.emplace_eq_some_iff.mp hemplace
    exact ⟨_, _, rfl, rfl, rfl, (hprompt.clock _ _).trans (hprompt.clock _ _), rfl⟩

/-- A connection ends its attempt. -/
theorem Prompt.completePending {id : PortProbeId} (hlookup : s.pending.lookup id = some pending)
    (completedAt : TimePoint) :
    ∃ results trace, completePending ctx (fun s ↦ s) id .open .immediateSuccess completedAt s =
      { s with
        pending := s.pending.erase id
        timing := s.timing.map (·.onResponse (rttMs pending.startedAt completedAt).floor)
        results
        trace } := by
  have hpositive : shouldConfirmNegative ctx.config.method .open .immediateSuccess = false := by
    rw [hprompt.method]
    decide
  rw [PortScanScheduler.completePending, hlookup]
  dsimp only
  rw [finishAttempt, hpositive]
  dsimp only
  rw [if_neg (by decide), if_neg (by simp)]
  exact ⟨_, _, rfl⟩

/-- A connection that arrives at once is in time. -/
theorem Prompt.receiveEntry {id : PortProbeId} (hlookup : s.pending.lookup id = some pending)
    (hid : pending.submission.id = id) {receivedAt : TimePoint}
    (htime : pending.startedAt ≤ receivedAt)
    (hclock : pending.startedAt ≤ ctx.environment.now s.trace) :
    ∃ timing results trace, (s.timing = none → timing = none) ∧ receiveEntry ctx
        { id, sourceAddress := pending.submission.target, kind := .connected, receivedAt } s =
      some { s with pending := s.pending.erase id, timing, results, trace } := by
  have hassess : (tcpConnectProbe ctx.inet).assess
      { id, sourceAddress := pending.submission.target, kind := .connected, receivedAt }
      pending.submission = .ok (.open, .immediateSuccess) := by
    show TcpConnectProbe.assess _ _ = _
    rw [TcpConnectProbe.assess, if_neg (by simp [hid])]
  have hfixed : ∀ rtt, s.timing = none → s.timing.map (·.onResponse rtt) = none := by
    intro rtt hnone
    rw [hnone]
    rfl
  rw [PortScanScheduler.receiveEntry, hlookup, hprompt.probe]
  dsimp only
  rw [hassess]
  dsimp only
  by_cases hunset : receivedAt = 0
  · -- the transport did not say when, and the clock is read
    obtain ⟨results, trace, heq⟩ := hprompt.completePending (s := (s.readClock ctx).2) hlookup
      (ctx.environment.now s.trace)
    have hread : ¬ (s.readClock ctx).1 < pending.startedAt := not_lt.mpr hclock
    rw [if_pos hunset, if_neg hread, if_pos (.inr hprompt.method)]
    exact ⟨_, results, trace, hfixed _, congrArg some heq⟩
  · obtain ⟨results, trace, heq⟩ := hprompt.completePending hlookup receivedAt
    rw [if_neg hunset, if_neg (not_lt.mpr htime), if_pos (.inr hprompt.method)]
    exact ⟨_, results, trace, hfixed _, congrArg some heq⟩

/-- **Poised to start an item**, such a scan enters a nested pump, poised to start the next. -/
theorem Prompt.calls (hs : Poised ctx s) (hqueue : s.queue = work :: queue) :
    ∃ entered, Calls ctx s entered ∧ Poised ctx entered ∧ entered.queue = queue := by
  obtain ⟨h, pending, hhandover, hsubmission, hid, hstarted, hstate⟩ := hprompt.handover hs hqueue
  have hlimit : s.limit ctx = ctx.config.maxOutstanding := by
    rw [limit, hs.timing]
  have hroom : s.pending.size < s.limit ctx := by
    rw [hs.pending, AList.size_empty, hlimit]
    exact hprompt.room
  have hresponses := hprompt.connects h.state.trace h.submission
  have hlookup : (h.state.transportSubmit ctx work h.submission).2.pending.lookup h.submission.id =
      some pending := by
    show h.state.pending.lookup h.submission.id = some pending
    rw [hstate, hid, AList.lookup_insert]
  obtain ⟨timing, results, trace, htiming, hentry⟩ := hprompt.receiveEntry hlookup
    (congrArg PortSubmission.id hsubmission.symm) hstarted (hstarted.trans (hprompt.clock _ _))
  rw [← hsubmission] at hentry
  have hlength : s.queue.length = queue.length + 1 := congrArg List.length hqueue
  have hnext : (s.nextId + 1).toNat = s.nextId.toNat + 1 := by
    have hlt := hs.id_lt
    rw [UInt64.toNat_add, UInt64.toNat_one, Nat.mod_eq_of_lt (by omega)]
  refine ⟨_, .mk .refl ⟨hprompt.probe, hs.status, hqueue, hroom⟩ hhandover
    (hresponses.trans (List.nil_append _).symm) hentry, ?_,
    congrArg PortScanScheduler.queue hstate⟩
  exact {
    timing := htiming ((congrArg PortScanScheduler.timing hstate).trans hs.timing)
    status := (congrArg PortScanScheduler.status hstate).trans hs.status
    pending := by
      show h.state.pending.erase h.submission.id = ∅
      rw [hstate, hid, hs.pending]
      exact AList.erase_insert pending (AList.notMem_empty _)
    id_pos := by
      show 0 < h.state.nextId.toNat
      rw [hstate, hnext]
      exact Nat.succ_pos _
    id_lt := by
      show h.state.nextId.toNat + h.state.queue.length < 2 ^ 64
      rw [hstate, hnext, Nat.add_assoc, Nat.add_comm 1, ← hlength]
      exact hs.id_lt
    items := by
      show ∀ item ∈ h.state.queue, _
      rw [hstate]
      exact fun item hitem ↦ hs.items item (hqueue ▸ List.mem_cons_of_mem _ hitem) }

/-- The whole queue is nested. -/
theorem Prompt.chain (hs : Poised ctx s) :
    ∃ stack, (s :: stack).IsChain (Calls ctx) ∧ stack.length = s.queue.length := by
  generalize hqueue : s.queue = items
  induction items generalizing s with
  | nil => exact ⟨[], .singleton s, rfl⟩
  | cons work items ih =>
    obtain ⟨entered, hcalls, hpoised, hrest⟩ := hprompt.calls hs hqueue
    obtain ⟨stack, hchain, hlength⟩ := ih hpoised hrest
    exact ⟨entered :: stack, List.isChain_cons_cons.mpr ⟨hcalls, hchain⟩,
      congrArg Nat.succ hlength⟩

/-- **The bound is attained**: when every connection succeeds at once, the submission nests one
activation for each pair in its first. -/
theorem Prompt.activations_attained {target : Target} {ports : List Port}
    (haccept : Acceptable ctx target ports)
    (hvalid : ∀ host ∈ target.resolvedHosts, validHostAddress ctx.inet host)
    (haddress : ∀ host ∈ target.resolvedHosts, host.address ≠ [])
    (hfixed : ctx.config.adaptiveTiming = false)
    (hcount : (submittedPairs target ports).length + 1 < 2 ^ 64) :
    ∃ stack, ActiveStack ctx target ports stack ∧
      stack.length = (submittedPairs target ports).length + 1 := by
  have hqueue : (queued ctx target ports).queue.length = (submittedPairs target ports).length := by
    rw [submittedPairs, ← map_key_items, List.length_map]
    rfl
  have hpoised : Poised ctx (queued ctx target ports) := {
    timing := by
      show (if ctx.config.adaptiveTiming then _ else none) = none
      rw [hfixed]
      rfl
    status := rfl
    pending := rfl
    id_pos := by
      show 0 < (1 : UInt64).toNat
      decide
    id_lt := by
      rw [hqueue, Nat.add_comm]
      exact hcount
    items := by
      intro work hwork
      obtain ⟨host, hhost, hitem⟩ := List.mem_flatMap.mp hwork
      obtain ⟨port, hport, rfl⟩ := List.mem_map.mp hitem
      obtain ⟨htcp, hnumber⟩ := haccept.ports_valid port hport
      exact ⟨htcp, hnumber, haddress host hhost, hvalid host hhost⟩ }
  obtain ⟨stack, hchain, hlength⟩ := hprompt.chain hpoised
  refine ⟨_ :: stack, ⟨?_, hchain⟩, congrArg Nat.succ (hlength.trans hqueue)⟩
  rintro s ⟨⟩
  exact .submission haccept hvalid

end

end Prompt

/-- An engine and a transport that accept everything and connect at once. Timer identifiers wrap
past zero. -/
def promptEnvironment : Environment where
  now trace := trace.length
  schedule trace _ := UInt64.ofNat (trace.length % (2 ^ 64 - 1) + 1)
  submit trace submission :=
    { status := .ok
      responses :=
        [{ id := submission.id, sourceAddress := submission.target, kind := .connected,
           receivedAt := trace.length }] }

/-- A connect scan with one attempt in flight at a time. -/
def promptContext : SchedulerContext where
  inet := ipv4OnlyInet
  environment := promptEnvironment
  config := { maxOutstanding := 1 }
  probe := some (tcpConnectProbe ipv4OnlyInet)

theorem prompt_promptContext : Prompt promptContext where
  method := rfl
  probe := rfl
  room := by decide
  timers trace delay := by
    intro hzero
    have hsize : trace.length % (2 ^ 64 - 1) + 1 < UInt64.size :=
      Nat.succ_lt_succ (Nat.mod_lt _ (by decide))
    have hnat := congrArg UInt64.toNat hzero
    rw [show promptContext.environment.schedule trace delay =
      UInt64.ofNat (trace.length % (2 ^ 64 - 1) + 1) from rfl,
      UInt64.toNat_ofNat_of_lt' hsize] at hnat
    exact Nat.succ_ne_zero _ hnat
  clock e trace := by
    show ((trace.length : ℕ) : ℤ) ≤ ((trace.length + 1 : ℕ) : ℤ)
    omega
  accepts _ _ := rfl
  connects _ _ := rfl

/-- Three ports on one host. -/
def threePorts : List Port := [⟨22, .tcp⟩, ⟨80, .tcp⟩, ⟨443, .tcp⟩]

/-- With one attempt in flight at a time, four activations at once. -/
theorem activeStack_threePorts :
    ∃ stack, ActiveStack promptContext { resolvedHosts := [tenNet 1] } threePorts stack ∧
      stack.length = 4 :=
  prompt_promptContext.activations_attained ⟨by decide, by decide, by decide, by decide⟩
    (by decide) (by decide) rfl (by decide)

/-- Those four are active at once, and as many as there may be. -/
theorem activations_bounded_threePorts :
    ∃ stack, ActiveStack promptContext { resolvedHosts := [tenNet 1] } threePorts stack ∧
      stack.length = 4 ∧
      stack.length ≤ (submittedPairs { resolvedHosts := [tenNet 1] } threePorts).length + 1 := by
  obtain ⟨stack, hactive, hlength⟩ := activeStack_threePorts
  exact ⟨stack, hactive, hlength, activations_bounded promptContext _ _ hactive⟩

/-- The parallelism limit does not bound the nesting. -/
theorem not_activations_le_maxOutstanding :
    ¬ ∀ (ctx : SchedulerContext) (target : Target) (ports : List Port)
        (stack : List PortScanScheduler), ActiveStack ctx target ports stack →
      stack.length ≤ ctx.config.maxOutstanding + 1 := by
  intro hbounded
  obtain ⟨stack, hactive, hlength⟩ := activeStack_threePorts
  have hle := hbounded _ _ _ _ hactive
  rw [hlength] at hle
  exact absurd hle (by decide)

end PortScanScheduler

end Skan.PortScan
