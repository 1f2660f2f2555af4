import Skan.Library.Flow
import Skan.PortScan.Actions
import Skan.PortScan.TcpConnect

/-!
# The port scan scheduler conserves its work

The scheduler's four containers, seen as locations of (host address, port) pairs, refine the flow of
`Skan.Library.Flow`: every action of the board is one move of one pair along the edges of
`Location.Edge`, and putting a retry back is another. Conservation and the finality of results then
come from the library, and no proof here speaks of the whole of the work.

`work_conserved` is the result for the users of the scheduler: after a submission, and whatever
events follow, every submitted pair is in exactly one container.
-/

namespace Skan.PortScan

open Skan.Core Skan.ScanEngine Flow

/-- The containers of the scheduler. -/
inductive Location where
  | queue
  | pending
  | deferredRetries
  | results
  deriving DecidableEq

instance : Fintype Location where
  elems := {.queue, .pending, .deferredRetries, .results}
  complete := by rintro (_ | _ | _ | _) <;> decide

/-- Where a pair can go from each container. Nothing leaves the results. -/
inductive Location.Edge : Location → Location → Prop
  | start : Edge .queue .pending
  | reject : Edge .queue .results
  | retryLater : Edge .pending .deferredRetries
  | publish : Edge .pending .results
  | retryNow : Edge .deferredRetries .queue

namespace Board

variable {b b' : Board} {id : PortProbeId} {id : RetryId}

/-- The pairs in each container. -/
def holding (b : Board) : Holding Location (Text × Port)
  | .queue => b.queue.map WorkItem.key
  | .pending => b.pending.values.map fun pending ↦ pending.work.key
  | .deferredRetries => b.deferredRetries.values.map fun retry ↦ retry.work.key
  | .results => b.results.map PortResult.key

/-! ### Taking a pair out, putting a pair in -/

theorem holding_publish {result : PortResult} {key : Text × Port} (hkey : result.key = key)
    (hresults : b'.results = b.results ++ [result]) (hqueue : b'.queue = b.queue)
    (hpending : b'.pending = b.pending) (hdeferred : b'.deferredRetries = b.deferredRetries) :
    b'.holding = b.holding + Pi.single .results {key} := by
  refine eq_add_single Location.results key ?_ ?_
  · show Multiset.ofList (b'.results.map PortResult.key) = _
    rw [hresults, List.map_append, ← Multiset.coe_add, add_comm, ← hkey]
    rfl
  · rintro (_ | _ | _ | _) h
    · simp only [holding, hqueue]
    · simp only [holding, hpending]
    · simp only [holding, hdeferred]
    · exact absurd rfl h

theorem holding_dequeue {work : WorkItem} {queue : List WorkItem} (h : b.queue = work :: queue) :
    b.holding = { b with queue }.holding + Pi.single .queue {work.key} := by
  refine eq_add_single Location.queue work.key ?_ ?_
  · show Multiset.ofList (b.queue.map WorkItem.key) = _
    rw [h]
    rfl
  · rintro (_ | _ | _ | _) h <;> first | rfl | exact absurd rfl h

theorem holding_insertPending (pending : Pending) (hfresh : id ∉ b.pending) :
    { b with pending := b.pending.insert id pending }.holding =
      b.holding + Pi.single .pending {pending.work.key} := by
  refine eq_add_single Location.pending pending.work.key ?_ ?_
  · simp only [holding, AList.values_insert pending hfresh, List.map_cons, Multiset.cons_coe]
  · rintro (_ | _ | _ | _) h <;> first | rfl | exact absurd rfl h

theorem holding_erasePending {pending : Pending} (h : b.pending.lookup id = some pending) :
    b.holding = { b with pending := b.pending.erase id }.holding +
      Pi.single .pending {pending.work.key} := by
  refine eq_add_single Location.pending pending.work.key ?_ ?_
  · exact Multiset.coe_eq_coe.mpr ((AList.values_of_lookup h).map fun pending ↦ pending.work.key)
  · rintro (_ | _ | _ | _) h <;> first | rfl | exact absurd rfl h

theorem holding_insertDeferred (retry : DeferredRetry) (hfresh : id ∉ b.deferredRetries) :
    { b with deferredRetries := b.deferredRetries.insert id retry }.holding =
      b.holding + Pi.single .deferredRetries {retry.work.key} := by
  refine eq_add_single Location.deferredRetries retry.work.key ?_ ?_
  · simp only [holding, AList.values_insert retry hfresh, List.map_cons, Multiset.cons_coe]
  · rintro (_ | _ | _ | _) h <;> first | rfl | exact absurd rfl h

theorem holding_eraseDeferred {retry : DeferredRetry}
    (h : b.deferredRetries.lookup id = some retry) :
    b.holding = { b with deferredRetries := b.deferredRetries.erase id }.holding +
      Pi.single .deferredRetries {retry.work.key} := by
  refine eq_add_single Location.deferredRetries retry.work.key ?_ ?_
  · exact Multiset.coe_eq_coe.mpr ((AList.values_of_lookup h).map fun retry ↦ retry.work.key)
  · rintro (_ | _ | _ | _) h <;> first | rfl | exact absurd rfl h

theorem observe_work (pending : Pending) (state : PortState) (reason : ScanReason)
    (at_ : TimePoint) : (Pending.observe pending state reason at_).work = pending.work := by
  unfold Pending.observe
  split
  · rfl
  · split <;> rfl

/-- Evidence recorded on an attempt leaves every pair where it is. -/
theorem holding_observe {pending : Pending} (h : b.pending.lookup id = some pending)
    (state : PortState) (reason : ScanReason) (at_ : TimePoint) :
    { b with pending := b.pending.replace id (Pending.observe pending state reason at_) }.holding =
      b.holding := by
  funext location
  cases location <;> try rfl
  refine Multiset.coe_eq_coe.mpr (AList.map_values_replace (fun p : Pending ↦ p.work.key) h ?_)
  rw [observe_work]

/-! ### Actions are moves -/

variable {ctx : SchedulerContext}

/-- **Every action** moves at most one pair, along one edge. -/
theorem moves_of_action (h : Action ctx b b') : Moves Location.Edge b.holding b'.holding := by
  cases h with
  | reject hstatus hqueue hkey hstate =>
    exact Moves.single .reject (holding_dequeue hqueue) (holding_publish hkey rfl rfl rfl rfl)
  | rejectFailing hstatus hqueue hkey hstate hfailed =>
    exact Moves.single .reject (holding_dequeue hqueue) (holding_publish hkey rfl rfl rfl rfl)
  | refuse hstatus hqueue hkey hstate hfailed =>
    exact Moves.single .reject (holding_dequeue hqueue) (holding_publish hkey rfl rfl rfl rfl)
  | start hstatus hqueue hfresh hwork =>
    subst hwork
    exact Moves.single .start (holding_dequeue hqueue)
      (holding_insertPending (b := { b with queue := _ }) _ hfresh)
  | observe state reason at_ hlookup => rw [holding_observe hlookup]
  | publish hlookup htiming hkey =>
    exact Moves.single .publish (holding_erasePending hlookup)
      (holding_publish hkey rfl rfl rfl rfl)
  | @defer id pending retryId retry timing hlookup htiming hfresh hkey =>
    refine Moves.single .retryLater (holding_erasePending hlookup) ?_
    rw [← hkey]
    exact holding_insertDeferred (b := { b with pending := b.pending.erase id }) retry hfresh
  | deferFailing hlookup htiming hkey hstate hfailed =>
    exact Moves.single .publish (holding_erasePending hlookup)
      (holding_publish hkey rfl rfl rfl rfl)

theorem moves_of_actions (h : Actions ctx b b') : Moves Location.Edge b.holding b'.holding := by
  induction h with
  | refl => exact .refl
  | tail _ hstep ih => exact ih.trans (moves_of_action hstep)

/-- Putting a retry back is a move as well. -/
theorem moves_requeue {retry : DeferredRetry} (h : b.deferredRetries.lookup id = some retry) :
    Moves Location.Edge b.holding (b.requeue id retry).holding :=
  Moves.single .retryNow (holding_eraseDeferred h) (holding_dequeue rfl)

end Board

namespace PortScanScheduler

/-- The pairs in each container of the scheduler. -/
def holding (s : PortScanScheduler) : Holding Location (Text × Port) := s.board.holding

variable (ctx : SchedulerContext)

/-- **Every event** is a sequence of moves. -/
theorem moves_step (s : PortScanScheduler) (event : Event) :
    Moves Location.Edge s.holding (step ctx s event).holding := by
  cases event with
  | receive response => exact Board.moves_of_actions (actions_receive ctx response s)
  | onTimeout id => exact Board.moves_of_actions (actions_onTimeout ctx id s)
  | onRetryReady id =>
    obtain ⟨-, hsame⟩ | ⟨retry, hlookup, hactions⟩ := actions_onRetryReady ctx id s
    · show Moves Location.Edge s.holding (onRetryReady ctx id s).holding
      rw [hsame]
    · exact (Board.moves_requeue (b := s.board) hlookup).trans (Board.moves_of_actions hactions)
  | pump => exact Board.moves_of_actions (actions_pump ctx s)

theorem moves_run (s : PortScanScheduler) (events : List Event) :
    Moves Location.Edge s.holding (Runs.run (step ctx) s events).holding :=
  Runs.run_related (R := fun a b ↦ Moves Location.Edge a.holding b.holding) (fun _ ↦ .refl)
    (fun {a b c} (h : Moves _ a.holding b.holding) (h' : Moves _ b.holding c.holding) ↦ h.trans h')
    (moves_step ctx) s events

/-! ### Submission -/

/-- The pairs a submission asks about. -/
def submittedPairs (target : Target) (ports : List Port) : List (Text × Port) :=
  target.resolvedHosts.map Host.address ×ˢ ports

/-- Queueing valid hosts. -/
theorem foldl_submitHost (ports : List Port) (hosts : List Host)
    (hvalid : ∀ host ∈ hosts, validHostAddress ctx.inet host) (s : PortScanScheduler) :
    hosts.foldl (submitHost ctx ports) s =
      { s with
        queue := s.queue ++ hosts.flatMap fun host ↦ ports.map fun port ↦ { host, port } } := by
  induction hosts generalizing s with
  | nil => simp
  | cons host hosts ih =>
    rw [List.foldl_cons, ih (fun h hh ↦ hvalid h (List.mem_cons_of_mem _ hh))]
    simp [submitHost, hvalid host List.mem_cons_self]

theorem sum_location {M : Type*} [AddCommMonoid M] (f : Location → M) :
    ∑ location, f location =
      f .queue + (f .pending + (f .deferredRetries + f .results)) := by
  show ∑ location ∈ {.queue, .pending, .deferredRetries, .results}, f location = _
  simp

/-- The queue of a submission is its pairs, in the order of the hosts and then of the ports. -/
theorem map_key_items (hosts : List Host) (ports : List Port) :
    (hosts.flatMap fun host ↦ ports.map fun port ↦ ({ host, port } : WorkItem)).map WorkItem.key =
      hosts.map Host.address ×ˢ ports := by
  induction hosts with
  | nil => rfl
  | cons host hosts ih =>
    rw [List.flatMap_cons, List.map_append, ih, List.map_cons, List.product_cons, List.map_map]
    rfl

variable {ctx} {target : Target} {ports : List Port}

/-- A submission that a fresh scheduler does not refuse: a valid configuration, some hosts, and some
valid ports. -/
structure Acceptable (ctx : SchedulerContext) (target : Target) (ports : List Port) : Prop where
  config : (create ctx).validateConfig ctx = .ok
  ports_ne_nil : ports ≠ []
  hosts_ne_nil : target.resolvedHosts ≠ []
  ports_valid : ∀ port ∈ ports, port.protocol = .tcp ∧ port.number ≠ 0

/-- An acceptable submission runs the loop over the hosts, and pumps unless a host was invalid. -/
theorem Acceptable.submit_eq (h : Acceptable ctx target ports) :
    (submit ctx target ports (create ctx)).2 =
      let s := target.resolvedHosts.foldl (submitHost ctx ports)
        { create ctx with submitted := true }
      stopIfIdle (if s.status = .ok then pump ctx s else { s with queue := [] }) := by
  have hfresh : (create ctx).submitted = false := rfl
  have hany : ports.any (fun port ↦ port.protocol ≠ .tcp || port.number = 0) = false := by
    rw [List.any_eq_false]
    intro port hport
    obtain ⟨htcp, hnumber⟩ := h.ports_valid port hport
    simp [htcp, hnumber]
  have hports := h.ports_ne_nil
  have hhosts := h.hosts_ne_nil
  unfold submit
  rw [hfresh, if_neg (by decide), if_neg (by rw [h.config]; decide), if_neg (by rw [hany]; tauto)]

variable (ctx target ports) in
/-- The scheduler that has queued valid hosts and is about to pump. -/
def queued : PortScanScheduler :=
  { create ctx with
    submitted := true
    queue := target.resolvedHosts.flatMap fun host ↦ ports.map fun port ↦ { host, port } }

/-- The submission of valid hosts queues them and pumps. -/
theorem Acceptable.submit_eq_pump (h : Acceptable ctx target ports)
    (hvalid : ∀ host ∈ target.resolvedHosts, validHostAddress ctx.inet host) :
    (submit ctx target ports (create ctx)).2 = stopIfIdle (pump ctx (queued ctx target ports)) := by
  have hstatus : (create ctx).status = .ok := rfl
  rw [h.submit_eq, foldl_submitHost ctx ports _ hvalid]
  dsimp only
  rw [if_pos hstatus]
  rfl

/-- What a fresh scheduler holds once it has accepted valid hosts and ports: the submitted pairs. -/
theorem total_submit
    (hconfig : (create ctx).validateConfig ctx = .ok)
    (hvalid : ∀ host ∈ target.resolvedHosts, validHostAddress ctx.inet host)
    (hports : ∀ port ∈ ports, port.protocol = .tcp ∧ port.number ≠ 0) :
    ∑ location, (submit ctx target ports (create ctx)).2.holding location =
      submittedPairs target ports := by
  by_cases hempty : ports = [] ∨ target.resolvedHosts = []
  · -- nothing is asked about, and the submission is refused
    have hpairs : submittedPairs target ports = [] := by
      rcases hempty with hnil | hnil <;> simp [submittedPairs, hnil]
    have hfresh : (create ctx).submitted = false := rfl
    rw [hpairs, sum_location]
    unfold submit
    rw [hfresh, if_neg (by decide), if_neg (by rw [hconfig]; decide), if_pos (by tauto)]
    rfl
  · have hmoves := Board.moves_of_actions (actions_pump ctx (queued ctx target ports))
    have haccept : Acceptable ctx target ports :=
      ⟨hconfig, fun h ↦ hempty (.inl h), fun h ↦ hempty (.inr h), hports⟩
    rw [haccept.submit_eq_pump hvalid, holding, board_stopIfIdle, hmoves.total_eq, sum_location]
    show Multiset.ofList ((queued ctx target ports).queue.map WorkItem.key) + (0 + (0 + 0)) = _
    rw [queued, map_key_items, add_zero, add_zero, add_zero]
    rfl

/-- **Work conservation.** Once a fresh scheduler has accepted valid, distinct hosts and ports,
every (host, port) pair is at every moment of every run in exactly one of `queue_`, `pending_`,
`deferred_retries_` and `results_`, and there once; so when the scan is complete the results are
exactly one per submitted pair.

Nothing is assumed of the engine and the transport: they may refuse, and call back early. -/
theorem work_conserved (hconfig : (create ctx).validateConfig ctx = .ok)
    (hvalid : ∀ host ∈ target.resolvedHosts, validHostAddress ctx.inet host)
    (hports : ∀ port ∈ ports, port.protocol = .tcp ∧ port.number ≠ 0)
    (hhosts : (target.resolvedHosts.map Host.address).Nodup) (hnodup : ports.Nodup)
    (events : List Event) :
    let s := Runs.run (step ctx) (submit ctx target ports (create ctx)).2 events
    (∀ pair ∈ submittedPairs target ports, ∃! location, pair ∈ s.holding location) ∧
      (∀ location pair, (s.holding location).count pair ≤ 1) ∧
      (s.complete → (s.results.map PortResult.key).Perm (submittedPairs target ports)) := by
  intro s
  have htotal : ∑ location, s.holding location = submittedPairs target ports :=
    (moves_run ctx _ events).total_eq.trans (total_submit hconfig hvalid hports)
  have hpairs : (submittedPairs target ports : Multiset (Text × Port)).Nodup :=
    Multiset.coe_nodup.mpr (hhosts.product hnodup)
  refine ⟨fun pair hpair ↦ existsUnique_location htotal hpairs (Multiset.mem_coe.mpr hpair),
    fun location pair ↦ count_le_one htotal hpairs location pair, fun hcomplete ↦ ?_⟩
  -- a complete scheduler holds nothing outside its results
  obtain ⟨-, hqueue, hpending, hdeferred⟩ := of_decide_eq_true hcomplete
  rw [← AList.values_eq_nil_iff] at hpending hdeferred
  rw [sum_location] at htotal
  simp only [holding, board, Board.holding, hqueue, hpending, hdeferred, List.map_nil,
    Multiset.coe_nil, zero_add] at htotal
  exact Multiset.coe_eq_coe.mp htotal

/-- A C library without IPv6 and without interfaces. -/
def ipv4OnlyInet : Inet where
  ntop6 _ := []
  pton6 _ := none
  ifNametoindex _ := 0

/-- An engine and a transport that accept everything, with a clock that ticks once per call. -/
def acceptingEnvironment : Environment where
  now trace := trace.length
  schedule trace _ := UInt64.ofNat (trace.length + 1)
  submit _ _ := { status := .ok }

def acceptingContext : SchedulerContext where
  inet := ipv4OnlyInet
  environment := acceptingEnvironment
  config := {}
  probe := some (tcpConnectProbe ipv4OnlyInet)

/-- The host 10.0.0.`n`. -/
def tenNet (n : UInt8) : Host where
  address := inetNtop4 (0x0A000000 + n.toUInt32)
  ipAddress := .fromIpv4 (0x0A000000 + n.toUInt32)

/-- Two hosts, two ports, a connection and a timeout. -/
theorem work_conserved_twoHosts :
    let s := Runs.run (step acceptingContext)
      (submit acceptingContext { resolvedHosts := [tenNet 1, tenNet 2] } [⟨22, .tcp⟩, ⟨80, .tcp⟩]
        (create acceptingContext)).2
      [.receive { id := 2, kind := .connected, receivedAt := 100 }, .onTimeout 1]
    (∀ pair ∈ submittedPairs { resolvedHosts := [tenNet 1, tenNet 2] } [⟨22, .tcp⟩, ⟨80, .tcp⟩],
        ∃! location, pair ∈ s.holding location) ∧
      (∀ location pair, (s.holding location).count pair ≤ 1) ∧
      (s.complete → (s.results.map PortResult.key).Perm
        (submittedPairs { resolvedHosts := [tenNet 1, tenNet 2] } [⟨22, .tcp⟩, ⟨80, .tcp⟩])) :=
  work_conserved (by decide) (by decide) (by decide) (by decide) (by decide) _

end PortScanScheduler

end Skan.PortScan
