import Skan.Discovery.Actions
import Skan.Library.Flow

/-!
# What a discovery scheduler holds

The three containers of `DiscoveryScheduler` as locations of (host address, probe type) pairs: an
action moves at most one pair (`moves_of_action`), so none is lost and none is answered twice.

A probe is entered with `emplace`, which does nothing when its identifier is taken. So what is moved
depends on the next identifier not being in flight.
-/

namespace Skan.Discovery

open Skan.Core Skan.PortScan Flow

/-- The containers of the scheduler. -/
inductive Location where
  | queue
  | pending
  | results
  deriving DecidableEq

instance : Fintype Location where
  elems := {.queue, .pending, .results}
  complete := by rintro (_ | _ | _) <;> decide

/-- Where a pair can go from each container. Nothing leaves the results. -/
inductive Location.Edge : Location → Location → Prop
  | start : Edge .queue .pending
  | reject : Edge .queue .results
  | publish : Edge .pending .results

namespace DiscoveryScheduler

variable {τ : Type} {host : Host}

/-- The pairs in each container. -/
def holding (s : DiscoveryScheduler τ) : Holding Location (Text × ProbeType)
  | .queue => s.workQueue.map WorkItem.key
  | .pending => s.pending.values.map PendingProbe.key
  | .results => s.results.map DiscoveryResult.key

theorem sum_location {M : Type*} [AddCommMonoid M] (f : Location → M) :
    ∑ location, f location = f .queue + (f .pending + f .results) := by
  show ∑ location ∈ {.queue, .pending, .results}, f location = _
  simp

/-- The number of pairs in all containers. -/
def load (s : DiscoveryScheduler τ) : ℕ := s.workQueue.length + s.pending.size + s.results.length

theorem card_total (s : DiscoveryScheduler τ) :
    (∑ location, s.holding location).card = s.load := by
  rw [sum_location, Multiset.card_add, Multiset.card_add]
  simp [holding, load, AList.length_values, Nat.add_assoc]

/-! ### Taking a pair out, putting a pair in -/

variable {ctx : Context τ} {s s' : DiscoveryScheduler τ}

theorem holding_dequeue {item : WorkItem} {workQueue : List WorkItem}
    (h : s.workQueue = item :: workQueue) :
    s.holding = { s with workQueue }.holding + Pi.single .queue {item.key} := by
  refine eq_add_single Location.queue item.key ?_ ?_
  · show Multiset.ofList (s.workQueue.map WorkItem.key) = _
    rw [h]
    rfl
  · rintro (_ | _ | _) h <;> first | rfl | exact absurd rfl h

theorem holding_erase {id : ProbeId} {pending : PendingProbe}
    (h : s.pending.lookup id = some pending) :
    s.holding = { s with pending := s.pending.erase id }.holding +
      Pi.single .pending {pending.key} := by
  refine eq_add_single Location.pending pending.key ?_ ?_
  · exact Multiset.coe_eq_coe.mpr ((AList.values_of_lookup h).map PendingProbe.key)
  · rintro (_ | _ | _) h <;> first | rfl | exact absurd rfl h

/-- One result more, and otherwise the same work. -/
structure Published (key : Text × ProbeType) (s s' : DiscoveryScheduler τ) : Prop where
  workQueue : s'.workQueue = s.workQueue
  pending : s'.pending = s.pending
  nextProbeId : s'.nextProbeId = s.nextProbeId
  results : ∃ result : DiscoveryResult, result.key = key ∧ s'.results = s.results ++ [result]

namespace Published

variable {key : Text × ProbeType}

theorem holding (h : Published key s s') :
    s'.holding = s.holding + Pi.single .results {key} := by
  obtain ⟨result, hkey, hresults⟩ := h.results
  refine eq_add_single Location.results key ?_ ?_
  · show Multiset.ofList (s'.results.map DiscoveryResult.key) = _
    rw [hresults, List.map_append, ← Multiset.coe_add, add_comm, ← hkey]
    rfl
  · rintro (_ | _ | _) hother
    · simp only [DiscoveryScheduler.holding, h.workQueue]
    · simp only [DiscoveryScheduler.holding, h.pending]
    · exact absurd rfl hother

end Published

/-! ### What an action moves -/

/-- A started item goes in flight under an identifier that is not in use. -/
theorem holding_start {workQueue : List WorkItem} {entered : PendingProbe}
    (hfresh : s.nextProbeId ∉ s.pending) (transport : τ) (trace : List Effect) :
    holding
        { s.taken workQueue with
          pending := (s.pending.emplace s.nextProbeId entered).getD s.pending, transport, trace } =
      { s with workQueue }.holding + Pi.single .pending {entered.key} := by
  rw [AList.emplace, if_neg hfresh, Option.getD_some]
  refine eq_add_single Location.pending entered.key ?_ ?_
  · show Multiset.ofList ((s.pending.insert s.nextProbeId entered).values.map _) = _
    rw [AList.values_insert entered hfresh, List.map_cons]
    rfl
  · rintro (_ | _ | _) h <;> first | rfl | exact absurd rfl h

/-- **An action moves at most one pair**, as long as the next identifier is not in use and every
queued item is of a configured type. -/
theorem moves_of_action
    (hfresh : ∀ item workQueue, s.workQueue = item :: workQueue → s.nextProbeId ∉ s.pending)
    (htypes : ∀ item ∈ s.workQueue, item.type ∈ ctx.config.probes) (h : Action ctx s s') :
    Moves Location.Edge s.holding s'.holding := by
  cases h with
  | idle => exact .refl
  | @skip item workQueue hqueue hnone =>
    rw [probeFor_of_mem (htypes item (hqueue ▸ List.mem_cons_self))] at hnone
    exact nomatch hnone
  | @reject item workQueue result transport evidence trace hqueue hkey =>
    exact Moves.single .reject (holding_dequeue hqueue)
      (Published.holding (s := s.taken workQueue) ⟨rfl, rfl, rfl, result, hkey, rfl⟩)
  | @start item workQueue entered transport trace hqueue hkey =>
    exact Moves.single .start (holding_dequeue hqueue)
      (hkey ▸ holding_start (hfresh item workQueue hqueue) transport trace)
  | @complete id pending result evidence trace hlookup hkey =>
    exact Moves.single .publish (holding_erase hlookup)
      (Published.holding (s := { s with pending := s.pending.erase id })
        ⟨rfl, rfl, rfl, result, hkey, rfl⟩)
  | @expire id pending result evidence trace hlookup hkey =>
    exact Moves.single .publish (holding_erase hlookup)
      (Published.holding (s := { s with pending := s.pending.erase id })
        ⟨rfl, rfl, rfl, result, hkey, rfl⟩)
  | stop => exact .refl

/-! ### Identifiers and hosts -/

/-- Identifiers go up by one, as long as they do not wrap. -/
theorem toNat_nextId {id : ProbeId} (h : id.toNat + 1 < UInt64.size) :
    (nextId id).toNat = id.toNat + 1 := by
  have hsum : (id + 1).toNat = id.toNat + 1 := by
    rw [UInt64.toNat_add]
    exact Nat.mod_eq_of_lt h
  have hne : id + 1 ≠ 0 := by
    intro hzero
    rw [hzero] at hsum
    exact absurd hsum (by simp)
  rw [nextId, if_neg hne, hsum]

/-- The pairs of a host. -/
def pairsOf (ctx : Context τ) (host : Host) : List (Text × ProbeType) :=
  ctx.config.probes.map fun type ↦ (host.address, type)

theorem requested_eq : requested ctx = ctx.config.probes.length := by
  rw [requested, List.filter_eq_self.mpr]
  intro type htype
  rw [probeFor_of_mem htype]
  rfl

theorem total_enqueue (target : Target) (host : Host) :
    ∑ location, holding
        { s with
          workQueue := s.workQueue ++ ctx.config.probes.map fun type ↦ { target, host, type } }
        location =
      ∑ location, s.holding location + pairsOf ctx host := by
  rw [sum_location, sum_location]
  have hpairs : (ctx.config.probes.map fun type ↦ ({ target, host, type } : WorkItem)).map
      WorkItem.key = pairsOf ctx host := by
    rw [List.map_map]
    rfl
  simp only [holding, List.map_append, hpairs, ← Multiset.coe_add]
  rw [add_right_comm]

/-! ### The results of distinct hosts -/

theorem filter_pairsOf_self {h : Host} (heq : h.address = host.address) :
    (pairsOf ctx h).filter (fun pair ↦ pair.1 = host.address) = pairsOf ctx host := by
  rw [pairsOf, pairsOf, heq, List.filter_eq_self.mpr]
  intro pair hpair
  obtain ⟨type, -, rfl⟩ := List.mem_map.mp hpair
  exact decide_eq_true rfl

theorem filter_pairsOf_ne {h : Host} (hne : h.address ≠ host.address) :
    (pairsOf ctx h).filter (fun pair ↦ pair.1 = host.address) = [] := by
  rw [List.filter_eq_nil_iff]
  intro pair hpair
  obtain ⟨type, -, rfl⟩ := List.mem_map.mp hpair
  simpa using hne

/-- The pairs of one host, among those of a list of distinct hosts. -/
theorem filter_flatMap_pairsOf {hosts : List Host} (hnodup : (hosts.map Host.address).Nodup)
    (hhost : host ∈ hosts) :
    (hosts.flatMap (pairsOf ctx)).filter (fun pair ↦ pair.1 = host.address) =
      pairsOf ctx host := by
  induction hosts with
  | nil => exact absurd hhost List.not_mem_nil
  | cons first hosts ih =>
    rw [List.map_cons, List.nodup_cons] at hnodup
    rw [List.flatMap_cons, List.filter_append]
    rcases List.mem_cons.mp hhost with rfl | hlater
    · have hrest : (hosts.flatMap (pairsOf ctx)).filter (fun pair ↦ pair.1 = host.address) =
          [] := by
        rw [List.filter_flatMap, List.flatMap_eq_nil_iff]
        exact fun h hh ↦ filter_pairsOf_ne fun heq ↦
          hnodup.1 (heq ▸ List.mem_map_of_mem hh)
      rw [filter_pairsOf_self rfl, hrest, List.append_nil]
    · have hne : first.address ≠ host.address := fun heq ↦
        hnodup.1 (heq ▸ List.mem_map_of_mem hlater)
      rw [filter_pairsOf_ne hne, List.nil_append]
      exact ih hnodup.2 hlater

/-- The results about a host, when the results are those of distinct hosts. -/
theorem perm_of_results {hosts : List Host} (hnodup : (hosts.map Host.address).Nodup)
    {results : List DiscoveryResult}
    (hkeys : (results.map DiscoveryResult.key).Perm (hosts.flatMap (pairsOf ctx)))
    (hhost : host ∈ hosts) :
    ((results.filter fun result ↦ result.target = host.address).map DiscoveryResult.probe).Perm
      ctx.config.probes := by
  have hfiltered := hkeys.filter fun pair ↦ pair.1 = host.address
  rw [filter_flatMap_pairsOf hnodup hhost, List.filter_map] at hfiltered
  have hprobes := hfiltered.map Prod.snd
  rw [List.map_map, pairsOf, List.map_map] at hprobes
  exact hprobes.trans (by simp [Function.comp_def])

/-- A complete scheduler holds nothing outside its results. -/
theorem keys_of_complete (hcomplete : s.complete) :
    ∑ location, s.holding location = s.results.map DiscoveryResult.key := by
  obtain ⟨hpending, hqueue⟩ := of_decide_eq_true hcomplete
  rw [sum_location]
  simp [holding, hqueue, AList.values_eq_nil_iff.mpr hpending]

/-! ### A local network -/

/-- The host 10.0.0.`n`. -/
def lanHost (n : UInt8) : Host where
  address := inetNtop4 (0x0A000000 + n.toUInt32)
  ipAddress := .fromIpv4 (0x0A000000 + n.toUInt32)

/-- TCP probes over an engine and a transport that accept everything. -/
def tcpOnly (maxOutstanding : UInt64) : Context Unit where
  inet := { ntop6 := fun _ ↦ [], pton6 := fun _ ↦ none, ifNametoindex := fun _ ↦ 0 }
  environment :=
    { now := fun trace ↦ trace.length + 1
      schedule := fun _ _ ↦ 1
      submit := fun _ _ transport ↦ (.ok, transport) }
  config := { probes := [.tcp], maxOutstanding }

end DiscoveryScheduler

end Skan.Discovery
