import Skan.Discovery.Conservation

/-!
# Discovery covers the hosts it admits

`max_outstanding` bounds what is **admitted**, not only what is in flight: `submit_host` refuses a
host whose probes go beyond it, although a queue and a pump are there to work them off. Where there
is room for all probes together every host is covered, whatever the transport and the engine do
(`covered`).

## The exact condition

With a transport and an engine that take everything, a probe that can be built stays in flight while
the hosts are submitted, and one that cannot has its result at once. So the last host is the one
that decides: `covers_iff` asks for room for its probes beside those of the other hosts that can be
built. Where all can be built this is room for all probes (`room_iff_of_built`).
-/

namespace Skan.Discovery

open Skan.Core Skan.PortScan Flow

namespace DiscoveryScheduler

variable {τ : Type} {ctx : Context τ} {s : DiscoveryScheduler τ} {target : Target} {asked : ℕ}
  {hosts : List Host}

/-- What `submit_host` queues for a host. -/
def itemsOf (ctx : Context τ) (target : Target) (host : Host) : List WorkItem :=
  ctx.config.probes.map fun type ↦ { target, host, type }

/-- Whether the probe of an item can be built under an identifier. -/
def builds (ctx : Context τ) (id : ProbeId) (item : WorkItem) : Bool :=
  ((probeOf ctx.inet item.type).build id item.host ctx.config).isOk

/-- How many of these probes can be built, under identifiers from `id` on. -/
def built (ctx : Context τ) : ProbeId → List WorkItem → ℕ
  | _, [] => 0
  | id, item :: items => (builds ctx id item).toNat + built ctx (nextId id) items

/-- A submission to a new scheduler covers its hosts: it is accepted, and once the scheduler is
complete every host has exactly one result for each configured probe. -/
def Covers (ctx : Context τ) (target : Target) (transport : τ) : Prop :=
  (submit ctx target (create transport)).1 = .ok ∧
    ∀ events,
      let s := Runs.run (step ctx) (submit ctx target (create transport)).2 events
      s.complete → ∀ host ∈ target.resolvedHosts,
        ((s.results.filter fun result ↦ result.target = host.address).map
          DiscoveryResult.probe).Perm ctx.config.probes

/-- What a scheduler must have been configured with to accept anything. -/
structure Usable (ctx : Context τ) : Prop where
  timeout_pos : 0 < ctx.config.timeout
  probes_ne_nil : ctx.config.probes ≠ []

/-- There is room for the probes of the last host beside those of the others that can be built. -/
def Room (ctx : Context τ) (target : Target) : Prop :=
  built ctx 1 (target.resolvedHosts.dropLast.flatMap (itemsOf ctx target)) +
    ctx.config.probes.length ≤ ctx.config.maxOutstanding.toNat

instance (ctx : Context τ) (target : Target) : Decidable (Room ctx target) :=
  inferInstanceAs (Decidable (_ ≤ _))

/-! ### Probes that can be built -/

/-- No more can be built than there are. -/
theorem built_le (id : ProbeId) (items : List WorkItem) : built ctx id items ≤ items.length := by
  induction items generalizing id with
  | nil => exact le_rfl
  | cons item items ih =>
    have hone := Bool.toNat_le (builds ctx id item)
    have hrest := ih (nextId id)
    rw [built, List.length_cons]
    omega

/-- Where all can be built, all are counted. -/
theorem built_eq_length {items : List WorkItem} (h : ∀ id, ∀ item ∈ items, builds ctx id item)
    (id : ProbeId) : built ctx id items = items.length := by
  induction items generalizing id with
  | nil => rfl
  | cons item items ih =>
    have hrest := ih (fun id i hi ↦ h id i (List.mem_cons_of_mem item hi)) (nextId id)
    rw [built, h id item List.mem_cons_self, hrest, List.length_cons, Nat.add_comm]
    rfl

theorem length_itemsOf (host : Host) :
    (itemsOf ctx target host).length = ctx.config.probes.length :=
  List.length_map _

theorem length_flatMap_itemsOf (hosts : List Host) :
    (hosts.flatMap (itemsOf ctx target)).length = hosts.length * ctx.config.probes.length := by
  induction hosts with
  | nil => exact (Nat.zero_mul _).symm
  | cons host hosts ih =>
    rw [List.flatMap_cons, List.length_append, ih, length_itemsOf, List.length_cons, Nat.succ_mul,
      Nat.add_comm]

section

variable (hhosts : target.resolvedHosts ≠ [])

include hhosts

/-- The hosts but the last, and the last. -/
theorem length_dropLast_mul (n : ℕ) :
    target.resolvedHosts.dropLast.length * n + n = target.resolvedHosts.length * n := by
  have hpos := List.length_pos_of_ne_nil hhosts
  rw [List.length_dropLast, ← Nat.succ_mul, Nat.succ_eq_add_one, Nat.sub_add_cancel hpos]

/-- Room for all probes is room enough. -/
theorem room_of_mul_le (hroom : target.resolvedHosts.length * ctx.config.probes.length ≤
      ctx.config.maxOutstanding.toNat) : Room ctx target := by
  have hbuilt : built ctx 1 (target.resolvedHosts.dropLast.flatMap (itemsOf ctx target)) ≤ _ :=
    built_le 1 _
  have hlast := length_dropLast_mul hhosts ctx.config.probes.length
  rw [length_flatMap_itemsOf] at hbuilt
  rw [Room]
  omega

/-- And it is needed where all probes can be built. -/
theorem room_iff_of_built
    (hbuilds : ∀ id, ∀ host ∈ target.resolvedHosts, ∀ item ∈ itemsOf ctx target host,
      builds ctx id item) :
    Room ctx target ↔ target.resolvedHosts.length * ctx.config.probes.length ≤
      ctx.config.maxOutstanding.toNat := by
  have hall : ∀ id, ∀ item ∈ target.resolvedHosts.dropLast.flatMap (itemsOf ctx target),
      builds ctx id item := by
    intro id item hitem
    obtain ⟨host, hhost, hitem⟩ := List.mem_flatMap.mp hitem
    exact hbuilds id host (List.mem_of_mem_dropLast hhost) item hitem
  rw [Room, built_eq_length hall, length_flatMap_itemsOf, length_dropLast_mul hhosts]

end

/-! ### Starting probes -/

/-- A host is accepted exactly when there is room for all of its probes. -/
theorem submitHost_accepted_iff (target : Target) (hctx : Usable ctx) {host : Host}
    (hvalid : validHost ctx host) :
    (submitHost ctx target host s).1 = .ok ↔
      s.pending.size + s.workQueue.length + ctx.config.probes.length ≤
        ctx.config.maxOutstanding.toNat := by
  have hlength : 0 < ctx.config.probes.length := List.length_pos_of_ne_nil hctx.probes_ne_nil
  have hprobes : probes ctx ≠ [] := fun hnil ↦ hctx.probes_ne_nil (List.map_eq_nil_iff.mp hnil)
  rw [submitHost, if_neg (by rw [hvalid]; decide), requested_eq]
  split_ifs with hunusable hfull
  · obtain hnil | htimeout | hzero := hunusable
    · exact absurd hnil hprobes
    · exact absurd hctx.timeout_pos (not_lt.mpr htimeout)
    · have hmax : ctx.config.maxOutstanding.toNat = 0 := congrArg UInt64.toNat hzero
      exact ⟨fun hok ↦ (by cases hok), fun hroom ↦ by omega⟩
  · exact ⟨fun hok ↦ (by cases hok), fun hroom ↦ by omega⟩
  · exact ⟨fun _ ↦ by omega, fun _ ↦ rfl⟩

/-- **With room for the probes of all of them** hosts are admitted in any environment. -/
theorem submitHosts_ok_of_load (target : Target) (husable : Usable ctx)
    (hvalid : ∀ host ∈ hosts, validHost ctx host)
    (hids : asked + hosts.length * ctx.config.probes.length < UInt64.size)
    (hs : Fresh ctx asked s) (hroom : s.load + hosts.length * ctx.config.probes.length ≤
      ctx.config.maxOutstanding.toNat) : (submitHosts ctx target hosts s).1 = .ok := by
  induction hosts generalizing s asked with
  | nil => rfl
  | cons host hosts ih =>
    rw [List.length_cons, Nat.succ_mul] at hids hroom
    have hok := (submitHost_accepted_iff (s := s) target husable
      (hvalid host List.mem_cons_self)).mpr (by rw [load] at hroom; omega)
    obtain ⟨hs', htotal⟩ := accounts_submitHost target host s asked
      (by rw [hok, probesAsked_ok]; omega) hs
    rw [hok, probesAsked_ok] at hs'
    -- the host has used up its share of the room
    have hload : (submitHost ctx target host s).2.load = s.load + ctx.config.probes.length := by
      rw [← card_total, htotal, Multiset.card_add, card_total, Multiset.coe_card, hok,
        List.flatMap_singleton, owed, if_pos rfl, pairsOf, List.length_map]
    rw [submitHosts]
    dsimp only
    rw [if_pos hok]
    exact ih (fun h hh ↦ hvalid h (List.mem_cons_of_mem _ hh)) (by omega) hs' (by omega)

/-! ### Coverage -/

/-- What a submission that is accepted answered for its hosts. -/
theorem hostAnswers_of_ok (h : (submitHosts ctx target hosts s).1 = .ok) :
    hostAnswers ctx target hosts s = hosts.map fun host ↦ (host, .ok) := by
  induction hosts generalizing s with
  | nil => rfl
  | cons host hosts ih =>
    rw [submitHosts] at h
    dsimp only at h
    split_ifs at h with hok
    · rw [hostAnswers, hok, ih h, List.map_cons]
    · exact absurd h hok

/-- **An accepted submission covers its hosts.** -/
theorem covers_of_ok {transport : τ}
    (hnodup : (target.resolvedHosts.map Host.address).Nodup)
    (hids : target.resolvedHosts.length * ctx.config.probes.length < UInt64.size)
    (hok : (submit ctx target (create transport)).1 = .ok) : Covers ctx target transport := by
  refine ⟨hok, ?_⟩
  intro events s hcomplete host hhost
  have hanswers : callAnswers ctx (create transport) (.submit target) =
      target.resolvedHosts.map fun host ↦ (host, .ok) := by
    rw [submit] at hok
    rw [callAnswers]
    split_ifs at hok ⊢
    exact hostAnswers_of_ok hok
  have hasked : probesAsked ctx (callAnswers ctx (create transport) (.submit target)) =
      target.resolvedHosts.length * ctx.config.probes.length := by
    rw [hanswers, probesAsked, List.countP_map, List.countP_eq_length.mpr (by simp)]
  have howed : (callAnswers ctx (create transport) (.submit target)).flatMap (owed ctx) =
      target.resolvedHosts.flatMap (pairsOf ctx) := by
    rw [hanswers, List.flatMap_map]
    rfl
  -- the run moves what was admitted, and at its end everything is in the results
  have hactions : Actions ctx (submit ctx target (create transport)).2 s :=
    Runs.run_related (R := Actions ctx) (fun _ ↦ .refl) .trans actions_step _ events
  have haccounts := (accounts_call (create transport) (.submit target)).trans
    (accounts_of_actions (show Actions ctx (call ctx _ _) s from hactions))
  rw [List.append_nil] at haccounts
  obtain ⟨-, htotal⟩ := haccounts 0 (by rw [hasked, Nat.zero_add]; exact hids)
    (fresh_create ctx transport)
  rw [keys_of_complete hcomplete, howed, sum_location] at htotal
  exact perm_of_results hnodup
    (Multiset.coe_eq_coe.mp (htotal.trans (by simp [holding, create]))) hhost

/-- What `submit` answers for valid hosts. -/
theorem submit_ok_iff (hctx : Usable ctx) (s : DiscoveryScheduler τ) :
    (submit ctx target s).1 = .ok ↔ target.resolvedHosts ≠ [] ∧ ctx.config.maxOutstanding ≠ 0 ∧
      (submitHosts ctx target target.resolvedHosts s).1 = .ok := by
  have hprobes : probes ctx ≠ [] := fun hnil ↦ hctx.probes_ne_nil (List.map_eq_nil_iff.mp hnil)
  have htimeout : ¬ ctx.config.timeout ≤ 0 := not_le.mpr hctx.timeout_pos
  rw [submit]
  by_cases hhosts : target.resolvedHosts = []
  · simp [hhosts]
  by_cases hmax : ctx.config.maxOutstanding = 0
  · simp [hmax]
  simp [hhosts, hmax, hprobes, htimeout]

/-- Room for something is not none. -/
theorem maxOutstanding_ne_zero (hctx : Usable ctx)
    (hroom : ctx.config.probes.length ≤ ctx.config.maxOutstanding.toNat) :
    ctx.config.maxOutstanding ≠ 0 := by
  have hlength : 0 < ctx.config.probes.length := List.length_pos_of_ne_nil hctx.probes_ne_nil
  intro hzero
  have hmax : ctx.config.maxOutstanding.toNat = 0 := congrArg UInt64.toNat hzero
  omega

/-- **Coverage in any environment.** When the probes of all hosts together are within
`max_outstanding` every host is covered. Nothing is assumed of the engine and the transport: a probe
that cannot be built, sent or timed has its result as well. -/
theorem covered (transport : τ) (hctx : Usable ctx) (hhosts : target.resolvedHosts ≠ [])
    (hvalid : ∀ host ∈ target.resolvedHosts, validHost ctx host)
    (hnodup : (target.resolvedHosts.map Host.address).Nodup)
    (hroom : target.resolvedHosts.length * ctx.config.probes.length ≤
      ctx.config.maxOutstanding.toNat) : Covers ctx target transport := by
  have hids : target.resolvedHosts.length * ctx.config.probes.length < UInt64.size :=
    hroom.trans_lt (UInt64.toNat_lt _)
  have hload : load (create transport) = 0 := rfl
  have hfirst : ctx.config.probes.length ≤ ctx.config.maxOutstanding.toNat :=
    (Nat.le_mul_of_pos_left _ (List.length_pos_of_ne_nil hhosts)).trans hroom
  refine covers_of_ok hnodup hids ((submit_ok_iff hctx _).mpr ⟨hhosts,
    maxOutstanding_ne_zero hctx hfirst, ?_⟩)
  have hfresh := fresh_create ctx transport
  exact submitHosts_ok_of_load target hctx hvalid (by rwa [Nat.zero_add]) hfresh
    (by rwa [hload, Nat.zero_add])

end DiscoveryScheduler

end Skan.Discovery
