import Skan.Discovery.Holdings

/-!
# Discovery conserves its probes

`submit` and `submit_host` may be called at any time, also between responses and timeouts. What they
answered for each host is the ledger (`answers`): a host that was admitted owes one result for each
configured probe, a host that was rejected as invalid has its one result already, and a host for
which there was no room owes nothing. `probes_conserved` says that a complete scheduler has paid
exactly that, and that no identifier is ever in two of its sets.

## Identifiers

`next_probe_id_` is a 64-bit counter. `Fresh` counts the probes that are asked for: while they are
fewer than 2^64, each has an identifier of its own. A scheduler that was asked for more would have
to hold a result for each of them.
-/

namespace Skan.Discovery

open Skan.Core Skan.PortScan Flow

namespace DiscoveryScheduler

variable {τ : Type} {ctx : Context τ} {s s' : DiscoveryScheduler τ} {workQueue : List WorkItem}
  {item : WorkItem}

/-! ### Identifiers -/

/-- No identifier is in two of the three sets. -/
structure AtMostOne (s : DiscoveryScheduler τ) : Prop where
  pending_completed : ∀ id ∈ s.pending, id ∉ s.completedProbeIds
  pending_expired : ∀ id ∈ s.pending, id ∉ s.expiredProbeIds
  completed_expired : ∀ id ∈ s.completedProbeIds, id ∉ s.expiredProbeIds

/-- The identifiers handed out, when `asked` probes have been asked for. -/
def handedOut (asked : ℕ) (s : DiscoveryScheduler τ) : ℕ := asked - s.workQueue.length

/-- What keeps identifiers apart: they are handed out in order, to as many probes as have left the
queue. -/
structure Fresh (ctx : Context τ) (asked : ℕ) (s : DiscoveryScheduler τ) : Prop where
  queue_le : s.workQueue.length ≤ asked
  nextProbeId_eq : s.handedOut asked + 1 < UInt64.size →
    s.nextProbeId.toNat = s.handedOut asked + 1
  type_mem : ∀ item ∈ s.workQueue, item.type ∈ ctx.config.probes
  pending_le : ∀ id ∈ s.pending, id.toNat ≤ s.handedOut asked
  completed_le : ∀ id ∈ s.completedProbeIds, id.toNat ≤ s.handedOut asked
  expired_le : ∀ id ∈ s.expiredProbeIds, id.toNat ≤ s.handedOut asked
  id_eq : ∀ id pending, s.pending.lookup id = some pending → pending.id = id
  atMostOne : s.AtMostOne

variable {asked : ℕ}

section

variable (hs : Fresh ctx asked s)

include hs

section

variable (hroom : asked < UInt64.size)

include hroom

/-- The next identifier is greater than all that are in use, while an item is queued. -/
theorem Fresh.toNat_nextProbeId (hqueue : s.workQueue = item :: workQueue) :
    s.nextProbeId.toNat = s.handedOut asked + 1 := by
  refine hs.nextProbeId_eq ?_
  have hle := hs.queue_le
  rw [handedOut, hqueue, List.length_cons] at *
  omega

theorem Fresh.notMem (item : WorkItem) (workQueue : List WorkItem)
    (hqueue : s.workQueue = item :: workQueue) : s.nextProbeId ∉ s.pending := by
  intro hmem
  have hle := hs.pending_le _ hmem
  have hnext := hs.toNat_nextProbeId hroom hqueue
  omega

/-- An item leaves the queue with the next identifier. -/
theorem Fresh.taken (hqueue : s.workQueue = item :: workQueue) :
    Fresh ctx asked (s.taken workQueue) ∧
      (s.taken workQueue).handedOut asked = s.handedOut asked + 1 := by
  have hnext := hs.toNat_nextProbeId hroom hqueue
  have hle := hs.queue_le
  have hmore : (s.taken workQueue).handedOut asked = s.handedOut asked + 1 := by
    show asked - workQueue.length = asked - s.workQueue.length + 1
    rw [hqueue, List.length_cons] at hle ⊢
    omega
  have hlift : ∀ n, n ≤ s.handedOut asked → n ≤ (s.taken workQueue).handedOut asked := by
    intro n hn
    rw [hmore]
    exact Nat.le_succ_of_le hn
  refine ⟨⟨?_, fun hlt ↦ ?_, fun i hi ↦ ?_, fun id hid ↦ hlift _ (hs.pending_le id hid),
    fun id hid ↦ hlift _ (hs.completed_le id hid), fun id hid ↦ hlift _ (hs.expired_le id hid),
    hs.id_eq, ⟨hs.8.1, hs.8.2, hs.8.3⟩⟩, hmore⟩
  · rw [hqueue, List.length_cons] at hle
    exact Nat.le_of_succ_le hle
  · rw [hmore] at hlt ⊢
    rw [← hnext] at hlt ⊢
    exact toNat_nextId hlt
  · exact hs.type_mem i (hqueue ▸ List.mem_cons_of_mem _ hi)

/-- The identifier that was taken enters the pending set: it is greater than those of all three. -/
theorem Fresh.started (hqueue : s.workQueue = item :: workQueue) {entered : PendingProbe}
    (hid : entered.id = s.nextProbeId) :
    Fresh ctx asked
      { s.taken workQueue with pending := s.pending.insert s.nextProbeId entered } := by
  obtain ⟨h, hmore⟩ := hs.taken hroom hqueue
  have hnext := hs.toNat_nextProbeId hroom hqueue
  have hcompleted : s.nextProbeId ∉ s.completedProbeIds := fun hmem ↦ by
    have hle := hs.completed_le _ hmem
    omega
  have hexpired : s.nextProbeId ∉ s.expiredProbeIds := fun hmem ↦ by
    have hle := hs.expired_le _ hmem
    omega
  refine ⟨h.1, h.2, h.3, fun id hmem ↦ ?_, h.5, h.6, fun id pending hlookup ↦ ?_,
    ⟨fun id hmem ↦ ?_, fun id hmem ↦ ?_, h.8.3⟩⟩
  · obtain rfl | hold := (AList.mem_insert _).mp hmem
    · exact (hnext.trans hmore.symm).le
    · exact h.pending_le id hold
  · rw [AList.lookup_insert_eq_ite] at hlookup
    split_ifs at hlookup with heq
    · rw [heq, ← Option.some.inj hlookup, hid]
    · exact hs.id_eq id pending hlookup
  · obtain rfl | hold := (AList.mem_insert _).mp hmem
    · exact hcompleted
    · exact hs.atMostOne.pending_completed id hold
  · obtain rfl | hold := (AList.mem_insert _).mp hmem
    · exact hexpired
    · exact hs.atMostOne.pending_expired id hold

end

/-- An identifier leaves the pending set. -/
theorem Fresh.erase (id : ProbeId) : Fresh ctx asked { s with pending := s.pending.erase id } := by
  have hkeep : ∀ other ∈ s.pending.erase id, other ∈ s.pending :=
    fun other hother ↦ (AList.mem_erase.mp hother).2
  refine ⟨hs.1, hs.2, hs.3, fun other h ↦ hs.pending_le other (hkeep other h), hs.5, hs.6,
    fun other p h ↦ ?_, ⟨fun other h ↦ hs.atMostOne.pending_completed other (hkeep other h),
      fun other h ↦ hs.atMostOne.pending_expired other (hkeep other h), hs.8.3⟩⟩
  rw [AList.lookup_erase_eq_ite] at h
  split_ifs at h
  exact hs.id_eq other p h

/-- A pending identifier is in neither of the other two sets, so it may go to the completed ones. -/
theorem Fresh.completed {id : ProbeId} (hmem : id ∈ s.pending) :
    Fresh ctx asked { s with
      pending := s.pending.erase id, completedProbeIds := insert id s.completedProbeIds } := by
  have h := hs.erase id
  refine ⟨h.1, h.2, h.3, h.4, fun other hother ↦ ?_, h.6, h.7,
    ⟨fun other hother hdone ↦ ?_, h.8.2, fun other hother ↦ ?_⟩⟩
  · obtain rfl | hold := Finset.mem_insert.mp hother
    · exact hs.pending_le _ hmem
    · exact hs.completed_le other hold
  · have hne := (AList.mem_erase.mp hother).1
    exact h.8.1 other hother (Finset.mem_of_mem_insert_of_ne hdone hne)
  · obtain rfl | hold := Finset.mem_insert.mp hother
    · exact hs.atMostOne.pending_expired _ hmem
    · exact hs.atMostOne.completed_expired other hold

/-- Or to the expired ones. -/
theorem Fresh.expired {id : ProbeId} (hmem : id ∈ s.pending) :
    Fresh ctx asked { s with
      pending := s.pending.erase id, expiredProbeIds := insert id s.expiredProbeIds } := by
  have h := hs.erase id
  refine ⟨h.1, h.2, h.3, h.4, h.5, fun other hother ↦ ?_, h.7,
    ⟨h.8.1, fun other hother hdone ↦ ?_, fun other hother hdone ↦ ?_⟩⟩
  · obtain rfl | hold := Finset.mem_insert.mp hother
    · exact hs.pending_le _ hmem
    · exact hs.expired_le other hold
  · have hne := (AList.mem_erase.mp hother).1
    exact h.8.2 other hother (Finset.mem_of_mem_insert_of_ne hdone hne)
  · obtain rfl | hold := Finset.mem_insert.mp hdone
    · exact hs.atMostOne.pending_completed _ hmem hother
    · exact hs.atMostOne.completed_expired other hother hold

end

/-- **Every action keeps the identifiers apart.** -/
theorem fresh_of_action (hroom : asked < UInt64.size) (h : Action ctx s s')
    (hs : Fresh ctx asked s) : Fresh ctx asked s' := by
  cases h with
  | idle => exact ⟨hs.1, hs.2, hs.3, hs.4, hs.5, hs.6, hs.7, ⟨hs.8.1, hs.8.2, hs.8.3⟩⟩
  | stop => exact ⟨hs.1, hs.2, hs.3, hs.4, hs.5, hs.6, hs.7, ⟨hs.8.1, hs.8.2, hs.8.3⟩⟩
  | @skip item workQueue hqueue hnone =>
    rw [probeFor_of_mem (hs.type_mem item (hqueue ▸ List.mem_cons_self))] at hnone
    exact nomatch hnone
  | reject hqueue =>
    have h := (hs.taken hroom hqueue).1
    exact ⟨h.1, h.2, h.3, h.4, h.5, h.6, h.7, ⟨h.8.1, h.8.2, h.8.3⟩⟩
  | @start item workQueue entered transport trace hqueue hkey hid =>
    have hpending : (s.pending.emplace s.nextProbeId entered).getD s.pending =
        s.pending.insert s.nextProbeId entered := by
      rw [AList.emplace, if_neg (hs.notMem hroom item workQueue hqueue), Option.getD_some]
    rw [hpending]
    have h := hs.started hroom hqueue hid
    exact ⟨h.1, h.2, h.3, h.4, h.5, h.6, h.7, ⟨h.8.1, h.8.2, h.8.3⟩⟩
  | @complete id pending result evidence trace hlookup =>
    rw [hs.id_eq id pending hlookup]
    have h := hs.completed (AList.mem_of_lookup hlookup)
    exact ⟨h.1, h.2, h.3, h.4, h.5, h.6, h.7, ⟨h.8.1, h.8.2, h.8.3⟩⟩
  | @expire id pending result evidence trace hlookup =>
    have h := hs.expired (AList.mem_of_lookup hlookup)
    exact ⟨h.1, h.2, h.3, h.4, h.5, h.6, h.7, ⟨h.8.1, h.8.2, h.8.3⟩⟩

/-- A step that loses no pair and keeps the identifiers apart. -/
def Keeps (ctx : Context τ) (asked : ℕ) (s s' : DiscoveryScheduler τ) : Prop :=
  Fresh ctx asked s → Moves Location.Edge s.holding s'.holding ∧ Fresh ctx asked s'

theorem keeps_of_actions (hroom : asked < UInt64.size) (h : Actions ctx s s') :
    Keeps ctx asked s s' := by
  refine Runs.steps_related (R := Keeps ctx asked) (fun _ hs ↦ ⟨.refl, hs⟩) ?_ ?_ h
  · intro a b c hab hbc ha
    obtain ⟨hmoves, hb⟩ := hab ha
    obtain ⟨hmoves', hc⟩ := hbc hb
    exact ⟨hmoves.trans hmoves', hc⟩
  · intro a b hstep ha
    exact ⟨moves_of_action (ha.notMem hroom) ha.type_mem hstep, fresh_of_action hroom hstep ha⟩

/-! ### The ledger -/

/-- What is asked of a scheduler. -/
inductive Call where
  | submit (target : Target)
  | submitHost (target : Target) (host : Host)
  | event (event : Event)

def call (ctx : Context τ) (s : DiscoveryScheduler τ) : Call → DiscoveryScheduler τ
  | .submit target => (submit ctx target s).2
  | .submitHost target host => (submitHost ctx target host s).2
  | .event event => step ctx s event

/-- What `submit_host` answers for each host of a submission. -/
def hostAnswers (ctx : Context τ) (target : Target) :
    List Host → DiscoveryScheduler τ → List (Host × StatusCode)
  | [], _ => []
  | host :: hosts, s =>
    (host, (submitHost ctx target host s).1) ::
      hostAnswers ctx target hosts (submitHost ctx target host s).2

/-- What `submit_host` answers in the course of a call. -/
def callAnswers (ctx : Context τ) (s : DiscoveryScheduler τ) : Call → List (Host × StatusCode)
  | .submit target =>
    if target.resolvedHosts = [] ∨ probes ctx = [] ∨ ctx.config.timeout ≤ 0 ∨
        ctx.config.maxOutstanding = 0 then
      []
    else hostAnswers ctx target target.resolvedHosts s
  | .submitHost target host => [(host, (submitHost ctx target host s).1)]
  | .event _ => []

/-- What `submit_host` answers in the course of a run. -/
def answers (ctx : Context τ) : DiscoveryScheduler τ → List Call → List (Host × StatusCode)
  | _, [] => []
  | s, c :: calls => callAnswers ctx s c ++ answers ctx (call ctx s c) calls

/-- The number of probes that have been asked for. -/
def probesAsked (ctx : Context τ) (answers : List (Host × StatusCode)) : ℕ :=
  (answers.countP fun answer ↦ answer.2 = .ok) * ctx.config.probes.length

/-- The results a host is owed. -/
def owed (ctx : Context τ) (answer : Host × StatusCode) : List (Text × ProbeType) :=
  if answer.2 = .ok then pairsOf ctx answer.1
  else if validHost ctx answer.1 then []
  else [(answer.1.address, (probes ctx).head?.elim .icmpEcho (·.type))]

@[simp] theorem probesAsked_nil : probesAsked ctx [] = 0 := Nat.zero_mul _

theorem probesAsked_refused (host : Host) {status : StatusCode} (h : status ≠ .ok) :
    probesAsked ctx [(host, status)] = 0 := by
  rw [probesAsked, List.countP_cons_of_neg (by simpa using h)]
  exact Nat.zero_mul _

/-- An admitted host asks for one probe of each kind. -/
theorem probesAsked_ok (host : Host) : probesAsked ctx [(host, .ok)] = ctx.config.probes.length :=
  Nat.one_mul _

/-- A host that was refused is owed a result if it is invalid. -/
theorem owed_refused (host : Host) {status : StatusCode} (h : status ≠ .ok) :
    owed ctx (host, status) = if validHost ctx host then []
      else [(host.address, (probes ctx).head?.elim .icmpEcho (·.type))] :=
  if_neg h

theorem probesAsked_append (first later : List (Host × StatusCode)) :
    probesAsked ctx (first ++ later) = probesAsked ctx first + probesAsked ctx later := by
  rw [probesAsked, List.countP_append, Nat.add_mul]
  rfl

/-- A part of a run keeps the ledger: what the containers hold has grown by what was owed. -/
def Accounts (ctx : Context τ) (s s' : DiscoveryScheduler τ) (answers : List (Host × StatusCode)) :
    Prop :=
  ∀ asked, asked + probesAsked ctx answers < UInt64.size → Fresh ctx asked s →
    Fresh ctx (asked + probesAsked ctx answers) s' ∧
      ∑ location, s'.holding location = ∑ location, s.holding location + answers.flatMap (owed ctx)

theorem accounts_of_actions (h : Actions ctx s s') : Accounts ctx s s' [] := by
  intro asked hroom hs
  rw [probesAsked_nil, Nat.add_zero] at hroom ⊢
  obtain ⟨hmoves, hs'⟩ := keeps_of_actions hroom h hs
  refine ⟨hs', ?_⟩
  rw [hmoves.total_eq]
  exact (add_zero _).symm

theorem Accounts.trans {s'' : DiscoveryScheduler τ} {first later : List (Host × StatusCode)}
    (h : Accounts ctx s s' first) (h' : Accounts ctx s' s'' later) :
    Accounts ctx s s'' (first ++ later) := by
  intro asked hroom hs
  rw [probesAsked_append, ← Nat.add_assoc] at hroom ⊢
  obtain ⟨hs', htotal⟩ := h asked (Nat.lt_of_le_of_lt (Nat.le_add_right _ _) hroom) hs
  obtain ⟨hs'', htotal'⟩ := h' _ hroom hs'
  refine ⟨hs'', ?_⟩
  rw [htotal', htotal, List.flatMap_append, ← Multiset.coe_add, add_assoc]

/-- The probes of a host are queued. -/
theorem fresh_enqueue (target : Target) (host : Host) (hs : Fresh ctx asked s) :
    Fresh ctx (asked + ctx.config.probes.length)
      { s with
        workQueue := s.workQueue ++ ctx.config.probes.map fun type ↦ { target, host, type } } := by
  have hsame : asked + ctx.config.probes.length -
      (s.workQueue ++ ctx.config.probes.map fun type ↦
        ({ target, host, type } : WorkItem)).length = s.handedOut asked := by
    rw [List.length_append, List.length_map, handedOut]
    omega
  refine ⟨?_, ?_, fun item hitem ↦ ?_, ?_, ?_, ?_, hs.id_eq, ⟨hs.8.1, hs.8.2, hs.8.3⟩⟩
  · rw [List.length_append, List.length_map]
    exact Nat.add_le_add_right hs.queue_le _
  · rw [handedOut, hsame]
    exact hs.nextProbeId_eq
  · obtain hold | hnew := List.mem_append.mp hitem
    · exact hs.type_mem item hold
    · obtain ⟨type, htype, rfl⟩ := List.mem_map.mp hnew
      exact htype
  all_goals rw [handedOut, hsame]
  · exact hs.pending_le
  · exact hs.completed_le
  · exact hs.expired_le

/-- **`submit_host`** admits the host's probes, publishes that the host is invalid, or does
nothing. -/
theorem accounts_submitHost (target : Target) (host : Host) (s : DiscoveryScheduler τ) :
    Accounts ctx s (submitHost ctx target host s).2 [(host, (submitHost ctx target host s).1)] := by
  rw [submitHost]
  split_ifs with hinvalid hunusable hfull
  · intro asked hroom hs
    obtain ⟨published, evidence, trace, hkey, -, heq⟩ := appendUnknown_eq ctx host.address
      ((probes ctx).head?.elim .icmpEcho (·.type)) .invalidTarget s
    rw [heq]
    have hrefused : StatusCode.invalidArgument ≠ .ok := by decide
    rw [probesAsked_refused host hrefused, List.flatMap_singleton, owed_refused host hrefused,
      if_neg (by simpa using hinvalid), ← hkey, sum_location, sum_location]
    refine ⟨⟨hs.1, hs.2, hs.3, hs.4, hs.5, hs.6, hs.7, ⟨hs.8.1, hs.8.2, hs.8.3⟩⟩, ?_⟩
    simp only [holding, List.map_append, ← Multiset.coe_add, add_assoc]
    rfl
  · intro asked hroom hs
    have hrefused : StatusCode.invalidArgument ≠ .ok := by decide
    rw [probesAsked_refused host hrefused, List.flatMap_singleton, owed_refused host hrefused,
      if_pos (by simpa using hinvalid)]
    exact ⟨hs, (add_zero _).symm⟩
  · intro asked hroom hs
    have hrefused : StatusCode.ioError ≠ .ok := by decide
    rw [probesAsked_refused host hrefused, List.flatMap_singleton, owed_refused host hrefused,
      if_pos (by simpa using hinvalid)]
    exact ⟨hs, (add_zero _).symm⟩
  · intro asked hroom hs
    rw [probesAsked_ok] at hroom ⊢
    obtain ⟨hmoves, hs'⟩ := keeps_of_actions hroom (actions_pump _) (fresh_enqueue target host hs)
    refine ⟨hs', ?_⟩
    rw [hmoves.total_eq, total_enqueue, List.flatMap_singleton, owed, if_pos rfl]

theorem accounts_submitHosts (target : Target) (hosts : List Host) (s : DiscoveryScheduler τ) :
    Accounts ctx s (submitHosts ctx target hosts s).2 (hostAnswers ctx target hosts s) := by
  induction hosts generalizing s with
  | nil => exact accounts_of_actions .refl
  | cons host hosts ih =>
    exact Accounts.trans (accounts_submitHost target host s) (ih (submitHost ctx target host s).2)

theorem accounts_call (s : DiscoveryScheduler τ) (c : Call) :
    Accounts ctx s (call ctx s c) (callAnswers ctx s c) := by
  cases c with
  | submit target =>
    rw [call, callAnswers, submit]
    split_ifs
    · exact accounts_of_actions .refl
    · rw [← List.append_nil (hostAnswers ctx target target.resolvedHosts s)]
      exact (accounts_submitHosts target _ s).trans (accounts_of_actions (actions_pump _))
  | submitHost target host => exact accounts_submitHost target host s
  | event event => exact accounts_of_actions (actions_step s event)

/-- **Every run keeps the ledger.** -/
theorem accounts_run (calls : List Call) (s : DiscoveryScheduler τ) :
    Accounts ctx s (Runs.run (call ctx) s calls) (answers ctx s calls) := by
  induction calls generalizing s with
  | nil => exact accounts_of_actions .refl
  | cons c calls ih => exact (accounts_call s c).trans (ih (call ctx s c))

theorem fresh_create (ctx : Context τ) (transport : τ) : Fresh ctx 0 (create transport) where
  queue_le := le_rfl
  nextProbeId_eq _ := rfl
  type_mem _ hitem := absurd hitem List.not_mem_nil
  pending_le _ hid := absurd hid (AList.notMem_empty _)
  completed_le _ hid := absurd hid (Finset.notMem_empty _)
  expired_le _ hid := absurd hid (Finset.notMem_empty _)
  id_eq _ _ hlookup := absurd (AList.mem_of_lookup hlookup) (AList.notMem_empty _)
  atMostOne := ⟨fun _ hid ↦ absurd hid (AList.notMem_empty _),
    fun _ hid ↦ absurd hid (AList.notMem_empty _), fun _ hid ↦ absurd hid (Finset.notMem_empty _)⟩

/-! ### What a late response does -/

variable (ctx) in
/-- A response to a probe that is not in flight is counted at most. -/
theorem receive_of_notMem {response : DiscoveryResponse} (h : response.probeId ∉ s.pending) :
    (receive ctx response s).2.results = s.results ∧
      (receive ctx response s).2.evidence = s.evidence := by
  rw [receive, AList.lookup_eq_none.mpr h]
  dsimp only
  split_ifs <;> exact ⟨rfl, rfl⟩

/-- **Discovery conserves its probes.** Whatever is submitted, whatever comes in and whatever fails,
as long as fewer than 2^64 probes are asked for: once the scheduler is complete the results are what
was owed, one for each configured probe of each admitted host; no identifier is in two of the three
sets; and a late or duplicate response changes no result and no host state. -/
theorem probes_conserved (ctx : Context τ) (transport : τ) (calls : List Call)
    (hroom : probesAsked ctx (answers ctx (create transport) calls) < UInt64.size) :
    let s := Runs.run (call ctx) (create transport) calls
    (s.complete → (s.results.map DiscoveryResult.key).Perm
        ((answers ctx (create transport) calls).flatMap (owed ctx))) ∧
      s.AtMostOne ∧
      ∀ response : DiscoveryResponse,
        response.probeId ∈ s.completedProbeIds ∨ response.probeId ∈ s.expiredProbeIds →
          (receive ctx response s).2.results = s.results ∧
            ∀ address, (receive ctx response s).2.hostState address = s.hostState address := by
  intro s
  obtain ⟨hs, htotal⟩ := accounts_run calls (create transport) 0 (by rwa [Nat.zero_add])
    (fresh_create ctx transport)
  refine ⟨fun hcomplete ↦ ?_, hs.atMostOne, fun response hretired ↦ ?_⟩
  · have hkeys := (keys_of_complete hcomplete).symm.trans htotal
    refine Multiset.coe_eq_coe.mp (hkeys.trans ?_)
    rw [sum_location]
    simp [holding, create]
  · have hnone : response.probeId ∉ s.pending := fun hmem ↦
      hretired.elim (hs.atMostOne.pending_completed _ hmem) (hs.atMostOne.pending_expired _ hmem)
    obtain ⟨hresults, hevidence⟩ := receive_of_notMem ctx hnone
    refine ⟨hresults, fun address ↦ ?_⟩
    rw [hostState, hostState, hevidence]

/-- The host 10.0.0.1 as a target. -/
def lan : Target where
  resolvedHosts := [lanHost 1]

/-- One host is submitted, answers, and answers again. -/
theorem probes_conserved_duplicate :
    let s := Runs.run (call (tcpOnly 1)) (create ())
      [.submitHost lan (lanHost 1), .event (.receive { probeId := 1, kind := .unreachable })]
    s.results.map DiscoveryResult.key = [((lanHost 1).address, .tcp)] ∧
      (receive (tcpOnly 1) { probeId := 1 } s).2.results = s.results := by
  have h := probes_conserved (tcpOnly 1) ()
    [.submitHost lan (lanHost 1), .event (.receive { probeId := 1, kind := .unreachable })]
    (by decide +kernel)
  have howed : (answers (tcpOnly 1) (create ()) [.submitHost lan (lanHost 1),
      .event (.receive { probeId := 1, kind := .unreachable })]).flatMap (owed (tcpOnly 1)) =
        [((lanHost 1).address, .tcp)] := by
    decide +kernel
  refine ⟨?_, (h.2.2 { probeId := 1 } (.inl (by decide +kernel))).1⟩
  rw [howed] at h
  exact List.perm_singleton.mp (h.1 (by decide +kernel))

end DiscoveryScheduler

end Skan.Discovery
