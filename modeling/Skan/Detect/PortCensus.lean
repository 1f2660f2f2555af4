import Mathlib.Data.List.Dedup
import Skan.Detect.PortFates

/-!
# Where the ports are

Every open port that is submitted is in the queue, in flight, waits for a retry or has its result,
and in one of these only (`ports_accounted`).

There is one way out. When the engine takes no timer for the retry of a probe whose connection was
lost, `receive` drops the port without a result; `on_timeout`, in the same case, goes on with the
port. The trace tells how often that happened (`lost`), and no other port is missing. -/

namespace Skan.Detect

open Skan.Core Skan.PortScan Skan.ScanEngine

namespace ServiceScheduler

variable {seen : List (Text × Port)}

/-! ### The census -/

/-- The ports a scheduler has, published or not. -/
def whereabouts (s : ServiceScheduler) : List (Text × Port) :=
  (s.live.map fun p ↦ p.1.key) ++ s.results.map resultKey

/-- The ports submitted are those a scheduler has, with those in hand and one for each loss. -/
def Census (ports inHand : List (Text × Port)) (s : ServiceScheduler) : Prop :=
  s.submitted = true ∧
    ∃ missing, (inHand ++ s.whereabouts ++ missing).Perm ports ∧ missing.length = lost s.trace

variable {ctx : Context} {s s' : ServiceScheduler} {ports inHand : List (Text × Port)}

/-- Ports change places. -/
theorem Census.perm {inHand' : List (Text × Port)} (h : Census ports inHand s)
    (hsubmitted : s'.submitted = s.submitted)
    (hperm : (inHand' ++ s'.whereabouts).Perm (inHand ++ s.whereabouts))
    (hlost : lost s'.trace = lost s.trace) : Census ports inHand' s' := by
  obtain ⟨missing, hports, hlength⟩ := h.2
  exact ⟨hsubmitted.trans h.1, missing, (hperm.append_right missing).trans hports,
    hlength.trans hlost.symm⟩

theorem whereabouts_erase {id : ServiceProbeId} {pending : Pending}
    (hlookup : s.pending.lookup id = some pending) :
    s.whereabouts.Perm
      (pending.work.key :: ({ s with pending := s.pending.erase id } :
        ServiceScheduler).whereabouts) := by
  have hperm := (AList.values_of_lookup hlookup).map fun pending ↦ (pending.work, 1)
  have hlive : s.live.Perm ((pending.work, 1) ::
      ({ s with pending := s.pending.erase id } : ServiceScheduler).live) :=
    (hperm.append_left _).trans List.perm_middle
  exact (hlive.map _).append_right _

/-- **Whatever becomes of a port**, the census is right. -/
theorem census_kept (ports : List (Text × Port)) :
    Kept fun inHand s ↦ Census ports (inHand.map WorkItem.key) s where
  quiet := by
    intro inHand s s' h hsame
    obtain ⟨hsubmitted, -, hqueue, hpending, hdeferred, hresults, hlost⟩ :=
      Holdings.mk.inj hsame
    refine h.perm hsubmitted (.of_eq ?_) hlost
    rw [whereabouts, whereabouts, live, live, hqueue, hpending, hdeferred, hresults]
  timing h _ := h
  publish := by
    intro s work result h hkey
    refine h.perm rfl ?_ rfl
    show (_ ++ (s.results ++ [result]).map resultKey).Perm ([work.key] ++ s.whereabouts)
    rw [List.map_append, List.map_singleton, hkey, ← List.append_assoc]
    exact List.perm_append_singleton _ _
  erase h hlookup := h.perm rfl (whereabouts_erase hlookup).symm rfl
  replace := by
    intro s id pending examined h hlookup hkey _
    refine h.perm rfl ?_ rfl
    have hperm := (AList.values_replace examined hlookup).map fun pending ↦ (pending.work, 1)
    have hlive : ({ s with pending := s.pending.replace id examined } : ServiceScheduler).live.Perm
        ((examined.work, 1) ::
          ({ s with pending := s.pending.erase id } : ServiceScheduler).live) :=
      (hperm.append_left _).trans List.perm_middle
    refine ((hlive.map _).append_right _).trans ?_
    rw [List.map_cons, hkey]
    exact (whereabouts_erase hlookup).symm
  dequeue := by
    intro s work queue h hqueue
    refine h.perm rfl (.of_eq ?_) rfl
    rw [whereabouts, whereabouts, live, live, hqueue]
    rfl
  launch := by
    intro s id pending h hfresh
    refine h.perm rfl ?_ rfl
    have hperm := whereabouts_erase (s := { s with pending := s.pending.insert id pending })
      (AList.lookup_insert s.pending)
    dsimp only at hperm
    rwa [AList.erase_insert pending hfresh] at hperm
  requeue := by
    intro s work work' h hkey _
    refine h.perm rfl (.of_eq ?_) rfl
    show work'.key :: s.whereabouts = work.key :: s.whereabouts
    rw [hkey]
  defer := by
    intro s id work retry h hfresh hkey
    refine h.perm rfl ?_ rfl
    show ((s.queue.map (·, 0) ++ (s.deferredRetries.insert id retry).values.map _ ++
      s.pending.values.map _).map _ ++ s.results.map resultKey).Perm
        ((work.key :: s.live.map _) ++ s.results.map resultKey)
    refine List.Perm.append_right _ ?_
    rw [AList.values_insert _ hfresh, List.map_cons, ← hkey]
    exact (List.perm_middle.append_right _).map _
  lose := by
    -- the port in hand is the one that is missing
    intro s work h status
    obtain ⟨missing, hports, hlength⟩ := h.2
    refine ⟨h.1, work.key :: missing, List.perm_middle.trans hports, ?_⟩
    show (work.key :: missing).length =
      lost (.failed .retryAfterError status s.queue.length :: s.trace)
    rw [lost, List.countP_cons, ← lost, ← hlength]
    rfl

theorem Census.onRetryReady (h : Census ports [] s) (id : RetryId) :
    Census ports [] (onRetryReady ctx id s) := by
  unfold ServiceScheduler.onRetryReady
  split
  · exact h
  · rename_i retry hlookup
    refine (census_kept ports).pump (h.perm rfl ?_ rfl)
    have hperm := (AList.values_of_lookup hlookup).map fun retry ↦ (retry.work, 0)
    -- what was deferred is queued
    have hlive : s.live.Perm ((retry.work, 0) ::
        ({ s with deferredRetries := s.deferredRetries.erase id } : ServiceScheduler).live) :=
      ((hperm.append_left _).trans List.perm_middle).append_right _
    have hwhere : s.whereabouts.Perm (retry.work.key :: ServiceScheduler.whereabouts
        { s with deferredRetries := s.deferredRetries.erase id }) :=
      (hlive.map _).append_right _
    exact hwhere.symm

/-- **One event** loses nothing, but for the retry it may fail to defer. -/
theorem Census.step (h : Census ports [] s) (e : Event) : Census ports [] (step ctx s e) := by
  have hkept := census_kept ports
  cases e with
  | receive response => exact hkept.receiveWith hkept.pump h response
  | onTimeout id => exact hkept.onTimeoutWith hkept.pump h id
  | onRetryReady id => exact h.onRetryReady id
  | engineReturned status =>
    show Census ports [] (engineReturned status s)
    unfold engineReturned
    split <;> exact h

/-! ### Runs -/

/-- The open ports of a list, each once. -/
def distinctOpen (openPorts : List PortResult) : List (Text × Port) :=
  ((openPorts.filter (·.state = .open)).map fun p ↦ (p.target, p.port)).dedup

/-- A port that `submit` takes. -/
def IsSubmittable (portResult : PortResult) : Prop :=
  portResult.state = .open → portResult.target ≠ [] ∧ portResult.port.number ≠ 0

/-- `submit` is looking at the ports: each it has seen is in the queue or has its result. -/
structure Gathers (seen : List (Text × Port)) (s : ServiceScheduler) : Prop where
  submitted : s.submitted = true
  status : s.status = .ok
  nodup : seen.Nodup
  whereabouts : s.whereabouts.Perm seen
  lost : lost s.trace = 0

theorem Gathers.counted (h : Gathers seen s) : Census seen [] s :=
  ⟨h.submitted, [], by simpa using h.whereabouts, h.lost.symm⟩

variable (ctx) in
/-- One port more. -/
theorem Gathers.submitPort (h : Gathers seen s) {portResult : PortResult}
    (hvalid : IsSubmittable portResult) :
    Gathers (submitPort ctx (seen, s) portResult).1 (submitPort ctx (seen, s) portResult).2 ∧
      ∀ key, key ∈ (submitPort ctx (seen, s) portResult).1 ↔
        key ∈ seen ∨ portResult.state = .open ∧ key = (portResult.target, portResult.port) := by
  rw [ServiceScheduler.submitPort]
  dsimp only
  split_ifs with hclosed hinvalid hknown hunsupported
  · exact ⟨h, fun key ↦ by simp [hclosed]⟩
  · obtain ⟨htarget, hport⟩ := hvalid (not_not.mp hclosed)
    exact absurd hinvalid (not_or.mpr ⟨htarget, hport⟩)
  · refine ⟨h, fun key ↦ ⟨.inl, fun hkey ↦ hkey.elim id fun hnew ↦ ?_⟩⟩
    rw [hnew.2]
    exact hknown
  · refine ⟨⟨h.submitted, h.status, h.nodup.cons hknown, ?_, h.lost⟩, fun key ↦ ?_⟩
    · show (_ ++ (s.results ++ [_]).map resultKey).Perm _
      rw [List.map_append, ← List.append_assoc]
      exact (List.perm_append_singleton _ _).trans (h.whereabouts.cons _)
    · rw [List.mem_cons, and_iff_right (not_not.mp hclosed), or_comm]
  · refine ⟨⟨h.submitted, h.status, h.nodup.cons hknown, ?_, h.lost⟩, fun key ↦ ?_⟩
    · refine List.Perm.trans ?_ (h.whereabouts.cons _)
      rw [ServiceScheduler.whereabouts, ServiceScheduler.whereabouts, ← List.cons_append]
      refine List.Perm.append_right _ ?_
      simp only [live, List.map_append, List.append_assoc]
      exact List.perm_middle
    · rw [List.mem_cons, and_iff_right (not_not.mp hclosed), or_comm]

variable (ctx) in
/-- The loop of `submit`. -/
theorem Gathers.fold {openPorts : List PortResult} (h : Gathers seen s)
    (hvalid : ∀ p ∈ openPorts, IsSubmittable p) :
    Gathers (openPorts.foldl (ServiceScheduler.submitPort ctx) (seen, s)).1
        (openPorts.foldl (ServiceScheduler.submitPort ctx) (seen, s)).2 ∧
      ∀ key, key ∈ (openPorts.foldl (ServiceScheduler.submitPort ctx) (seen, s)).1 ↔
        key ∈ seen ∨ ∃ p ∈ openPorts, p.state = .open ∧ key = (p.target, p.port) := by
  induction openPorts generalizing seen s with
  | nil => exact ⟨h, by simp⟩
  | cons portResult openPorts ih =>
    obtain ⟨hhead, hrest⟩ := List.forall_mem_cons.mp hvalid
    obtain ⟨hone, hmem⟩ := h.submitPort ctx hhead
    obtain ⟨hall, hmemAll⟩ := ih hone hrest
    refine ⟨hall, fun key ↦ (hmemAll key).trans ?_⟩
    rw [hmem, List.exists_mem_cons_iff, or_assoc]

theorem census_submit {openPorts : List PortResult} (hvalid : ∀ p ∈ openPorts, IsSubmittable p)
    (hconfig : (create ctx).validateConfig ctx = .ok) :
    Census (distinctOpen openPorts) [] (submit ctx openPorts (create ctx)).2 := by
  have hstart : Gathers [] { create ctx with submitted := true } :=
    ⟨rfl, rfl, List.nodup_nil, .nil, rfl⟩
  obtain ⟨hgathers, hmem⟩ := hstart.fold ctx hvalid
  have hperm : (openPorts.foldl (ServiceScheduler.submitPort ctx)
      ([], { create ctx with submitted := true })).1.Perm (distinctOpen openPorts) := by
    refine (List.perm_ext_iff_of_nodup hgathers.nodup (List.nodup_dedup _)).mpr fun key ↦ ?_
    rw [hmem, List.mem_dedup, List.mem_map]
    simp only [List.not_mem_nil, false_or, List.mem_filter, decide_eq_true_eq, and_assoc]
    exact ⟨fun ⟨p, hp, hopen, hkey⟩ ↦ ⟨p, hp, hopen, hkey.symm⟩,
      fun ⟨p, hp, hopen, hkey⟩ ↦ ⟨p, hp, hopen, hkey.symm⟩⟩
  obtain ⟨hsubmitted, missing, hports, hlength⟩ := hgathers.counted
  have hcensus : Census (distinctOpen openPorts) [] _ :=
    ⟨hsubmitted, missing, hports.trans hperm, hlength⟩
  rw [submit, if_neg (show ¬ (create ctx).submitted = true from Bool.false_ne_true),
    if_neg (not_not.mpr hconfig)]
  dsimp only
  rw [if_pos hgathers.status]
  have hkept := census_kept (distinctOpen openPorts)
  exact hkept.stopIfIdle (hkept.pump hcensus : Census _ ([].map WorkItem.key) _)

/-- What is called on a scheduler: further submissions, and events. -/
inductive Call where
  | submit (openPorts : List PortResult)
  | event (e : Event)

def call (ctx : Context) (s : ServiceScheduler) : Call → ServiceScheduler
  | .submit openPorts => (submit ctx openPorts s).2
  | .event e => step ctx s e

/-- **Ports are conserved.** After a submission of open ports that is accepted, and after any calls,
each of them is in the queue, in flight, waits for a retry or has its result, and in one of these
only, but for one port for each retry after a lost connection that could not be deferred. So once
the scheduler is complete the others have one result each. -/
theorem ports_accounted {openPorts : List PortResult} (hvalid : ∀ p ∈ openPorts, IsSubmittable p)
    (hconfig : (create ctx).validateConfig ctx = .ok) (calls : List Call) :
    let s := Runs.run (call ctx) (submit ctx openPorts (create ctx)).2 calls
    ∃ missing, missing.length = lost s.trace ∧
      (s.whereabouts ++ missing).Perm (distinctOpen openPorts) ∧
      (s.whereabouts ++ missing).Nodup ∧
      (s.complete = true → (s.results.map resultKey ++ missing).Perm (distinctOpen openPorts)) := by
  intro s
  have hcensus : Census (distinctOpen openPorts) [] s := by
    refine Runs.run_invariant (I := Census (distinctOpen openPorts) []) (fun s c hs ↦ ?_)
      (census_submit hvalid hconfig) calls
    cases c with
    | submit openPorts' =>
      show Census _ [] (submit ctx openPorts' s).2
      rw [submit, if_pos hs.1]
      exact hs
    | event e => exact hs.step e
  obtain ⟨-, missing, hports, hlength⟩ := hcensus
  rw [List.nil_append] at hports
  refine ⟨missing, hlength, hports, hports.nodup_iff.mpr (List.nodup_dedup _), fun hcomplete ↦ ?_⟩
  obtain ⟨-, hqueue, hpending, hdeferred⟩ := of_decide_eq_true hcomplete
  have hlive : s.live = [] := by
    rw [live, hqueue, AList.values_eq_nil_iff.mpr hpending, AList.values_eq_nil_iff.mpr hdeferred]
    rfl
  rw [whereabouts, hlive] at hports
  exact hports

theorem census_oneRetry :
    let s := Runs.run (call oneRetry) (submit oneRetry [openHttpPort, openHttpPort]
      (create oneRetry)).2 [.event (.onTimeout 1)]
    ∃ missing, missing.length = lost s.trace ∧
      (s.whereabouts ++ missing).Perm (distinctOpen [openHttpPort, openHttpPort]) ∧
      (s.whereabouts ++ missing).Nodup ∧
      (s.complete = true → (s.results.map resultKey ++ missing).Perm
        (distinctOpen [openHttpPort, openHttpPort])) := by
  refine ports_accounted (fun p hp hopen ↦ ?_) (by decide +kernel) _
  obtain rfl : p = openHttpPort := by simpa using hp
  exact ⟨by decide, by decide⟩

end ServiceScheduler

end Skan.Detect
