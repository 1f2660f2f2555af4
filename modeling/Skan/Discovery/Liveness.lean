import Skan.Discovery.Holdings

/-!
# When discovery waits forever

`DiscoveryScheduler::run` pumps and then runs the engine. Every probe in flight has an armed timer
(`Armed`), and the callback that ends the last probe stops the engine. So while a probe is in flight
as `run` is called, no wait is without a timeout.

Probes can also end inside `submit` and `run` themselves, when they cannot be built, sent or timed;
no one stops the engine then. `discovery_awake_iff` says that this is the only way to wait forever:
a run hangs exactly when the submission has left nothing in flight. -/

namespace Skan.Discovery

open Skan.Core Skan.PortScan
open Skan.Io hiding TimerId

namespace DiscoveryScheduler

variable {τ : Type}

/-! ### The scheduler as a client of the reactor -/

/-- The callbacks of the scheduler: the capture descriptor's, for one response, and its timers'. -/
def client (ctx : Context τ) : Client (DiscoveryScheduler τ) DiscoveryResponse ProbeId where
  onEvent response s := (receive ctx response s).2
  onTimer id s := expire ctx id s
  calls := calls

/-- A scheduler over an engine that has memory for a timer when `accepts` says so. -/
def Context.overEngine (accepts : List Effect → Bool) (ctx : Context τ) : Context τ :=
  { ctx with
    environment :=
      { ctx.environment with
        schedule := fun trace _ ↦ EngineCall.answer (accepts trace) (callsOf trace) } }

/-- `run`, as the engine begins its loop. -/
def run (ctx : Context τ) (place : List TimerId → TimerId → ℕ) (s : DiscoveryScheduler τ) :
    Reactor (DiscoveryScheduler τ) ProbeId :=
  Reactor.start (client ctx) place (pump ctx s)

/-- The answers of the environment are those of an engine. -/
def EngineAnswers (ctx : Context τ) : Prop :=
  ∀ trace delay, ctx.environment.schedule trace delay ≠ 0 →
    ctx.environment.schedule trace delay = EngineCall.nextTimer (callsOf trace)

theorem engineAnswers_overEngine (accepts : List Effect → Bool) (ctx : Context τ) :
    EngineAnswers (ctx.overEngine accepts) := by
  intro trace delay hne
  replace hne : EngineCall.answer (accepts trace) (callsOf trace) ≠ 0 := hne
  show EngineCall.answer (accepts trace) (callsOf trace) = _
  rw [EngineCall.answer] at hne ⊢
  split_ifs at hne ⊢
  · rfl
  · exact absurd rfl hne

variable {ctx : Context τ} {s s' : DiscoveryScheduler τ} {e : IOEngine ProbeId}

/-! ### Every probe in flight has its timer -/

/-- The timer of every probe in flight is armed, and the engine answers as it has. -/
structure Armed (s : DiscoveryScheduler τ) (e : IOEngine ProbeId) : Prop where
  timer : ∀ id pending, s.pending.lookup id = some pending →
    e.timers.lookup pending.timerId = some id
  answers : e.Answers s.calls

theorem Armed.of_same (h : Armed s e) (hpending : s'.pending = s.pending)
    (hcalls : s'.calls = s.calls) : Armed s' e :=
  ⟨hpending ▸ h.timer, hcalls ▸ h.answers⟩

/-- A probe in flight has an armed timer. -/
theorem Armed.exists_timer (h : Armed s e) (hpos : 0 < s.pending.size) :
    ∃ timer, timer ∈ e.timers := by
  obtain ⟨id, hid⟩ : ∃ id, id ∈ s.pending := by
    by_contra hnone
    have hnil : s.pending.entries = [] := List.eq_nil_iff_forall_not_mem.mpr fun entry hentry ↦
      hnone ⟨entry.1, List.mem_keys_of_mem hentry⟩
    exact absurd hpos (by rw [AList.size, hnil]; exact lt_irrefl 0)
  obtain ⟨pending, hlookup⟩ := Option.isSome_iff_exists.mp (AList.lookup_isSome.mpr hid)
  exact ⟨pending.timerId, AList.mem_of_lookup (h.timer id pending hlookup)⟩

/-- Cancelling the timer of one probe leaves those of the others. -/
theorem Armed.lookup_cancel (h : Armed s e) {id other : ProbeId} {timer : TimerId}
    (htimer : e.timers.lookup timer = some id) {pending : PendingProbe}
    (hlookup : s.pending.lookup other = some pending) (hne : other ≠ id) :
    (e.cancel timer).timers.lookup pending.timerId = some other := by
  have hother := h.timer other pending hlookup
  have htimers : pending.timerId ≠ timer := by
    intro heq
    rw [heq, htimer] at hother
    exact hne (Option.some.inj hother).symm
  exact (AList.lookup_erase_ne htimers).trans hother

/-- **Every action keeps the timers of the probes in flight armed.** -/
theorem armed_of_action (hengine : EngineAnswers ctx) (h : Action ctx s s') (ha : Armed s e) :
    (client ctx).Keeps Armed s e s' := by
  cases h with
  | idle _ _ hcalls => exact ⟨[], hcalls, ha.of_same rfl hcalls⟩
  | skip => exact ⟨[], rfl, ha.of_same rfl rfl⟩
  | reject _ _ hcalls => exact ⟨[], hcalls, ha.of_same rfl hcalls⟩
  | @start item workQueue entered transport trace _ _ _ htimer hne hcalls =>
    obtain ⟨earlier, hearlier, hanswer⟩ := htimer
    have hnext : entered.timerId = EngineCall.nextTimer s.calls := by
      rw [← hearlier, ← hanswer]
      exact hengine earlier _ (hanswer ▸ hne)
    obtain ⟨hfresh, htimers, hanswers⟩ :=
      IOEngine.timers_apply_schedule ha.answers hnext hne s.nextProbeId
    refine ⟨[.schedule s.nextProbeId entered.timerId], hcalls, fun id pending hlookup ↦ ?_, ?_⟩
    · show (e.apply (.schedule s.nextProbeId entered.timerId)).timers.lookup pending.timerId = _
      rw [htimers]
      -- the timers of the others are not the new one
      have hold : ∀ id pending, s.pending.lookup id = some pending →
          (e.timers.insert entered.timerId s.nextProbeId).lookup pending.timerId = some id := by
        intro id pending hlookup
        have harmed := ha.timer id pending hlookup
        have hother : pending.timerId ≠ entered.timerId := fun heq ↦
          hfresh (heq ▸ AList.mem_of_lookup harmed)
        rw [AList.lookup_insert_ne hother, harmed]
      replace hlookup : ((s.pending.emplace s.nextProbeId entered).getD s.pending).lookup id =
          some pending := hlookup
      rw [AList.emplace] at hlookup
      split_ifs at hlookup
      · exact hold id pending hlookup
      · rw [Option.getD_some, AList.lookup_insert_eq_ite] at hlookup
        split_ifs at hlookup with heq
        · rw [← Option.some.inj hlookup, heq]
          exact AList.lookup_insert _
        · exact hold id pending hlookup
    · show (e.apply (.schedule s.nextProbeId entered.timerId)).Answers (callsOf trace)
      rw [hcalls]
      exact hanswers
  | @complete id pending result evidence trace hlookup _ hcalls =>
    refine ⟨[.cancel pending.timerId], hcalls, fun other p hother ↦ ?_, ?_⟩
    · rw [AList.lookup_erase_eq_ite] at hother
      split_ifs at hother with hne
      exact ha.lookup_cancel (ha.timer id pending hlookup) hother hne
    · show e.Answers (callsOf trace)
      rw [hcalls, IOEngine.Answers, EngineCall.nextTimer_cons_of_not_arms rfl]
      exact ha.answers
  | @expire id pending result evidence trace hlookup _ hcalls =>
    refine ⟨[], hcalls, fun other p hother ↦ ?_, ?_⟩
    · rw [AList.lookup_erase_eq_ite] at hother
      split_ifs at hother
      exact ha.timer other p hother
    · show e.Answers (callsOf trace)
      rw [hcalls]
      exact ha.answers
  | stop =>
    refine ⟨[.stop], rfl, ha.timer, ?_⟩
    show e.Answers (.stop :: s.calls)
    rw [IOEngine.Answers, EngineCall.nextTimer_cons_of_not_arms rfl]
    exact ha.answers

theorem armed_of_actions (hengine : EngineAnswers ctx) (h : Actions ctx s s') (ha : Armed s e) :
    (client ctx).Keeps Armed s e s' := by
  induction h with
  | refl => exact .refl ha
  | tail _ hstep ih => exact ih.trans (armed_of_action hengine hstep)

/-! ### The callbacks -/

/-- What holds of the scheduler and the engine while the loop runs. -/
structure Busy (ctx : Context τ) (s : DiscoveryScheduler τ) (e : IOEngine ProbeId) : Prop extends
    Armed s e where
  room : 0 < ctx.config.maxOutstanding.toNat
  pending_pos : 0 < s.pending.size

section

variable (hengine : EngineAnswers ctx)

include hengine

/-- A callback that pumps last leaves a probe in flight, or stops the engine. -/
theorem leaves_pumped (hroom : 0 < ctx.config.maxOutstanding.toNat)
    {middle : DiscoveryScheduler τ} (ha : Armed middle e) :
    (client ctx).Leaves (Busy ctx) middle e (stopIfComplete (pump ctx middle)) := by
  obtain ⟨new, hcalls, hpumped⟩ := armed_of_actions hengine (actions_pump middle) ha
  rw [stopIfComplete]
  split_ifs with hcomplete
  · exact ⟨.stop :: new, congrArg _ hcalls, .inl List.mem_cons_self⟩
  · refine ⟨new, hcalls, .inr ⟨hpumped, hroom, Nat.pos_of_ne_zero fun hempty ↦ hcomplete ?_⟩⟩
    obtain hnil | hfull := pump_done ctx middle
    · exact decide_eq_true ⟨hempty, hnil⟩
    · omega

theorem leaves_receive (hs : Busy ctx s e) (response : DiscoveryResponse) :
    (client ctx).Leaves (Busy ctx) s e (receive ctx response s).2 := by
  have h : Ends ctx s (receive ctx response s).2 := ends_receive response s
  generalize (receive ctx response s).2 = s' at h
  cases h with
  | idle _ _ hpending hcalls =>
    exact ⟨[], hcalls, .inr ⟨hs.toArmed.of_same hpending hcalls, hs.room,
      hpending ▸ hs.pending_pos⟩⟩
  | pumped haction =>
    exact (armed_of_action hengine haction hs.toArmed).leaves (leaves_pumped hengine hs.room)

/-- A timer that is due ends its probe, if that is still in flight. -/
theorem leaves_expire (hs : Busy ctx s e) {timer : TimerId} {id : ProbeId}
    (htimer : e.timers.lookup timer = some id) :
    (client ctx).Leaves (Busy ctx) s (e.cancel timer) (expire ctx id s) := by
  rw [expire]
  split
  · rename_i hnone
    -- the probe has ended, and no other has this timer
    refine ⟨[], rfl, .inr ⟨⟨fun other pending hlookup ↦ ?_, hs.answers⟩, hs.room, hs.pending_pos⟩⟩
    refine hs.lookup_cancel htimer hlookup ?_
    rintro rfl
    cases hnone.symm.trans hlookup
  · rename_i pending hlookup
    obtain ⟨published, evidence, trace, hkey, hcalls, heq⟩ :=
      appendUnknown_eq ctx pending.submission.target pending.type .timeout s
    rw [heq]
    have harmed : Armed
        { s with
          expiredProbeIds := insert id s.expiredProbeIds
          pending := s.pending.erase id, results := s.results ++ [published], evidence, trace }
        (e.cancel timer) := by
      refine ⟨fun other p hother ↦ ?_, ?_⟩
      · rw [AList.lookup_erase_eq_ite] at hother
        split_ifs at hother with hne
        exact hs.lookup_cancel htimer hother hne
      · show (e.cancel timer).Answers (callsOf trace)
        rw [hcalls]
        exact hs.answers
    obtain ⟨newer, hcalls', hleft⟩ := leaves_pumped hengine hs.room harmed
    exact ⟨newer, hcalls'.trans (congrArg _ hcalls), hleft⟩

theorem alive :
    (client ctx).Alive (Busy ctx) fun _ _ ↦ True where
  timers_ne {s e} hs hempty := by
    obtain ⟨timer, htimer⟩ := hs.exists_timer hs.pending_pos
    rw [hempty] at htimer
    exact AList.notMem_empty _ htimer
  onEvent response hs _ := leaves_receive hengine hs response
  onTimer hs htimer _ := leaves_expire hengine hs htimer

end

/-! ### What a submission leaves -/

/-- A probe that leaves the queue is refused, and arms no timer, or it goes in flight. -/
theorem unarmed_of_action (h : Action ctx s s') (hqueue : s'.workQueue ≠ s.workQueue)
    (hs : s.pending.size = 0 → s.calls = []) (hnone : s'.pending.size = 0) : s'.calls = [] := by
  cases h with
  | idle => exact absurd rfl hqueue
  | complete => exact absurd rfl hqueue
  | expire => exact absurd rfl hqueue
  | stop => exact absurd rfl hqueue
  | skip => exact hs hnone
  | reject _ _ hcalls => exact hcalls.trans (hs hnone)
  | @start item workQueue entered =>
    replace hnone : ((s.pending.emplace s.nextProbeId entered).getD s.pending).size = 0 := hnone
    rw [AList.emplace] at hnone
    split_ifs at hnone with hmem
    · replace hnone : s.pending.size = 0 := hnone
      rw [AList.eq_empty_of_size_eq_zero hnone] at hmem
      exact absurd hmem (AList.notMem_empty _)
    · rw [Option.getD_some, AList.size_insert entered hmem] at hnone
      exact absurd hnone (Nat.succ_ne_zero _)

/-- Nothing is in flight only if no timer was ever armed. -/
def Unarmed (s : DiscoveryScheduler τ) : Prop := s.pending.size = 0 → s.calls = []

theorem unarmed_pumpLoop (fuel : ℕ) (hs : s.Unarmed) : (pumpLoop ctx fuel s).Unarmed := by
  induction fuel generalizing s with
  | zero => exact hs
  | succ fuel ih =>
    rw [pumpLoop]
    split
    · exact hs
    · rename_i item workQueue hqueue
      split_ifs
      · refine ih (unarmed_of_action (action_submitOne hqueue) ?_ hs)
        rw [workQueue_submitOne, hqueue]
        exact (List.cons_ne_self item workQueue).symm
      · exact hs

theorem unarmed_submitHost (target : Target) (host : Host) (hs : s.Unarmed) :
    (submitHost ctx target host s).2.Unarmed := by
  rw [submitHost]
  split_ifs
  · obtain ⟨published, evidence, trace, -, hcalls, heq⟩ := appendUnknown_eq ctx host.address
      ((probes ctx).head?.elim .icmpEcho (·.type)) .invalidTarget s
    rw [heq]
    exact fun hnone ↦ hcalls.trans (hs hnone)
  · exact hs
  · exact hs
  · exact unarmed_pumpLoop _ hs

theorem unarmed_submitHosts (target : Target) (hosts : List Host) (hs : s.Unarmed) :
    (submitHosts ctx target hosts s).2.Unarmed := by
  induction hosts generalizing s with
  | nil => exact hs
  | cons host hosts ih => exact ih (unarmed_submitHost target host hs)

theorem unarmed_submit (target : Target) (hs : s.Unarmed) : (submit ctx target s).2.Unarmed := by
  rw [submit]
  split_ifs
  · exact hs
  · exact unarmed_pumpLoop _ (unarmed_submitHosts target _ hs)

section

variable (hengine : EngineAnswers ctx)

include hengine

/-- What a submission changes is done by actions, once its hosts are queued. -/
theorem armed_submitHost (target : Target) (host : Host) (ha : Armed s e) :
    (client ctx).Keeps Armed s e (submitHost ctx target host s).2 := by
  rw [submitHost]
  split_ifs
  · obtain ⟨published, evidence, trace, -, hcalls, heq⟩ := appendUnknown_eq ctx host.address
      ((probes ctx).head?.elim .icmpEcho (·.type)) .invalidTarget s
    rw [heq]
    exact ⟨[], hcalls, ha.of_same rfl hcalls⟩
  · exact .refl ha
  · exact .refl ha
  · exact armed_of_actions hengine
      (s := { s with
        workQueue := s.workQueue ++ ctx.config.probes.map fun type ↦ { target, host, type } })
      (actions_pump _) (ha.of_same rfl rfl)

theorem armed_submitHosts (target : Target) (hosts : List Host) (ha : Armed s e) :
    (client ctx).Keeps Armed s e (submitHosts ctx target hosts s).2 := by
  induction hosts generalizing s e with
  | nil => exact .refl ha
  | cons host hosts ih => exact (armed_submitHost hengine target host ha).trans ih

theorem armed_submit (target : Target) (ha : Armed s e) :
    (client ctx).Keeps Armed s e (submit ctx target s).2 := by
  rw [submit]
  split_ifs
  · exact .refl ha
  · exact (armed_submitHosts hengine target target.resolvedHosts ha).trans
      (armed_of_actions hengine (actions_pump _))

end

theorem armed_create (transport : τ) : Armed (create transport) {} where
  timer _ _ hlookup := absurd (AList.mem_of_lookup hlookup) (AList.notMem_empty _)
  answers := rfl

/-- Where a pump has run, another does nothing. -/
theorem pump_of_done (h : s.workQueue = [] ∨ ctx.config.maxOutstanding.toNat ≤ s.pending.size) :
    pump ctx s = s := by
  rw [pump]
  cases hqueue : s.workQueue with
  | nil => rfl
  | cons item workQueue =>
    have hfull := h.resolve_left (by rw [hqueue]; exact List.cons_ne_nil _ _)
    rw [List.length_cons, pumpLoop, hqueue]
    exact if_neg (not_lt.mpr hfull)

variable (ctx) in
/-- A submission that leaves something in flight has been admitted, and has pumped last. -/
theorem pump_submit (target : Target) (transport : τ) :
    pump ctx (submit ctx target (create transport)).2 = (submit ctx target (create transport)).2 ∧
      (0 < (submit ctx target (create transport)).2.pending.size →
        0 < ctx.config.maxOutstanding.toNat) := by
  rw [submit]
  split_ifs with hrefused
  · exact ⟨pump_of_done (.inl rfl), fun hpos ↦ absurd hpos (lt_irrefl 0)⟩
  · refine ⟨pump_of_done (pump_done ctx _), fun _ ↦ Nat.pos_of_ne_zero fun hzero ↦ hrefused ?_⟩
    exact .inr (.inr (.inr (UInt64.toNat_inj.mp hzero)))

/-- The engine has granted a timer, for a probe that the transport has accepted. -/
def Granted (s : DiscoveryScheduler τ) : Prop :=
  ∃ delay id timer, Effect.timerScheduled delay id timer ∈ s.trace ∧ timer ≠ 0

theorem granted_iff_schedule_mem :
    Granted s ↔ ∃ id timer, EngineCall.schedule id timer ∈ s.calls := by
  constructor
  · rintro ⟨delay, id, timer, hmem, hne⟩
    exact ⟨id, timer, List.mem_filterMap.mpr ⟨_, hmem, if_neg hne⟩⟩
  · rintro ⟨id, timer, hmem⟩
    obtain ⟨effect, heffect, hcall⟩ := List.mem_filterMap.mp hmem
    cases effect with
    | timerScheduled delay id' timer' =>
      have hcall : (if timer' = 0 then none else some (EngineCall.schedule id' timer')) =
          some (.schedule id timer) := hcall
      split_ifs at hcall with hne
      exact ⟨delay, id', timer', heffect, hne⟩
    | _ => exact nomatch hcall

/-- A submission leaves a probe in flight exactly when one has been granted its timer. -/
theorem granted_submit_iff (hengine : EngineAnswers ctx) (target : Target) (transport : τ) :
    Granted (submit ctx target (create transport)).2 ↔
      (submit ctx target (create transport)).2.pending.size ≠ 0 := by
  rw [granted_iff_schedule_mem]
  constructor
  · rintro ⟨id, timer, hmem⟩ hnone
    rw [unarmed_submit target (fun _ ↦ rfl) hnone] at hmem
    exact absurd hmem List.not_mem_nil
  · intro hsome
    obtain ⟨new, hcalls, ha⟩ := armed_submit hengine target (armed_create transport)
    replace hcalls : (submit ctx target (create transport)).2.calls = new :=
      hcalls.trans (List.append_nil new)
    obtain ⟨timer, htimer⟩ := ha.exists_timer (Nat.pos_of_ne_zero hsome)
    rw [hcalls]
    exact (IOEngine.mem_timers_replay htimer).resolve_left (AList.notMem_empty _)

/-- **When discovery waits forever.** Whatever the engine and the transport refuse: a submission
that is followed by `run` waits without a timeout if and only if none of its probes has been
accepted by the transport and granted a timer, so that none is in flight when `run` is called. As
long as one is, no order of responses and timeouts leads to such a wait. -/
theorem discovery_awake_iff (ctx : Context τ) (accepts : List Effect → Bool)
    (place : List TimerId → TimerId → ℕ) (transport : τ) (target : Target) :
    let ctx := ctx.overEngine accepts
    let s := (submit ctx target (create transport)).2
    ((∀ wakeups, ∀ w ∈ Reactor.waits (client ctx) place wakeups (run ctx place s),
        ¬ w.WaitsForever) ↔ Granted s) ∧
      (Granted s ↔ s.pending.size ≠ 0) := by
  intro ctx s
  have hengine : EngineAnswers ctx := engineAnswers_overEngine accepts _
  have hgranted : Granted s ↔ s.pending.size ≠ 0 := granted_submit_iff hengine target transport
  refine ⟨?_, hgranted⟩
  rw [hgranted]
  obtain ⟨hpump, hroom⟩ := pump_submit ctx target transport
  obtain ⟨new, hcalls, ha⟩ := armed_submit hengine target (armed_create transport)
  replace hcalls : s.calls = new := hcalls.trans (List.append_nil new)
  obtain ⟨hclient, hstart⟩ := Reactor.engine_start (client ctx) place (pump ctx s)
  rw [show pump ctx s = s from hpump] at hclient hstart
  have hengineEq : (run ctx place s).engine = IOEngine.replay {} new := by
    rw [run, show pump ctx s = s from hpump, hstart]
    show IOEngine.replay {} s.calls = _
    rw [hcalls]
  constructor
  · intro hawake hnone
    have hsilent : s.calls = [] := unarmed_submit target (fun _ ↦ rfl) hnone
    rw [hcalls] at hsilent
    rw [hsilent] at hengineEq
    obtain ⟨w, hw, hforever⟩ := Reactor.hangs_of_none_armed (client ctx) place (pump ctx s)
      (congrArg IOEngine.timers hengineEq) []
    exact hawake [] w hw hforever
  · intro hsome wakeups
    have hpos : 0 < s.pending.size := Nat.pos_of_ne_zero hsome
    refine Reactor.awake (alive hengine) (.inr ?_) (Reactor.queued_start _) (Reactor.meets_of_forall
      _ _ (fun _ _ ↦ trivial) _ _)
    show Busy ctx (run ctx place s).client (run ctx place s).engine
    rw [hengineEq, run, show pump ctx s = s from hpump, hclient]
    exact ⟨ha, hroom hpos, hpos⟩

/-- Discovery over a transport that refuses everything. -/
def refusing : Context Unit :=
  { tcpOnly 1 with
    environment := { (tcpOnly 1).environment with submit := fun _ _ transport ↦
      (.ioError, transport) } }

/-- **A refused probe is never reported to the engine**: `submit` returns `Ok` although the only
probe of the only host was not sent, and `run` then waits for a response to nothing. -/
theorem not_discovery_awake_refused :
    ¬ ∀ (ctx : Context Unit) (accepts : List Effect → Bool)
      (place : List TimerId → TimerId → ℕ) (target : Target),
      let ctx := ctx.overEngine accepts
      (submit ctx target (create ())).1 = .ok →
        ∀ wakeups, ∀ w ∈ Reactor.waits (client ctx) place wakeups
          (run ctx place (submit ctx target (create ())).2), ¬ w.WaitsForever := by
  intro hclaim
  refine hclaim refusing (fun _ ↦ true) (fun _ _ ↦ 0) { resolvedHosts := [lanHost 1] }
    (by decide +kernel) [] _ (List.mem_singleton.mpr rfl) ?_
  decide +kernel

end DiscoveryScheduler

end Skan.Discovery
