import Mathlib.Data.List.TakeWhile
import Skan.Io.Timers
import Skan.Library.Runs

/-!
# The run loop of the reactor

`IOEngine::run` of `src/io/io_engine.cpp` over a client, whatever it is: the client's callbacks are
called for the inputs a wait delivers and for the timers that have expired, and what they ask of the
engine in turn is read off the client's own record of its calls.

A descriptor stays registered, so `run` leaves only when it is stopped or a wait fails. Time is left
out as in `Skan.Io.Timers`: which inputs and which due timers a wait brings is part of the run
(`Wakeup`), and so is the place of a timer in the queue of deadlines.

## What is proved

A wait has no timeout exactly when no timer is armed (`waitsForever_iff`). `awake` is the rule for
clients: an invariant that provides an armed timer, and that every callback keeps unless it stops
the engine, keeps the loop from ever waiting without a timeout. A stop that was requested before
`run` is no help, since `run` clears it (`Reactor.start`). -/

namespace Skan.Io

/-- A call to the engine. That of `schedule` has its answer: zero when it was refused. -/
inductive EngineCall (α : Type*) where
  | schedule (callback : α) (timer : TimerId)
  | cancel (timer : TimerId)
  | stop
  deriving DecidableEq

variable {σ ι α : Type*}

/-! ### The answers of an engine -/

namespace EngineCall

/-- Whether a call has armed a timer. -/
def arms : EngineCall α → Bool
  | .schedule _ timer => timer ≠ 0
  | _ => false

/-- The identifier for the next timer after some calls: they are handed out in order. -/
def nextTimer (calls : List (EngineCall α)) : TimerId := UInt64.ofNat (calls.countP arms + 1)

/-- The answer to `schedule` after some calls; the engine refuses when it has no memory
(`accepts` is false), and when the identifiers have run out. -/
def answer (accepts : Bool) (calls : List (EngineCall α)) : TimerId :=
  if accepts then nextTimer calls else 0

theorem nextTimer_cons_of_not_arms {call : EngineCall α} (h : call.arms = false)
    (calls : List (EngineCall α)) : nextTimer (call :: calls) = nextTimer calls := by
  rw [nextTimer, List.countP_cons_of_neg (by rw [h]; decide), nextTimer]

theorem nextTimer_cons_of_arms {call : EngineCall α} (h : call.arms = true)
    (calls : List (EngineCall α)) : nextTimer (call :: calls) = nextTimer calls + 1 := by
  rw [nextTimer, List.countP_cons_of_pos h, nextTimer, UInt64.ofNat_add, UInt64.ofNat_add]
  rfl

end EngineCall

namespace IOEngine

/-- The engine after a call. -/
def apply (e : IOEngine α) : EngineCall α → IOEngine α
  | .schedule callback timer => (e.schedule (timer ≠ 0) callback).2
  | .cancel timer => e.cancel timer
  | .stop => e

/-- The engine after some calls, of which the newest is the first. -/
def replay (e : IOEngine α) (calls : List (EngineCall α)) : IOEngine α :=
  calls.foldr (fun call e ↦ e.apply call) e

@[simp] theorem replay_cons (e : IOEngine α) (call : EngineCall α) (calls : List (EngineCall α)) :
    e.replay (call :: calls) = (e.replay calls).apply call := rfl

theorem replay_append (e : IOEngine α) (calls earlier : List (EngineCall α)) :
    e.replay (calls ++ earlier) = (e.replay earlier).replay calls := List.foldr_append

/-- The engine answers as it has so far: its next identifier is the next one of the calls. -/
def Answers (e : IOEngine α) (calls : List (EngineCall α)) : Prop :=
  e.nextTimerId = EngineCall.nextTimer calls

/-- What an answered call to `schedule` arms. -/
theorem timers_apply_schedule {e : IOEngine α} {calls : List (EngineCall α)} (h : e.Answers calls)
    {timer : TimerId} (hanswer : timer = EngineCall.nextTimer calls) (hne : timer ≠ 0)
    (callback : α) :
    timer ∉ e.timers ∧ (e.apply (.schedule callback timer)).timers =
      e.timers.insert timer callback ∧
      (e.apply (.schedule callback timer)).Answers (.schedule callback timer :: calls) := by
  obtain rfl : e.nextTimerId = timer := h.trans hanswer.symm
  have haccepted : ¬ ((!decide (e.nextTimerId ≠ 0)) = true ∨ e.nextTimerId = 0) := by
    simp [hne]
  refine ⟨fun hmem ↦ ?_, ?_, ?_⟩
  · exact absurd (e.lt_next hne _ hmem) (UInt64.lt_irrefl _)
  · rw [apply, schedule, dif_neg haccepted]
  · have harms : (EngineCall.schedule callback e.nextTimerId).arms = true := decide_eq_true hne
    rw [Answers, EngineCall.nextTimer_cons_of_arms harms, apply, schedule, dif_neg haccepted, ← h]

/-- The armed timers, with their callbacks, are those a client accounts for. -/
def Owned (e : IOEngine α) (owns : TimerId → α → Prop) : Prop :=
  ∀ timer callback, e.timers.lookup timer = some callback ↔ owns timer callback

variable {e : IOEngine α} {owns owns' : TimerId → α → Prop} {timer : TimerId} {callback : α}

/-- A client that accounts for a new timer. -/
theorem Owned.acquire {e' : IOEngine α} (h : e.Owned owns) (hfresh : timer ∉ e.timers)
    (he' : e'.timers = e.timers.insert timer callback)
    (howns' : ∀ t c, owns' t c ↔ c = callback ∧ t = timer ∨ owns t c) : e'.Owned owns' := by
  intro t c
  rw [he', AList.lookup_insert_eq_ite, howns']
  split_ifs with ht
  · have hnone : ¬ owns t c := fun howns ↦
      hfresh (ht ▸ AList.mem_of_lookup ((h t c).mpr howns))
    rw [or_iff_left hnone, and_iff_left ht]
    exact ⟨fun heq ↦ (Option.some.inj heq).symm, fun heq ↦ congrArg some heq.symm⟩
  · rw [or_iff_right fun hnew ↦ ht hnew.2]
    exact h t c

/-- A client that no longer accounts for a timer it cancels. -/
theorem Owned.release (h : e.Owned owns) (howner : owns timer callback)
    (hunique : ∀ t, owns t callback → t = timer)
    (howns' : ∀ t c, owns' t c ↔ owns t c ∧ c ≠ callback) : (e.cancel timer).Owned owns' := by
  intro t c
  show (e.timers.erase timer).lookup t = some c ↔ _
  rw [AList.lookup_erase_eq_ite, howns']
  have hcallback := (h timer callback).mpr howner
  split_ifs with ht
  · refine iff_of_false nofun fun ⟨howns, hne⟩ ↦ hne ?_
    rw [← (h t c), ht, hcallback] at howns
    exact (Option.some.inj howns).symm
  · refine (h t c).trans (and_iff_left_of_imp fun howns heq ↦ ht ?_).symm
    exact hunique t (heq ▸ howns)

/-- A timer that is armed after some calls was so before, or one of the calls has armed it. -/
theorem mem_timers_replay {calls : List (EngineCall α)} (h : timer ∈ (e.replay calls).timers) :
    timer ∈ e.timers ∨ ∃ callback timer, EngineCall.schedule callback timer ∈ calls := by
  induction calls with
  | nil => exact .inl h
  | cons call calls ih =>
    cases call with
    | schedule callback timer => exact .inr ⟨callback, timer, List.mem_cons_self⟩
    | cancel _ =>
      exact (ih (AList.mem_erase.mp h).2).imp_right fun ⟨callback, timer, hmem⟩ ↦
        ⟨callback, timer, List.mem_cons_of_mem _ hmem⟩
    | stop =>
      exact (ih h).imp_right fun ⟨callback, timer, hmem⟩ ↦
        ⟨callback, timer, List.mem_cons_of_mem _ hmem⟩

end IOEngine

/-! ### The loop -/

/-- What uses the engine: the callback of its descriptor, for one input, the callback of its timers,
and everything it has asked of the engine, newest first. -/
structure Client (σ ι α : Type*) where
  onEvent : ι → σ → σ
  onTimer : α → σ → σ
  calls : σ → List (EngineCall α)

/-- The state of `run`. The queue of deadlines has entries of timers that are no longer armed. -/
structure Reactor (σ α : Type*) where
  client : σ
  engine : IOEngine α := {}
  timerQueue : List TimerId := []
  stopped : Bool := false

/-- What a wait ends with: an error, or the inputs of each event that is ready and the timers that
are due after their callbacks. -/
inductive Wakeup (ι : Type*) where
  | failed
  | woken (ready : List (List ι)) (due : List TimerId)

namespace Reactor

variable (c : Client σ ι α) (place : List TimerId → TimerId → ℕ)

/-- What a call does to the reactor; a new timer has its place in the queue by its deadline. -/
def call (request : EngineCall α) (r : Reactor σ α) : Reactor σ α :=
  match request with
  | .schedule callback timer =>
    let (id, engine) := r.engine.schedule (timer ≠ 0) callback
    { r with
      engine
      timerQueue := if id = 0 then r.timerQueue
        else r.timerQueue.insertIdx (min (place r.timerQueue id) r.timerQueue.length) id }
  | .cancel timer => { r with engine := r.engine.cancel timer }
  | .stop => { r with stopped := true }

/-- The reactor after a callback has made its client `client`. -/
def absorb (client : σ) (r : Reactor σ α) : Reactor σ α :=
  ((c.calls client).take ((c.calls client).length - (c.calls r.client).length)).foldr
    (call place) { r with client }

/-- The reactor when `run` is called: it has had all calls so far, and a stop among them is
forgotten. -/
def start (client : σ) : Reactor σ α :=
  { (c.calls client).foldr (call place) { client } with stopped := false }

/-- The callback of a ready event. -/
def deliver (inputs : List ι) (r : Reactor σ α) : Reactor σ α :=
  Runs.run (fun r input ↦ r.absorb c place (c.onEvent input r.client)) r inputs

/-- The loop over the ready events, which ends when one of them stops the engine. -/
def dispatchEvents : List (List ι) → Reactor σ α → Reactor σ α
  | [], r => r
  | inputs :: ready, r =>
    let r := r.deliver c place inputs
    if r.stopped then r else dispatchEvents ready r

/-- One due timer: it is disarmed, and its callback is called, unless it was cancelled. -/
def fire (timer : TimerId) (r : Reactor σ α) : Reactor σ α :=
  let r := { r with timerQueue := r.timerQueue.erase timer }
  match r.engine.expire timer with
  | none => r
  | some (callback, engine) => { r with engine }.absorb c place (c.onTimer callback r.client)

/-- `dispatch_timers`. -/
def dispatchTimers : List TimerId → Reactor σ α → Reactor σ α
  | [], r => r
  | timer :: due, r => if r.stopped then r else dispatchTimers due (r.fire c place timer)

/-- The queue of deadlines as a wait finds it: its top is an armed timer. -/
def cleaned (r : Reactor σ α) : List TimerId := r.timerQueue.dropWhile (· ∉ r.engine.timers)

/-- `wait_timeout_ms` of `run`, which sets no bound of its own, is negative. -/
def WaitsForever (r : Reactor σ α) : Prop := r.cleaned = []

instance (r : Reactor σ α) : Decidable r.WaitsForever :=
    inferInstanceAs (Decidable (r.cleaned = []))

/-- `run_once_impl` from its wait on. -/
def iterate (ready : List (List ι)) (due : List TimerId) (r : Reactor σ α) : Reactor σ α :=
  dispatchTimers c place due
    (dispatchEvents c place ready { r with timerQueue := r.cleaned })

/-- The states in which the loop of `run` waits. -/
def waits : List (Wakeup ι) → Reactor σ α → List (Reactor σ α)
  | [], r => if r.stopped then [] else [r]
  | .failed :: _, r => if r.stopped then [] else [r]
  | .woken ready due :: wakeups, r =>
    if r.stopped then [] else r :: waits wakeups (r.iterate c place ready due)

/-! ### Runs whose callbacks meet a condition

`P` is a condition on the callbacks, each with the client it is called on: that of the descriptor
with its input, or that of a timer. Nothing is asked of what is called after a stop. -/

section Meets

variable (P : σ → ι ⊕ α → Prop)

def EventsMeet : List (List ι) → Reactor σ α → Prop
  | [], _ => True
  | inputs :: ready, r =>
    Runs.Within (fun r input ↦ r.absorb c place (c.onEvent input r.client))
        (fun r input ↦ r.stopped ∨ P r.client (.inl input)) r inputs ∧
      ((r.deliver c place inputs).stopped ∨ EventsMeet ready (r.deliver c place inputs))

def TimersMeet : List TimerId → Reactor σ α → Prop
  | [], _ => True
  | timer :: due, r =>
    r.stopped ∨
      (∀ callback, r.engine.timers.lookup timer = some callback → P r.client (.inr callback)) ∧
        TimersMeet due (r.fire c place timer)

/-- Every callback of the run meets the condition. -/
def Meets : List (Wakeup ι) → Reactor σ α → Prop
  | .woken ready due :: wakeups, r =>
    r.stopped ∨
      EventsMeet c place P ready { r with timerQueue := r.cleaned } ∧
        TimersMeet c place P due
          (dispatchEvents c place ready { r with timerQueue := r.cleaned }) ∧
        Meets wakeups (r.iterate c place ready due)
  | _, _ => True

variable {P}

/-- A condition that every callback meets. -/
theorem meets_of_forall (h : ∀ s callback, P s callback) (wakeups : List (Wakeup ι))
    (r : Reactor σ α) : r.Meets c place P wakeups := by
  have hevents : ∀ ready r, EventsMeet c place P ready r := by
    intro ready
    induction ready with
    | nil => exact fun _ ↦ trivial
    | cons inputs ready ih =>
      exact fun r ↦ ⟨Runs.within_of_forall (fun _ _ _ ↦ .inr (h _ _)) r, .inr (ih _)⟩
  have htimers : ∀ due r, TimersMeet c place P due r := by
    intro due
    induction due with
    | nil => exact fun _ ↦ trivial
    | cons timer due ih => exact fun r ↦ .inr ⟨fun _ _ ↦ h _ _, ih _⟩
  induction wakeups generalizing r with
  | nil => exact trivial
  | cons wakeup wakeups ih =>
    cases wakeup with
    | failed => exact trivial
    | woken ready due => exact .inr ⟨hevents _ _, htimers _ _, ih _⟩

end Meets

/-! ### The queue of deadlines -/

/-- Every armed timer is in the queue. -/
def Queued (r : Reactor σ α) : Prop := ∀ id ∈ r.engine.timers, id ∈ r.timerQueue

variable {c place} {r : Reactor σ α}

/-- **A wait has no timeout exactly when no timer is armed.** -/
theorem Queued.waitsForever_iff (h : r.Queued) : r.WaitsForever ↔ r.engine.timers = ∅ := by
  rw [WaitsForever, cleaned, List.dropWhile_eq_nil_iff]
  constructor
  · intro hnone
    refine AList.ext (List.eq_nil_iff_forall_not_mem.mpr fun e he ↦ ?_)
    have hmem : e.1 ∈ r.engine.timers := List.mem_keys_of_mem he
    exact of_decide_eq_true (hnone e.1 (h e.1 hmem)) hmem
  · intro hempty id _
    rw [hempty]
    exact decide_eq_true (AList.notMem_empty id)

/-- A call keeps the queue. -/
theorem Queued.call (h : r.Queued) (request : EngineCall α) : (r.call place request).Queued := by
  cases request with
  | schedule callback timer =>
    obtain hsame | ⟨id, e, hid, hne, -, htimers⟩ := r.engine.schedule_cases (timer ≠ 0) callback
    · intro id hmem
      rw [Reactor.call, hsame] at hmem ⊢
      exact h id hmem
    · intro other hmem
      rw [Reactor.call, hid] at hmem ⊢
      dsimp only at hmem ⊢
      rw [htimers, AList.mem_insert] at hmem
      rw [if_neg hne]
      refine (List.mem_insertIdx (min_le_right _ _)).mpr ?_
      exact hmem.imp_right (h other)
  | cancel timer => exact fun id hmem ↦ h id (AList.mem_erase.mp hmem).2
  | stop => exact h

theorem Queued.calls (h : r.Queued) (requests : List (EngineCall α)) :
    (requests.foldr (Reactor.call place) r).Queued := by
  induction requests with
  | nil => exact h
  | cons request requests ih => exact ih.call request

theorem Queued.absorb (h : r.Queued) (client : σ) : (r.absorb c place client).Queued :=
  Queued.calls (r := { r with client }) h _

theorem queued_start (client : σ) : (start c place client).Queued :=
  Queued.calls (r := { client }) (fun id hmem ↦ absurd hmem (AList.notMem_empty id)) _

section

variable (h : r.Queued)

include h

/-- So does a timer that fires. -/
theorem Queued.fire (timer : TimerId) : (r.fire c place timer).Queued := by
  have herase : ∀ id ∈ r.engine.timers.erase timer, id ∈ r.timerQueue.erase timer := by
    intro id hmem
    obtain ⟨hne, hold⟩ := AList.mem_erase.mp hmem
    exact (List.mem_erase_of_ne hne).mpr (h id hold)
  rw [Reactor.fire]
  dsimp only [IOEngine.expire]
  cases hlookup : r.engine.timers.lookup timer with
  | none =>
    rw [AList.erase_of_notMem (AList.lookup_eq_none.mp hlookup)] at herase
    exact herase
  | some callback =>
    exact Queued.absorb
      (r := { r with timerQueue := r.timerQueue.erase timer, engine := r.engine.cancel timer })
      herase _

theorem Queued.deliver (inputs : List ι) : (r.deliver c place inputs).Queued :=
  Runs.run_invariant (I := Queued) (fun _ _ h ↦ h.absorb _) h inputs

theorem Queued.dispatchEvents (ready : List (List ι)) :
    (r.dispatchEvents c place ready).Queued := by
  induction ready generalizing r with
  | nil => exact h
  | cons inputs ready ih =>
    show (if (r.deliver c place inputs).stopped then _ else _ : Reactor σ α).Queued
    split_ifs
    · exact h.deliver inputs
    · exact ih (h.deliver inputs)

theorem Queued.dispatchTimers (due : List TimerId) : (r.dispatchTimers c place due).Queued := by
  induction due generalizing r with
  | nil => exact h
  | cons timer due ih =>
    show (if r.stopped then r else _ : Reactor σ α).Queued
    split_ifs
    · exact h
    · exact ih (h.fire timer)

/-- What is dropped from the top of the queue is not armed. -/
theorem Queued.cleaned : ({ r with timerQueue := r.cleaned } : Reactor σ α).Queued := by
  intro id hmem
  have hid := h id hmem
  rw [← List.takeWhile_append_dropWhile (p := (· ∉ r.engine.timers)) (l := r.timerQueue)] at hid
  refine (List.mem_append.mp hid).resolve_left fun hdropped ↦ ?_
  have hdisarmed := List.mem_takeWhile_imp hdropped
  exact of_decide_eq_true hdisarmed hmem

theorem Queued.iterate (ready : List (List ι)) (due : List TimerId) :
    (r.iterate c place ready due).Queued :=
  (h.cleaned.dispatchEvents ready).dispatchTimers due

end

/-! ### What a client does to the reactor -/

variable (place) in
/-- Calls change the engine only. -/
theorem foldr_call (requests : List (EngineCall α)) (r : Reactor σ α) :
    (requests.foldr (Reactor.call place) r).client = r.client ∧
      (requests.foldr (Reactor.call place) r).engine = r.engine.replay requests ∧
      (r.stopped ∨ .stop ∈ requests → (requests.foldr (Reactor.call place) r).stopped) := by
  induction requests with
  | nil => exact ⟨rfl, rfl, fun h ↦ h.resolve_right List.not_mem_nil⟩
  | cons request requests ih =>
    obtain ⟨hclient, hengine, hstopped⟩ := ih
    rw [List.foldr_cons, IOEngine.replay_cons, ← hengine]
    rw [List.mem_cons]
    cases request with
    | schedule callback timer =>
      exact ⟨hclient, rfl, fun h ↦ hstopped (h.imp_right (Or.resolve_left · (by simp)))⟩
    | cancel timer =>
      exact ⟨hclient, rfl, fun h ↦ hstopped (h.imp_right (Or.resolve_left · (by simp)))⟩
    | stop => exact ⟨hclient, rfl, fun _ ↦ rfl⟩

theorem stopped_absorb (h : r.stopped) (client : σ) : (r.absorb c place client).stopped :=
  (foldr_call _ _ { r with client }).2.2 (.inl h)

variable (place) in
/-- A callback that adds `new` to the record of calls. -/
theorem absorb_of_calls {client : σ} {new : List (EngineCall α)}
    (h : c.calls client = new ++ c.calls r.client) :
    (r.absorb c place client).client = client ∧
      (r.absorb c place client).engine = r.engine.replay new ∧
      (.stop ∈ new → (r.absorb c place client).stopped) := by
  have hnew : (c.calls client).take ((c.calls client).length - (c.calls r.client).length) =
      new := by
    rw [h, List.length_append, Nat.add_sub_cancel, List.take_left]
  rw [absorb, hnew]
  obtain ⟨hclient, hengine, hstopped⟩ := foldr_call place new { r with client }
  exact ⟨hclient, hengine, fun hstop ↦ hstopped (.inr hstop)⟩

end Reactor

/-! ### The rule for clients -/

/-- A piece of the client's work that found it at `s` and the engine at `e`, and leaves the
invariant of both. -/
def Client.Keeps (c : Client σ ι α) (I : σ → IOEngine α → Prop) (s : σ) (e : IOEngine α) (s' : σ) :
    Prop :=
  ∃ new, c.calls s' = new ++ c.calls s ∧ I s' (e.replay new)

theorem Client.Keeps.refl {c : Client σ ι α} {I : σ → IOEngine α → Prop} {s : σ} {e : IOEngine α}
    (h : I s e) : c.Keeps I s e s := ⟨[], rfl, h⟩

/-- Work in two pieces. -/
theorem Client.Keeps.trans {c : Client σ ι α} {I J : σ → IOEngine α → Prop} {s s' s'' : σ}
    {e : IOEngine α} (h : c.Keeps I s e s') (hnext : ∀ {e}, I s' e → c.Keeps J s' e s'') :
    c.Keeps J s e s'' := by
  obtain ⟨new, hcalls, hI⟩ := h
  obtain ⟨newer, hcalls', hJ⟩ := hnext hI
  refine ⟨newer ++ new, ?_, ?_⟩
  · rw [hcalls', hcalls, List.append_assoc]
  · rw [IOEngine.replay_append]
    exact hJ

/-- What a callback that found the client at `s` and the engine at `e` leaves: the invariant holds
of both, unless the engine was stopped. -/
def Client.Leaves (c : Client σ ι α) (I : σ → IOEngine α → Prop) (s : σ) (e : IOEngine α) (s' : σ) :
    Prop :=
  ∃ new, c.calls s' = new ++ c.calls s ∧ (.stop ∈ new ∨ I s' (e.replay new))

theorem Client.Keeps.leaves {c : Client σ ι α} {I J : σ → IOEngine α → Prop} {s s' s'' : σ}
    {e : IOEngine α} (h : c.Keeps I s e s') (hnext : ∀ {e}, I s' e → c.Leaves J s' e s'') :
    c.Leaves J s e s'' := by
  obtain ⟨new, hcalls, hI⟩ := h
  obtain ⟨newer, hcalls', hleft⟩ := hnext hI
  refine ⟨newer ++ new, ?_, hleft.imp (List.mem_append_left _) fun hJ ↦ ?_⟩
  · rw [hcalls', hcalls, List.append_assoc]
  · rw [IOEngine.replay_append]
    exact hJ

/-- An invariant that provides an armed timer, and that every callback that meets `P` keeps unless
it stops the engine. -/
structure Client.Alive (c : Client σ ι α) (I : σ → IOEngine α → Prop) (P : σ → ι ⊕ α → Prop) :
    Prop where
  timers_ne : ∀ {s e}, I s e → e.timers ≠ ∅
  onEvent : ∀ {s e} input, I s e → P s (.inl input) → c.Leaves I s e (c.onEvent input s)
  onTimer : ∀ {s e timer callback}, I s e → e.timers.lookup timer = some callback →
    P s (.inr callback) → c.Leaves I s (e.cancel timer) (c.onTimer callback s)

namespace Reactor

variable {c : Client σ ι α} {place : List TimerId → TimerId → ℕ} {I : σ → IOEngine α → Prop}
  {P : σ → ι ⊕ α → Prop} {r : Reactor σ α}

/-- Stopped, or within the invariant. -/
def Holds (I : σ → IOEngine α → Prop) (r : Reactor σ α) : Prop := r.stopped ∨ I r.client r.engine

/-- The invariant holds once calls are applied. -/
theorem holds_absorb {client : σ} (h : c.Leaves I r.client r.engine client) :
    (r.absorb c place client).Holds I := by
  obtain ⟨new, hcalls, hstop | hI⟩ := h
  · exact .inl ((absorb_of_calls place hcalls).2.2 hstop)
  · obtain ⟨hclient, hengine, -⟩ := absorb_of_calls place hcalls
    exact .inr (by rw [hclient, hengine]; exact hI)

section

variable (hc : c.Alive I P) (h : r.Holds I)

include hc h

/-- It holds after any inputs. -/
theorem holds_deliver {inputs : List ι}
    (hP : Runs.Within (fun r input ↦ r.absorb c place (c.onEvent input r.client))
      (fun r input ↦ r.stopped ∨ P r.client (.inl input)) r inputs) :
    (r.deliver c place inputs).Holds I := by
  refine Runs.run_invariant_within (I := Holds I) (fun r input hP h ↦ ?_) h hP
  by_cases hstopped : r.stopped
  · exact .inl (stopped_absorb hstopped _)
  · exact holds_absorb (hc.onEvent input (h.resolve_left hstopped) (hP.resolve_left hstopped))

theorem holds_dispatchEvents {ready : List (List ι)} (hP : r.EventsMeet c place P ready) :
    (r.dispatchEvents c place ready).Holds I := by
  induction ready generalizing r with
  | nil => exact h
  | cons inputs ready ih =>
    have hdelivered := holds_deliver hc h hP.1
    show (if (r.deliver c place inputs).stopped then _ else _ : Reactor σ α).Holds I
    split_ifs with hstopped
    · exact hdelivered
    · exact ih hdelivered (hP.2.resolve_left hstopped)

/-- It holds after a timer. -/
theorem holds_fire {timer : TimerId} (hrunning : ¬ r.stopped)
    (hP : ∀ callback, r.engine.timers.lookup timer = some callback → P r.client (.inr callback)) :
    (r.fire c place timer).Holds I := by
  have hI := h.resolve_left hrunning
  rw [fire]
  dsimp only [IOEngine.expire]
  cases hlookup : r.engine.timers.lookup timer with
  | none => exact .inr hI
  | some callback =>
    exact holds_absorb
      (r := { r with timerQueue := r.timerQueue.erase timer, engine := r.engine.cancel timer })
      (hc.onTimer hI hlookup (hP callback hlookup))

theorem holds_dispatchTimers {due : List TimerId} (hP : r.TimersMeet c place P due) :
    (r.dispatchTimers c place due).Holds I := by
  induction due generalizing r with
  | nil => exact h
  | cons timer due ih =>
    show (if r.stopped then r else _ : Reactor σ α).Holds I
    split_ifs with hstopped
    · exact h
    · obtain ⟨hfired, hlater⟩ := hP.resolve_left hstopped
      exact ih (holds_fire hc h hstopped hfired) hlater

/-- **A client with an invariant that provides an armed timer is never waited for without a
timeout.** -/
theorem awake (hqueued : r.Queued) {wakeups : List (Wakeup ι)} (hP : r.Meets c place P wakeups) :
    ∀ w ∈ waits c place wakeups r, ¬ w.WaitsForever := by
  have hnow : ¬ r.stopped → ¬ r.WaitsForever := by
    intro hrunning
    rw [hqueued.waitsForever_iff]
    exact hc.timers_ne (h.resolve_left hrunning)
  induction wakeups generalizing r with
  | nil =>
    intro w hw
    rw [waits] at hw
    split_ifs at hw with hstopped
    · exact absurd hw List.not_mem_nil
    · exact List.mem_singleton.mp hw ▸ hnow hstopped
  | cons wakeup wakeups ih =>
    intro w hw
    cases wakeup with
    | failed =>
      rw [waits] at hw
      split_ifs at hw with hstopped
      · exact absurd hw List.not_mem_nil
      · exact List.mem_singleton.mp hw ▸ hnow hstopped
    | woken ready due =>
      rw [waits] at hw
      split_ifs at hw with hstopped
      · exact absurd hw List.not_mem_nil
      obtain ⟨hevents, htimers, hlater⟩ := hP.resolve_left hstopped
      rcases List.mem_cons.mp hw with rfl | hw
      · exact hnow hstopped
      -- the invariant has survived the iteration
      have hiterated : (r.iterate c place ready due).Holds I :=
        holds_dispatchTimers hc
          (holds_dispatchEvents hc (r := { r with timerQueue := r.cleaned }) h hevents) htimers
      have hq : (r.iterate c place ready due).Queued := hqueued.iterate ready due
      refine ih hiterated hq hlater (fun hrunning ↦ ?_) w hw
      rw [hq.waitsForever_iff]
      exact hc.timers_ne (hiterated.resolve_left hrunning)

end

variable (c place) in
/-- When no timer is armed as `run` begins, its first wait has no timeout. -/
theorem hangs_of_none_armed (client : σ) (h : (start c place client).engine.timers = ∅)
    (wakeups : List (Wakeup ι)) :
    ∃ w ∈ waits c place wakeups (start c place client), w.WaitsForever := by
  refine ⟨start c place client, ?_, (queued_start client).waitsForever_iff.mpr h⟩
  have hrunning : ¬ (start c place client).stopped = true := Bool.false_ne_true
  rcases wakeups with - | ⟨- | ⟨ready, due⟩, wakeups⟩
  all_goals
    rw [waits, if_neg hrunning]
    exact List.mem_cons_self

variable (c place) in
/-- The engine as `run` begins. -/
theorem engine_start (client : σ) :
    (start c place client).client = client ∧
      (start c place client).engine = IOEngine.replay {} (c.calls client) := by
  obtain ⟨hclient, hengine, -⟩ :=
    foldr_call place (c.calls client) ({ client } : Reactor σ α)
  exact ⟨hclient, hengine⟩

end Reactor

end Skan.Io
