import Skan.Library.Runs
import Skan.Orchestrator.Pipeline

/-!
# The lifecycle of a scan

A session is to end once: `ScanSession.EndsOnce` says that a terminal event is the last event and
the one of the state. `ScanSession.Sound` is the invariant behind it, which every operation keeps
but one: `ScanPipeline::fail` on a session that is terminal already changes no state and still emits
`ScanFailed`, since `emit` lets that event pass.

Two calls lead there: the report of a cancelled or already failed run cannot be written, and a
cancelled pipeline is run without an interface. `Safe` says that a call does not, and `lifecycle`
that these are all: the runs of a pipeline that end once are those whose calls are safe.

A session that has completed or failed is never changed again. A cancelled one is changed only by
running its pipeline, which keeps the partial report (`run_of_cancelled`); without such calls
(`Proper`) no session changes once it has ended.
-/

namespace Skan.Orchestrator

open Skan.Core Skan.Output

variable {type : ScanEventType} {state : PipelineState} {event : ScanEvent}

/-- The state a terminal event stands for. -/
def ScanEventType.ends : ScanEventType → Option PipelineState
  | .scanCompleted => some .completed
  | .scanCancelled => some .cancelled
  | .scanFailed => some .failed
  | _ => none

theorem ScanEventType.terminal_of_ends (h : type.ends = some state) : state.terminal := by
  cases type <;> simp_all [ScanEventType.ends] <;> subst h <;> rfl

namespace ScanSession

variable {s : ScanSession} {observer : List ScanEvent → Bool} {clock : List ScanEvent → TimePoint}
  {now : TimePoint}

/-- A terminal event is the last one, and the one of the state. -/
def EndsOnce (s : ScanSession) : Prop :=
  ∀ before event after, s.events = before ++ event :: after →
    ∀ state, event.type.ends = some state → after = [] ∧ s.state = state

/-- No event so far is terminal. -/
def Unended (events : List ScanEvent) : Prop := ∀ event ∈ events, event.type.ends = none

/-- The invariant of a session: while it runs it has no terminal event, and when it has ended it has
one, at the end. -/
structure Sound (s : ScanSession) : Prop where
  running : s.terminal = false → s.cancelRequested = false ∧ Unended s.events
  ended : s.terminal = true → ∃ before event, s.events = before ++ [event] ∧ Unended before ∧
    event.type.ends = some s.state
  cancelled : s.cancelRequested = true → s.state = .cancelled

theorem Sound.endsOnce (h : s.Sound) : s.EndsOnce := by
  intro before event after hevents state hends
  cases hterminal : s.terminal with
  | false =>
    have hnone := (h.running hterminal).2 event (by rw [hevents]; simp)
    rw [hends] at hnone
    exact absurd hnone (by simp)
  | true =>
    obtain ⟨front, last, hlast, hfront, hstate⟩ := h.ended hterminal
    rw [hlast] at hevents
    rcases List.eq_nil_or_concat after with rfl | ⟨after', e, rfl⟩
    · obtain ⟨rfl, hsingle⟩ := List.append_inj' hevents rfl
      obtain rfl : last = event := by simpa using hsingle
      exact ⟨rfl, Option.some.inj (hstate.symm.trans hends)⟩
    · -- an earlier terminal event would be one of `front`
      rw [List.concat_eq_append, ← List.cons_append, ← List.append_assoc] at hevents
      obtain ⟨rfl, -⟩ := List.append_inj' hevents rfl
      have hnone := hfront event (by simp)
      rw [hends] at hnone
      exact absurd hnone (by simp)

theorem Sound.cancelled_iff (h : s.Sound) : s.cancelled = true ↔ s.state = .cancelled := by
  rw [ScanSession.cancelled, Bool.or_eq_true, decide_eq_true_eq]
  exact ⟨fun hor ↦ hor.elim h.cancelled id, .inr⟩

/-! ### Transitions -/

/-- A terminal session keeps its state. -/
theorem transition_of_terminal (h : s.terminal = true) (next : PipelineState) :
    (s.transition next).2 = s := by
  rw [transition, if_pos h]
  split_ifs <;> rfl

theorem transition_failed (h : s.terminal = false) :
    (s.transition .failed).2 = { s with state := .failed } := by
  have hne : s.state ≠ .failed := by
    intro hstate
    rw [ScanSession.terminal, hstate] at h
    exact absurd h (by decide)
  rw [transition, if_neg hne, if_neg (by simp [h])]
  rfl

/-- Entering a state that is not terminal. -/
theorem Sound.transition (h : s.Sound) {next : PipelineState} (hnext : next.terminal = false) :
    (s.transition next).2.Sound := by
  cases hterminal : s.terminal with
  | true => rwa [transition_of_terminal hterminal]
  | false =>
    obtain ⟨hrequested, hevents⟩ := h.running hterminal
    rw [ScanSession.transition]
    split_ifs
    · exact h
    · exact h
    · refine ⟨fun _ ↦ ⟨hrequested, hevents⟩, fun hended ↦ ?_, fun hrequest ↦ ?_⟩
      · exact absurd (hnext.symm.trans hended) Bool.false_ne_true
      · exact absurd (hrequested.symm.trans hrequest) Bool.false_ne_true
    · exact h

/-! ### Cancellation and events -/

theorem cancel_of_terminal (h : s.terminal = true) : s.cancel now = s := by
  rw [cancel, h, Bool.or_true, if_pos rfl]

/-- The event of a cancellation. -/
def cancelEvent : ScanEvent where
  type := .scanCancelled
  message := literal "scan cancelled"

/-- What cancelling a running session does. -/
theorem cancel_of_running (hterminal : s.terminal = false)
    (hrequested : s.cancelRequested = false) :
    s.cancel now =
      { s with
        cancelRequested := true, state := .cancelled, finishedAt := now,
        events := s.events ++ [cancelEvent] } := by
  have htransition : ({ s with cancelRequested := true }.transition .cancelled).2 =
      { s with cancelRequested := true, state := .cancelled } := by
    have hne : s.state ≠ .cancelled := by
      intro hstate
      rw [ScanSession.terminal, hstate] at hterminal
      exact absurd hterminal (by decide)
    have hterminal' : ({ s with cancelRequested := true } : ScanSession).terminal = false :=
      hterminal
    rw [ScanSession.transition, if_neg hne, hterminal']
    rfl
  rw [ScanSession.cancel, hterminal, hrequested, if_neg (by decide)]
  dsimp only
  rw [htransition, if_neg (by simp [suppresses])]
  rfl

theorem Sound.cancel (h : s.Sound) : (s.cancel now).Sound := by
  cases hterminal : s.terminal with
  | true => rwa [cancel_of_terminal hterminal]
  | false =>
    obtain ⟨hrequested, hevents⟩ := h.running hterminal
    rw [cancel_of_running hterminal hrequested]
    exact ⟨nofun, fun _ ↦ ⟨_, _, rfl, hevents, rfl⟩, fun _ ↦ rfl⟩

/-- Cancelling ends a session cancelled, or finds it ended. -/
theorem Sound.state_cancel (h : s.Sound) :
    (s.cancel now).state = .cancelled ∨ s.terminal = true ∧ s.cancel now = s := by
  cases hterminal : s.terminal with
  | true => exact .inr ⟨rfl, cancel_of_terminal hterminal⟩
  | false =>
    rw [cancel_of_running hterminal (h.running hterminal).1]
    exact .inl rfl

/-- A terminal session lets no other event pass than a terminal one. -/
theorem suppresses_of_terminal (h : s.terminal = true) (htype : type.ends = none) :
    s.suppresses type = true := by
  cases type <;> simp_all [suppresses, ScanEventType.ends]

/-- A running session may deliver any event that does not end the scan. -/
theorem Sound.deliver (h : s.Sound) (hterminal : s.terminal = false)
    (hevent : event.type.ends = none) : (s.deliver event).Sound := by
  obtain ⟨hrequested, hevents⟩ := h.running hterminal
  refine ⟨fun _ ↦ ⟨hrequested, fun e he ↦ ?_⟩, fun hended ↦ ?_, h.cancelled⟩
  · rcases List.mem_append.mp he with he | he
    · exact hevents e he
    · rw [List.mem_singleton.mp he, hevent]
  · exact absurd (hterminal.symm.trans hended) Bool.false_ne_true

theorem running_of_not_suppresses (hevent : event.type.ends = none)
    (hpass : ¬ s.suppresses event.type = true) : s.terminal = false := by
  rw [Bool.eq_false_iff]
  exact fun hterminal ↦ hpass (suppresses_of_terminal hterminal hevent)

/-- Announcing the end is what the observer is given last, whatever it answers. -/
theorem emit_of_terminal (h : s.terminal = true) (hpass : s.suppresses event.type = false) :
    s.emit observer clock event = s.deliver event := by
  have hterminal : (s.deliver event).terminal = true := h
  rw [ScanSession.emit, hpass, if_neg Bool.false_ne_true, cancel_of_terminal hterminal, ite_self]

/-- The end of a running session. -/
theorem Sound.deliver_end (h : s.Sound) (hterminal : s.terminal = false)
    (hends : event.type.ends = some state) :
    ({ s with state } : ScanSession).deliver event |>.Sound := by
  obtain ⟨hrequested, hevents⟩ := h.running hterminal
  refine ⟨fun hrunning ↦ ?_, fun _ ↦ ⟨_, _, rfl, hevents, hends⟩, fun hrequest ↦ ?_⟩
  · exact absurd (hrunning.symm.trans (ScanEventType.terminal_of_ends hends)) Bool.false_ne_true
  · exact absurd (hrequested.symm.trans hrequest) Bool.false_ne_true

end ScanSession

namespace ScanPipeline

variable {config : ScanConfig} {input : RunInput} {p : ScanPipeline} {now : TimePoint}

/-! ### Failing -/

/-- The event of a failure. -/
def failEvent (p : ScanPipeline) (message : Text) : ScanEvent where
  type := .scanFailed
  target := p.activeTarget
  message := message

/-- `fail` on a running session ends it. -/
theorem fail_of_running (h : p.session.terminal = false) (message : Text) (status : StatusCode) :
    (p.fail input message status).session =
      (({ p.session.setError message with state := .failed } : ScanSession).deliver
        (p.failEvent message)).finishClock
          (input.clock (p.session.events ++ [p.failEvent message])) := by
  have hterminal : (p.session.setError message).terminal = false := h
  rw [fail, ScanPipeline.emit, ScanSession.transition_failed hterminal]
  dsimp only
  rw [ScanSession.emit_of_terminal rfl (by simp [ScanSession.suppresses])]
  rfl

/-- `fail` on a terminal session keeps its state, and tells the observer all the same. -/
theorem fail_of_terminal (h : p.session.terminal = true) (message : Text) (status : StatusCode) :
    (p.fail input message status).session =
      ((p.session.setError message).deliver (p.failEvent message)).finishClock
        (input.clock (p.session.events ++ [p.failEvent message])) := by
  have hterminal : (p.session.setError message).terminal = true := h
  rw [fail, ScanPipeline.emit, ScanSession.transition_of_terminal hterminal]
  dsimp only
  rw [ScanSession.emit_of_terminal hterminal (by simp [ScanSession.suppresses])]
  rfl

theorem sound_setError (h : p.session.Sound) (message : Text) :
    (p.session.setError message).Sound :=
  ⟨h.running, h.ended, h.cancelled⟩

theorem sound_keepReport (input : RunInput) (h : p.session.Sound) :
    (p.keepReport input).session.Sound :=
  ⟨h.running, h.ended, h.cancelled⟩

theorem sound_fail (h : p.session.Sound) (hterminal : p.session.terminal = false)
    (message : Text) (status : StatusCode) : (p.fail input message status).session.Sound := by
  rw [fail_of_running hterminal]
  have hended := (sound_setError h message).deliver_end hterminal
    (show (p.failEvent message).type.ends = _ from rfl)
  exact ⟨hended.running, hended.ended, hended.cancelled⟩

/-! ### The stages -/

/-- A pipeline between its first stage and its end: only a cancellation has ended its session. -/
structure Live (p : ScanPipeline) : Prop where
  sound : p.session.Sound
  started : p.session.state ≠ .created
  cancelled : p.session.terminal = true → p.session.state = .cancelled

section

variable (h : p.Live)

include h

theorem Live.running (hcancelled : p.cancelled = false) : p.session.terminal = false := by
  rw [Bool.eq_false_iff]
  intro hterminal
  rw [ScanPipeline.cancelled, Bool.eq_false_iff, ne_eq, h.sound.cancelled_iff] at hcancelled
  exact hcancelled (h.cancelled hterminal)

theorem Live.transition {next : PipelineState} (hnext : next.terminal = false)
    (hcreated : next ≠ .created) : (p.transition next).Live := by
  refine ⟨h.sound.transition hnext, ?_, ?_⟩
  · show (p.session.transition next).2.state ≠ .created
    rw [ScanSession.transition]
    split_ifs
    · exact h.started
    · exact h.started
    · exact hcreated
    · exact h.started
  · show (p.session.transition next).2.terminal = true → (p.session.transition next).2.state = _
    rw [ScanSession.transition]
    split_ifs
    · exact h.cancelled
    · exact h.cancelled
    · exact fun hterminal ↦ absurd (hnext.symm.trans hterminal) Bool.false_ne_true
    · exact h.cancelled

theorem Live.cancel : (p.cancel now).Live := by
  rcases h.sound.state_cancel with hstate | ⟨-, hsame⟩
  · refine ⟨h.sound.cancel, ?_, fun _ ↦ hstate⟩
    show (p.session.cancel now).state ≠ .created
    rw [hstate]
    decide
  · have hself : p.cancel now = p := by rw [ScanPipeline.cancel, hsame]
    rwa [hself]

/-- An event that does not end the scan; the observer may cancel. -/
theorem Live.emit (hevent : event.type.ends = none) : (p.emit input event).Live := by
  rw [ScanPipeline.emit, ScanSession.emit]
  split
  · exact h
  · next hpass =>
    have hterminal := ScanSession.running_of_not_suppresses hevent hpass
    have hdelivered : ({ p with session := p.session.deliver event } : ScanPipeline).Live :=
      ⟨h.sound.deliver hterminal hevent, h.started, h.cancelled⟩
    split
    · exact hdelivered.cancel
    · exact hdelivered

theorem Live.emitStage (htype : type.ends = none) (stage : StageKind) (message : Text) :
    (p.emitStage input type stage message).Live :=
  h.emit htype

theorem Live.emitAll {reports : List ScanEvent}
    (hreports : ∀ event ∈ reports, event.type.ends = none) :
    (reports.foldl (ScanPipeline.emit input) p).Live := by
  induction reports generalizing p with
  | nil => exact h
  | cons event reports ih =>
    obtain ⟨hhead, htail⟩ := List.forall_mem_cons.mp hreports
    exact ih (h.emit hhead) htail

end

/-- What a stage leaves: a sound session, and a live pipeline where the next stage may follow. -/
def Passes (r : Bool × ScanPipeline) : Prop :=
  r.2.session.Sound ∧ (r.1 = true → r.2.Live)

section

variable (h : p.Live)

include h

theorem Live.passes (goesOn : Bool) : Passes (goesOn, p) := ⟨h.sound, fun _ ↦ h⟩

/-- How a stage that has run ends its own part. -/
theorem Live.passes_ended (result : StageResult) {onSuccess : Bool × ScanPipeline}
    (hsuccess : Passes onSuccess) :
    Passes (if result.cancelled || p.cancelled then (false, p)
      else if !result.success then (false, p.fail input result.message result.status)
      else onSuccess) := by
  split
  · exact h.passes false
  · next hcancelled =>
    split
    · rw [Bool.or_eq_true, not_or, Bool.not_eq_true, Bool.not_eq_true] at hcancelled
      exact ⟨sound_fail h.sound (h.running hcancelled.2) _ _, nofun⟩
    · exact hsuccess

/-- A stage may be interrupted by a cancellation, which leaves the pipeline where it is. -/
theorem Live.afterRun (input : RunInput) (stageRun : StageRun) :
    (if stageRun.cancels then p.cancelStage input else p).Live := by
  split
  · exact h.cancel
  · exact h

theorem executeStage_passes (hstate : state.terminal = false) (hcreated : state ≠ .created)
    (stage : StageKind) (started completed : String) (stageRun : StageRun)
    {collect : ScanPipeline → ScanPipeline}
    (hcollect : ∀ p : ScanPipeline, (collect p).session = p.session) {reports : List ScanEvent}
    (hreports : ∀ event ∈ reports, event.type.ends = none) :
    Passes (p.executeStage input state stage started completed stageRun collect reports) := by
  have hentered : ((p.transition state).emitStage input .stageStarted stage
      (literal started)).Live := (h.transition hstate hcreated).emitStage rfl _ _
  rw [executeStage]
  dsimp only
  split
  · exact hentered.passes false
  · have hended := hentered.afterRun input stageRun
    refine hended.passes_ended _ (Live.passes ?_ true)
    refine Live.emitStage (Live.emitAll ?_ hreports) rfl _ _
    constructor
    all_goals rw [hcollect]
    · exact hended.sound
    · exact hended.started
    · exact hended.cancelled

theorem executeDiscovery_passes : Passes (p.executeDiscovery input) := by
  rw [executeDiscovery]
  split
  · exact h.passes false
  · refine executeStage_passes h rfl (by decide) _ _ _ _ (fun _ ↦ rfl) fun event hevent ↦ ?_
    obtain ⟨host, -, rfl⟩ := List.mem_map.mp hevent
    rfl

end

theorem portCompleted_ends {stage : StageKind} {results : List PortScan.PortResult} :
    ∀ event ∈ results.map (portCompleted stage), event.type.ends = none := by
  intro event hevent
  obtain ⟨result, -, rfl⟩ := List.mem_map.mp hevent
  rfl

theorem executePortScan_passes (h : p.Live) (target : Target) :
    Passes (p.executePortScan input target) := by
  rw [executePortScan]
  split
  · exact h.passes false
  split
  · exact h.passes true
  · refine executeStage_passes h ?_ ?_ _ _ _ _ ?_ portCompleted_ends
    · rfl
    · decide
    · exact fun _ ↦ rfl

theorem executeUdpScan_passes (h : p.Live) (target : Target) :
    Passes (p.executeUdpScan input target) := by
  rw [executeUdpScan]
  split
  · exact h.passes false
  split
  · exact h.passes true
  · refine executeStage_passes h ?_ ?_ _ _ _ _ ?_ portCompleted_ends
    · rfl
    · decide
    · exact fun _ ↦ rfl

theorem executeServiceDetection_passes (h : p.Live) :
    Passes (p.executeServiceDetection input) := by
  rw [executeServiceDetection]
  split
  · exact h.passes false
  split
  · exact h.passes true
  · refine executeStage_passes h rfl (by decide) _ _ _ _ (fun _ ↦ rfl) fun event hevent ↦ ?_
    obtain ⟨result, -, rfl⟩ := List.mem_map.mp hevent
    rfl

theorem executeOsHosts_passes (input : RunInput) (h : p.Live) (hosts : List Host) :
    Passes (executeOsHosts input hosts p) := by
  induction hosts generalizing p with
  | nil => exact h.passes true
  | cons host hosts ih =>
    rw [executeOsHosts]
    split
    · exact h.passes false
    · have hended := h.afterRun input (input.osDetection host)
      exact hended.passes_ended _ (ih (hended.emit rfl))

theorem executeOsDetection_passes (h : p.Live) : Passes (p.executeOsDetection input) := by
  have hentered : ((p.transition .detectingOs).emitStage input .stageStarted .osDetection
      (literal "OS detection started")).Live := (h.transition rfl (by decide)).emitStage rfl _ _
  rw [executeOsDetection]
  split
  · exact h.passes false
  dsimp only
  split
  · exact hentered.passes false
  · have hhosts := executeOsHosts_passes input hentered
      ((p.transition .detectingOs).emitStage input .stageStarted .osDetection
        (literal "OS detection started")).activeTarget.resolvedHosts
    split
    · next ended heq =>
      rw [heq] at hhosts
      exact ⟨hhosts.1, nofun⟩
    · next ended heq =>
      rw [heq] at hhosts
      exact ((hhosts.2 rfl).emitStage rfl _ _).passes true

/-- All stages. -/
theorem executeStages_passes (h : p.Live) (config : ScanConfig) :
    Passes (p.executeStages config input) := by
  have hfold (stages : List (Bool × (ScanPipeline → Bool × ScanPipeline)))
      (hstages : ∀ stage ∈ stages, ∀ q : ScanPipeline, q.Live → Passes (stage.2 q))
      (r : Bool × ScanPipeline) (hr : Passes r) :
      Passes (stages.foldl (fun r stage ↦ if r.1 && stage.1 then stage.2 r.2 else r) r) := by
    induction stages generalizing r with
    | nil => exact hr
    | cons stage stages ih =>
      obtain ⟨hhead, htail⟩ := List.forall_mem_cons.mp hstages
      rw [List.foldl_cons]
      refine ih htail _ ?_
      split
      · next hgoes =>
        rw [Bool.and_eq_true] at hgoes
        exact hhead _ (hr.2 hgoes.1)
      · exact hr
  rw [executeStages]
  refine hfold _ ?_ _ (h.passes true)
  simp only [List.forall_mem_cons, List.not_mem_nil, false_imp_iff, implies_true, and_true]
  exact ⟨fun _ ↦ executeDiscovery_passes, fun _ hq ↦ executePortScan_passes hq _,
    fun _ hq ↦ executeUdpScan_passes hq _, fun _ hq ↦ ⟨hq.sound, fun _ ↦ ⟨hq.1, hq.2, hq.3⟩⟩,
    fun _ ↦ executeServiceDetection_passes, fun _ ↦ executeOsDetection_passes⟩

/-! ### Coming to the end -/

/-- The interface is selected without touching the session. -/
theorem session_of_selectInterface {q : ScanPipeline}
    (h : p.selectInterface config input = some q) : q.session = p.session := by
  rw [selectInterface] at h
  split_ifs at h
  · exact Option.some.inj h ▸ rfl
  · exact Option.some.inj h ▸ rfl

/-- The pipeline a run works on. -/
def active (config : ScanConfig) (p : ScanPipeline) : ScanPipeline :=
  { p with activeTarget := config.target }

/-- A run starts on a session that is not terminal. -/
theorem initializing_live (h : p.session.Sound) (hrunning : p.session.terminal = false) :
    (p.transition .initializing).Live := by
  by_cases hcreated : p.session.state = .created
  · have hnext : (p.session.transition .initializing).2 =
        { p.session with state := .initializing } := by
      rw [ScanSession.transition, if_neg (by rw [hcreated]; decide), hrunning, hcreated]
      rfl
    refine ⟨h.transition rfl, ?_, ?_⟩
    · show (p.session.transition .initializing).2.state ≠ .created
      rw [hnext]
      exact PipelineState.noConfusion
    · show (p.session.transition .initializing).2.terminal = true → _
      rw [hnext]
      nofun
  · have hlive : p.Live :=
      ⟨h, hcreated, fun hterminal ↦ absurd (hrunning.symm.trans hterminal) Bool.false_ne_true⟩
    exact hlive.transition rfl (by decide)

theorem start_live (h : p.session.Sound) (hrunning : p.session.terminal = false) :
    (p.start input).Live := by
  obtain ⟨hsound, hstarted, hcancelled⟩ := initializing_live h hrunning
  rw [start]
  dsimp only
  refine Live.emit ?_ rfl
  exact ⟨⟨hsound.running, hsound.ended, hsound.cancelled⟩, hstarted, hcancelled⟩

/-- What the endings of `prepare` mean. -/
theorem prepare_spec (config : ScanConfig) (input : RunInput) (h : p.session.Sound) :
    match p.prepare config input with
    | .returned _ q => q.session.Sound
    | .unselected q => (p.active config).selectInterface config input = none ∧
        (p.session.terminal = true → p.session.state = .cancelled) ∧
        ∃ message status, q = (p.active config).fail input message status
    | .cancelled q => q.session.Sound ∧ q.session.state = .cancelled
    | .ready q => q.Live ∧ q.session.terminal = false := by
  rw [prepare]
  by_cases hended : (p.session.terminal && !p.session.cancelled) = true
  · rw [if_pos hended]
    exact h
  rw [if_neg hended]
  have hcancelled : p.session.terminal = true → p.session.state = .cancelled := by
    intro hterminal
    rw [hterminal, Bool.true_and, Bool.not_eq_true', Bool.not_eq_false] at hended
    exact h.cancelled_iff.mp hended
  dsimp only
  rw [← active]
  cases hselect : (p.active config).selectInterface config input with
  | none => exact ⟨rfl, hcancelled, _, _, rfl⟩
  | some q =>
    have hsession : q.session = (p.active config).session := session_of_selectInterface hselect
    change q.session = p.session at hsession
    have hsound : q.session.Sound := hsession ▸ h
    dsimp only
    by_cases hcancel : q.session.cancelled = true
    · rw [if_pos hcancel]
      exact ⟨hsound, hsound.cancelled_iff.mp hcancel⟩
    rw [if_neg hcancel]
    have hrunning : q.session.terminal = false := by
      rw [Bool.eq_false_iff]
      intro hterminal
      rw [hsession] at hterminal hcancel
      exact hcancel (h.cancelled_iff.mpr (hcancelled hterminal))
    by_cases hconfig : input.configStatus ≠ .ok
    · rw [if_pos hconfig]
      exact sound_fail hsound hrunning _ _
    rw [if_neg hconfig]
    by_cases hengine : input.engineStatus ≠ .ok
    · rw [if_pos hengine]
      exact sound_fail hsound hrunning _ _
    rw [if_neg hengine]
    have hstarted : (q.start input).Live := start_live hsound hrunning
    obtain ⟨hstagesSound, hstagesLive⟩ := executeStages_passes hstarted config
    generalize (q.start input).executeStages config input = r at hstagesSound hstagesLive ⊢
    obtain ⟨goesOn, r⟩ := r
    dsimp only at hstagesSound hstagesLive ⊢
    by_cases hstop : r.cancelled = true
    · rw [if_pos hstop]
      exact ⟨hstagesSound, hstagesSound.cancelled_iff.mp hstop⟩
    rw [if_neg hstop]
    cases goesOn with
    | true =>
      have hlive := hstagesLive rfl
      exact ⟨hlive, hlive.running (Bool.not_eq_true _ ▸ hstop)⟩
    | false => exact hstagesSound

/-! ### The report -/

theorem serializeReport_of_writes (h : writes config input = true) :
    p.serializeReport config input =
      (true, p.keepReport input) := by
  simp only [writes, Bool.and_eq_true, Bool.or_eq_true, decide_eq_true_eq] at h
  rw [serializeReport, if_neg (not_not_intro h.1), if_neg]
  rcases h.2 with hfile | hreplaced
  · simp [Option.isNone_iff_eq_none.mp hfile]
  · simp [hreplaced]

theorem serializeReport_of_not_writes (h : writes config input = false) :
    ∃ message status, p.serializeReport config input =
      (false, (p.keepReport input).fail input message status) := by
  rw [serializeReport]
  by_cases hstatus : input.output.status ≠ .ok
  · rw [if_pos hstatus]
    exact ⟨_, _, rfl⟩
  · have hreplace : (config.outputFile.isSome && !input.output.replaced) = true := by
      have hok := not_not.mp hstatus
      rw [writes, hok] at h
      simpa [Option.isNone_eq_false_iff] using h
    rw [if_neg hstatus, if_pos hreplace]
    exact ⟨_, _, rfl⟩

theorem events_fail (message : Text) (status : StatusCode) :
    (p.fail input message status).session.events = p.session.events ++ [p.failEvent message] := by
  cases hterminal : p.session.terminal with
  | true => rw [fail_of_terminal hterminal]; rfl
  | false => rw [fail_of_running hterminal]; rfl

/-- Serializing adds events only where the report cannot be written. -/
theorem events_serializeReport (config : ScanConfig) (input : RunInput) (p : ScanPipeline) :
    ∃ more, (p.serializeReport config input).2.session.events = p.session.events ++ more ∧
      (writes config input = false → more ≠ []) := by
  cases hwrites : writes config input with
  | true =>
    refine ⟨[], ?_, nofun⟩
    rw [serializeReport_of_writes hwrites, List.append_nil]
    rfl
  | false =>
    obtain ⟨message, status, hreport⟩ := serializeReport_of_not_writes (p := p) hwrites
    refine ⟨[p.failEvent message], ?_, fun _ ↦ List.cons_ne_nil _ _⟩
    rw [hreport]
    exact events_fail (p := p.keepReport input) message status

/-- A report is serialized without harm if it can be written or the session still runs. -/
theorem sound_serializeReport (h : p.session.Sound)
    (hwrites : p.session.terminal = true → writes config input = true) :
    (p.serializeReport config input).2.session.Sound := by
  cases hcan : writes config input with
  | true =>
    rw [serializeReport_of_writes hcan]
    exact sound_keepReport input h
  | false =>
    have hrunning : p.session.terminal = false := by
      rw [Bool.eq_false_iff]
      exact fun hterminal ↦ Bool.false_ne_true (hcan.symm.trans (hwrites hterminal))
    obtain ⟨message, status, hreport⟩ := serializeReport_of_not_writes (p := p) hcan
    rw [hreport]
    exact sound_fail (sound_keepReport input h) hrunning message status

/-- An event after a terminal one. -/
theorem not_endsOnce_of_more (h : p.session.Sound) (hterminal : p.session.terminal = true)
    {q : ScanPipeline} {more : List ScanEvent} (hmore : more ≠ [])
    (hevents : q.session.events = p.session.events ++ more) : ¬ q.session.EndsOnce := by
  obtain ⟨before, event, hlast, -, hends⟩ := h.ended hterminal
  intro honce
  rw [hlast, List.append_assoc] at hevents
  exact hmore (honce before event more hevents _ hends).1

/-! ### The last stage -/

/-- An event that does not end the scan leaves the state, unless the observer cancels. -/
theorem Live.state_emit (h : p.Live) (hevent : event.type.ends = none) :
    (p.emit input event).session.state = p.session.state ∨
      (p.emit input event).session.state = .cancelled := by
  rw [ScanPipeline.emit, ScanSession.emit]
  split
  · exact .inl rfl
  · next hpass =>
    have hterminal := ScanSession.running_of_not_suppresses hevent hpass
    have hdelivered := h.sound.deliver hterminal hevent
    split
    · rcases hdelivered.state_cancel with hstate | ⟨-, hsame⟩
      · exact .inr hstate
      · left
        show ((p.session.deliver event).cancel _).state = p.session.state
        rw [hsame]
        rfl
    · exact .inl rfl

/-- A pipeline in its last stage: serializing, or cancelled meanwhile. -/
structure Serializing (p : ScanPipeline) : Prop where
  live : p.Live
  state : p.session.state = .serializing ∨ p.session.state = .cancelled

theorem Serializing.emitStage (h : p.Serializing) (htype : type.ends = none) (stage : StageKind)
    (message : Text) : (p.emitStage input type stage message).Serializing := by
  refine ⟨h.live.emitStage htype stage message, ?_⟩
  have hstate : (p.emitStage input type stage message).session.state = p.session.state ∨
      (p.emitStage input type stage message).session.state = .cancelled := h.live.state_emit htype
  rcases hstate with hsame | hcancelled
  · exact h.state.imp hsame.trans hsame.trans
  · exact .inr hcancelled

theorem startSerializing_serializing (h : p.Live) (hrunning : p.session.terminal = false) :
    (p.startSerializing input).Serializing := by
  refine Serializing.emitStage ⟨h.transition rfl (by decide), .inl ?_⟩ rfl _ _
  show (p.session.transition .serializing).2.state = .serializing
  have hstarted := h.started
  rw [ScanSession.transition, hrunning]
  rw [ScanSession.terminal] at hrunning
  by_cases hsame : p.session.state = .serializing
  · rw [if_pos hsame]
    exact hsame
  rw [if_neg hsame, if_neg Bool.false_ne_true, if_pos]
  cases hstate : p.session.state <;> simp_all [PipelineState.terminal, PipelineState.allows]

theorem complete_sound (h : p.Serializing) : (p.complete input).session.Sound := by
  have hcompleted : (p.emitStage input .stageCompleted .output
      (literal "serialization completed")).Serializing := h.emitStage rfl _ _
  rw [complete]
  generalize p.emitStage input .stageCompleted .output (literal "serialization completed") = r
    at hcompleted
  obtain ⟨hlive, hstate | hstate⟩ := hcompleted
  · -- nobody cancelled: the session is completed, and says so
    have hrunning : r.session.terminal = false := by rw [ScanSession.terminal, hstate]; rfl
    have htransition : (r.session.transition .completed).2 =
        { r.session with state := .completed } := by
      rw [ScanSession.transition, hrunning, hstate]
      rfl
    have hrequested := (hlive.sound.running hrunning).1
    rw [ScanPipeline.emit, ScanPipeline.transition, htransition, ScanSession.emit_of_terminal]
    · exact hlive.sound.deliver_end hrunning rfl
    · rfl
    · simp [ScanSession.suppresses, ScanSession.cancelled, hrequested]
  · -- a cancelled session stays as it is
    have hterminal : r.session.terminal = true := by rw [ScanSession.terminal, hstate]; rfl
    rw [ScanPipeline.emit, ScanPipeline.transition, ScanSession.transition_of_terminal hterminal,
      ScanSession.emit, if_pos]
    · exact hlive.sound
    · simp [ScanSession.suppresses, ScanSession.cancelled, hstate]

/-! ### Calls on a pipeline -/

variable (config input p)

/-- The pipeline whose report a run serializes. -/
def serializes : Option (ScanPipeline) :=
  match p.prepare config input with
  | .returned _ _ => none
  | .unselected q => some q
  | .cancelled q => some q
  | .ready q => some (q.startSerializing input)

/-- What is called on a pipeline: a run, or a cancellation before, between or after the runs. -/
inductive Call where
  | run (input : RunInput)
  | cancel (now : TimePoint)

def call : Call → ScanPipeline
  | .run input => (p.run config input).2
  | .cancel now => p.cancel now

/-- A call leaves a pipeline alone whose session has ended. -/
def Settled (q : ScanPipeline) : Prop := p.session.terminal = true → q = p

/-- The calls without a second failure: a cancelled pipeline is not run without an interface, and
where the session has ended before the report is serialized, the report can be written. -/
def Safe : Call → Prop
  | .run input =>
    ((p.active config).selectInterface config input = none → p.session.cancelled = false) ∧
      ∀ q, p.serializes config input = some q → q.session.terminal = true →
        writes config input = true
  | .cancel _ => True

/-- The safe calls that do not run a cancelled pipeline, which would be for its partial report. -/
def Proper (c : Call) : Prop :=
  p.Safe config c ∧ ∀ input, c = .run input → p.session.cancelled = false

/-! ### Safe calls -/

variable {config input p}

theorem Serializing.keepReport (h : p.Serializing) : (p.keepReport input).Serializing :=
  ⟨⟨sound_keepReport input h.live.sound, h.live.started, h.live.cancelled⟩, h.state⟩

theorem run_sound (h : p.session.Sound) (hsafe : p.Safe config (.run input)) :
    (p.run config input).2.session.Sound := by
  obtain ⟨hselected, hwrites⟩ := hsafe
  have hspec := prepare_spec config input h
  rw [serializes] at hwrites
  rw [run]
  cases hprepare : p.prepare config input with
  | returned status q =>
    rw [hprepare] at hspec
    exact hspec
  | unselected q =>
    rw [hprepare] at hspec hwrites
    obtain ⟨hnone, hcancelled, message, status, rfl⟩ := hspec
    have hrunning : p.session.terminal = false := by
      rw [Bool.eq_false_iff]
      intro hterminal
      have hcancel := h.cancelled_iff.mpr (hcancelled hterminal)
      exact Bool.false_ne_true ((hselected hnone).symm.trans hcancel)
    have hactive : (p.active config).session.Sound := h
    exact sound_serializeReport (sound_fail hactive hrunning message status) (hwrites _ rfl)
  | cancelled q =>
    rw [hprepare] at hspec hwrites
    exact sound_serializeReport hspec.1 (hwrites _ rfl)
  | ready q =>
    rw [hprepare] at hspec hwrites
    have hserializing : (q.startSerializing input).Serializing :=
      startSerializing_serializing hspec.1 hspec.2
    have hreported := sound_serializeReport hserializing.live.sound (hwrites _ rfl)
    dsimp only
    cases hcan : writes config input with
    | true =>
      rw [serializeReport_of_writes hcan]
      exact complete_sound hserializing.keepReport
    | false =>
      obtain ⟨message, status, hreport⟩ :=
        serializeReport_of_not_writes (p := q.startSerializing input) hcan
      rw [hreport] at hreported ⊢
      exact hreported

theorem call_sound (h : p.session.Sound) {c : Call} (hsafe : p.Safe config c) :
    (p.call config c).session.Sound := by
  cases c with
  | run input => exact run_sound h hsafe
  | cancel => exact h.cancel

/-- A cancelled pipeline that is run goes straight to its report. -/
theorem prepare_of_cancelled (config : ScanConfig) (input : RunInput)
    (h : p.session.cancelled = true) :
    match (p.active config).selectInterface config input with
    | none => ∃ q, p.prepare config input = .unselected q
    | some q => p.prepare config input = .cancelled q := by
  rw [prepare, if_neg (by simp [h])]
  dsimp only
  rw [← active]
  cases hselect : (p.active config).selectInterface config input with
  | none => exact ⟨_, rfl⟩
  | some q =>
    have hsession : q.session = (p.active config).session := session_of_selectInterface hselect
    have hcancelled : q.session.cancelled = true := hsession ▸ h
    dsimp only
    rw [if_pos hcancelled]

/-- A pipeline that has completed or failed is not run again. -/
theorem run_of_terminal (hterminal : p.session.terminal = true)
    (hcancelled : p.session.cancelled = false) : (p.run config input).2 = p := by
  have hprepare : p.prepare config input =
      .returned (if p.finalStatus = .ok then .invalidArgument else p.finalStatus) p := by
    rw [prepare, hterminal, hcancelled]
    rfl
  rw [run, hprepare]

/-- A cancelled pipeline that is run keeps its partial report, and nothing else of it changes. -/
theorem run_of_cancelled (hcancelled : p.session.cancelled = true)
    (hselected : (p.active config).selectInterface config input ≠ none)
    (hwrites : writes config input = true) :
    (p.run config input).2.session = (p.keepReport input).session := by
  have hprepare := prepare_of_cancelled config input hcancelled
  cases hselect : (p.active config).selectInterface config input with
  | none => exact absurd hselect hselected
  | some q =>
    have hkept : (q.keepReport input).session = (p.keepReport input).session := by
      rw [selectInterface] at hselect
      split_ifs at hselect
      all_goals rw [← Option.some.inj hselect]; rfl
    rw [hselect] at hprepare
    rw [run, hprepare]
    dsimp only
    rw [serializeReport_of_writes hwrites, hkept]

theorem call_settled {c : Call} (hproper : p.Proper config c) : p.Settled (p.call config c) := by
  intro hterminal
  cases c with
  | run input => exact run_of_terminal hterminal (hproper.2 input rfl)
  | cancel now =>
    rw [call, ScanPipeline.cancel, ScanSession.cancel_of_terminal hterminal]

/-! ### Unsafe calls -/

/-- A cancelled pipeline that fails to select its interface. -/
theorem not_endsOnce_of_unselected (h : p.session.Sound)
    (hselect : (p.active config).selectInterface config input = none)
    (hcancelled : p.session.cancelled = true) : ¬ (p.run config input).2.session.EndsOnce := by
  have hterminal : p.session.terminal = true := by
    rw [ScanSession.terminal, h.cancelled_iff.mp hcancelled]
    rfl
  have hspec := prepare_spec config input h
  have hprepare := prepare_of_cancelled config input hcancelled
  rw [hselect] at hprepare
  obtain ⟨q, hprepare⟩ := hprepare
  rw [hprepare] at hspec
  rw [run, hprepare]
  obtain ⟨-, -, message, status, rfl⟩ := hspec
  obtain ⟨more, hevents, -⟩ := events_serializeReport config input
    ((p.active config).fail input message status)
  rw [events_fail, List.append_assoc] at hevents
  exact not_endsOnce_of_more h hterminal (by simp) hevents

/-- A run with a second failure tells the observer of a second end. -/
theorem not_endsOnce_of_not_safe (h : p.session.Sound) (hsafe : ¬ p.Safe config (.run input)) :
    ¬ (p.run config input).2.session.EndsOnce := by
  by_cases hselected :
      (p.active config).selectInterface config input = none → p.session.cancelled = false
  swap
  · obtain ⟨hselect, hcancelled⟩ := Classical.not_imp.mp hselected
    exact not_endsOnce_of_unselected h hselect (Bool.not_eq_false _ ▸ hcancelled)
  -- the report of an ended session cannot be written
  have hreport : ∃ q, p.serializes config input = some q ∧ q.session.terminal = true ∧
      writes config input = false := by
    by_contra hnone
    refine hsafe ⟨hselected, fun q hserializes hterminal ↦ ?_⟩
    by_contra hwrites
    exact hnone ⟨q, hserializes, hterminal, Bool.not_eq_true _ ▸ hwrites⟩
  obtain ⟨q, hserializes, hterminal, hwrites⟩ := hreport
  obtain ⟨more, hevents, hmore⟩ := events_serializeReport config input q
  have hspec := prepare_spec config input h
  rw [serializes] at hserializes
  rw [run]
  cases hprepare : p.prepare config input with
  | returned status r => simp [hprepare] at hserializes
  | unselected r =>
    rw [hprepare] at hspec hserializes
    obtain rfl := Option.some.inj hserializes
    obtain ⟨hselect, hcancelled, message, status, rfl⟩ := hspec
    have hrunning : p.session.terminal = false := by
      rw [Bool.eq_false_iff]
      intro hended
      have hcancel := h.cancelled_iff.mpr (hcancelled hended)
      exact Bool.false_ne_true ((hselected hselect).symm.trans hcancel)
    have hactive : (p.active config).session.Sound := h
    exact not_endsOnce_of_more (sound_fail hactive hrunning message status) hterminal
      (hmore hwrites) hevents
  | cancelled r =>
    rw [hprepare] at hspec hserializes
    obtain rfl := Option.some.inj hserializes
    exact not_endsOnce_of_more hspec.1 hterminal (hmore hwrites) hevents
  | ready r =>
    rw [hprepare] at hspec hserializes
    obtain rfl := Option.some.inj hserializes
    have hserializing : (r.startSerializing input).Serializing :=
      startSerializing_serializing hspec.1 hspec.2
    obtain ⟨message, status, hserialize⟩ :=
      serializeReport_of_not_writes (p := r.startSerializing input) hwrites
    dsimp only
    rw [hserialize] at hevents ⊢
    exact not_endsOnce_of_more hserializing.live.sound hterminal (hmore hwrites) hevents

/-- A call ends the session once exactly if it is safe. -/
theorem call_iff (h : p.session.Sound) (c : Call) :
    (p.call config c).session.EndsOnce ↔ p.Safe config c := by
  refine ⟨fun honce ↦ ?_, fun hsafe ↦ (call_sound h hsafe).endsOnce⟩
  cases c with
  | run input => exact not_not.mp fun hsafe ↦ not_endsOnce_of_not_safe h hsafe honce
  | cancel => trivial

/-- A pipeline as it is constructed. -/
def initial (interfaceName : Option Text) (startedAt : TimePoint) : ScanPipeline where
  session := { finishedAt := startedAt }
  interfaceName
  activeTarget := { resolvedHosts := [] }

theorem sound_initial (interfaceName : Option Text) (startedAt : TimePoint) :
    (initial interfaceName startedAt).session.Sound where
  running _ := ⟨rfl, nofun⟩
  ended := nofun
  cancelled := nofun

/-- **The lifecycle of a scan.** As long as every call is proper, every call ends the session at
most once, last and as the state says, and leaves an ended one alone; and the runs that end it once
are exactly those whose calls are safe. -/
theorem lifecycle (config : ScanConfig) (interfaceName : Option Text) (startedAt : TimePoint)
    (calls : List Call) :
    (Runs.Within (call config) (fun p c ↦ p.Proper config c) (initial interfaceName startedAt)
        calls →
      Runs.Within (call config)
        (fun p c ↦ (p.call config c).session.EndsOnce ∧ p.Settled (p.call config c))
        (initial interfaceName startedAt) calls) ∧
    (Runs.Within (call config) (fun p c ↦ (p.call config c).session.EndsOnce)
        (initial interfaceName startedAt) calls ↔
      Runs.Within (call config) (fun p c ↦ p.Safe config c) (initial interfaceName startedAt)
        calls) := by
  have hinitial := sound_initial interfaceName startedAt
  constructor
  · refine Runs.within_imp (I := fun p ↦ p.session.Sound) ?_ ?_ hinitial
    · exact fun p c h hproper ↦ ⟨(call_sound h hproper.1).endsOnce, call_settled hproper⟩
    · exact fun p c hproper h ↦ call_sound h hproper.1
  · refine (Runs.within_iff (I := fun p ↦ p.session.Sound) ?_ ?_ hinitial calls).symm
    · exact fun p c h ↦ (call_iff h c).symm
    · exact fun p c hsafe h ↦ call_sound h hsafe

/-- A run without stages, whose report the output stream does not take. -/
def unwritten : RunInput where
  discovery := { result := {} }
  hostIsUp _ := true
  portScan := { result := {} }
  udpScan := { result := {} }
  serviceDetection := { result := {} }
  osDetection _ := { result := {} }
  output := { report := { scannerVersion := [] }, status := .ioError }

/-- A pipeline that is cancelled before it is run, and whose partial report cannot be written, tells
of its cancellation first and of a failure then. -/
theorem not_lifecycle_cancelled : ¬ Runs.Within
    (call { target := { resolvedHosts := [] }, portScanEnabled := false })
    (fun p c ↦
      (p.call { target := { resolvedHosts := [] }, portScanEnabled := false } c).session.EndsOnce ∧
        p.Settled (p.call { target := { resolvedHosts := [] }, portScanEnabled := false } c))
    (initial none 0) [.cancel 0, .run unwritten] := by
  rintro ⟨-, ⟨honce, -⟩, -⟩
  have hlast := honce [] ScanSession.cancelEvent
    [{ type := .scanFailed, target := some { resolvedHosts := [] },
        message := literal "output serialization failed: io-error" }] (by decide +kernel) _ rfl
  exact List.cons_ne_nil _ _ hlast.1

end ScanPipeline

end Skan.Orchestrator
