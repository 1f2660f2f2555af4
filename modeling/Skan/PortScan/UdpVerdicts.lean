import Skan.PortScan.ResultSemantics
import Skan.PortScan.UdpWork
import Skan.PortScan.Verdicts

/-!
# Verdicts of UDP probes

The account of `Skan.PortScan.Verdicts` for `UDPScheduler`, and then for the raw attempts of both
schedulers together. A UDP transport does not call back from `submit`, so a probe in flight is
touched by its own responses and its timeout alone. -/

namespace Skan.PortScan

open Skan.Core Skan.ScanEngine

variable {states : List PortState}

namespace UDPScheduler

variable (ctx : Context) {s : UDPScheduler} {state : PortState}

/-! ### What does not touch a probe -/

/-- When a response counts as received. -/
def completionTime (response : UDPResponse) (s : UDPScheduler) : TimePoint :=
  if response.receivedAt = 0 then ctx.environment.now s.trace else response.receivedAt

/-- The scheduler once it knows. -/
def clocked (response : UDPResponse) (s : UDPScheduler) : UDPScheduler :=
  if response.receivedAt = 0 then s.record .clockRead else s

@[simp] theorem pending_clocked (response : UDPResponse) (s : UDPScheduler) :
    (clocked response s).pending = s.pending := by
  rw [clocked]
  split_ifs <;> rfl

@[simp] theorem results_clocked (response : UDPResponse) (s : UDPScheduler) :
    (clocked response s).results = s.results := by
  rw [clocked]
  split_ifs <;> rfl

@[simp] theorem pending_stopIfIdle (s : UDPScheduler) : s.stopIfIdle.pending = s.pending := by
  rw [stopIfIdle]
  split_ifs <;> rfl

@[simp] theorem pending_releaseSourcePort (port : UInt16) (s : UDPScheduler) :
    (s.releaseSourcePort port).pending = s.pending := by
  rw [releaseSourcePort]
  split_ifs <;> rfl

@[simp] theorem results_releaseSourcePort (port : UInt16) (s : UDPScheduler) :
    (s.releaseSourcePort port).results = s.results := by
  rw [releaseSourcePort]
  split_ifs <;> rfl

@[simp] theorem pending_appendTerminalResult (work : WorkItem) (state : PortState)
    (reason : ScanReason) (rttMs : Option ℚ) (s : UDPScheduler) :
    (s.appendTerminalResult ctx work state reason rttMs).pending = s.pending := rfl

@[simp] theorem pending_failProbe (work : WorkItem) (sourcePort : UInt16) (reason : ScanReason)
    (status : StatusCode) (s : UDPScheduler) :
    (s.failProbe ctx work sourcePort reason status).pending = s.pending :=
  pending_releaseSourcePort sourcePort s

section Frame

variable {ctx} {id : UDPProbeId} {pending : Pending}

section

variable (h : s.pending.lookup id = some pending)

include h

/-- Another probe's end leaves it alone. -/
theorem lookup_retire {other : UDPProbeId} (hne : id ≠ other) (retired : Pending) :
    (s.retire other retired).pending.lookup id = some pending := by
  have hretire : (s.retire other retired).pending = s.pending.erase other :=
    congrArg Board.pending (board_retire other retired s)
  rw [hretire, AList.lookup_erase_ne hne]
  exact h

theorem lookup_handOver {submission : UDPSubmission} (hne : id ≠ submission.id) (work : WorkItem)
    (timer : TimerId) :
    (handOver ctx work submission timer s).pending.lookup id = some pending := by
  rw [handOver]
  dsimp only
  split
  · exact h
  · rw [pending_failProbe]
    exact (AList.lookup_erase_ne hne).trans h

/-- A new probe is entered under an identifier that is free. -/
theorem lookup_launch (work : WorkItem) (submission : UDPSubmission) :
    (launch ctx work submission s).pending.lookup id = some pending := by
  rw [launch]
  dsimp only
  split_ifs
  · rw [pending_failProbe]
    exact h
  · split
    · rw [pending_failProbe]
      exact h
    · rename_i entered hemplace
      obtain ⟨hfresh, rfl⟩ := AList.emplace_eq_some_iff.mp hemplace
      have hne : id ≠ submission.id := by
        rintro rfl
        exact hfresh (AList.mem_of_lookup h)
      exact lookup_handOver ((AList.lookup_insert_ne hne).trans h) hne work _

end

theorem pending_allocateSourcePort {s' : UDPScheduler} {port : Option UInt16}
    (h : s.allocateSourcePort = (port, s')) : s'.pending = s.pending := by
  cases port with
  | none =>
    rw [(allocateLoop_none h).1]
  | some port =>
    rw [(allocateLoop_some h).2.2]

/-- So does the start of another. -/
theorem lookup_startProbe (h : s.pending.lookup id = some pending) (work : WorkItem) :
    (startProbe ctx work s).pending.lookup id = some pending := by
  rw [startProbe]
  split
  · rename_i s' hallocate
    have hpending := pending_allocateSourcePort hallocate
    exact (congrArg (AList.lookup id) hpending).trans h
  · rename_i port s' hallocate
    have h' : s'.pending.lookup id = some pending := by
      rw [pending_allocateSourcePort hallocate]
      exact h
    split
    · rw [pending_failProbe]
      exact h'
    · dsimp only
      split
      · rw [pending_failProbe]
        exact h'
      · exact lookup_launch (s := { s' with nextId := s'.nextId + 1 }) h' work _

theorem lookup_pumpLoop (limit fuel : ℕ) (h : s.pending.lookup id = some pending) :
    (pumpLoop ctx limit fuel s).pending.lookup id = some pending := by
  induction fuel generalizing s with
  | zero => exact h
  | succ fuel ih =>
    rw [pumpLoop]
    split
    · exact h
    · rename_i work queue hqueue
      split_ifs
      · exact ih (lookup_startProbe (s := { s with queue }) h work)
      · exact h

section

variable (h : s.pending.lookup id = some pending)

include h

theorem lookup_pump : (pump ctx s).pending.lookup id = some pending := by
  rw [pump, pending_stopIfIdle]
  exact lookup_pumpLoop _ _ h

/-- A probe published, and then the pump: the end of every way out of flight. -/
theorem lookup_pump_published (work : WorkItem) (state : PortState) (reason : ScanReason)
    (rttMs : Option ℚ) (timing : Option TimingController) :
    (pump ctx { s.appendTerminalResult ctx work state reason rttMs with timing }).pending.lookup
      id =
      some pending := by
  refine lookup_pump ?_
  show (s.appendTerminalResult ctx work state reason rttMs).pending.lookup id = _
  rw [pending_appendTerminalResult]
  exact h

theorem lookup_completePending {other : UDPProbeId} (hne : id ≠ other) (state : PortState)
    (reason : ScanReason) (completedAt : TimePoint) :
    (completePending ctx other state reason completedAt s).pending.lookup id = some pending := by
  rw [completePending]
  split
  · exact h
  · rename_i retired _
    have hretired := lookup_retire (s := s.record (.timerCancelled retired.timerId)) h hne retired
    exact lookup_pump_published hretired _ _ _ _ _

/-- So does a submission. -/
theorem lookup_submit (target : Target) (ports : List Port) :
    (submit ctx target ports s).2.pending.lookup id = some pending := by
  rcases submit_cases ctx target ports s with hsame | ⟨status, hrefused⟩ | hacceptable
  · rw [hsame]
    exact h
  · rw [hrefused]
    exact h
  · obtain ⟨results, s₁, -, -, hboard, hsubmit⟩ := hacceptable.submit_eq
    have h₁ : s₁.pending.lookup id = some pending :=
      (congrArg (AList.lookup id) (congrArg Board.pending hboard)).trans h
    rw [hsubmit, pending_stopIfIdle]
    split_ifs
    · exact lookup_pump h₁
    · exact h₁

end

end Frame

/-! ### Receiving -/

section Receive

variable {ctx} {response : UDPResponse} {s : UDPScheduler} {pending : Pending}

theorem receive_of_none (h : s.pending.lookup response.id = none) : receive ctx response s = s := by
  rw [receive, h]

variable (hlookup : s.pending.lookup response.id = some pending)

include hlookup

theorem receive_of_refused (hassess : assess ctx response pending = none) :
    receive ctx response s = s := by
  rw [receive, hlookup]
  dsimp only
  rw [hassess]

/-- What a response that counts does. -/
theorem receive_of_assessed {reason : ScanReason}
    (hassess : assess ctx response pending = some (state, reason)) :
    receive ctx response s =
      if completionTime ctx response s < pending.startedAt then clocked response s
      else if state = .error then
        completePending ctx response.id state reason (completionTime ctx response s)
          (clocked response s)
      else
        { clocked response s with
          pending := (clocked response s).pending.replace response.id
            (pending.observe state reason (completionTime ctx response s)) } := by
  rw [receive, hlookup]
  dsimp only
  rw [hassess, completionTime, clocked]
  dsimp only
  by_cases hzero : response.receivedAt = 0
  · rw [if_pos hzero, if_pos hzero, if_pos hzero]
    rfl
  · rw [if_neg hzero, if_neg hzero, if_neg hzero]

end Receive

/-! ### What a step publishes -/

/-- Results are only appended. -/
theorem prefix_actions {b b' : Board} (h : Actions ctx b b') : b.results <+: b'.results := by
  induction h with
  | refl => exact List.prefix_refl _
  | tail _ haction ih =>
    refine ih.trans ?_
    cases haction <;> first | exact List.prefix_refl _ | exact List.prefix_append _ _

/-- **A probe that is retired with a verdict** publishes it before anything else. -/
theorem pump_publishes (work : WorkItem) (state : PortState) (reason : ScanReason)
    (rttMs : Option ℚ) (timing : Option TimingController) (s : UDPScheduler) :
    ∃ result : PortResult, result.key = work.key ∧ result.state = state ∧ result.reason = reason ∧
      s.results ++ [result] <+:
        (pump ctx { s.appendTerminalResult ctx work state reason rttMs with timing }).results := by
  obtain ⟨result, hkey, -, hstate, hreason, -, happend⟩ :=
    board_appendTerminalResult ctx work state reason rttMs s
  refine ⟨result, hkey, hstate, hreason, ?_⟩
  have hprefix := prefix_actions ctx (actions_pump ctx
    { s.appendTerminalResult ctx work state reason rttMs with timing })
  have hpublished : (s.appendTerminalResult ctx work state reason rttMs).results =
      s.results ++ [result] := congrArg Board.results happend
  rw [← hpublished]
  exact hprefix

/-! ### Following a probe -/

/-- Whether an event is the timeout of the probe. -/
def Event.isTimeout (id : UDPProbeId) : Event → Bool
  | .onTimeout other => other = id
  | _ => false

variable (id : UDPProbeId)

/-- The state that an event is accepted as evidence of, for the probe `id`. -/
def acceptedState (s : UDPScheduler) : Event → Option PortState
  | .receive response =>
    if response.id ≠ id then none
    else
      match s.pending.lookup id with
      | none => none
      | some pending =>
        match assess ctx response pending with
        | none => none
        | some (state, _) =>
          if completionTime ctx response s < pending.startedAt then none else some state
  | _ => none

/-- The states accepted along a run, up to the end of the probe. -/
def evidence (s : UDPScheduler) : List Event → List PortState
  | [] => []
  | event :: events =>
    match acceptedState ctx id s event with
    | some .error => [.error]
    | some state => state :: evidence (step ctx s event) events
    | none => if event.isTimeout id then [] else evidence (step ctx s event) events

/-- The first result of the step that ends the probe. -/
def recorded (s : UDPScheduler) : List Event → Option PortResult
  | [] => none
  | event :: events =>
    if acceptedState ctx id s event = some .error ∨ event.isTimeout id then
      (step ctx s event).results[s.results.length]?
    else recorded (step ctx s event) events

section Followed

variable {ctx} {id} {pending : Pending} {s : UDPScheduler} {event : Event}

/-- The probe stands for the evidence it has accepted. -/
abbrev Represents (pending : Pending) (states : List PortState) : Prop :=
  Holds pending.candidateState pending.candidateReason pending.conflict (.ofList states)

variable (hlookup : s.pending.lookup id = some pending)

include hlookup

/-- What it means for an event to be accepted. -/
theorem of_acceptedState (h : acceptedState ctx id s event = some state) :
    ∃ (response : UDPResponse) (reason : ScanReason), event = .receive response ∧
      response.id = id ∧
      step ctx s event =
        if state = .error then
          completePending ctx id state reason (completionTime ctx response s) (clocked response s)
        else
          { clocked response s with
            pending := (clocked response s).pending.replace id
              (pending.observe state reason (completionTime ctx response s)) } := by
  cases event with
  | onTimeout other => cases h
  | submit target ports => cases h
  | receive response =>
    rw [acceptedState] at h
    split_ifs at h with hid
    rw [not_not] at hid
    rw [hlookup] at h
    dsimp only at h
    split at h
    · cases h
    · rename_i accepted reason hassess
      split_ifs at h with hearly
      cases h
      refine ⟨response, reason, rfl, hid, ?_⟩
      subst hid
      show receive ctx response s = _
      rw [receive_of_assessed hlookup hassess, if_neg hearly]

/-- **An accepted response that is no Error** is observed. -/
theorem lookup_of_accepted (hstate : state ≠ .error)
    (h : acceptedState ctx id s event = some state) (hrepresents : Represents pending states) :
    ∃ pending', (step ctx s event).pending.lookup id = some pending' ∧
      pending'.work = pending.work ∧ Represents pending' (states ++ [state]) := by
  obtain ⟨response, reason, -, -, hstep⟩ := of_acceptedState hlookup h
  rw [if_neg hstate] at hstep
  refine ⟨pending.observe state reason (completionTime ctx response s), ?_, ?_, ?_⟩
  · rw [hstep]
    refine AList.lookup_replace _ (v := pending) ?_
    rw [pending_clocked]
    exact hlookup
  · rw [Pending.observe]
    split
    · rfl
    · split_ifs <;> rfl
  · have hheard := holds_weigh hrepresents state reason
    rw [← Pending.observe_eq pending state reason (completionTime ctx response s),
      ← Consensus.ofList_append] at hheard
    exact hheard

/-- **An accepted Error** ends the probe and is published. -/
theorem publishes_error (h : acceptedState ctx id s event = some .error) :
    ∃ result : PortResult, result.key = pending.work.key ∧ result.state = .error ∧
      s.results ++ [result] <+: (step ctx s event).results := by
  obtain ⟨response, reason, -, -, hstep⟩ := of_acceptedState hlookup h
  have hclocked : (clocked response s).pending.lookup id = some pending := by
    rw [pending_clocked]
    exact hlookup
  rw [if_pos rfl, completePending, hclocked] at hstep
  dsimp only at hstep
  set retired := ((clocked response s).record (.timerCancelled pending.timerId)).retire id pending
    with hretired
  have hresults : retired.results = s.results := by
    rw [hretired, ← results_clocked response s]
    exact results_releaseSourcePort pending.submission.sourcePort _
  obtain ⟨result, hkey, hstate, -, hprefix⟩ := pump_publishes ctx pending.work .error reason
    (some (rttMs pending.startedAt (completionTime ctx response s)))
    (retired.timing.map
      (·.onResponse (rttMs pending.startedAt (completionTime ctx response s)).floor)) retired
  refine ⟨result, hkey, hstate, ?_⟩
  rw [hstep, ← hresults]
  exact hprefix

/-- **The timeout** publishes what the evidence comes to. -/
theorem publishes_timeout (htimeout : event.isTimeout id)
    (hrepresents : Represents pending states) (hne : states ≠ []) (herror : .error ∉ states) :
    ∃ result : PortResult, result.key = pending.work.key ∧ Judged states result ∧
      s.results ++ [result] <+: (step ctx s event).results := by
  cases event with
  | receive response => cases htimeout
  | submit target ports => cases htimeout
  | onTimeout other =>
    obtain rfl : other = id := of_decide_eq_true htimeout
    obtain ⟨state, hcandidate, hjudged⟩ := judged_of_holds hne herror hrepresents
    set retired := s.retire other pending with hretired
    have hresults : retired.results = s.results :=
      results_releaseSourcePort pending.submission.sourcePort
        (s.record (.submissionCancelled other))
    obtain ⟨result, hkey, hstate, hreason, hprefix⟩ := pump_publishes ctx pending.work state
      pending.candidateReason (some (rttMs pending.startedAt pending.candidateAt))
      (retired.timing.map (·.onResponse (rttMs pending.startedAt pending.candidateAt).floor))
        retired
    refine ⟨result, hkey, hjudged result hstate hreason, ?_⟩
    show _ <+: (onTimeout ctx other s).results
    rw [onTimeout, hlookup]
    dsimp only
    rw [hcandidate, ← hresults]
    exact hprefix

/-- **Everything else** leaves the probe alone. -/
theorem lookup_step (hignored : acceptedState ctx id s event = none)
    (htimeout : ¬ event.isTimeout id) : (step ctx s event).pending.lookup id = some pending := by
  cases event with
  | submit target ports => exact lookup_submit hlookup target ports
  | onTimeout other =>
    have hne : id ≠ other := fun heq ↦ htimeout (decide_eq_true heq.symm)
    show (onTimeout ctx other s).pending.lookup id = _
    rw [onTimeout]
    split
    · exact hlookup
    · dsimp only
      split
      · exact lookup_pump_published (lookup_retire hlookup hne _) _ _ _ _ _
      · split_ifs
        · exact lookup_pump (lookup_retire hlookup hne _)
        · exact lookup_pump_published (lookup_retire hlookup hne _) _ _ _ _ _
  | receive response =>
    show (receive ctx response s).pending.lookup id = _
    by_cases hid : id = response.id
    · -- the response is about the probe, and is turned down
      subst hid
      rw [acceptedState, if_neg (not_not.mpr rfl), hlookup] at hignored
      dsimp only at hignored
      rcases hassess : assess ctx response pending with - | ⟨state, reason⟩
      · rw [receive_of_refused hlookup hassess]
        exact hlookup
      · rw [hassess] at hignored
        dsimp only at hignored
        split_ifs at hignored with hearly
        rw [receive_of_assessed hlookup hassess, if_pos hearly, pending_clocked]
        exact hlookup
    · rcases hother : s.pending.lookup response.id with - | other
      · rw [receive_of_none hother]
        exact hlookup
      rcases hassess : assess ctx response other with - | ⟨state, reason⟩
      · rw [receive_of_refused hother hassess]
        exact hlookup
      · have hclocked : (clocked response s).pending.lookup id = some pending := by
          rw [pending_clocked]
          exact hlookup
        have hotherClocked : (clocked response s).pending.lookup response.id = some other := by
          rw [pending_clocked]
          exact hother
        rw [receive_of_assessed hother hassess]
        split_ifs
        · exact hclocked
        · exact lookup_completePending hclocked hid _ _ _
        · exact (AList.lookup_replace_ne hid _ hotherClocked).trans hclocked

omit hlookup

/-- The probe is in flight, with its work, and stands for the evidence. -/
def Stands (id : UDPProbeId) (work : WorkItem) (s : UDPScheduler) (heard : List PortState) : Prop :=
  ∃ pending, s.pending.lookup id = some pending ∧ pending.work = work ∧ Represents pending heard

/-- What the steps do to one probe. -/
theorem followed (work : WorkItem) :
    Followed (step ctx) results (acceptedState ctx id) (Event.isTimeout id) work.key
      (Stands id work) where
  observes := by
    rintro s event state heard ⟨pending, hlookup, rfl, hrepresents⟩ hstate haccepted
    refine ⟨?_, lookup_of_accepted hlookup hstate haccepted hrepresents⟩
    obtain ⟨response, -, rfl, -⟩ := of_acceptedState hlookup haccepted
    exact Bool.false_ne_true
  publishes_error := by
    rintro s event heard ⟨pending, hlookup, rfl, -⟩ haccepted
    exact publishes_error hlookup haccepted
  publishes_end := by
    rintro s event heard ⟨pending, hlookup, rfl, hrepresents⟩ htimeout hne hno
    exact publishes_timeout hlookup htimeout hrepresents hne hno
  others := by
    rintro s event heard ⟨pending, hlookup, hwork, hrepresents⟩ hignored htimeout
    exact ⟨pending, lookup_step hlookup hignored htimeout, hwork, hrepresents⟩

end Followed

end UDPScheduler

/-! ### Raw attempts -/

/-- A SYN, ACK or UDP attempt, as a run from where it has accepted nothing yet to beyond its timeout
shows it: its host and port, the states it accepted, and the result recorded for it. -/
inductive RawAttempt : Text × Port → List PortState → Option PortResult → Prop
  | tcp {ctx : SchedulerContext} (hraw : PortScanScheduler.RawProbe ctx)
      (hown : PortScanScheduler.AnswersOwn ctx) {id : PortProbeId} {s : PortScanScheduler}
      {pending : Pending} (hlookup : s.pending.lookup id = some pending)
      (hcandidate : pending.candidateState = none) (hconflict : pending.conflict = false)
      (events : List PortScanScheduler.Event) (hended : ∃ event ∈ events, event.isTimeout id) :
      RawAttempt pending.work.key (PortScanScheduler.evidence ctx id s events)
        (PortScanScheduler.recorded ctx id s events)
  | udp {ctx : UDPScheduler.Context} {id : UDPProbeId} {s : UDPScheduler}
      {pending : UDPScheduler.Pending} (hlookup : s.pending.lookup id = some pending)
      (hcandidate : pending.candidateState = none) (hconflict : pending.conflict = false)
      (events : List UDPScheduler.Event) (hended : ∃ event ∈ events, event.isTimeout id) :
      RawAttempt pending.work.key (UDPScheduler.evidence ctx id s events)
        (UDPScheduler.recorded ctx id s events)

/-- **An attempt with evidence** is recorded with what the evidence comes to. -/
theorem RawAttempt.judged {key : Text × Port} {recorded : Option PortResult}
    (h : RawAttempt key states recorded) (hne : states ≠ []) :
    ∃ result, recorded = some result ∧ result.key = key ∧ Judged states result := by
  cases h with
  | tcp hraw hown hlookup hcandidate hconflict events hended =>
    have hrepresents : PortScanScheduler.Represents _ [] :=
      ⟨⟨hcandidate, hconflict⟩, fun hsome ↦ absurd hcandidate hsome⟩
    exact (PortScanScheduler.followed hraw hown _).judged (fun _ _ _ ↦ rfl) (fun _ _ _ ↦ rfl)
      events hended ⟨_, hlookup, rfl, hrepresents⟩ List.not_mem_nil hne
  | udp hlookup hcandidate hconflict events hended =>
    have hrepresents : UDPScheduler.Represents _ [] := ⟨hcandidate, hconflict⟩
    exact (UDPScheduler.followed _).judged (fun _ _ _ ↦ rfl) (fun _ _ _ ↦ rfl) events hended
      ⟨_, hlookup, rfl, hrepresents⟩ List.not_mem_nil hne

/-- **The verdict of a raw attempt depends only on the set of the states it accepted**: Error if one
of them is Error, their common state if they agree, and otherwise Unknown for conflicting evidence.
Any other attempt that accepted the same states, in whatever order, is recorded alike. -/
theorem verdict_of_evidence {key : Text × Port} {states : List PortState}
    {recorded : Option PortResult} (h : RawAttempt key states recorded) (hne : states ≠ []) :
    ∃ result, recorded = some result ∧ result.key = key ∧ Judged states result ∧
      ∀ {key' : Text × Port} {states' : List PortState} {recorded' : Option PortResult},
        RawAttempt key' states' recorded' → (∀ state, state ∈ states ↔ state ∈ states') →
          ∃ result', recorded' = some result' ∧ result'.state = result.state := by
  obtain ⟨result, hrecorded, hkey, hjudged⟩ := h.judged hne
  refine ⟨result, hrecorded, hkey, hjudged, fun {key' states' recorded'} h' hsame ↦ ?_⟩
  have hne' : states' ≠ [] := by
    rintro rfl
    obtain ⟨state, hstate⟩ := List.exists_mem_of_ne_nil states hne
    exact List.not_mem_nil ((hsame state).mp hstate)
  obtain ⟨result', hrecorded', -, hjudged'⟩ := h'.judged hne'
  exact ⟨result', hrecorded', (hjudged.state_eq hjudged' hne hsame).symm⟩

/-- A SYN scan over an engine and a transport that accept everything. -/
def synContext : SchedulerContext :=
  .construct PortScanScheduler.ipv4OnlyInet PortScanScheduler.acceptingEnvironment
    { method := .tcpSyn }

/-- A SYN probe and a UDP probe of 10.0.0.1, with the same two ICMP errors in either order. -/
theorem verdict_of_evidence_icmp :
    let syn := (PortScanScheduler.submit synContext
      { resolvedHosts := [PortScanScheduler.tenNet 1] } [⟨80, .tcp⟩]
      (PortScanScheduler.create synContext)).2
    let synEvents : List PortScanScheduler.Event :=
      [.receive { id := 1, kind := .unreachable, reason := .icmpNetworkUnreachable },
        .receive { id := 1, kind := .unreachable, reason := .icmpAdministrativelyProhibited },
        .onTimeout 1]
    let udpContext := UDPScheduler.answeringContext fun _ ↦ .ok
    let udp := (UDPScheduler.submit udpContext
      { resolvedHosts := [PortScanScheduler.tenNet 1] } UDPScheduler.twoPorts
      (UDPScheduler.create udpContext)).2
    let udpEvents : List UDPScheduler.Event :=
      [.receive { id := 1, kind := .icmpAdministrativelyProhibited, receivedAt := 100 },
        .receive { id := 1, kind := .icmpNetworkUnreachable, receivedAt := 100 }, .onTimeout 1]
    PortScanScheduler.evidence synContext 1 syn synEvents = [.unreachable, .filtered] ∧
      UDPScheduler.evidence udpContext 1 udp udpEvents = [.filtered, .unreachable] ∧
      ∃ result result', PortScanScheduler.recorded synContext 1 syn synEvents = some result ∧
        result.state = .unknown ∧ UDPScheduler.recorded udpContext 1 udp udpEvents = some result' ∧
        result'.state = result.state := by
  intro syn synEvents udpContext udp udpEvents
  have hsyn : PortScanScheduler.evidence synContext 1 syn synEvents =
      [.unreachable, .filtered] := by
    decide +kernel
  have hudp : UDPScheduler.evidence udpContext 1 udp udpEvents = [.filtered, .unreachable] := by
    decide +kernel
  refine ⟨hsyn, hudp, ?_⟩
  obtain ⟨pending, hlookup⟩ : ∃ pending, syn.pending.lookup 1 = some pending :=
    Option.isSome_iff_exists.mp (by decide +kernel)
  obtain ⟨pending', hlookup'⟩ : ∃ pending, udp.pending.lookup 1 = some pending :=
    Option.isSome_iff_exists.mp (by decide +kernel)
  have hfresh : (syn.pending.lookup 1).map (fun p ↦ (p.candidateState, p.conflict)) =
      some (none, false) := by decide +kernel
  have hfresh' : (udp.pending.lookup 1).map (fun p ↦ (p.candidateState, p.conflict)) =
      some (none, false) := by decide +kernel
  rw [hlookup, Option.map_some, Option.some_inj, Prod.mk.injEq] at hfresh
  rw [hlookup', Option.map_some, Option.some_inj, Prod.mk.injEq] at hfresh'
  have hown : PortScanScheduler.AnswersOwn synContext := fun _ _ _ h ↦ absurd h List.not_mem_nil
  have hended : ∃ event ∈ synEvents, event.isTimeout 1 :=
    ⟨.onTimeout 1, by simp [synEvents], by decide⟩
  have hended' : ∃ event ∈ udpEvents, event.isTimeout 1 :=
    ⟨.onTimeout 1, by simp [udpEvents], by decide⟩
  obtain ⟨result, hrecorded, -, hjudged, hothers⟩ := verdict_of_evidence
    (.tcp (.inl ⟨rfl, rfl⟩) hown hlookup hfresh.1 hfresh.2 synEvents hended) (by rw [hsyn]; decide)
  rw [hsyn] at hjudged
  obtain ⟨result', hrecorded', hstate⟩ := hothers
    (.udp hlookup' hfresh'.1 hfresh'.2 udpEvents hended')
    (by rw [hsyn, hudp]; intro state; simp [or_comm])
  exact ⟨result, result', hrecorded,
    (hjudged.conflict (by decide) .unreachable (by decide) .filtered (by decide) (by decide)).1,
    hrecorded', hstate⟩

end Skan.PortScan
