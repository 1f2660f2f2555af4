import Skan.Library.Consensus
import Skan.PortScan.TcpProbes
import Skan.PortScan.UdpActions

/-!
# Verdicts and the order of the evidence

A SYN, ACK or UDP attempt collects the responses it accepts until its timeout and only then is
recorded; an Error among them ends it at once. The two schedulers fold the evidence as it comes in,
into a candidate and a flag for a conflict. Here the fold is compared with what the evidence as a
whole comes to (`Judged`), which does not depend on its order.

## How an attempt is followed

For an attempt `id`, `acceptedState` says of one event whether it is an accepted response and of
which state; `evidence` collects these along a run, up to the end of the attempt, and `recorded` is
the first result the step publishes that ends it. Everything else may happen in between: other
attempts, retries, the pump. What it cannot do is touch the attempt, provided that a transport which
calls back from `submit` does so about the submission in hand (`lookup_step`); the transports of raw
probes do not call back from `submit` at all.

`Represents` is the invariant: the candidate and the flag are the `Consensus` of the evidence so
far. -/

namespace Skan.PortScan

open Skan.Core Skan.ScanEngine

variable {states : List PortState} {result : PortResult} {reason : ScanReason}

/-- What a result makes of the states that were accepted as evidence, in whatever order. -/
structure Judged (states : List PortState) (result : PortResult) : Prop where
  error : .error ∈ states → result.state = .error
  agreed : .error ∉ states → ∀ state ∈ states, (∀ other ∈ states, other = state) →
    result.state = state
  conflict : .error ∉ states → ∀ a ∈ states, ∀ b ∈ states, a ≠ b →
    result.state = .unknown ∧ result.reason = .conflictingEvidence

/-- **The recorded state depends only on the set of the states.** -/
theorem Judged.state_eq {states' : List PortState} {result' : PortResult}
    (h : Judged states result) (h' : Judged states' result') (hne : states ≠ [])
    (hsame : ∀ state, state ∈ states ↔ state ∈ states') : result.state = result'.state := by
  by_cases herror : .error ∈ states
  · rw [h.error herror, h'.error ((hsame _).mp herror)]
  have herror' : .error ∉ states' := fun hmem ↦ herror ((hsame _).mpr hmem)
  obtain ⟨state, hstate⟩ := List.exists_mem_of_ne_nil states hne
  by_cases hall : ∀ other ∈ states, other = state
  · rw [h.agreed herror state hstate hall, h'.agreed herror' state ((hsame _).mp hstate)
      fun other hother ↦ hall other ((hsame _).mpr hother)]
  · push Not at hall
    obtain ⟨other, hother, hdiffers⟩ := hall
    rw [(h.conflict herror other hother state hstate hdiffers).1,
      (h'.conflict herror' other ((hsame _).mp hother) state ((hsame _).mp hstate) hdiffers).1]

/-- The candidate of an attempt, and whether its evidence is in conflict, against what the evidence
agrees on. -/
def Holds (candidate : Option PortState) (reason : ScanReason) (conflict : Bool) :
    Consensus PortState → Prop
  | .silent => candidate = none ∧ conflict = false
  | .agreed state => candidate = some state ∧ conflict = false
  | .split => candidate = some .unknown ∧ conflict = true ∧ reason = .conflictingEvidence

/-- A candidate that stands for the evidence is judged as the evidence is. -/
theorem judged_of_holds (hne : states ≠ []) (herror : .error ∉ states)
    {candidate : Option PortState} {conflict : Bool}
    (h : Holds candidate reason conflict (.ofList states)) :
    ∃ state, candidate = some state ∧ ∀ result : PortResult, result.state = state →
      result.reason = reason → Judged states result := by
  rcases hheard : Consensus.ofList states with - | state | -
  · exact absurd (Consensus.ofList_eq_silent_iff.mp hheard) hne
  · rw [hheard] at h
    obtain ⟨-, hall⟩ := Consensus.ofList_eq_agreed_iff.mp hheard
    refine ⟨state, h.1, fun result hstate hreason ↦ ⟨fun hmem ↦ absurd hmem herror, ?_, ?_⟩⟩
    · exact fun _ other hother _ ↦ hstate.trans (hall other hother).symm
    · exact fun _ a ha b hb hab ↦ absurd ((hall a ha).trans (hall b hb).symm) hab
  · rw [hheard] at h
    obtain ⟨a, ha, b, hb, hne⟩ := Consensus.ofList_eq_split_iff.mp hheard
    refine ⟨.unknown, h.1, fun result hstate hreason ↦ ⟨fun hmem ↦ absurd hmem herror, ?_, ?_⟩⟩
    · exact fun _ state _ hall ↦ absurd ((hall a ha).trans (hall b hb).symm) hne
    · exact fun _ _ _ _ _ _ ↦ ⟨hstate, hreason.trans h.2.2⟩

/-- An Error outweighs everything else. -/
theorem judged_error (herror : .error ∈ states) (hstate : result.state = .error) :
    Judged states result :=
  ⟨fun _ ↦ hstate, fun hnot ↦ absurd herror hnot, fun hnot ↦ absurd herror hnot⟩

/-- The first result a step publishes. -/
theorem getElem?_of_prefix {results later : List PortResult} (h : results ++ [result] <+: later) :
    later[results.length]? = some result := by
  obtain ⟨rest, rfl⟩ := h
  simp

/-- What an accepted response of the given state makes of candidate, reason and flag. -/
def weigh (state : PortState) (newReason : ScanReason) (candidate : Option PortState)
    (reason : ScanReason) (conflict : Bool) : Option PortState × ScanReason × Bool :=
  match candidate with
  | none => (some state, newReason, conflict)
  | some candidate =>
    if !conflict && candidate ≠ state then (some .unknown, .conflictingEvidence, true)
    else (some candidate, reason, conflict)

/-- **One more response is weighed** as one more value is heard. -/
theorem holds_weigh {candidate : Option PortState} {conflict : Bool} {heard : Consensus PortState}
    (h : Holds candidate reason conflict heard) (state : PortState) (newReason : ScanReason) :
    Holds (weigh state newReason candidate reason conflict).1
      (weigh state newReason candidate reason conflict).2.1
      (weigh state newReason candidate reason conflict).2.2 (heard.hear state) := by
  cases heard with
  | silent =>
    obtain ⟨rfl, rfl⟩ := h
    exact ⟨rfl, rfl⟩
  | agreed first =>
    obtain ⟨rfl, rfl⟩ := h
    by_cases hsame : first = state
    · rw [weigh, if_neg (by simp [hsame]), Consensus.hear, if_pos hsame]
      exact ⟨rfl, rfl⟩
    · rw [weigh, if_pos (by simp [hsame]), Consensus.hear, if_neg hsame]
      exact ⟨rfl, rfl, rfl⟩
  | split =>
    obtain ⟨rfl, rfl, rfl⟩ := h
    exact ⟨rfl, rfl, rfl⟩

/-! ### The run of an attempt -/

/-- What an event shows of an attempt, in front of what the rest of the run shows. -/
def heardBefore (accepted : Option PortState) (ends : Bool) (later : List PortState) :
    List PortState :=
  match accepted with
  | some .error => [.error]
  | some state => state :: later
  | none => if ends then [] else later

/-- The steps of a scheduler as one attempt sees them: `Stands s heard` says that the attempt is in
flight in `s` and stands for the evidence `heard`. -/
structure Followed {S E : Type} (step : S → E → S) (results : S → List PortResult)
    (accepted : S → E → Option PortState) (ends : E → Bool) (key : Text × Port)
    (Stands : S → List PortState → Prop) : Prop where
  observes : ∀ {s event state heard}, Stands s heard → state ≠ .error →
    accepted s event = some state → ¬ ends event ∧ Stands (step s event) (heard ++ [state])
  publishes_error : ∀ {s event heard}, Stands s heard → accepted s event = some .error →
    ∃ result : PortResult, result.key = key ∧ result.state = .error ∧
      results s ++ [result] <+: results (step s event)
  publishes_end : ∀ {s event heard}, Stands s heard → ends event → heard ≠ [] → .error ∉ heard →
    ∃ result : PortResult, result.key = key ∧ Judged heard result ∧
      results s ++ [result] <+: results (step s event)
  others : ∀ {s event heard}, Stands s heard → accepted s event = none → ¬ ends event →
    Stands (step s event) heard

/-- **The run of an attempt**: what is recorded is what all its evidence comes to, that from before
the run (`heard`) and that of the run. -/
theorem Followed.judged {S E : Type} {step : S → E → S} {results : S → List PortResult}
    {accepted : S → E → Option PortState} {ends : E → Bool} {key : Text × Port}
    {Stands : S → List PortState → Prop} (h : Followed step results accepted ends key Stands)
    {evidence : S → List E → List PortState} {recorded : S → List E → Option PortResult}
    (hevidence : ∀ s event events, evidence s (event :: events) =
      heardBefore (accepted s event) (ends event) (evidence (step s event) events))
    (hrecorded : ∀ s event events, recorded s (event :: events) =
      if accepted s event = some .error ∨ ends event then
        (results (step s event))[(results s).length]?
      else recorded (step s event) events)
    (events : List E) (hended : ∃ event ∈ events, ends event) {s : S} {heard : List PortState}
    (hstands : Stands s heard) (hno : .error ∉ heard) (hne : heard ++ evidence s events ≠ []) :
    ∃ result, recorded s events = some result ∧ result.key = key ∧
      Judged (heard ++ evidence s events) result := by
  induction events generalizing s heard with
  | nil =>
    obtain ⟨event, hmem, -⟩ := hended
    exact absurd hmem List.not_mem_nil
  | cons event events ih =>
    have hlater : ¬ ends event → ∃ event ∈ events, ends event := by
      intro hnot
      obtain ⟨other, hmem, hends⟩ := hended
      rcases List.mem_cons.mp hmem with rfl | hmem
      · exact absurd hends hnot
      · exact ⟨other, hmem, hends⟩
    rw [hevidence] at hne ⊢
    rw [hrecorded]
    rcases haccepted : accepted s event with - | state
    · rw [haccepted, heardBefore] at hne
      rw [heardBefore]
      by_cases hends : ends event
      · -- the attempt ends with what it has heard
        rw [if_pos hends, List.append_nil] at hne ⊢
        obtain ⟨result, hkey, hjudged, hprefix⟩ := h.publishes_end hstands hends hne hno
        rw [if_pos (.inr hends)]
        exact ⟨result, getElem?_of_prefix hprefix, hkey, hjudged⟩
      · rw [if_neg hends] at hne ⊢
        rw [if_neg (by simp [hends])]
        exact ih (hlater hends) (h.others hstands haccepted hends) hno hne
    · by_cases herror : state = .error
      · subst herror
        obtain ⟨result, hkey, hstate, hprefix⟩ := h.publishes_error hstands haccepted
        rw [if_pos (.inl rfl)]
        refine ⟨result, getElem?_of_prefix hprefix, hkey, judged_error ?_ hstate⟩
        simp [heardBefore]
      · -- one more response is heard
        obtain ⟨hends, hstands'⟩ := h.observes hstands herror haccepted
        have happend : heard ++ heardBefore (some state) (ends event)
            (evidence (step s event) events) =
              (heard ++ [state]) ++ evidence (step s event) events := by
          rw [List.append_assoc]
          cases state <;> first | rfl | exact absurd rfl herror
        have hno' : .error ∉ heard ++ [state] := by
          simp only [List.mem_append, List.mem_singleton, not_or]
          exact ⟨hno, fun heq ↦ herror heq.symm⟩
        rw [happend, if_neg (by simp [herror, hends])]
        exact ih (hlater hends) hstands' hno' (by simp)

/-- An attempt weighs what it observes. -/
theorem Pending.observe_eq (pending : Pending) (state : PortState) (reason : ScanReason)
    (at_ : TimePoint) :
    ((pending.observe state reason at_).candidateState,
      (pending.observe state reason at_).candidateReason,
      (pending.observe state reason at_).conflict) =
      weigh state reason pending.candidateState pending.candidateReason pending.conflict := by
  rcases pending with ⟨_, _, _, _, - | candidate, _, _, conflict⟩
  · rfl
  · dsimp only [Pending.observe, weigh]
    split_ifs <;> rfl

/-- So does a UDP probe. -/
theorem UDPScheduler.Pending.observe_eq (pending : UDPScheduler.Pending) (state : PortState)
    (reason : ScanReason) (at_ : TimePoint) :
    ((pending.observe state reason at_).candidateState,
      (pending.observe state reason at_).candidateReason,
      (pending.observe state reason at_).conflict) =
      weigh state reason pending.candidateState pending.candidateReason pending.conflict := by
  rcases pending with ⟨_, _, _, _, - | candidate, _, _, conflict⟩
  · rfl
  · dsimp only [Pending.observe, weigh]
    split_ifs <;> rfl

namespace PortScanScheduler

variable {state : PortState} {s : PortScanScheduler} {response : PortResponse}
  {submission : PortSubmission} {probe : PortProbe}

/-- The attempt stands for the evidence it has accepted; the reasons it keeps are not those of a
timeout, which would be retried. -/
structure Represents (pending : Pending) (states : List PortState) : Prop where
  holds : Holds pending.candidateState pending.candidateReason pending.conflict (.ofList states)
  reason : pending.candidateState ≠ none →
    pending.candidateReason ≠ .timeout ∧ pending.candidateReason ≠ .ackTimeout

/-- A response that is observed is heard. -/
theorem Represents.observe {pending : Pending} (h : Represents pending states)
    (hreason : reason ≠ .timeout ∧ reason ≠ .ackTimeout) (at_ : TimePoint) :
    Represents (pending.observe state reason at_) (states ++ [state]) := by
  constructor
  · have hheard := holds_weigh h.holds state reason
    rw [← Pending.observe_eq pending state reason at_, ← Consensus.ofList_append] at hheard
    exact hheard
  · intro _
    rw [Pending.observe]
    split
    · exact hreason
    · rename_i candidate hcandidate
      split_ifs
      · exact ⟨nofun, nofun⟩
      · exact h.reason (by rw [hcandidate]; exact Option.some_ne_none _)

/-! ### What does not touch an attempt -/

variable (ctx : SchedulerContext)

/-- A transport that calls back from `submit` does so about the submission in hand. -/
def AnswersOwn : Prop :=
  ∀ trace submission, ∀ response ∈ (ctx.environment.submit trace submission).responses,
    response.id = submission.id

/-- The probe is one of those that collect evidence. -/
def RawProbe : Prop :=
  (ctx.config.method = .tcpSyn ∧ ctx.probe = some (tcpSynProbe ctx.inet)) ∨
    (ctx.config.method = .tcpAck ∧ ctx.probe = some (tcpAckProbe ctx.inet))

section Frame

variable {ctx} {id : PortProbeId} {pending : Pending}

/-- When a response counts as received. -/
def completionTime (ctx : SchedulerContext) (response : PortResponse) (s : PortScanScheduler) :
    TimePoint :=
  if response.receivedAt = 0 then ctx.environment.now s.trace else response.receivedAt

/-- The scheduler once it knows. -/
def clocked (response : PortResponse) (s : PortScanScheduler) : PortScanScheduler :=
  if response.receivedAt = 0 then s.record .clockRead else s

@[simp] theorem pending_clocked (response : PortResponse) (s : PortScanScheduler) :
    (clocked response s).pending = s.pending := by
  rw [clocked]
  split_ifs <;> rfl

@[simp] theorem results_clocked (response : PortResponse) (s : PortScanScheduler) :
    (clocked response s).results = s.results := by
  rw [clocked]
  split_ifs <;> rfl

section Receive

variable {pump : PortScanScheduler → PortScanScheduler} {response : PortResponse}
  {s : PortScanScheduler}

theorem receiveWith_of_none (h : s.pending.lookup response.id = none) :
    receiveWith ctx pump response s = s := by
  rw [receiveWith, h]

theorem receiveWith_of_no_probe (h : ctx.probe = none) :
    receiveWith ctx pump response s = s := by
  rw [receiveWith, h]
  cases s.pending.lookup response.id <;> rfl

variable {probe : PortProbe} (hlookup : s.pending.lookup response.id = some pending)
  (hprobe : ctx.probe = some probe)

include hlookup hprobe

theorem receiveWith_of_error {status : StatusCode}
    (hassess : probe.assess response pending.submission = .error status) :
    receiveWith ctx pump response s = s := by
  rw [receiveWith, hlookup, hprobe]
  dsimp only
  rw [hassess]

/-- What a response in its turn does. -/
theorem receiveWith_of_ok
    (hassess : probe.assess response pending.submission = .ok (state, reason)) :
    receiveWith ctx pump response s =
      if completionTime ctx response s < pending.startedAt then clocked response s
      else if state = .error ∨ ctx.config.method = .tcpConnect then
        completePending ctx pump response.id state reason (completionTime ctx response s)
          (clocked response s)
      else
        { clocked response s with
          pending := (clocked response s).pending.replace response.id
            (pending.observe state reason (completionTime ctx response s)) } := by
  rw [receiveWith, hlookup, hprobe]
  dsimp only
  rw [hassess, completionTime, clocked]
  dsimp only
  by_cases hzero : response.receivedAt = 0
  · rw [if_pos hzero, if_pos hzero, if_pos hzero]
    rfl
  · rw [if_neg hzero, if_neg hzero, if_neg hzero]

end Receive

theorem pending_appendTerminalResult (work : WorkItem) (probe : ScanProbeType) (state : PortState)
    (reason : ScanReason) (rttMs : Option ℚ) (s : PortScanScheduler) :
    (s.appendTerminalResult ctx work probe state reason rttMs).pending = s.pending := rfl

theorem pending_setStatus (status : StatusCode) (s : PortScanScheduler) :
    (s.setStatus status).pending = s.pending := rfl

theorem pending_deferRetry (work : WorkItem) (s : PortScanScheduler) :
    (s.deferRetry ctx work).2.pending = s.pending := by
  unfold deferRetry
  dsimp only
  split_ifs
  · rfl
  · rfl
  · split <;> rfl

variable {pump : PortScanScheduler → PortScanScheduler}
  (hpump : ∀ s : PortScanScheduler, s.pending.lookup id = some pending →
    (pump s).pending.lookup id = some pending)

include hpump

section

variable (h : s.pending.lookup id = some pending)

include h

/-- A retry leaves other attempts alone. -/
theorem lookup_retryOrFail (work : WorkItem) (rttMs : Option ℚ) :
    (retryOrFail ctx pump work rttMs s).pending.lookup id = some pending := by
  have hdefer : (s.deferRetry ctx work).2.pending = s.pending := pending_deferRetry work s
  unfold retryOrFail
  split
  · rename_i heq
    rw [heq] at hdefer
    exact hpump _ ((congrArg (AList.lookup id) hdefer).trans h)
  · rename_i heq
    rw [heq] at hdefer
    exact hpump _ ((congrArg (AList.lookup id) hdefer).trans h)

/-- So does the end of an attempt. -/
theorem lookup_finishAttempt (work : WorkItem) (state : PortState) (reason : ScanReason)
    (rttMs : Option ℚ) :
    (finishAttempt ctx pump work state reason rttMs s).pending.lookup id = some pending := by
  have hrecord : (s.record (.observed work state reason)).pending.lookup id = some pending := h
  rw [finishAttempt]
  dsimp only
  split_ifs
  · exact hpump _ h
  · exact lookup_retryOrFail hpump hrecord _ _
  · exact hpump _ h
  · exact lookup_retryOrFail hpump hrecord _ _
  · exact hpump _ h

theorem lookup_completePending {other : PortProbeId} (hne : id ≠ other) (state : PortState)
    (reason : ScanReason) (completedAt : TimePoint) :
    (completePending ctx pump other state reason completedAt s).pending.lookup id =
      some pending := by
  rw [completePending]
  split
  · exact h
  · exact lookup_finishAttempt hpump ((AList.lookup_erase_ne hne).trans h) _ _ _ _

/-- A response about another attempt. -/
theorem lookup_receiveWith (hne : id ≠ response.id) :
    (receiveWith ctx pump response s).pending.lookup id = some pending := by
  rcases hlookup : s.pending.lookup response.id with - | other
  · rw [receiveWith_of_none hlookup]
    exact h
  rcases hprobe : ctx.probe with - | probe
  · rw [receiveWith_of_no_probe hprobe]
    exact h
  rcases hassess : probe.assess response other.submission with status | ⟨state, reason⟩
  · rw [receiveWith_of_error hlookup hprobe hassess]
    exact h
  · have hclocked : (clocked response s).pending.lookup id = some pending := by
      rw [pending_clocked]
      exact h
    have hother : (clocked response s).pending.lookup response.id = some other := by
      rw [pending_clocked]
      exact hlookup
    rw [receiveWith_of_ok hlookup hprobe hassess]
    split_ifs
    · exact hclocked
    · exact lookup_completePending hpump hclocked hne _ _ _
    · exact (AList.lookup_replace_ne hne _ hother).trans hclocked

theorem lookup_receiveAll {responses : List PortResponse}
    (hne : ∀ response ∈ responses, id ≠ response.id) :
    (responses.foldl (fun s response ↦ receiveWith ctx pump response s) s).pending.lookup id =
      some pending := by
  induction responses generalizing s with
  | nil => exact h
  | cons response responses ih =>
    exact ih (lookup_receiveWith hpump h (hne response List.mem_cons_self))
      fun other hother ↦ hne other (List.mem_cons_of_mem _ hother)

/-- And so does a launch. -/
theorem lookup_launch (hown : AnswersOwn ctx) (hne : id ≠ submission.id) (timer : TimerId)
    (work : WorkItem) :
    (launch ctx pump submission.id timer work submission s).pending.lookup id = some pending := by
  have hall : ∀ response ∈ (s.transportSubmit ctx work submission).1.responses,
      id ≠ response.id := by
    intro response hresponse
    rw [hown s.trace submission response hresponse]
    exact hne
  have hsubmitted : (s.transportSubmit ctx work submission).2.pending.lookup id = some pending := h
  have hanswered : (List.foldl (fun s response ↦ receiveWith ctx pump response s)
      (s.transportSubmit ctx work submission).2
      (s.transportSubmit ctx work submission).1.responses).pending.lookup id = some pending :=
    lookup_receiveAll hpump hsubmitted hall
  rw [launch]
  dsimp only
  split_ifs
  · exact hanswered
  · rw [pending_setStatus, pending_appendTerminalResult]
    exact (AList.lookup_erase_ne hne).trans hanswered

/-- A new attempt is entered under an identifier that is free. -/
theorem lookup_startAttempt (hown : AnswersOwn ctx)
    (hbuild : ∀ {newId host port config submission},
      probe.build newId host port config = .ok submission → submission.id = newId)
    (work : WorkItem) : (startAttempt ctx pump probe work s).pending.lookup id = some pending := by
  rw [startAttempt]
  dsimp only
  split
  · rw [pending_appendTerminalResult]
    exact h
  · rename_i submission hsubmission
    split_ifs
    · rw [pending_setStatus, pending_appendTerminalResult]
      exact h
    · rw [pending_appendTerminalResult]
      exact h
    · split
      · rw [pending_setStatus, pending_appendTerminalResult]
        exact h
      · rename_i entered hemplace
        obtain ⟨hfresh, rfl⟩ := AList.emplace_eq_some_iff.mp hemplace
        have hne : id ≠ s.nextId := by
          rintro rfl
          exact hfresh (AList.mem_of_lookup h)
        have hid := hbuild hsubmission
        rw [← hid]
        rw [← hid] at hne
        exact lookup_launch hpump ((AList.lookup_insert_ne hne).trans h) hown hne _ _

end

end Frame

section Raw

variable {ctx} {id : PortProbeId} {pending : Pending}

theorem pending_stopIfIdle (s : PortScanScheduler) : (stopIfIdle s).pending = s.pending := by
  rw [stopIfIdle]
  split_ifs <;> rfl

/-- A raw probe puts the identifier it is given into its submission. -/
theorem id_of_buildTcp {inet : Inet} {type : ScanProbeType} {sequence acknowledgment : UInt32}
    {flag : Packet.TCP.Flag} {newId : PortProbeId} {host : Host} {port : Port}
    (h : buildTcp inet type sequence acknowledgment flag newId host port = .ok submission) :
    submission.id = newId := by
  rw [buildTcp] at h
  split_ifs at h
  split at h
  · cases h
  · dsimp only at h
    split at h
    · cases h
    · cases h
      rfl

/-- A raw probe is built under its identifier. -/
theorem RawProbe.id_of_build (hraw : RawProbe ctx) (hprobe : ctx.probe = some probe)
    {newId : PortProbeId} {host : Host} {port : Port} {config : PortScanConfig}
    (h : probe.build newId host port config = .ok submission) : submission.id = newId := by
  rcases hraw with ⟨-, hsyn⟩ | ⟨-, hack⟩
  · rw [hsyn] at hprobe
    cases hprobe
    exact id_of_buildTcp h
  · rw [hack] at hprobe
    cases hprobe
    exact id_of_buildTcp h

/-- The reason of an accepted response is not that of a timeout. -/
theorem reason_of_assessTcp {judge : Packet.TCP → Except StatusCode (PortState × ScanReason)}
    (hjudge : ∀ {tcp state reason}, judge tcp = .ok (state, reason) →
      reason ≠ .timeout ∧ reason ≠ .ackTimeout)
    (h : assessTcp judge response submission = .ok (state, reason)) :
    reason ≠ .timeout ∧ reason ≠ .ackTimeout := by
  rw [assessTcp] at h
  split at h
  · cases h
    exact ⟨nofun, nofun⟩
  · rw [assessUnreachable.eq_def] at h
    split at h <;> cases h <;> exact ⟨nofun, nofun⟩
  · cases h
  · cases h
  · split_ifs at h
    split at h
    · cases h
    · split_ifs at h
      exact hjudge h

section

variable (hraw : RawProbe ctx)

include hraw

theorem RawProbe.reason_of_assess (hprobe : ctx.probe = some probe)
    (h : probe.assess response submission = .ok (state, reason)) :
    reason ≠ .timeout ∧ reason ≠ .ackTimeout := by
  rcases hraw with ⟨-, hsyn⟩ | ⟨-, hack⟩
  · rw [hsyn] at hprobe
    cases hprobe
    change TcpSynProbe.assess response submission = _ at h
    rw [TcpSynProbe.assess] at h
    split_ifs at h
    refine reason_of_assessTcp (fun {tcp state reason} hjudge ↦ ?_) h
    rw [TcpSynProbe.judge] at hjudge
    split_ifs at hjudge <;> cases hjudge <;> exact ⟨nofun, nofun⟩
  · rw [hack] at hprobe
    cases hprobe
    change TcpAckProbe.assess response submission = _ at h
    rw [TcpAckProbe.assess] at h
    split_ifs at h
    refine reason_of_assessTcp (fun {tcp state reason} hjudge ↦ ?_) h
    rw [TcpAckProbe.judge] at hjudge
    split_ifs at hjudge
    cases hjudge
    exact ⟨nofun, nofun⟩

theorem RawProbe.method_ne : ctx.config.method ≠ .tcpConnect := by
  rcases hraw with ⟨hmethod, -⟩ | ⟨hmethod, -⟩ <;> rw [hmethod] <;> decide

/-- The pump leaves attempts in flight alone. -/
theorem lookup_pumpLoop (hown : AnswersOwn ctx) (fuel limit : ℕ)
    (h : s.pending.lookup id = some pending) :
    (pumpLoop ctx fuel limit s).pending.lookup id = some pending := by
  induction fuel generalizing limit s with
  | zero => exact h
  | succ fuel ih =>
    rw [pumpLoop]
    split
    · rename_i work queue probe hqueue hprobe
      split_ifs
      · refine ih limit (lookup_startAttempt (s := { s with queue }) (fun s h ↦ ?_) h hown
          (hraw.id_of_build hprobe) work)
        rw [pending_stopIfIdle]
        exact ih _ h
      · exact h
    · exact h

theorem lookup_pump (hown : AnswersOwn ctx) (h : s.pending.lookup id = some pending) :
    (pump ctx s).pending.lookup id = some pending := by
  rw [pump, pending_stopIfIdle]
  exact lookup_pumpLoop hraw hown _ _ h

end

/-! ### What a step publishes -/

/-- Results are only appended. -/
theorem prefix_actions {b b' : Board} (h : Actions ctx b b') : b.results <+: b'.results := by
  induction h with
  | refl => exact List.prefix_refl _
  | tail _ haction ih =>
    refine ih.trans ?_
    cases haction <;> first | exact List.prefix_refl _ | exact List.prefix_append _ _

/-- **An attempt that is not retried publishes its verdict.** -/
theorem finishAttempt_publishes (hraw : RawProbe ctx) (work : WorkItem) (state : PortState)
    (hreason : reason ≠ .timeout ∧ reason ≠ .ackTimeout) (rttMs : Option ℚ)
    (s : PortScanScheduler) :
    ∃ result : PortResult, result.key = work.key ∧ result.state = state ∧
      result.reason = reason ∧
      s.results ++ [result] <+: (finishAttempt ctx (pump ctx) work state reason rttMs
        s).results := by
  have hnegative : ¬ shouldConfirmNegative ctx.config.method state reason := by
    simp [shouldConfirmNegative, hraw.method_ne]
  have hretry : ¬ ((reason = .timeout ∨ reason = .ackTimeout) ∧ work.retryCount <
      (s.record (.observed work state reason)).maxRetries ctx) :=
    fun h ↦ h.1.elim hreason.1 hreason.2
  obtain ⟨result, hkey, -, hstate, hreason', -, happend⟩ := board_appendTerminalResult ctx work
    ctx.config.method state reason rttMs (s.record (.observed work state reason))
  refine ⟨result, hkey, hstate, hreason', ?_⟩
  rw [finishAttempt]
  dsimp only
  rw [if_neg hnegative, if_neg hretry]
  have hpublished := congrArg Board.results happend
  have hprefix := prefix_actions (actions_pump ctx
    ((s.record (.observed work state reason)).appendTerminalResult
    ctx work ctx.config.method state reason rttMs))
  rw [hpublished] at hprefix
  exact hprefix

end Raw

/-! ### Following an attempt -/

/-- Whether an event is the timeout of the attempt. -/
def Event.isTimeout (id : PortProbeId) : Event → Bool
  | .onTimeout other => other = id
  | _ => false

variable (id : PortProbeId)

/-- The state that an event is accepted as evidence of, for the attempt `id`. -/
def acceptedState (s : PortScanScheduler) : Event → Option PortState
  | .receive response =>
    if response.id ≠ id then none
    else
      match s.pending.lookup id, ctx.probe with
      | some pending, some probe =>
        match probe.assess response pending.submission with
        | .ok (state, _) =>
          if completionTime ctx response s < pending.startedAt then none else some state
        | .error _ => none
      | _, _ => none
  | _ => none

/-- The states accepted along a run, up to the end of the attempt. -/
def evidence (s : PortScanScheduler) : List Event → List PortState
  | [] => []
  | event :: events =>
    match acceptedState ctx id s event with
    | some .error => [.error]
    | some state => state :: evidence (step ctx s event) events
    | none => if event.isTimeout id then [] else evidence (step ctx s event) events

/-- The first result of the step that ends the attempt. -/
def recorded (s : PortScanScheduler) : List Event → Option PortResult
  | [] => none
  | event :: events =>
    if acceptedState ctx id s event = some .error ∨ event.isTimeout id then
      (step ctx s event).results[s.results.length]?
    else recorded (step ctx s event) events

section Followed

variable {ctx} {id} {pending : Pending} {s : PortScanScheduler} (hraw : RawProbe ctx)
  (hlookup : s.pending.lookup id = some pending) {event : Event}

include hraw hlookup

/-- What it means for an event to be accepted. -/
theorem of_acceptedState (h : acceptedState ctx id s event = some state) :
    ∃ (response : PortResponse) (reason : ScanReason), event = .receive response ∧
      response.id = id ∧ reason ≠ .timeout ∧ reason ≠ .ackTimeout ∧
      step ctx s event =
        if state = .error then
          completePending ctx (pump ctx) id state reason (completionTime ctx response s)
            (clocked response s)
        else
          { clocked response s with
            pending := (clocked response s).pending.replace id
              (pending.observe state reason (completionTime ctx response s)) } := by
  cases event with
  | onTimeout other => cases h
  | onRetryReady retry => cases h
  | pump => cases h
  | receive response =>
    rw [acceptedState] at h
    split_ifs at h with hid
    rw [not_not] at hid
    obtain ⟨probe, hprobe⟩ : ∃ probe, ctx.probe = some probe := by
      rcases hraw with ⟨-, hsyn⟩ | ⟨-, hack⟩
      · exact ⟨_, hsyn⟩
      · exact ⟨_, hack⟩
    rw [hlookup, hprobe] at h
    dsimp only at h
    split at h
    · rename_i accepted reason hassess
      split_ifs at h with hearly
      cases h
      obtain ⟨htimeout, hackTimeout⟩ := hraw.reason_of_assess hprobe hassess
      refine ⟨response, reason, rfl, hid, htimeout, hackTimeout, ?_⟩
      subst hid
      show receiveWith ctx (pump ctx) response s = _
      rw [receiveWith_of_ok hlookup hprobe hassess, if_neg hearly]
      by_cases herror : state = .error
      · rw [if_pos herror, if_pos (.inl herror)]
      · rw [if_neg herror, if_neg (not_or.mpr ⟨herror, hraw.method_ne⟩)]
    · cases h

/-- **An accepted response that is no Error** is observed. -/
theorem lookup_of_accepted (hstate : state ≠ .error)
    (h : acceptedState ctx id s event = some state) (hrepresents : Represents pending states) :
    ∃ pending', (step ctx s event).pending.lookup id = some pending' ∧
      pending'.work = pending.work ∧ Represents pending' (states ++ [state]) := by
  obtain ⟨response, reason, -, -, htimeout, hackTimeout, hstep⟩ := of_acceptedState hraw hlookup h
  rw [if_neg hstate] at hstep
  refine ⟨_, ?_, ?_, hrepresents.observe ⟨htimeout, hackTimeout⟩ (completionTime ctx response s)⟩
  · rw [hstep]
    refine AList.lookup_replace _ (v := pending) ?_
    rw [pending_clocked]
    exact hlookup
  · rw [Pending.observe]
    split
    · rfl
    · split_ifs <;> rfl

/-- **An accepted Error** ends the attempt and is published. -/
theorem publishes_error (h : acceptedState ctx id s event = some .error) :
    ∃ result : PortResult, result.key = pending.work.key ∧ result.state = .error ∧
      s.results ++ [result] <+: (step ctx s event).results := by
  obtain ⟨response, reason, -, -, htimeout, hackTimeout, hstep⟩ := of_acceptedState hraw hlookup h
  have hclocked : (clocked response s).pending.lookup id = some pending := by
    rw [pending_clocked]
    exact hlookup
  rw [if_pos rfl, completePending, hclocked] at hstep
  dsimp only at hstep
  obtain ⟨result, hkey, hstate, -, hprefix⟩ := finishAttempt_publishes hraw pending.work .error
    ⟨htimeout, hackTimeout⟩ (some (rttMs pending.startedAt (completionTime ctx response s)))
    { ((clocked response s).cancelTimer pending.timerId).cancelSubmission id with
      pending := (clocked response s).pending.erase id
      timing := (clocked response s).timing.map
        (·.onResponse (rttMs pending.startedAt (completionTime ctx response s)).floor) }
  refine ⟨result, hkey, hstate, ?_⟩
  rw [hstep]
  have hresults : s.results = (clocked response s).results := (results_clocked response s).symm
  rw [hresults]
  exact hprefix

/-- **The timeout** publishes what the evidence comes to. -/
theorem publishes_timeout (htimeout : event.isTimeout id)
    (hrepresents : Represents pending states) (hne : states ≠ []) (herror : .error ∉ states) :
    ∃ result : PortResult, result.key = pending.work.key ∧ Judged states result ∧
      s.results ++ [result] <+: (step ctx s event).results := by
  cases event with
  | receive response => cases htimeout
  | onRetryReady retry => cases htimeout
  | pump => cases htimeout
  | onTimeout other =>
    obtain rfl : other = id := of_decide_eq_true htimeout
    obtain ⟨probe, hprobe⟩ : ∃ probe, ctx.probe = some probe := by
      rcases hraw with ⟨-, hsyn⟩ | ⟨-, hack⟩
      · exact ⟨_, hsyn⟩
      · exact ⟨_, hack⟩
    obtain ⟨state, hcandidate, hjudged⟩ := judged_of_holds hne herror hrepresents.holds
    have hreason := hrepresents.reason (by rw [hcandidate]; exact Option.some_ne_none _)
    obtain ⟨result, hkey, hstate, hreason', hprefix⟩ :=
      finishAttempt_publishes hraw pending.work state
      hreason (some (rttMs pending.startedAt pending.candidateAt))
      { s.cancelSubmission other with
        pending := s.pending.erase other
        timing := s.timing.map
          (·.onResponse (rttMs pending.startedAt pending.candidateAt).floor) }
    refine ⟨result, hkey, hjudged result hstate hreason', ?_⟩
    show _ <+: (onTimeoutWith ctx (pump ctx) other s).results
    rw [onTimeoutWith, hlookup, hprobe]
    dsimp only
    rw [hcandidate]
    exact hprefix

/-- **Everything else** leaves the attempt alone. -/
theorem lookup_step (hown : AnswersOwn ctx) (hignored : acceptedState ctx id s event = none)
    (htimeout : ¬ event.isTimeout id) : (step ctx s event).pending.lookup id = some pending := by
  have hpump : ∀ s : PortScanScheduler, s.pending.lookup id = some pending →
      (pump ctx s).pending.lookup id = some pending := fun s h ↦ lookup_pump hraw hown h
  cases event with
  | pump => exact hpump s hlookup
  | onRetryReady retry =>
    show (onRetryReady ctx retry s).pending.lookup id = _
    rw [onRetryReady]
    split
    · exact hlookup
    · exact hpump _ hlookup
  | onTimeout other =>
    have hne : id ≠ other := fun heq ↦ htimeout (decide_eq_true heq.symm)
    show (onTimeoutWith ctx (pump ctx) other s).pending.lookup id = _
    rw [onTimeoutWith]
    split
    · dsimp only
      split
      · exact lookup_finishAttempt hpump ((AList.lookup_erase_ne hne).trans hlookup) _ _ _ _
      · exact lookup_finishAttempt hpump ((AList.lookup_erase_ne hne).trans hlookup) _ _ _ _
    · exact hlookup
  | receive response =>
    show (receiveWith ctx (pump ctx) response s).pending.lookup id = _
    by_cases hid : id = response.id
    · -- the response is about the attempt, and is turned down
      subst hid
      rw [acceptedState, if_neg (not_not.mpr rfl), hlookup] at hignored
      rcases hprobe : ctx.probe with - | probe
      · rw [receiveWith_of_no_probe hprobe]
        exact hlookup
      rw [hprobe] at hignored
      dsimp only at hignored
      rcases hassess : probe.assess response pending.submission with status | ⟨state, reason⟩
      · rw [receiveWith_of_error hlookup hprobe hassess]
        exact hlookup
      · rw [hassess] at hignored
        dsimp only at hignored
        split_ifs at hignored with hearly
        rw [receiveWith_of_ok hlookup hprobe hassess, if_pos hearly, pending_clocked]
        exact hlookup
    · exact lookup_receiveWith hpump hlookup hid

omit hlookup

/-- The attempt is in flight, with its work, and stands for the evidence. -/
def Stands (id : PortProbeId) (work : WorkItem) (s : PortScanScheduler) (heard : List PortState) :
    Prop :=
  ∃ pending, s.pending.lookup id = some pending ∧ pending.work = work ∧ Represents pending heard

/-- What the steps of a raw scan do to one attempt. -/
theorem followed (hown : AnswersOwn ctx) (work : WorkItem) :
    Followed (step ctx) results (acceptedState ctx id) (Event.isTimeout id) work.key
      (Stands id work) where
  observes := by
    rintro s event state heard ⟨pending, hlookup, rfl, hrepresents⟩ hstate haccepted
    refine ⟨?_, lookup_of_accepted hraw hlookup hstate haccepted hrepresents⟩
    obtain ⟨response, -, rfl, -⟩ := of_acceptedState hraw hlookup haccepted
    exact Bool.false_ne_true
  publishes_error := by
    rintro s event heard ⟨pending, hlookup, rfl, -⟩ haccepted
    exact publishes_error hraw hlookup haccepted
  publishes_end := by
    rintro s event heard ⟨pending, hlookup, rfl, hrepresents⟩ htimeout hne hno
    exact publishes_timeout hraw hlookup htimeout hrepresents hne hno
  others := by
    rintro s event heard ⟨pending, hlookup, hwork, hrepresents⟩ hignored htimeout
    exact ⟨pending, lookup_step hraw hlookup hown hignored htimeout, hwork, hrepresents⟩

end Followed

end PortScanScheduler

end Skan.PortScan
